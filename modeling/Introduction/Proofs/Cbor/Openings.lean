import Introduction.Cbor.Reader
import Introduction.Proofs.Cbor.Consumption
import Introduction.Proofs.Cbor.Floats

/-!
# Heads in any width

A writer uses the shortest head for an argument, and a reader takes any: the argument may be
written in more octets than it needs.  An `Opening` is a head as it is written.  It is read as the
head that it stands for (`Opening.read_octets`), and whatever is read as a head is an opening
(`Opening.exists_of_read`).
-/

namespace Introduction

namespace Bytes

/-- Octets are read on top of the number before them. -/
lemma foldl_eq (bytes : Bytes) (acc : ℕ) :
    bytes.foldl (fun n b => n * 256 + b.toNat) acc = acc * 256 ^ bytes.length + toNat bytes := by
  induction bytes generalizing acc with
  | nil => simp [toNat]
  | cons b bytes ih =>
    simp only [List.foldl_cons, List.length_cons, toNat]
    rw [ih (acc * 256 + b.toNat), ih (0 * 256 + b.toNat)]
    ring

/-- The number that is written by octets after a first one. -/
lemma toNat_cons (b : UInt8) (bytes : Bytes) :
    toNat (b :: bytes) = b.toNat * 256 ^ bytes.length + toNat bytes := by
  rw [toNat, List.foldl_cons, foldl_eq, Nat.zero_mul, Nat.zero_add]

/-- A number has room in the octets that write it. -/
lemma toNat_lt (bytes : Bytes) : toNat bytes < 256 ^ bytes.length := by
  induction bytes with
  | nil => exact Nat.one_pos
  | cons b bytes ih =>
    calc
      toNat (b :: bytes) < b.toNat * 256 ^ bytes.length + 256 ^ bytes.length := by
        rw [toNat_cons]
        omega
      _ = (b.toNat + 1) * 256 ^ bytes.length := by ring
      _ ≤ 256 * 256 ^ bytes.length := Nat.mul_le_mul_right _ b.toNat_lt
      _ = 256 ^ (b :: bytes).length := (pow_succ' 256 bytes.length).symm

/-- The lowest octets of a number do not depend on what lies above them. -/
lemma ofNat_add (width k n : ℕ) : ofNat width (k * 256 ^ width + n) = ofNat width n := by
  induction width generalizing k with
  | zero => rfl
  | succ width ih =>
    have hsplit : k * 256 ^ (width + 1) + n = k * 256 * 256 ^ width + n := by ring
    have hfirst : UInt8.ofNat ((k * 256 * 256 ^ width + n) / 256 ^ width) =
        UInt8.ofNat (n / 256 ^ width) := by
      rw [Nat.add_comm, Nat.add_mul_div_right _ _ (Nat.pow_pos (by decide))]
      apply UInt8.toNat_inj.mp
      rw [UInt8.toNat_ofNat', UInt8.toNat_ofNat']
      omega
    rw [ofNat, ofNat, hsplit, hfirst, ih]

/-- Octets are the lowest ones of the number that they write. -/
theorem ofNat_toNat (bytes : Bytes) : ofNat bytes.length (toNat bytes) = bytes := by
  induction bytes with
  | nil => rfl
  | cons b bytes ih =>
    have hdiv : toNat (b :: bytes) / 256 ^ bytes.length = b.toNat := by
      rw [toNat_cons, Nat.add_comm, Nat.add_mul_div_right _ _ (Nat.pow_pos (by decide)),
        Nat.div_eq_of_lt (toNat_lt bytes), Nat.zero_add]
    rw [List.length_cons, ofNat, hdiv, toNat_cons, ofNat_add, ih, UInt8.ofNat_toNat]

end Bytes

namespace Cbor

/-! ### Arguments -/

/-- Where the argument of a head is written: in the initial byte, or in the octets after it. -/
inductive Width where
  | initial | one | two | four | eight
  deriving DecidableEq, Repr

namespace Width

/-- How many octets follow the initial byte. -/
def following : Width → ℕ
  | .initial => 0
  | .one => 1
  | .two => 2
  | .four => 4
  | .eight => 8

/-- The low bits of the initial byte before an argument. -/
def info : Width → ℕ → ℕ
  | .initial, n => n
  | .one, _ => 24
  | .two, _ => 25
  | .four, _ => 26
  | .eight, _ => 27

/-- How many arguments there are in a width. -/
def range : Width → ℕ
  | .initial => 24
  | width => 256 ^ width.following

end Width

/-- An argument and the width in which it is written. -/
structure Argument where
  /-- The width. -/
  width : Width
  /-- The argument. -/
  value : ℕ
  /-- The width has room for it. -/
  fits : value < width.range

namespace Argument

/-- The low bits of the initial byte. -/
def info (a : Argument) : ℕ := a.width.info a.value

/-- The octets after the initial byte. -/
def following (a : Argument) : Bytes := Bytes.ofNat a.width.following a.value

/-- The head of a major type. -/
def head (a : Argument) (major : ℕ) : Bytes := UInt8.ofNat (major * 32 + a.info) :: a.following

lemma info_lt (a : Argument) : a.info < 28 := by
  obtain ⟨width, n, fits⟩ := a
  cases width with
  | initial => exact Nat.lt_trans fits (by decide)
  | _ => exact of_decide_eq_true rfl

lemma length_following (a : Argument) : a.following.length = a.width.following :=
  Bytes.length_ofNat _ _

/-- A head has as many octets as its width says, and the initial byte. -/
@[simp] lemma length_head (a : Argument) (major : ℕ) :
    (a.head major).length = a.width.following + 1 :=
  congrArg (· + 1) a.length_following

/-- No head is shorter than the shortest one. -/
lemma size_le (a : Argument) : Head.size a.value ≤ a.width.following + 1 := by
  obtain ⟨width, n, fits⟩ := a
  unfold Head.size
  cases width <;> simp only [Width.range, Width.following] at fits ⊢ <;> split_ifs <;> omega

/-- An argument is read from the octets that it is written in. -/
lemma readArgument_following (a : Argument) (offset start : ℕ) (rest : Bytes) :
    Head.readArgument offset a.info ⟨start, a.following ++ rest⟩ =
      .ok (some a.value, ⟨start + a.width.following, rest⟩) := by
  obtain ⟨width, n, fits⟩ := a
  cases width with
  | initial =>
    unfold Head.readArgument
    exact if_pos fits
  | _ =>
    exact Head.readArgument_following offset start rest
      (by simp [info, Width.info, Width.following]) fits

/-- The argument that digits write. -/
def ofDigits (width : Width) (digits : Bytes) (h : digits.length = width.following)
    (hwidth : width ≠ .initial) : Argument where
  width := width
  value := digits.toNat
  fits := by
    have hlt := digits.toNat_lt
    rw [h] at hlt
    cases width with
    | initial => exact absurd rfl hwidth
    | _ => exact hlt

lemma following_ofDigits {width : Width} {digits : Bytes} (h : digits.length = width.following)
    (hwidth : width ≠ .initial) : (ofDigits width digits h hwidth).following = digits := by
  unfold following ofDigits
  dsimp only
  rw [← h]
  exact digits.ofNat_toNat

/-- What is read as an argument is written in some width; there is none where the length is
indefinite. -/
lemma exists_of_readArgument {offset info : ℕ} {c c' : Cursor} {argument : Option ℕ}
    (h : Head.readArgument offset info c = .ok (argument, c')) :
    (info = 31 ∧ argument = none ∧ c'.rest = c.rest) ∨
      ∃ a : Argument, info = a.info ∧ argument = some a.value ∧
        c.rest = a.following ++ c'.rest := by
  have hdigits : ∀ width : Width, width ≠ .initial →
      (c.take width.following).map (fun digits => some (Bytes.toNat digits)) = .ok (argument, c') →
        ∃ a : Argument, a.width = width ∧ argument = some a.value ∧
          c.rest = a.following ++ c'.rest := by
    intro width hwidth hread
    obtain ⟨digits, htake, rfl⟩ := Reading.map_eq_ok hread
    obtain ⟨_, rfl, hlength, hrest⟩ := Cursor.takeOnto_eq_ok htake
    refine ⟨ofDigits width digits hlength hwidth, rfl, rfl, ?_⟩
    rw [hrest, following_ofDigits]
  unfold Head.readArgument at h
  extract_lets following at h
  have hfollowing : ∀ n, following n =
      (c.take n).map fun digits => some (Bytes.toNat digits) := by
    intro n
    unfold following
    rcases c.take n with e | ⟨digits, next⟩ <;> rfl
  simp only [hfollowing] at h
  split_ifs at h with hinfo h24 h25 h26 h27 h31
  · cases h
    exact .inr ⟨⟨.initial, info, hinfo⟩, rfl, rfl, rfl⟩
  · obtain ⟨a, hwidth, hvalue, hrest⟩ := hdigits .one (by decide) h
    exact .inr ⟨a, by rw [Argument.info, hwidth, h24]; rfl, hvalue, hrest⟩
  · obtain ⟨a, hwidth, hvalue, hrest⟩ := hdigits .two (by decide) h
    exact .inr ⟨a, by rw [Argument.info, hwidth, h25]; rfl, hvalue, hrest⟩
  · obtain ⟨a, hwidth, hvalue, hrest⟩ := hdigits .four (by decide) h
    exact .inr ⟨a, by rw [Argument.info, hwidth, h26]; rfl, hvalue, hrest⟩
  · obtain ⟨a, hwidth, hvalue, hrest⟩ := hdigits .eight (by decide) h
    exact .inr ⟨a, by rw [Argument.info, hwidth, h27]; rfl, hvalue, hrest⟩
  · cases h
    exact .inl ⟨h31, rfl, rfl⟩

end Argument

/-! ### Openings -/

/-- A head as it is written.  A length that is absent is indefinite. -/
inductive Opening where
  /-- An integer, which may be negative. -/
  | integer (negative : Bool) (magnitude : Argument)
  /-- A string. -/
  | string (kind : StringKind) (length : Option Argument)
  /-- An array. -/
  | array (length : Option Argument)
  /-- A map. -/
  | map (length : Option Argument)
  /-- A tag. -/
  | tag (number : Argument)
  /-- A simple value or a floating-point number. -/
  | seventh (argument : Argument)
  /-- The end of an indefinite length. -/
  | break

namespace Opening

/-- The major type. -/
def major : Opening → ℕ
  | .integer false _ => 0
  | .integer true _ => 1
  | .string .bytes _ => 2
  | .string .text _ => 3
  | .array _ => 4
  | .map _ => 5
  | .tag _ => 6
  | .seventh _ => 7
  | .break => 7

/-- The argument, if there is one. -/
def argument : Opening → Option Argument
  | .integer _ a => some a
  | .string _ length => length
  | .array length => length
  | .map length => length
  | .tag a => some a
  | .seventh a => some a
  | .break => none

/-- The head that is written. -/
def head : Opening → Head
  | .integer false a => .positive a.value
  | .integer true a => .negative a.value
  | .string .bytes length => .bytes (length.map (·.value))
  | .string .text length => .text (length.map (·.value))
  | .array length => .array (length.map (·.value))
  | .map length => .map (length.map (·.value))
  | .tag a => .tag a.value
  | .seventh a => Head.ofSeventh a.info (some a.value)
  | .break => .break

/-- The octets of a head. -/
def octets (o : Opening) : Bytes :=
  match o.argument with
  | none => [UInt8.ofNat (o.major * 32 + 31)]
  | some a => a.head o.major

/-- Where there is an argument, it is written in the head. -/
lemma octets_of_argument {o : Opening} {a : Argument} (h : o.argument = some a) :
    o.octets = a.head o.major := by
  unfold octets
  rw [h]

lemma length_octets_pos (o : Opening) : 0 < o.octets.length := by
  unfold octets
  split
  · exact Nat.one_pos
  · rw [Argument.length_head]
    exact Nat.succ_pos _

lemma major_lt (o : Opening) : o.major < 8 := by
  unfold major
  split <;> decide

/-- The head is that of the major type and the argument. -/
lemma head_eq (o : Opening) :
    (o.major = 7 ∧ o.head = Head.ofSeventh ((o.argument.map (·.info)).getD 31)
        (o.argument.map (·.value))) ∨
      (o.major ≠ 7 ∧ Head.ofArgument? o.major (o.argument.map (·.value)) = some o.head) := by
  cases o with
  | integer negative a => cases negative <;> exact .inr ⟨by simp [major], rfl⟩
  | string kind length => cases kind <;> exact .inr ⟨by simp [major], rfl⟩
  | array length => exact .inr ⟨by simp [major], rfl⟩
  | map length => exact .inr ⟨by simp [major], rfl⟩
  | tag a => exact .inr ⟨by simp [major], rfl⟩
  | seventh a => exact .inl ⟨rfl, rfl⟩
  | «break» => exact .inl ⟨rfl, rfl⟩

/-- What an opening is written as is read as its head, whatever follows it. -/
theorem read_octets (o : Opening) (offset : ℕ) (rest : Bytes) :
    Head.read ⟨offset, o.octets ++ rest⟩ = .ok (o.head, ⟨offset + o.octets.length, rest⟩) := by
  -- the initial byte and the octets after it, with or without an argument
  obtain ⟨info, following, hinfo, hoctets, hread, hseventh⟩ : ∃ info following, info < 32 ∧
      o.octets = UInt8.ofNat (o.major * 32 + info) :: following ∧
      Head.readArgument offset info ⟨offset + 1, following ++ rest⟩ =
        .ok (o.argument.map (·.value), ⟨offset + o.octets.length, rest⟩) ∧
      (o.argument.map (·.info)).getD 31 = info := by
    unfold octets
    cases o.argument with
    | none => exact ⟨31, [], by decide, rfl, rfl, rfl⟩
    | some a =>
      have hlt := a.info_lt
      refine ⟨a.info, a.following, by omega, rfl, ?_, rfl⟩
      rw [a.readArgument_following]
      dsimp only
      rw [a.length_head, Nat.add_assoc, Nat.add_comm 1]
      rfl
  obtain ⟨hdiv, hmod⟩ := Head.initial_div_mod o.major_lt hinfo
  generalize o.octets.length = length at hread ⊢
  rw [hoctets, List.cons_append]
  unfold Head.read
  dsimp only
  rw [hdiv, hmod, hread]
  dsimp only
  rcases o.head_eq with ⟨hmajor, hhead⟩ | ⟨hmajor, hhead⟩
  · rw [if_pos hmajor, hhead, hseventh]
  · rw [if_neg hmajor, hhead]

/-- The opening of a major type below seven, if the head is one. -/
lemma exists_of_ofArgument? {major : ℕ} {argument : Option Argument} {head : Head}
    (h : Head.ofArgument? major (argument.map (·.value)) = some head) :
    ∃ o : Opening, o.head = head ∧ o.major = major ∧ o.argument = argument := by
  unfold Head.ofArgument? at h
  split at h
  · rename_i n hn
    obtain ⟨a, rfl, rfl⟩ := Option.map_eq_some_iff.mp hn
    exact ⟨.integer false a, Option.some.inj h, rfl, rfl⟩
  · rename_i n hn
    obtain ⟨a, rfl, rfl⟩ := Option.map_eq_some_iff.mp hn
    exact ⟨.integer true a, Option.some.inj h, rfl, rfl⟩
  · exact ⟨.string .bytes argument, Option.some.inj h, rfl, rfl⟩
  · exact ⟨.string .text argument, Option.some.inj h, rfl, rfl⟩
  · exact ⟨.array argument, Option.some.inj h, rfl, rfl⟩
  · exact ⟨.map argument, Option.some.inj h, rfl, rfl⟩
  · rename_i n hn
    obtain ⟨a, rfl, rfl⟩ := Option.map_eq_some_iff.mp hn
    exact ⟨.tag a, Option.some.inj h, rfl, rfl⟩
  · cases h

/-- The initial byte is put together from its major type and its low bits. -/
lemma initial_eq (b : UInt8) : UInt8.ofNat (b.toNat / 32 * 32 + b.toNat % 32) = b := by
  rw [Nat.div_add_mod', UInt8.ofNat_toNat]

/-- Whatever is read as a head is an opening. -/
theorem exists_of_read {c c' : Cursor} {head : Head} (h : Head.read c = .ok (head, c')) :
    ∃ o : Opening, o.head = head ∧ c.rest = o.octets ++ c'.rest := by
  obtain ⟨offset, _ | ⟨b, rest⟩⟩ := c
  · cases h
  · unfold Head.read at h
    dsimp only at h
    split at h
    · cases h
    · rename_i argument next hargument
      -- the argument with its width, and the octets of an opening that has it
      obtain ⟨a?, rfl, hinfo, hoctets⟩ : ∃ a? : Option Argument,
          argument = a?.map (·.value) ∧ (a?.map (·.info)).getD 31 = b.toNat % 32 ∧
            ∀ o : Opening, o.major = b.toNat / 32 → o.argument = a? →
              b :: rest = o.octets ++ next.rest := by
        rcases Argument.exists_of_readArgument hargument with
          ⟨hinfo, rfl, hrest⟩ | ⟨a, hinfo, rfl, hrest⟩
        · refine ⟨none, rfl, hinfo.symm, fun o hmajor hnone => ?_⟩
          have hb := initial_eq b
          rw [hinfo] at hb
          rw [octets, hnone, hmajor, hrest]
          exact congrArg (· :: rest) hb.symm
        · refine ⟨some a, rfl, hinfo.symm, fun o hmajor hsome => ?_⟩
          have hb := initial_eq b
          rw [hinfo] at hb
          rw [octets_of_argument hsome, hmajor, Argument.head, List.cons_append, hb]
          exact congrArg (b :: ·) hrest
      split_ifs at h with hmajor
      · cases h
        cases a? with
        | none => exact ⟨.break, rfl, hoctets .break hmajor.symm rfl⟩
        | some a =>
          refine ⟨.seventh a, ?_, hoctets (.seventh a) hmajor.symm rfl⟩
          rw [head, ← hinfo]
          rfl
      · split at h
        · rename_i head' hhead
          cases h
          obtain ⟨o, hhead', ho, hargument⟩ := exists_of_ofArgument? hhead
          exact ⟨o, hhead', hoctets o ho hargument⟩
        · cases h

end Opening

end Cbor

end Introduction
