import Introduction.Proofs.Dictionary.Forms
import Introduction.Proofs.Dictionary.Nesting
import Mathlib.Algebra.BigOperators.Fin
import Mathlib.Algebra.Order.BigOperators.Group.Finset

/-!
# How much longer the canonical form can be

A value that was read is written again in its canonical form.  Wide heads and formats become
shorter, and so do strings in segments and big numbers as a rule.  There are three exceptions, where
the canonical form says something that the received one left out, or has no room for it:

* an array or a map of indefinite length costs two octets whatever its size, and the head with its
  length takes three octets or more from 256 members on;
* a big number has as many octets as its magnitude, while heads have room for one, two, four or
  eight;
* the heads of two segments can take fewer octets than the one head of a string of `2 ^ 32` octets.

`Form.growth` adds this up, and the canonical form is longer by at most so much (`Form.bounded`).
-/

open scoped BigOperators

namespace Introduction

open Cbor

namespace Cbor

/-! ### Growth -/

/-- By how much the head with the number of members is longer than the two octets that begin and end
an array or a map of indefinite length. -/
def Extent.growth : Extent → ℕ
  | .definite _ => 0
  | .indefinite count => Head.size count - 2

/-- By how much the head of an integer is longer than the octets of its magnitude and their two
heads. -/
def BigNumber.growth (n : BigNumber) : ℕ :=
  Head.size n.magnitude.content.toNat - (n.magnitude.content.length + 2)

/-- By how much the head of a string is longer than the heads of its segments. -/
def Segments.growth {kind : StringKind} (s : Segments kind 0) : ℕ :=
  if 2 ^ 32 ≤ s.content.length then 1 else 0

/-- By how much the canonical form can be longer. -/
def Form.growth : Form → ℕ
  | .big number => number.growth
  | .segments _ parts => parts.growth
  | .array extent members => extent.growth + ∑ i, (members i).growth
  | .map extent keys values => extent.growth + ∑ i, ((keys i).growth + (values i).growth)
  | _ => 0

/-! ### Heads -/

variable {kind : StringKind} {depth : ℕ}

lemma Head.size_cases (n : ℕ) :
    (n < 24 ∧ size n = 1) ∨ (24 ≤ n ∧ n < 2 ^ 8 ∧ size n = 2) ∨
      (2 ^ 8 ≤ n ∧ n < 2 ^ 16 ∧ size n = 3) ∨ (2 ^ 16 ≤ n ∧ n < 2 ^ 32 ∧ size n = 5) ∨
      (2 ^ 32 ≤ n ∧ size n = 9) := by
  unfold size
  split_ifs <;> omega

/-- The octets of a head with an argument. -/
lemma Opening.length_octets {o : Opening} {a : Argument} (h : o.argument = some a) :
    o.octets.length = a.width.following + 1 := by
  rw [octets_of_argument h, Argument.length_head]

/-- The shortest head is not longer than one with the same argument. -/
lemma Opening.size_le {o : Opening} {a : Argument} (h : o.argument = some a) :
    Head.size a.value ≤ o.octets.length := by
  rw [Opening.length_octets h]
  exact a.size_le

/-- A head without an argument is one octet. -/
lemma Opening.length_octets_of_none {o : Opening} (h : o.argument = none) :
    o.octets.length = 1 := by
  unfold octets
  rw [h]
  rfl

/-! ### Strings -/

/-- A string of definite length is not shorter than its canonical form. -/
lemma Piece.size_le (p : Piece kind) :
    Head.size p.content.length + p.content.length ≤ p.octets.length := by
  have hsize : Head.size p.length.value ≤ (Opening.string kind (some p.length)).octets.length :=
    Opening.size_le rfl
  rw [octets, List.length_append, p.length_eq]
  omega

/-- The least number of octets that the heads of segments take, by how many octets there are in the
segments. -/
def Segments.leastHeads (n : ℕ) : ℕ :=
  if n = 0 then 0
  else if n < 24 then 1
  else if n < 2 ^ 8 then 2
  else if n < 2 ^ 16 then 3
  else if n < 2 ^ 16 + 23 then 4
  else if n < 2 ^ 32 then 5
  else 6

lemma Segments.leastHeads_cases (n : ℕ) :
    (n = 0 ∧ leastHeads n = 0) ∨ (0 < n ∧ n < 24 ∧ leastHeads n = 1) ∨
      (24 ≤ n ∧ n < 2 ^ 8 ∧ leastHeads n = 2) ∨ (2 ^ 8 ≤ n ∧ n < 2 ^ 16 ∧ leastHeads n = 3) ∨
      (2 ^ 16 ≤ n ∧ n < 2 ^ 16 + 23 ∧ leastHeads n = 4) ∨
      (2 ^ 16 + 23 ≤ n ∧ n < 2 ^ 32 ∧ leastHeads n = 5) ∨ (2 ^ 32 ≤ n ∧ leastHeads n = 6) := by
  unfold leastHeads
  split_ifs <;> omega

/-- A segment more needs its head more. -/
lemma Segments.leastHeads_add_le (m n : ℕ) :
    leastHeads (m + n) ≤ Head.size m + leastHeads n := by
  have hm := Head.size_cases m
  have hn := leastHeads_cases n
  have hsum := leastHeads_cases (m + n)
  omega

/-- The heads of segments take no fewer octets, and there is a break. -/
lemma Segments.leastHeads_le (s : Segments kind depth) :
    leastHeads s.content.length + s.content.length + 1 ≤ s.octets.length := by
  have hbreak : Opening.break.octets.length = 1 := Opening.length_octets_of_none rfl
  induction s with
  | last => exact hbreak.ge
  | leave rest ih =>
    rw [octets, content, List.length_append]
    omega
  | enter rest ih =>
    rw [octets, content, List.length_append]
    omega
  | piece p rest ih =>
    have hpiece := p.size_le
    have hadd := leastHeads_add_le p.content.length rest.content.length
    rw [octets, content, List.length_append, List.length_append]
    omega

/-- A string in segments is not shorter than its canonical form, unless it is very long. -/
lemma Segments.size_le (s : Segments kind 0) :
    Head.size s.content.length + s.content.length ≤ s.octets.length + 1 + s.growth := by
  have hleast := s.leastHeads_le
  have hheads := leastHeads_cases s.content.length
  have hsize := Head.size_cases s.content.length
  unfold growth
  split_ifs <;> omega

/-- The head of an array or a map and what ends it take as many octets as the canonical head, or
less by the growth. -/
lemma Extent.size_le (e : Extent) {o : Opening} (h : o.argument = e.length) :
    Head.size e.count ≤ o.octets.length + e.closing.length + e.growth := by
  cases e with
  | definite length => exact Opening.size_le h
  | indefinite count =>
    have hopening := Opening.length_octets_of_none h
    have hclosing : Opening.break.octets.length = 1 := Opening.length_octets_of_none rfl
    rw [hopening, closing, hclosing, growth, Extent.count]
    omega

/-! ### Numbers -/

/-- An integer as a big number is not shorter than its canonical form, or shorter by the growth. -/
lemma BigNumber.size_le (n : BigNumber) :
    Head.size n.magnitude.content.toNat ≤ n.octets.length + n.growth := by
  have htag := (Opening.tag n.tag).length_octets_pos
  have hmagnitude := n.magnitude.size_le
  have hhead := Head.size_pos n.magnitude.content.length
  rw [octets, List.length_append, growth]
  omega

/-- A floating-point number is not shorter than its canonical form. -/
lemma length_encodeFloat_le {a : Argument} {bits : UInt64}
    (h : (Opening.seventh a).head = .float bits) :
    (Value.encodeFloat bits).length ≤ (Opening.seventh a).octets.length := by
  obtain ⟨width, n, fits⟩ := a
  rw [Opening.length_octets rfl]
  -- a pattern that was widened is written in the format it came from, or a narrower one
  have hwidened : ∀ f : FloatFormat, f.Narrower → n < 2 ^ (1 + f.exponentBits + f.fractionBits) →
      bits = UInt64.ofNat (f.widen n) → (f.narrow? bits.toNat).isSome := by
    intro f hf hn hbits
    have hlt := FloatFormat.widen_lt hf hn
    rw [hbits, UInt64.toNat_ofNat', Nat.mod_eq_of_lt hlt]
    exact FloatFormat.narrow?_widen hf n
  unfold Value.encodeFloat
  cases width with
  | initial =>
    have hn : n < 24 := fits
    change Head.ofSeventh n (some n) = .float bits at h
    unfold Head.ofSeventh at h
    dsimp only at h
    rw [if_neg (by omega), if_neg (by omega), if_neg (by omega)] at h
    cases h
  | one => cases h
  | two =>
    have hhalf := hwidened .half FloatFormat.narrower_half fits (by cases h; rfl)
    split
    · exact Nat.le_refl _
    · rename_i hnone
      rw [hnone] at hhalf
      cases hhalf
  | four =>
    have hsingle := hwidened .single FloatFormat.narrower_single fits (by cases h; rfl)
    split
    · exact of_decide_eq_true rfl
    · split
      · exact Nat.le_refl _
      · rename_i hnone
        rw [hnone] at hsingle
        cases hsingle
  | eight =>
    split
    · exact of_decide_eq_true rfl
    · split <;> exact of_decide_eq_true rfl

/-- An integer that a dictionary holds is encoded in the head of its magnitude. -/
lemma length_encode_integer {negative : Bool} {n : ℕ} {v : Value}
    (h : (Item.integer (if negative then -1 - (n : ℤ) else n)).toValue = .ok v) :
    v.encode.length = Head.size n := by
  generalize hk : (if negative then -1 - (n : ℤ) else n) = k at h
  rw [Item.toValue] at h
  split_ifs at h with hrange
  cases h
  rw [Value.encode, Value.encodeInt, Int64.toInt_ofInt_of_le hrange.1 hrange.2]
  cases negative with
  | false =>
    rw [if_neg Bool.false_ne_true] at hk
    rw [if_pos (by omega), Head.length_encode, ← hk, Int.toNat_natCast]
  | true =>
    rw [if_pos rfl] at hk
    rw [if_neg (by omega), Head.length_encode]
    exact congrArg Head.size (by omega)

/-- A string is encoded behind a head. -/
lemma length_encode_string {content : Bytes} {v : Value}
    (h : (kind.item content).toValue = .ok v) :
    v.encode.length ≤ Head.size content.length + content.length := by
  cases kind with
  | bytes =>
    cases h
    rw [Value.encode, List.length_append, Head.length_encode]
  | text =>
    cases h
    rw [Value.encode, Value.encodeText, List.length_append, Head.length_encode]
    cases htext : content.toText? with
    | none => exact Nat.add_le_add (Head.size_pos _) (Nat.zero_le _)
    | some s => rw [Option.getD_some, Bytes.ofText_of_toText? htext]

/-! ### Members -/

/-- What is related to the members of a list that are counted by a number is counted by it. -/
lemma forall₂_ofFn {α β : Type} {r : α → β → Prop} {n : ℕ} {f : Fin n → α} {ys : List β}
    (h : List.Forall₂ r (List.ofFn f) ys) :
    ∃ g : Fin n → β, ys = List.ofFn g ∧ ∀ i, r (f i) (g i) := by
  induction n generalizing ys with
  | zero =>
    rw [List.ofFn_zero, List.forall₂_nil_left_iff] at h
    exact ⟨nofun, h.trans List.ofFn_zero.symm, nofun⟩
  | succ n ih =>
    rw [List.ofFn_succ, List.forall₂_cons_left_iff] at h
    obtain ⟨y, ys, hy, hys, rfl⟩ := h
    obtain ⟨g, rfl, hg⟩ := ih hys
    refine ⟨Fin.cons y g, ?_, fun i => ?_⟩
    · rw [List.ofFn_succ]
      rfl
    · cases i using Fin.cases with
      | zero => exact hy
      | succ i => exact hg i

end Cbor

namespace Value

/-- The encoded forms of values take the octets of each. -/
lemma length_encodeItems_ofFn {n : ℕ} (values : Fin n → Value) :
    (encodeItems (List.ofFn values)).length = ∑ i, (values i).encode.length := by
  induction n with
  | zero => rfl
  | succ n ih =>
    rw [List.ofFn_succ, encodeItems, List.length_append, ih, Fin.sum_univ_succ]

/-- The encoded forms of entries take the octets of each, in whatever order they are listed. -/
lemma length_encodeEntries {floor : Option String} (entries : Ascending String Value floor) :
    (encodeEntries entries).length =
      (entries.toList.map fun pair => (encodeText pair.1).length + pair.2.encode.length).sum := by
  induction entries with
  | nil => rfl
  | cons key hkey value rest ih =>
    rw [encodeEntries, List.length_append, List.length_append, ih, Ascending.toList, List.map_cons,
      List.sum_cons, Nat.add_assoc]

end Value

namespace Cbor

namespace Form

/-- The canonical form of the value that a form stands for is longer by at most the growth. -/
def Bounded (f : Form) : Prop :=
  ∀ v, f.item.toValue = .ok v → v.encode.length ≤ f.octets.length + f.growth

/-- The growth of an array bounds it if the growth of every member does. -/
lemma bounded_array {e : Extent} {members : Fin e.count → Form}
    (hmembers : ∀ i, (members i).Bounded) : (array e members).Bounded := by
  intro v h
  obtain ⟨_, rfl, hvalues⟩ := Item.toValue_array_eq_ok_iff.mp h
  obtain ⟨values, rfl, hvalue⟩ := forall₂_ofFn hvalues
  have hsize : Head.size e.count ≤ _ := e.size_le (o := .array e.length) rfl
  have hsum : ∑ i, (values i).encode.length ≤
      ∑ i, (members i).octets.length + ∑ i, (members i).growth := by
    rw [← Finset.sum_add_distrib]
    exact Finset.sum_le_sum fun i _ => hmembers i _ (hvalue i)
  rw [Value.encode, List.length_append, Head.length_encode, List.length_ofFn,
    Value.length_encodeItems_ofFn, octets, List.length_append, List.length_append,
    List.length_flatten, List.map_ofFn, List.sum_ofFn, growth]
  dsimp only [Function.comp_apply]
  omega

/-- The growth of a map bounds it if the growth of every key and value does. -/
lemma bounded_map {e : Extent} {keys values : Fin e.count → Form}
    (hkeys : ∀ i, (keys i).Bounded) (hvalues : ∀ i, (values i).Bounded) :
    (map e keys values).Bounded := by
  intro v h
  obtain ⟨_, d, rfl, hpairs, hnodup, hd⟩ := Item.toValue_map_eq_ok_iff.mp h
  obtain ⟨pairs, rfl, hpair⟩ := forall₂_ofFn hpairs
  have hsize : Head.size e.count ≤ _ := e.size_le (o := .map e.length) rfl
  -- the dictionary lists the entries in another order, but no fewer and no more of them
  have hperm := Item.perm_toList hnodup hd
  have hcount : d.size = e.count := by
    rw [Ascending.size, ← hperm.length_eq, List.length_ofFn]
  have hkey : ∀ i, (Value.encodeText (pairs i).1).length ≤
      (keys i).octets.length + (keys i).growth := by
    intro i
    refine hkeys i (.string (pairs i).1) ?_
    rw [show (keys i).item = .text (pairs i).1 from (hpair i).1]
    rfl
  have hsum : ∑ i, ((Value.encodeText (pairs i).1).length + (pairs i).2.encode.length) ≤
      ∑ i, ((keys i).octets.length + (values i).octets.length) +
        ∑ i, ((keys i).growth + (values i).growth) := by
    rw [← Finset.sum_add_distrib]
    refine Finset.sum_le_sum fun i _ => ?_
    have hvalue := hvalues i _ (hpair i).2
    have := hkey i
    omega
  rw [Value.encode, List.length_append, Head.length_encode, hcount, Value.length_encodeEntries,
    ← (hperm.map _).sum_eq, List.map_ofFn, List.sum_ofFn, octets, List.length_append,
    List.length_append, List.length_flatten, List.map_ofFn, List.sum_ofFn, growth]
  simp only [Function.comp_apply, List.length_append]
  omega

/-- The canonical form is longer by at most the growth, for every form. -/
theorem bounded (f : Form) : f.Bounded := by
  induction f with
  | integer negative a =>
    intro v h
    have hinteger : v.encode.length = Head.size a.value := by
      refine @length_encode_integer negative _ _ ?_
      cases negative <;> exact h
    rw [hinteger]
    exact Opening.size_le rfl
  | big n =>
    intro v h
    rw [length_encode_integer h]
    exact n.size_le
  | float a bits hhead =>
    intro v h
    cases h
    exact length_encodeFloat_le hhead
  | bool a b hhead =>
    intro v h
    cases h
    have hpos := (Opening.seventh a).length_octets_pos
    cases b <;> exact hpos
  | string kind p => exact fun v h => (length_encode_string h).trans p.size_le
  | segments kind s =>
    intro v h
    have hsize := s.size_le
    have hopening : (Opening.string kind none).octets.length = 1 :=
      Opening.length_octets_of_none rfl
    refine (length_encode_string h).trans ?_
    rw [octets, List.length_append, growth]
    omega
  | array e members ih => exact bounded_array ih
  | map e keys values ihk ihv => exact bounded_map ihk ihv

end Form

end Cbor

end Introduction
