import Introduction.Cbor.Reader
import Mathlib.Data.Nat.Basic
import Mathlib.Order.Basic

/-!
# What reading consumes

Reading an item consumes at least its initial octet (`Item.read_consumes`).  A loop of a reader that
ends at a break carries a bound on its rounds, and since every round consumes an octet, a bound of
at least the number of octets left is never met: two readers whose bounds differ read the same
(`Item.read_eq_of_length_le`).  What is read from an input is therefore a matter of the input and of
the number of levels only.
-/

namespace Introduction.Cbor

variable {α : Type}

/-! ### Octets that are consumed -/

/-- A reading that succeeds leaves no more than it was given. -/
def Shrinks (read : Cursor → Reading α) : Prop :=
  ∀ c x c', read c = .ok (x, c') → c'.rest.length ≤ c.rest.length

/-- A reading that succeeds leaves less than it was given. -/
def Consumes (read : Cursor → Reading α) : Prop :=
  ∀ c x c', read c = .ok (x, c') → c'.rest.length < c.rest.length

lemma Consumes.shrinks {read : Cursor → Reading α} (h : Consumes read) : Shrinks read :=
  fun c x c' hread => (h c x c' hread).le

/-- A reading with its result replaced succeeds where the reading does, with the new result. -/
lemma Reading.map_eq_ok {β : Type} {f : α → β} {r : Reading α} {y : β} {c : Cursor}
    (h : r.map f = .ok (y, c)) : ∃ x, r = .ok (x, c) ∧ y = f x := by
  rcases r with e | ⟨x, c'⟩
  · cases h
  · cases h
    exact ⟨x, rfl, rfl⟩

/-- What is taken stood in front of what is left. -/
lemma Cursor.takeOnto_eq_ok {taken bytes : Bytes} {n : ℕ} {c c' : Cursor}
    (h : Cursor.takeOnto taken n c = .ok (bytes, c')) :
    ∃ content, bytes = taken.reverse ++ content ∧ content.length = n ∧
      c.rest = content ++ c'.rest := by
  induction n generalizing taken c with
  | zero =>
    cases h
    exact ⟨[], (List.append_nil _).symm, rfl, rfl⟩
  | succ n ih =>
    obtain ⟨offset, _ | ⟨b, rest⟩⟩ := c
    · cases h
    · obtain ⟨content, hbytes, hlength, hrest⟩ := ih h
      refine ⟨b :: content, ?_, congrArg (· + 1) hlength, congrArg (b :: ·) hrest⟩
      rw [hbytes, List.reverse_cons, List.append_assoc]
      rfl

/-- Taking octets leaves no more than there were. -/
lemma Cursor.take_shrinks (n : ℕ) : Shrinks (Cursor.take n) := by
  intro c bytes c' h
  obtain ⟨content, -, -, hrest⟩ := Cursor.takeOnto_eq_ok h
  rw [hrest, List.length_append]
  omega

/-- Reading an argument leaves no more than there was. -/
lemma Head.readArgument_shrinks (offset info : ℕ) : Shrinks (Head.readArgument offset info) := by
  intro c argument c' h
  unfold Head.readArgument at h
  dsimp only at h
  split_ifs at h
  · cases h
    exact Nat.le_refl _
  -- the argument is taken from the octets that follow, of which there are one, two, four or eight
  iterate 4
    · split at h
      · cases h
      · rename_i digits c₁ hdigits
        cases h
        exact Cursor.take_shrinks _ _ _ _ hdigits
  · cases h
    exact Nat.le_refl _

/-- Reading a head consumes its initial byte. -/
lemma Head.read_consumes : Consumes Head.read := by
  rintro ⟨offset, _ | ⟨initial, rest⟩⟩ head c' h
  · cases h
  · unfold Head.read at h
    dsimp only at h
    split at h
    · cases h
    · rename_i argument c₁ hargument
      have hle : c₁.rest.length ≤ rest.length := Head.readArgument_shrinks _ _ _ _ _ hargument
      have hc : c₁ = c' := by
        split at h
        · cases h
          rfl
        · split at h
          · cases h
            rfl
          · cases h
      rw [← hc]
      exact Nat.lt_succ_of_le hle

/-- Reading segments consumes at least the break after them. -/
lemma readSegments_consumes (kind : StringKind) (done : List Bytes) (bound depth : ℕ) :
    Consumes (readSegments kind done bound depth) := by
  induction bound generalizing done depth with
  | zero =>
    intro c content c' h
    cases h
  | succ bound ih =>
    intro c content c' h
    unfold readSegments at h
    split at h
    · cases h
    · rename_i next hhead
      have hnext := Head.read_consumes _ _ _ hhead
      split at h
      · cases h
        exact hnext
      · exact (ih _ _ _ _ _ h).trans hnext
    · rename_i head next _ hhead
      have hnext := Head.read_consumes _ _ _ hhead
      split at h
      · cases h
      · exact (ih _ _ _ _ _ h).trans hnext
      · split at h
        · cases h
        · rename_i segment after htake
          have hafter := Cursor.take_shrinks _ _ _ _ htake
          split_ifs at h
          exact (ih _ _ _ _ _ h).trans (hafter.trans_lt hnext)

/-- Reading the octets of a string leaves no more than there was. -/
lemma readString_shrinks (bound : ℕ) (kind : StringKind) (length : Option ℕ) :
    Shrinks (readString bound kind length) := by
  intro c content c' h
  cases length with
  | none => exact (readSegments_consumes _ _ _ _ _ _ _ h).le
  | some length =>
    unfold readString at h
    dsimp only at h
    split at h
    · cases h
    · rename_i content' next htake
      split_ifs at h
      cases h
      exact Cursor.take_shrinks _ _ _ _ htake

section Loops

variable {read : Cursor → Reading α}

/-- Reading a number of times leaves no more than there was. -/
lemma readTimes_shrinks (hread : Shrinks read) (done : List α) (n : ℕ) :
    Shrinks (readTimes read done n) := by
  induction n generalizing done with
  | zero =>
    intro c xs c' h
    cases h
    exact Nat.le_refl _
  | succ n ih =>
    intro c xs c' h
    unfold readTimes at h
    split at h
    · cases h
    · rename_i x next hx
      exact (ih _ _ _ _ h).trans (hread _ _ _ hx)

/-- Reading until a break leaves no more than there was. -/
lemma readUntilBreak_shrinks (hread : Shrinks read) (done : List α) (bound : ℕ) :
    Shrinks (readUntilBreak read done bound) := by
  induction bound generalizing done with
  | zero =>
    intro c xs c' h
    cases h
  | succ bound ih =>
    intro c xs c' h
    unfold readUntilBreak at h
    split at h
    · cases h
    · rename_i next hhead
      cases h
      exact (Head.read_consumes _ _ _ hhead).le
    · split at h
      · cases h
      · rename_i x next hx
        exact (ih _ _ _ _ h).trans (hread _ _ _ hx)

/-- Reading a sequence leaves no more than there was. -/
lemma readSequence_shrinks (hread : Shrinks read) (bound : ℕ) (length : Option ℕ) :
    Shrinks (readSequence bound read length) := by
  cases length with
  | none => exact readUntilBreak_shrinks hread [] bound
  | some n => exact readTimes_shrinks hread [] n

end Loops

/-- An entry is read as its key and then its value. -/
lemma readEntry_eq_ok {read : Cursor → Reading Item} {c c' : Cursor} {entry : Item × Item}
    (h : readEntry read c = .ok (entry, c')) :
    ∃ next, read c = .ok (entry.1, next) ∧ read next = .ok (entry.2, c') := by
  unfold readEntry at h
  split at h
  · cases h
  · rename_i key next hkey
    split at h
    · cases h
    · rename_i value after hvalue
      cases h
      exact ⟨next, hkey, hvalue⟩

/-- Reading an entry consumes what reading its key does. -/
lemma readEntry_consumes {read : Cursor → Reading Item} (hread : Consumes read) :
    Consumes (readEntry read) := by
  intro c entry c' h
  obtain ⟨next, hkey, hvalue⟩ := readEntry_eq_ok h
  exact (hread _ _ _ hvalue).trans (hread _ _ _ hkey)

/-- Reading the item behind a tag leaves no more than there was. -/
lemma readTagged_shrinks {nested : Option (Cursor → Reading Item)}
    (hnested : ∀ read ∈ nested, Consumes read) (number : ℕ) :
    Shrinks (readTagged nested number) := by
  intro c item c' h
  unfold readTagged at h
  split at h
  · cases h
  · rename_i head next hhead
    have hnext := Head.read_consumes _ _ _ hhead
    split at h
    · split at h
      · cases h
      · rename_i content after htake
        have hafter := Cursor.take_shrinks _ _ _ _ htake
        split at h
        · cases h
        · cases h
          exact hafter.trans hnext.le
    · split at h
      · cases h
      · rename_i read
        obtain ⟨x, hx, -⟩ := Reading.map_eq_ok h
        exact (hnested read rfl _ _ _ hx).le

/-- Reading an item consumes its head. -/
lemma readItem_consumes (bound : ℕ) {nested : Option (Cursor → Reading Item)}
    (hnested : ∀ read ∈ nested, Consumes read) : Consumes (readItem bound nested) := by
  intro c item c' h
  unfold readItem at h
  split at h
  · cases h
  · rename_i head next hhead
    refine Nat.lt_of_le_of_lt ?_ (Head.read_consumes _ _ _ hhead)
    cases head with
    | positive n =>
      cases h
      exact Nat.le_refl _
    | negative n =>
      cases h
      exact Nat.le_refl _
    | float bits =>
      cases h
      exact Nat.le_refl _
    | «break» => cases h
    | bytes length =>
      obtain ⟨content, hcontent, -⟩ := Reading.map_eq_ok h
      exact readString_shrinks _ _ _ _ _ _ hcontent
    | text length =>
      obtain ⟨content, hcontent, -⟩ := Reading.map_eq_ok h
      exact readString_shrinks _ _ _ _ _ _ hcontent
    | array length =>
      dsimp only at h
      split at h
      · cases h
      · rename_i read
        obtain ⟨items, hitems, -⟩ := Reading.map_eq_ok h
        exact readSequence_shrinks (hnested read rfl).shrinks _ _ _ _ _ hitems
    | map length =>
      dsimp only at h
      split at h
      · cases h
      · rename_i read
        obtain ⟨entries, hentries, -⟩ := Reading.map_eq_ok h
        have hentry := readEntry_consumes (hnested read rfl)
        exact readSequence_shrinks hentry.shrinks _ _ _ _ _ hentries
    | tag number => exact readTagged_shrinks hnested _ _ _ _ h
    | simple n =>
      dsimp only at h
      split at h
      · cases h
        exact Nat.le_refl _
      · cases h

/-- Reading an item consumes at least one octet. -/
theorem Item.read_consumes (bound levels : ℕ) : Consumes (Item.read bound levels) := by
  induction levels with
  | zero => exact readItem_consumes bound fun read hread => by cases hread
  | succ levels ih =>
    refine readItem_consumes bound fun read hread => ?_
    cases hread
    exact ih

/-! ### Bounds that are not met -/

/-- Two readings are the same on inputs of at most `n` octets. -/
def AgreeUpTo (n : ℕ) (read read' : Cursor → Reading α) : Prop :=
  ∀ c, c.rest.length ≤ n → read c = read' c

/-- The bound on segments does not matter where it is not below the number of octets left. -/
lemma readSegments_eq (kind : StringKind) {bound bound' : ℕ} (done : List Bytes) (depth : ℕ)
    {c : Cursor} (h : c.rest.length ≤ bound) (h' : c.rest.length ≤ bound') :
    readSegments kind done bound depth c = readSegments kind done bound' depth c := by
  induction bound generalizing bound' done depth c with
  | zero =>
    obtain ⟨offset, _ | ⟨b, rest⟩⟩ := c
    · cases bound' <;> rfl
    · exact absurd h (Nat.not_succ_le_zero _)
  | succ bound ih =>
    obtain _ | bound' := bound'
    · obtain ⟨offset, _ | ⟨b, rest⟩⟩ := c
      · rfl
      · exact absurd h' (Nat.not_succ_le_zero _)
    · have hnext : ∀ head next after, Head.read c = .ok (head, next) →
          after.rest.length ≤ next.rest.length → ∀ done depth,
            readSegments kind done bound depth after =
              readSegments kind done bound' depth after := by
        intro head next after hhead hafter done depth
        have hlt := Head.read_consumes _ _ _ hhead
        exact ih done depth (by omega) (by omega)
      unfold readSegments
      rcases hhead : Head.read c with e | ⟨head, next⟩
      · rfl
      · have hrest := hnext head next next hhead (Nat.le_refl _)
        cases head with
        | «break» =>
          cases depth with
          | zero => rfl
          | succ depth => exact hrest done depth
        | _ =>
          dsimp only
          split
          · rfl
          · exact hrest done _
          · split
            · rfl
            · rename_i content after htake
              rw [hnext _ _ _ hhead (Cursor.take_shrinks _ _ _ _ htake)]

/-- The bound on the octets of a string does not matter. -/
lemma readString_eq (kind : StringKind) (length : Option ℕ) {bound bound' : ℕ} {c : Cursor}
    (h : c.rest.length ≤ bound) (h' : c.rest.length ≤ bound') :
    readString bound kind length c = readString bound' kind length c := by
  cases length with
  | none => exact readSegments_eq kind [] 0 h h'
  | some length => rfl

section Loops

variable {n : ℕ} {read read' : Cursor → Reading α}

/-- Readings that agree do so when they are made a number of times. -/
lemma readTimes_eq (hagree : AgreeUpTo n read read') (hread : Shrinks read') (done : List α)
    (times : ℕ) : AgreeUpTo n (readTimes read done times) (readTimes read' done times) := by
  induction times generalizing done with
  | zero => exact fun _ _ => rfl
  | succ times ih =>
    intro c hc
    unfold readTimes
    rw [hagree c hc]
    rcases hx : read' c with e | ⟨x, next⟩
    · rfl
    · exact ih _ next ((hread _ _ _ hx).trans hc)

/-- Readings that agree do so when they are made until a break, and the bound does not matter. -/
lemma readUntilBreak_eq (hagree : AgreeUpTo n read read') (hread : Consumes read')
    {bound bound' : ℕ} (done : List α) {c : Cursor} (hc : c.rest.length ≤ n)
    (h : c.rest.length ≤ bound) (h' : c.rest.length ≤ bound') :
    readUntilBreak read done bound c = readUntilBreak read' done bound' c := by
  induction bound generalizing bound' done c with
  | zero =>
    obtain ⟨offset, _ | ⟨b, rest⟩⟩ := c
    · cases bound' <;> rfl
    · exact absurd h (Nat.not_succ_le_zero _)
  | succ bound ih =>
    obtain _ | bound' := bound'
    · obtain ⟨offset, _ | ⟨b, rest⟩⟩ := c
      · rfl
      · exact absurd h' (Nat.not_succ_le_zero _)
    · unfold readUntilBreak
      rcases Head.read c with e | ⟨head, next⟩
      · rfl
      · cases head with
        | «break» => rfl
        | _ =>
          dsimp only
          rw [hagree c hc]
          rcases hx : read' c with e | ⟨x, after⟩
          · rfl
          · have hafter := hread _ _ _ hx
            exact ih _ (by omega) (by omega) (by omega)

/-- Readings that agree do so when a sequence is read, and the bound does not matter. -/
lemma readSequence_eq (hagree : AgreeUpTo n read read') (hread : Consumes read')
    (length : Option ℕ) {bound bound' : ℕ} {c : Cursor} (hc : c.rest.length ≤ n)
    (h : c.rest.length ≤ bound) (h' : c.rest.length ≤ bound') :
    readSequence bound read length c = readSequence bound' read' length c := by
  cases length with
  | none => exact readUntilBreak_eq hagree hread [] hc h h'
  | some times => exact readTimes_eq hagree hread.shrinks [] times c hc

end Loops

/-- Readings of items that agree do so when entries are read. -/
lemma readEntry_eq {n : ℕ} {read read' : Cursor → Reading Item} (hagree : AgreeUpTo n read read')
    (hread : Consumes read') : AgreeUpTo n (readEntry read) (readEntry read') := by
  intro c hc
  unfold readEntry
  rw [hagree c hc]
  rcases hkey : read' c with e | ⟨key, next⟩
  · rfl
  · dsimp only
    rw [hagree next ((hread _ _ _ hkey).le.trans hc)]

/-- What a reading finds does not depend on the bounds of its loops, nor on those of the reader of
nested items, if none of them is below the number of octets left. -/
lemma readItem_eq {bound bound' : ℕ} {nested nested' : Option (Cursor → Reading Item)}
    {c : Cursor} (h : c.rest.length ≤ bound) (h' : c.rest.length ≤ bound')
    (hnested : Option.Rel (AgreeUpTo c.rest.length) nested nested')
    (hread : ∀ read ∈ nested', Consumes read) :
    readItem bound nested c = readItem bound' nested' c := by
  unfold readItem
  rcases hhead : Head.read c with e | ⟨head, next⟩
  · rfl
  · have hnext : next.rest.length ≤ c.rest.length := (Head.read_consumes _ _ _ hhead).le
    have hstring : ∀ kind length,
        readString bound kind length next = readString bound' kind length next :=
      fun kind length => readString_eq kind length (hnext.trans h) (hnext.trans h')
    cases head with
    | bytes length =>
      dsimp only
      rw [hstring]
    | text length =>
      dsimp only
      rw [hstring]
    | array length =>
      cases hnested with
      | none => rfl
      | some hagree =>
        dsimp only
        rw [readSequence_eq hagree (hread _ rfl) length hnext (hnext.trans h) (hnext.trans h')]
    | map length =>
      cases hnested with
      | none => rfl
      | some hagree =>
        dsimp only
        rw [readSequence_eq (readEntry_eq hagree (hread _ rfl)) (readEntry_consumes (hread _ rfl))
          length hnext (hnext.trans h) (hnext.trans h')]
    | tag number =>
      cases hnested with
      | none => rfl
      | some hagree =>
        dsimp only
        unfold readTagged
        simp only [hagree next hnext]
    | _ => rfl

/-- A bound of at least the number of octets left is never met: it does not matter what it is. -/
theorem Item.read_eq_of_length_le {bound bound' : ℕ} (levels : ℕ) {c : Cursor}
    (h : c.rest.length ≤ bound) (h' : c.rest.length ≤ bound') :
    Item.read bound levels c = Item.read bound' levels c := by
  induction levels generalizing c with
  | zero => exact readItem_eq h h' .none fun read hread => by cases hread
  | succ levels ih =>
    refine readItem_eq h h' (.some fun c₁ hc₁ => ih (hc₁.trans h) (hc₁.trans h')) ?_
    intro read hread
    cases hread
    exact Item.read_consumes bound' levels

end Introduction.Cbor
