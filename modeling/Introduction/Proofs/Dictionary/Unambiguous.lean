import Introduction.Proofs.Dictionary.Forms

/-!
# Forms are read as their items

The octets of a form say which item it is a form of: a reader that reads anything from them reads
that item and leaves what follows (`Form.readAs`).  It may read nothing, if no level is left for
what is inside the item.

The induction is on the form.  Members of an array or a map of indefinite length are read up to a
break, which is found where it was written because no form begins like one (`Form.begins`).
-/

namespace Introduction.Cbor

variable {α : Type} {kind : StringKind} {depth : ℕ}

/-! ### Strings -/

/-- Octets are read as a result, whatever follows them, if anything is read from them. -/
def ReadAs (read : Cursor → Reading α) (octets : Bytes) (x : α) : Prop :=
  ∀ offset rest y c, read ⟨offset, octets ++ rest⟩ = .ok (y, c) → y = x ∧ c.rest = rest

/-- A string of definite length is taken behind its head. -/
lemma Piece.take_content (p : Piece kind) (offset : ℕ) (rest : Bytes) :
    Cursor.take p.length.value ⟨offset, p.content ++ rest⟩ =
      .ok (p.content, ⟨offset + p.content.length, rest⟩) := by
  rw [← p.length_eq]
  exact Cursor.take_append p.content rest offset

/-- What is written as the segments of a string is read as its content. -/
lemma Segments.readAs (s : Segments kind depth) (done : List Bytes) (bound : ℕ) :
    ReadAs (readSegments kind done bound depth) s.octets (done.reverse.flatten ++ s.content) := by
  induction s generalizing done bound with
  | last =>
    rintro offset rest content c h
    obtain _ | bound := bound
    · cases h
    · rw [readSegments, octets, Opening.read_octets] at h
      cases h
      exact ⟨(List.append_nil _).symm, rfl⟩
  | leave s ih =>
    rintro offset rest content c h
    obtain _ | bound := bound
    · cases h
    · rw [readSegments, octets, List.append_assoc, Opening.read_octets] at h
      exact ih done bound _ _ _ _ h
  | enter s ih =>
    rintro offset rest content c h
    obtain _ | bound := bound
    · cases h
    · rw [readSegments, octets, List.append_assoc, Opening.read_octets] at h
      cases kind <;> exact ih done bound _ _ _ _ h
  | piece p s ih =>
    rintro offset rest content c h
    obtain _ | bound := bound
    · cases h
    · rw [readSegments, octets, Piece.octets, List.append_assoc, List.append_assoc,
        Opening.read_octets] at h
      have hcontent : done.reverse.flatten ++ (piece p s).content =
          (p.content :: done).reverse.flatten ++ s.content := by
        rw [List.reverse_cons, List.flatten_append, List.flatten_singleton,
          Segments.content, List.append_assoc]
      rw [hcontent]
      cases kind
      all_goals
        dsimp only [Opening.head, Head.stringLength?, Option.map_some] at h
        rw [p.take_content] at h
        dsimp only at h
        rw [if_pos p.admitted] at h
        exact ih (p.content :: done) bound _ _ _ _ h

/-! ### Sequences -/

section Lists

variable {φ : Type} {read : Cursor → Reading α} {octets : φ → Bytes} {result : φ → α}

/-- What is written one after the other is read so, a number of times. -/
lemma readAs_readTimes {fs : List φ} (h : ∀ f ∈ fs, ReadAs read (octets f) (result f))
    (done : List α) :
    ReadAs (readTimes read done fs.length) (fs.map octets).flatten
      (done.reverse ++ fs.map result) := by
  induction fs generalizing done with
  | nil =>
    intro offset rest xs c hread
    cases hread
    exact ⟨(List.append_nil _).symm, rfl⟩
  | cons f fs ih =>
    intro offset rest xs c hread
    rw [List.length_cons, readTimes, List.map_cons, List.flatten_cons, List.append_assoc] at hread
    split at hread
    · cases hread
    · rename_i x next hx
      obtain ⟨rfl, hnext⟩ := h f List.mem_cons_self _ _ _ _ hx
      obtain ⟨start, after⟩ := next
      obtain rfl : after = _ := hnext
      obtain ⟨hxs, hc⟩ := ih (fun g hg => h g (List.mem_cons_of_mem f hg)) _ _ _ _ _ hread
      refine ⟨?_, hc⟩
      rw [hxs, List.reverse_cons, List.append_assoc]
      rfl

/-- What is written one after the other is read so until a break, if no member begins like one. -/
lemma readAs_readUntilBreak {fs : List φ} (h : ∀ f ∈ fs, ReadAs read (octets f) (result f))
    (hbegins : ∀ f ∈ fs, ∃ o rest, octets f = Opening.octets o ++ rest ∧ o ≠ .break)
    (done : List α) (bound : ℕ) :
    ReadAs (readUntilBreak read done bound) ((fs.map octets).flatten ++ Opening.break.octets)
      (done.reverse ++ fs.map result) := by
  induction fs generalizing done bound with
  | nil =>
    intro offset rest xs c hread
    obtain _ | bound := bound
    · cases hread
    · rw [readUntilBreak, List.map_nil, List.flatten_nil, List.nil_append,
        Opening.read_octets] at hread
      cases hread
      exact ⟨(List.append_nil _).symm, rfl⟩
  | cons f fs ih =>
    intro offset rest xs c hread
    obtain _ | bound := bound
    · cases hread
    · rw [List.map_cons, List.flatten_cons, List.append_assoc, List.append_assoc,
        readUntilBreak] at hread
      split at hread
      · cases hread
      · rename_i next hhead
        obtain ⟨o, tail, ho, hbreak⟩ := hbegins f List.mem_cons_self
        rw [ho, List.append_assoc, Opening.read_octets] at hhead
        exact absurd (Opening.eq_break (congrArg Prod.fst (Except.ok.inj hhead))) hbreak
      · split at hread
        · cases hread
        · rename_i x next hx
          obtain ⟨rfl, hnext⟩ := h f List.mem_cons_self _ _ _ _ hx
          obtain ⟨start, after⟩ := next
          obtain rfl : after = _ := hnext
          rw [← List.append_assoc] at hread
          obtain ⟨hxs, hc⟩ := ih (fun g hg => h g (List.mem_cons_of_mem f hg))
            (fun g hg => hbegins g (List.mem_cons_of_mem f hg)) _ _ _ _ _ _ hread
          refine ⟨?_, hc⟩
          rw [hxs, List.reverse_cons, List.append_assoc]
          rfl

end Lists

/-- Members that are written one after the other, and closed, are read as a sequence of their
extent. -/
lemma readAs_readSequence {read : Cursor → Reading α} {e : Extent} {octets : Fin e.count → Bytes}
    {members : Fin e.count → α} (bound : ℕ) (h : ∀ i, ReadAs read (octets i) (members i))
    (hbegins : ∀ i, ∃ o rest, octets i = Opening.octets o ++ rest ∧ o ≠ .break) :
    ReadAs (readSequence bound read (e.length.map (·.value)))
      ((List.ofFn octets).flatten ++ e.closing) (List.ofFn members) := by
  have hoctets : List.ofFn octets = (List.ofFn id).map octets := List.map_ofFn.symm
  have hmembers : List.ofFn members = (List.ofFn id).map members := List.map_ofFn.symm
  rw [hoctets, hmembers]
  cases e with
  | definite a =>
    have hread := @readAs_readTimes α (Fin a.value) read octets members (List.ofFn id)
      (fun i _ => h i) []
    rw [List.length_ofFn] at hread
    rw [Extent.closing, List.append_nil]
    exact hread
  | indefinite n => exact readAs_readUntilBreak (fun i _ => h i) (fun i _ => hbegins i) [] bound

/-! ### Items -/

/-- No form begins like a break. -/
lemma Form.begins (f : Form) : ∃ o rest, f.octets = Opening.octets o ++ rest ∧ o ≠ .break := by
  cases f with
  | integer negative a => exact ⟨_, [], (List.append_nil _).symm, nofun⟩
  | big n => exact ⟨_, _, rfl, nofun⟩
  | float a => exact ⟨_, [], (List.append_nil _).symm, nofun⟩
  | bool a => exact ⟨_, [], (List.append_nil _).symm, nofun⟩
  | string kind p => exact ⟨_, _, rfl, nofun⟩
  | segments kind s => exact ⟨_, _, rfl, nofun⟩
  | array e members => exact ⟨_, _, rfl, nofun⟩
  | map e keys values => exact ⟨_, _, rfl, nofun⟩

/-- The reader of the items inside an item, if a level is left for them. -/
def nestedReader (bound : ℕ) : ℕ → Option (Cursor → Reading Item)
  | 0 => none
  | levels + 1 => some (Item.read bound levels)

lemma Item.read_eq (bound levels : ℕ) :
    Item.read bound levels = readItem bound (nestedReader bound levels) := by
  cases levels <;> rfl

/-- A reading with its result replaced is of what the reading is of. -/
lemma ReadAs.map {β : Type} {read : Cursor → Reading α} {octets : Bytes} {x : α} {g : α → β}
    (h : ReadAs read octets x) : ReadAs (fun c => (read c).map g) octets (g x) := by
  intro offset rest y c hread
  obtain ⟨x', hx', rfl⟩ := Reading.map_eq_ok hread
  obtain ⟨rfl, hc⟩ := h _ _ _ _ hx'
  exact ⟨rfl, hc⟩

/-- A string of definite length is read behind its head as what it is. -/
lemma Piece.readAs (p : Piece kind) (bound : ℕ) :
    ReadAs (readString bound kind (some p.length.value)) p.content p.content := by
  intro offset rest content c h
  rw [readString, p.take_content] at h
  dsimp only at h
  rw [if_pos p.admitted] at h
  cases h
  exact ⟨rfl, rfl⟩

/-- A big number is read behind its tag. -/
lemma BigNumber.readAs (n : BigNumber) (nested : Option (Cursor → Reading Item)) :
    ReadAs (readTagged nested n.tag.value) n.magnitude.octets (.integer n.value) := by
  intro offset rest item c h
  have htag : n.tag.value = 2 ∨ n.tag.value = 3 := by
    rw [n.tag_eq]
    cases n.negative
    · exact .inl rfl
    · exact .inr rfl
  have hsign : decide (n.tag.value = 3) = n.negative := by
    rw [n.tag_eq]
    cases n.negative <;> rfl
  have hlength : bigNumberLength? n.tag.value (.bytes (some n.magnitude.length.value)) =
      some n.magnitude.length.value :=
    if_pos ⟨htag, n.magnitude.length_eq ▸ n.length_le⟩
  have hvalue : bigNumber n.negative n.magnitude.content = .ok (.integer n.value) :=
    if_pos n.magnitude_lt
  unfold readTagged at h
  rw [Piece.octets, List.append_assoc, Opening.read_octets] at h
  dsimp only [Opening.head, Option.map_some] at h
  rw [hlength] at h
  dsimp only at h
  rw [n.magnitude.take_content] at h
  dsimp only at h
  rw [hsign, hvalue] at h
  cases h
  exact ⟨rfl, rfl⟩

/-- A key and a value are read as an entry. -/
lemma readAs_readEntry {read : Cursor → Reading Item} {key value : Bytes} {k v : Item}
    (hkey : ReadAs read key k) (hvalue : ReadAs read value v) :
    ReadAs (readEntry read) (key ++ value) (k, v) := by
  intro offset rest entry c h
  rw [List.append_assoc] at h
  obtain ⟨⟨start, after⟩, hk, hv⟩ := readEntry_eq_ok h
  obtain ⟨hk', hnext⟩ := hkey _ _ _ _ hk
  obtain rfl : after = _ := hnext
  obtain ⟨hv', hlast⟩ := hvalue _ _ _ _ hv
  exact ⟨Prod.ext hk' hv', hlast⟩

/-- A form is read as its item, if anything is read from it. -/
theorem Form.readAs (f : Form) (bound levels : ℕ) :
    ReadAs (Item.read bound levels) f.octets f.item := by
  rw [Item.read_eq]
  induction f generalizing levels with
  | integer negative a =>
    intro offset rest item c h
    rw [readItem, octets, Opening.read_octets] at h
    cases negative <;> cases h <;> exact ⟨rfl, rfl⟩
  | big n =>
    intro offset rest item c h
    rw [readItem, octets, BigNumber.octets, List.append_assoc, Opening.read_octets] at h
    exact n.readAs _ _ _ _ _ h
  | float a bits hhead =>
    intro offset rest item c h
    rw [readItem, octets, Opening.read_octets, hhead] at h
    cases h
    exact ⟨rfl, rfl⟩
  | bool a b hhead =>
    intro offset rest item c h
    rw [readItem, octets, Opening.read_octets, hhead] at h
    cases b <;> cases h <;> exact ⟨rfl, rfl⟩
  | string kind p =>
    intro offset rest item c h
    rw [readItem, octets, Piece.octets, List.append_assoc, Opening.read_octets] at h
    have hread : ReadAs (fun c => (readString bound kind (some p.length.value) c).map kind.item)
        p.content (kind.item p.content) :=
      ReadAs.map (p.readAs bound)
    cases kind <;> exact hread _ _ _ _ h
  | segments kind s =>
    intro offset rest item c h
    rw [readItem, octets, List.append_assoc, Opening.read_octets] at h
    have hread : ReadAs (fun c => (readString bound kind none c).map kind.item) s.octets
        (kind.item s.content) :=
      ReadAs.map (s.readAs [] bound)
    cases kind <;> exact hread _ _ _ _ h
  | array e members ih =>
    intro offset rest item c h
    rw [readItem, octets, List.append_assoc, Opening.read_octets] at h
    cases levels with
    | zero => cases h
    | succ levels =>
      have hmembers := readAs_readSequence bound
        (fun i => (Item.read_eq bound levels).symm ▸ ih i levels) fun i => (members i).begins
      exact hmembers.map _ _ _ _ h
  | map e keys values ihk ihv =>
    intro offset rest item c h
    rw [readItem, octets, List.append_assoc, Opening.read_octets] at h
    cases levels with
    | zero => cases h
    | succ levels =>
      have hentry : ∀ i, ReadAs (readEntry (Item.read bound levels))
          ((keys i).octets ++ (values i).octets) ((keys i).item, (values i).item) := fun i =>
        readAs_readEntry ((Item.read_eq bound levels).symm ▸ ihk i levels)
          ((Item.read_eq bound levels).symm ▸ ihv i levels)
      have hentries := readAs_readSequence bound hentry fun i => by
        obtain ⟨o, tail, ho, hbreak⟩ := (keys i).begins
        exact ⟨o, tail ++ (values i).octets, by rw [ho, List.append_assoc], hbreak⟩
      exact hentries.map _ _ _ _ h

end Introduction.Cbor
