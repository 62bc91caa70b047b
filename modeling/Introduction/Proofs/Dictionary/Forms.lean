import Introduction.Proofs.Cbor.Openings
import Introduction.Proofs.Dictionary.Decoding
import Mathlib.Data.List.OfFn

/-!
# The forms of an item

The octets that stand for an item are not fixed: heads have any width, a string may come in
segments, the length of an array or a map may be left out, and an integer may be written as a big
number.  A `Form` is an item together with the way in which it is written.  Whatever is read as an
item that a dictionary can hold is a form of this item (`Form.exists_of_read`).
-/

namespace Introduction.Cbor

variable {α : Type} {kind : StringKind} {depth : ℕ}

/-! ### Strings -/

/-- The item that is a string. -/
def StringKind.item : StringKind → Bytes → Item
  | .bytes, content => .bytes content
  | .text, content => .text (content.toText?.getD "")

/-- A string of definite length as it is written. -/
structure Piece (kind : StringKind) where
  /-- The length in its head. -/
  length : Argument
  /-- The octets of the string. -/
  content : Bytes
  /-- The length is that of the string. -/
  length_eq : content.length = length.value
  /-- The octets may stand in the string. -/
  admitted : kind.admits content

/-- The octets of a string of definite length. -/
def Piece.octets (p : Piece kind) : Bytes :=
  (Opening.string kind (some p.length)).octets ++ p.content

/-- The rest of a string of indefinite length as it is written, where a number of strings inside it
have been begun and not ended. -/
inductive Segments (kind : StringKind) : ℕ → Type
  /-- The string ends. -/
  | last : Segments kind 0
  /-- The innermost string ends. -/
  | leave {depth : ℕ} (rest : Segments kind depth) : Segments kind (depth + 1)
  /-- Another string begins. -/
  | enter {depth : ℕ} (rest : Segments kind (depth + 1)) : Segments kind depth
  /-- A segment. -/
  | piece {depth : ℕ} (p : Piece kind) (rest : Segments kind depth) : Segments kind depth

namespace Segments

/-- The octets up to the end of the string. -/
def octets {depth : ℕ} : Segments kind depth → Bytes
  | .last => Opening.break.octets
  | .leave rest => Opening.break.octets ++ rest.octets
  | .enter rest => (Opening.string kind none).octets ++ rest.octets
  | .piece p rest => p.octets ++ rest.octets

/-- What is left of the string. -/
def content {depth : ℕ} : Segments kind depth → Bytes
  | .last => []
  | .leave rest => rest.content
  | .enter rest => rest.content
  | .piece p rest => p.content ++ rest.content

end Segments

/-! ### Items -/

/-- How the number of members of an array or a map is written: in its head, or not at all, with a
break after the members. -/
inductive Extent where
  | definite (length : Argument)
  | indefinite (count : ℕ)

namespace Extent

/-- The number of members. -/
def count : Extent → ℕ
  | .definite length => length.value
  | .indefinite count => count

/-- The length in the head. -/
def length : Extent → Option Argument
  | .definite length => some length
  | .indefinite _ => none

/-- The octets after the members. -/
def closing : Extent → Bytes
  | .definite _ => []
  | .indefinite _ => Opening.break.octets

end Extent

/-- An integer that is written as a byte string behind a tag. -/
structure BigNumber where
  /-- Whether it is negative. -/
  negative : Bool
  /-- The tag. -/
  tag : Argument
  /-- The octets of the magnitude. -/
  magnitude : Piece .bytes
  /-- The tag tells the sign. -/
  tag_eq : tag.value = if negative then 3 else 2
  /-- There are at most sixteen octets. -/
  length_le : magnitude.content.length ≤ 16
  /-- The magnitude has 64 bits. -/
  magnitude_lt : magnitude.content.toNat < 2 ^ 64

namespace BigNumber

/-- The octets of a big number. -/
def octets (n : BigNumber) : Bytes := (Opening.tag n.tag).octets ++ n.magnitude.octets

/-- The integer. -/
def value (n : BigNumber) : ℤ :=
  if n.negative then -1 - (n.magnitude.content.toNat : ℤ) else n.magnitude.content.toNat

end BigNumber

/-- An item as it is written. -/
inductive Form where
  /-- An integer in its head. -/
  | integer (negative : Bool) (magnitude : Argument)
  /-- An integer as a big number. -/
  | big (number : BigNumber)
  /-- A floating-point number. -/
  | float (pattern : Argument) (bits : UInt64) (h : (Opening.seventh pattern).head = .float bits)
  /-- A truth value. -/
  | bool (number : Argument) (b : Bool)
    (h : (Opening.seventh number).head = .simple (if b then 21 else 20))
  /-- A string of definite length. -/
  | string (kind : StringKind) (piece : Piece kind)
  /-- A string in segments. -/
  | segments (kind : StringKind) (parts : Segments kind 0)
  /-- An array. -/
  | array (extent : Extent) (members : Fin extent.count → Form)
  /-- A map. -/
  | map (extent : Extent) (keys values : Fin extent.count → Form)

namespace Form

/-- The octets of a form. -/
def octets : Form → Bytes
  | .integer negative magnitude => (Opening.integer negative magnitude).octets
  | .big number => number.octets
  | .float pattern _ _ => (Opening.seventh pattern).octets
  | .bool number _ _ => (Opening.seventh number).octets
  | .string _ piece => piece.octets
  | .segments kind parts => (Opening.string kind none).octets ++ parts.octets
  | .array extent members =>
    (Opening.array extent.length).octets ++
      ((List.ofFn fun i => (members i).octets).flatten ++ extent.closing)
  | .map extent keys values =>
    (Opening.map extent.length).octets ++
      ((List.ofFn fun i => (keys i).octets ++ (values i).octets).flatten ++ extent.closing)

/-- The item of a form. -/
def item : Form → Item
  | .integer false magnitude => .integer magnitude.value
  | .integer true magnitude => .integer (-1 - (magnitude.value : ℤ))
  | .big number => .integer number.value
  | .float _ bits _ => .float bits
  | .bool _ b _ => .bool b
  | .string kind piece => kind.item piece.content
  | .segments kind parts => kind.item parts.content
  | .array _ members => .array (List.ofFn fun i => (members i).item)
  | .map _ keys values => .map (List.ofFn fun i => ((keys i).item, (values i).item))

end Form

/-! ### What is read has a form -/

/-- The head of a simple value or a floating-point number. -/
lemma Head.ofSeventh_cases (info n : ℕ) :
    Head.ofSeventh info (some n) = .simple n ∨
      ∃ bits, Head.ofSeventh info (some n) = .float bits := by
  unfold ofSeventh
  dsimp only
  split_ifs
  · exact .inr ⟨_, rfl⟩
  · exact .inr ⟨_, rfl⟩
  · exact .inr ⟨_, rfl⟩
  · exact .inl rfl

/-- Only a break is read as one. -/
lemma Opening.eq_break {o : Opening} (h : o.head = .break) : o = .break := by
  cases o with
  | integer negative => cases negative <;> cases h
  | string kind => cases kind <;> cases h
  | seventh a =>
    rcases Head.ofSeventh_cases a.info a.value with ha | ⟨bits, ha⟩ <;> cases ha.symm.trans h
  | «break» => rfl
  | _ => cases h

/-- Only the head of a string is read as one. -/
lemma Opening.eq_string {o : Opening} {length : Option ℕ}
    (h : o.head.stringLength? kind = some length) :
    ∃ l : Option Argument, o = .string kind l ∧ l.map (·.value) = length := by
  cases o with
  | integer negative => cases negative <;> cases kind <;> cases h
  | string kind' l => cases kind' <;> cases kind <;> cases h <;> exact ⟨l, rfl, rfl⟩
  | seventh a =>
    rcases Head.ofSeventh_cases a.info a.value with ha | ⟨bits, ha⟩ <;>
      rw [Opening.head, ha] at h <;> cases kind <;> cases h
  | _ => cases kind <;> cases h

/-- Octets that are taken for a string are those of one. -/
lemma exists_piece {length : Argument} {c c' : Cursor} {content : Bytes}
    (htake : c.take length.value = .ok (content, c')) (hadmits : kind.admits content) :
    ∃ p : Piece kind, p.length = length ∧ p.content = content ∧ c.rest = p.content ++ c'.rest := by
  obtain ⟨_, rfl, hlength, hrest⟩ := Cursor.takeOnto_eq_ok htake
  exact ⟨⟨length, content, hlength, hadmits⟩, rfl, rfl, hrest⟩

/-- What is read as the segments of a string is written as such. -/
lemma exists_segments {done : List Bytes} {bound : ℕ} {c c' : Cursor} {content : Bytes}
    (h : readSegments kind done bound depth c = .ok (content, c')) :
    ∃ s : Segments kind depth, content = done.reverse.flatten ++ s.content ∧
      c.rest = s.octets ++ c'.rest := by
  induction bound generalizing done depth c with
  | zero => cases h
  | succ bound ih =>
    unfold readSegments at h
    split at h
    · cases h
    · rename_i next hhead
      obtain ⟨o, ho, hrest⟩ := Opening.exists_of_read hhead
      obtain rfl := Opening.eq_break ho
      split at h
      · cases h
        exact ⟨.last, (List.append_nil _).symm, hrest⟩
      · obtain ⟨s, hcontent, hnext⟩ := ih h
        refine ⟨.leave s, hcontent, ?_⟩
        rw [hrest, hnext, Segments.octets, List.append_assoc]
    · rename_i head next _ hhead
      obtain ⟨o, rfl, hrest⟩ := Opening.exists_of_read hhead
      split at h
      · cases h
      · rename_i hlength
        obtain ⟨l, rfl, hl⟩ := Opening.eq_string hlength
        obtain rfl := Option.map_eq_none_iff.mp hl
        obtain ⟨s, hcontent, hnext⟩ := ih h
        refine ⟨.enter s, hcontent, ?_⟩
        rw [hrest, hnext, Segments.octets, List.append_assoc]
      · rename_i length hlength
        obtain ⟨l, rfl, hl⟩ := Opening.eq_string hlength
        obtain ⟨a, rfl, rfl⟩ := Option.map_eq_some_iff.mp hl
        split at h
        · cases h
        · rename_i segment after htake
          split_ifs at h with hadmits
          obtain ⟨p, rfl, rfl, hpiece⟩ := exists_piece htake hadmits
          obtain ⟨s, hcontent, hafter⟩ := ih h
          refine ⟨.piece p s, ?_, ?_⟩
          · rw [hcontent, List.reverse_cons, List.flatten_append, Segments.content,
              List.flatten_singleton, List.append_assoc]
          · rw [hrest, hpiece, hafter, Segments.octets, Piece.octets]
            simp only [List.append_assoc]

/-- What is read as a string is written as one. -/
lemma exists_string {bound : ℕ} {length : Option Argument} {c c' : Cursor} {content : Bytes}
    (h : readString bound kind (length.map (·.value)) c = .ok (content, c')) :
    ∃ f : Form, f.item = kind.item content ∧
      (Opening.string kind length).octets ++ c.rest = f.octets ++ c'.rest := by
  cases length with
  | none =>
    obtain ⟨s, hcontent, hrest⟩ := exists_segments h
    refine ⟨.segments kind s, ?_, ?_⟩
    · rw [hcontent]
      rfl
    · rw [hrest, Form.octets, List.append_assoc]
  | some length =>
    rw [Option.map_some, readString] at h
    split at h
    · cases h
    · rename_i content' next htake
      split_ifs at h with hadmits
      cases h
      obtain ⟨p, rfl, rfl, hpiece⟩ := exists_piece htake hadmits
      refine ⟨.string kind p, rfl, ?_⟩
      rw [hpiece, Form.octets, Piece.octets, List.append_assoc]

/-- Results that are read one after the other. -/
inductive ReadsList (read : Cursor → Reading α) : Cursor → List α → Cursor → Prop
  | nil (c : Cursor) : ReadsList read c [] c
  | cons {c c₁ c' : Cursor} {x : α} {xs : List α} (hx : read c = .ok (x, c₁))
      (hxs : ReadsList read c₁ xs c') : ReadsList read c (x :: xs) c'

namespace ReadsList

variable {read : Cursor → Reading α} {c c' : Cursor} {xs done : List α}

/-- What is read a number of times is read one after the other. -/
lemma of_readTimes {n : ℕ} (h : readTimes read done n c = .ok (xs, c')) :
    ∃ ys, xs = done.reverse ++ ys ∧ ys.length = n ∧ ReadsList read c ys c' := by
  induction n generalizing done c with
  | zero =>
    cases h
    exact ⟨[], (List.append_nil _).symm, rfl, .nil _⟩
  | succ n ih =>
    unfold readTimes at h
    split at h
    · cases h
    · rename_i x next hx
      obtain ⟨ys, hys, hlength, hread⟩ := ih h
      refine ⟨x :: ys, ?_, congrArg (· + 1) hlength, .cons hx hread⟩
      rw [hys, List.reverse_cons, List.append_assoc]
      rfl

/-- What is read until a break is read one after the other, and a break follows. -/
lemma of_readUntilBreak {bound : ℕ} (h : readUntilBreak read done bound c = .ok (xs, c')) :
    ∃ ys c₁, xs = done.reverse ++ ys ∧ ReadsList read c ys c₁ ∧
      c₁.rest = Opening.break.octets ++ c'.rest := by
  induction bound generalizing done c with
  | zero => cases h
  | succ bound ih =>
    unfold readUntilBreak at h
    split at h
    · cases h
    · rename_i next hhead
      cases h
      obtain ⟨o, ho, hrest⟩ := Opening.exists_of_read hhead
      obtain rfl := Opening.eq_break ho
      exact ⟨[], c, (List.append_nil _).symm, .nil c, hrest⟩
    · split at h
      · cases h
      · rename_i x next hx
        obtain ⟨ys, c₁, hys, hread, hrest⟩ := ih h
        refine ⟨x :: ys, c₁, ?_, .cons hx hread, hrest⟩
        rw [hys, List.reverse_cons, List.append_assoc]
        rfl

/-- What is read as a sequence is read one after the other, and has an extent. -/
lemma of_readSequence {bound : ℕ} {length : Option Argument}
    (h : readSequence bound read (length.map (·.value)) c = .ok (xs, c')) :
    ∃ (extent : Extent) (c₁ : Cursor), extent.length = length ∧ extent.count = xs.length ∧
      ReadsList read c xs c₁ ∧ c₁.rest = extent.closing ++ c'.rest := by
  cases length with
  | none =>
    obtain ⟨_, c₁, rfl, hread, hrest⟩ := of_readUntilBreak h
    exact ⟨.indefinite xs.length, c₁, rfl, rfl, hread, hrest⟩
  | some a =>
    obtain ⟨_, rfl, hlength, hread⟩ := of_readTimes h
    exact ⟨.definite a, c', rfl, hlength.symm, hread, rfl⟩

/-- Every result was read. -/
lemma exists_of_mem (h : ReadsList read c xs c') {x : α} (hx : x ∈ xs) :
    ∃ c₁ c₂, read c₁ = .ok (x, c₂) := by
  induction h with
  | nil => cases hx
  | cons hread _ ih =>
    rcases List.mem_cons.mp hx with rfl | hx
    · exact ⟨_, _, hread⟩
    · exact ih hx

/-- If every result is written in some way, so are all of them. -/
lemma exists_written {φ : Type} {octets : φ → Bytes} {result : φ → α}
    (h : ReadsList read c xs c')
    (hread : ∀ x ∈ xs, ∀ c c', read c = .ok (x, c') →
      ∃ f, result f = x ∧ c.rest = octets f ++ c'.rest) :
    ∃ fs : List φ, fs.map result = xs ∧ c.rest = (fs.map octets).flatten ++ c'.rest := by
  induction h with
  | nil => exact ⟨[], rfl, rfl⟩
  | cons hx _ ih =>
    obtain ⟨f, rfl, hf⟩ := hread _ List.mem_cons_self _ _ hx
    obtain ⟨fs, rfl, hfs⟩ := ih fun x hx => hread x (List.mem_cons_of_mem _ hx)
    refine ⟨f :: fs, rfl, ?_⟩
    rw [hf, hfs, List.map_cons, List.flatten_cons, List.append_assoc]

end ReadsList

/-- What is read behind the head of an item. -/
inductive ReadsBehind (bound : ℕ) (nested : Option (Cursor → Reading Item)) :
    Opening → Cursor → Item → Cursor → Prop
  | integer (negative : Bool) (a : Argument) (c : Cursor) :
      ReadsBehind bound nested (.integer negative a) c
        (.integer (if negative then -1 - (a.value : ℤ) else a.value)) c
  | string {kind : StringKind} {length : Option Argument} {content : Bytes} {c c' : Cursor}
      (h : readString bound kind (length.map (·.value)) c = .ok (content, c')) :
      ReadsBehind bound nested (.string kind length) c (kind.item content) c'
  | array {read : Cursor → Reading Item} (hread : read ∈ nested) {length : Option Argument}
      {items : List Item} {c c' : Cursor}
      (h : readSequence bound read (length.map (·.value)) c = .ok (items, c')) :
      ReadsBehind bound nested (.array length) c (.array items) c'
  | map {read : Cursor → Reading Item} (hread : read ∈ nested) {length : Option Argument}
      {entries : List (Item × Item)} {c c' : Cursor}
      (h : readSequence bound (readEntry read) (length.map (·.value)) c = .ok (entries, c')) :
      ReadsBehind bound nested (.map length) c (.map entries) c'
  | tag {a : Argument} {item : Item} {c c' : Cursor}
      (h : readTagged nested a.value c = .ok (item, c')) :
      ReadsBehind bound nested (.tag a) c item c'
  | simple {a : Argument} {item : Item} {c : Cursor}
      (hhead : (Opening.seventh a).head = .simple a.value) (h : simpleItem? a.value = some item) :
      ReadsBehind bound nested (.seventh a) c item c
  | float {a : Argument} {bits : UInt64} {c : Cursor}
      (hhead : (Opening.seventh a).head = .float bits) :
      ReadsBehind bound nested (.seventh a) c (.float bits) c

/-- An item is read as its head and what is behind it. -/
lemma ReadsBehind.of_readItem {bound : ℕ} {nested : Option (Cursor → Reading Item)} {c c' : Cursor}
    {item : Item} (h : readItem bound nested c = .ok (item, c')) :
    ∃ o next, c.rest = Opening.octets o ++ next.rest ∧ ReadsBehind bound nested o next item c' := by
  unfold readItem at h
  split at h
  · cases h
  · rename_i head next hhead
    obtain ⟨o, rfl, hrest⟩ := Opening.exists_of_read hhead
    refine ⟨o, next, hrest, ?_⟩
    cases o with
    | integer negative a => cases negative <;> cases h <;> exact .integer _ a _
    | string kind length =>
      have hstring : ∃ content, readString bound kind (length.map (·.value)) next =
          .ok (content, c') ∧ item = kind.item content := by
        cases kind <;> exact Reading.map_eq_ok h
      obtain ⟨content, hcontent, rfl⟩ := hstring
      exact .string hcontent
    | array length =>
      dsimp only [Opening.head] at h
      split at h
      · cases h
      · obtain ⟨items, hitems, rfl⟩ := Reading.map_eq_ok h
        exact .array rfl hitems
    | map length =>
      dsimp only [Opening.head] at h
      split at h
      · cases h
      · obtain ⟨entries, hentries, rfl⟩ := Reading.map_eq_ok h
        exact .map rfl hentries
    | tag a => exact .tag h
    | seventh a =>
      rcases Head.ofSeventh_cases a.info a.value with ha | ⟨bits, ha⟩
      · rw [Opening.head, ha] at h
        dsimp only at h
        split at h
        · rename_i simple hsimple
          cases h
          exact .simple ha hsimple
        · cases h
      · rw [Opening.head, ha] at h
        cases h
        exact .float ha
    | «break» => cases h

/-- The members of a list, counted by a number that is its length. -/
lemma ofFn_get_cast_eq_map {φ β : Type} {n : ℕ} {fs : List φ} (h : n = fs.length) (g : φ → β) :
    (List.ofFn fun i : Fin n => g (fs.get (i.cast h))) = fs.map g := by
  subst h
  exact List.ofFn_getElem_eq_map fs g

/-- Members of an array that a dictionary can hold can be held. -/
lemma Item.Representable.of_mem {items : List Item} (h : (Item.array items).Representable)
    {item : Item} (hitem : item ∈ items) : item.Representable := by
  cases h with
  | array members => exact members item hitem

/-- Keys and values of a map that a dictionary can hold can be held. -/
lemma Item.Representable.of_mem_entries {entries : List (Item × Item)}
    (h : (Item.map entries).Representable) {entry : Item × Item} (hentry : entry ∈ entries) :
    entry.1.Representable ∧ entry.2.Representable := by
  cases h with
  | map texts nodup values =>
    obtain ⟨text, htext⟩ := texts entry hentry
    exact ⟨htext ▸ .text text, values entry hentry⟩

/-- Whatever is read as an item that a dictionary can hold is written in some form. -/
def FormsRead (read : Cursor → Reading Item) : Prop :=
  ∀ c item c', read c = .ok (item, c') → item.Representable →
    ∃ f : Form, f.item = item ∧ c.rest = f.octets ++ c'.rest

/-- The big number that a byte string behind a tag is. -/
lemma exists_bigNumber {tag length : Argument} {c c' : Cursor} {content : Bytes} {item : Item}
    (hlength : bigNumberLength? tag.value (.bytes (some length.value)) = some length.value)
    (htake : c.take length.value = .ok (content, c'))
    (hitem : bigNumber (tag.value = 3) content = .ok item) (hheld : item.Representable) :
    ∃ n : BigNumber, n.tag = tag ∧ n.magnitude.length = length ∧ item = .integer n.value ∧
      c.rest = n.magnitude.content ++ c'.rest := by
  obtain ⟨p, rfl, rfl, hrest⟩ := @exists_piece .bytes _ _ _ _ htake rfl
  unfold bigNumberLength? at hlength
  dsimp only at hlength
  split_ifs at hlength with hbig
  unfold bigNumber at hitem
  dsimp only at hitem
  by_cases hsmall : p.content.toNat < 2 ^ 64
  · rw [if_pos hsmall] at hitem
    cases hitem
    refine ⟨⟨tag.value = 3, tag, p, ?_, ?_, hsmall⟩, rfl, rfl, rfl, hrest⟩
    · rcases hbig.1 with h | h <;> rw [h] <;> rfl
    · rw [p.length_eq]
      exact hbig.2
  · rw [if_neg hsmall] at hitem
    split_ifs at hitem <;> cases hitem <;> cases hheld

/-- What is read behind a tag is a big number, if a dictionary can hold it. -/
lemma exists_tagged {nested : Option (Cursor → Reading Item)} {tag : Argument} {c c' : Cursor}
    {item : Item} (h : readTagged nested tag.value c = .ok (item, c'))
    (hheld : item.Representable) :
    ∃ n : BigNumber, n.tag = tag ∧ item = .integer n.value ∧
      c.rest = n.magnitude.octets ++ c'.rest := by
  unfold readTagged at h
  split at h
  · cases h
  · rename_i head next hhead
    obtain ⟨o, rfl, hrest⟩ := Opening.exists_of_read hhead
    split at h
    · rename_i length hlength
      split at h
      · cases h
      · rename_i content after htake
        split at h
        · cases h
        · rename_i big hbig
          cases h
          -- only the head of a byte string is followed by a magnitude
          obtain ⟨l, ho, hl⟩ : ∃ l : Option Argument, o = .string .bytes l ∧
              l.map (·.value) = some length := by
            refine Opening.eq_string ?_
            unfold bigNumberLength? at hlength
            split at hlength
            · rename_i hhead'
              split_ifs at hlength
              cases hlength
              rw [hhead']
              rfl
            · cases hlength
          subst ho
          obtain ⟨a, rfl, rfl⟩ := Option.map_eq_some_iff.mp hl
          obtain ⟨n, rfl, rfl, hitem, hmagnitude⟩ := exists_bigNumber hlength htake hbig hheld
          refine ⟨n, rfl, hitem, ?_⟩
          rw [hrest, hmagnitude, Piece.octets, List.append_assoc]
    · split at h
      · cases h
      · rename_i read
        rcases hread : read c with e | ⟨content, after⟩
        · rw [hread] at h
          cases h
        · rw [hread] at h
          cases h
          cases hheld

/-- The members of an array are written in forms, and so is the array. -/
lemma exists_array {read : Cursor → Reading Item} (hread : FormsRead read) {bound : ℕ}
    {length : Option Argument} {c c' : Cursor} {items : List Item}
    (h : readSequence bound read (length.map (·.value)) c = .ok (items, c'))
    (hheld : (Item.array items).Representable) :
    ∃ f : Form, f.item = .array items ∧
      (Opening.array length).octets ++ c.rest = f.octets ++ c'.rest := by
  obtain ⟨extent, c₁, rfl, hcount, hlist, hclosing⟩ := ReadsList.of_readSequence h
  obtain ⟨fs, rfl, hrest⟩ := hlist.exists_written fun _ hitem _ _ hc =>
    hread _ _ _ hc (hheld.of_mem hitem)
  rw [List.length_map] at hcount
  refine ⟨.array extent fun i => fs.get (i.cast hcount), ?_, ?_⟩
  · rw [Form.item, ofFn_get_cast_eq_map hcount Form.item]
  · rw [Form.octets, ofFn_get_cast_eq_map hcount Form.octets, hrest, hclosing]
    simp only [List.append_assoc]

/-- The keys and values of a map are written in forms, and so is the map. -/
lemma exists_map {read : Cursor → Reading Item} (hread : FormsRead read) {bound : ℕ}
    {length : Option Argument} {c c' : Cursor} {entries : List (Item × Item)}
    (h : readSequence bound (readEntry read) (length.map (·.value)) c = .ok (entries, c'))
    (hheld : (Item.map entries).Representable) :
    ∃ f : Form, f.item = .map entries ∧
      (Opening.map length).octets ++ c.rest = f.octets ++ c'.rest := by
  obtain ⟨extent, c₁, rfl, hcount, hlist, hclosing⟩ := ReadsList.of_readSequence h
  have hentry : ∀ entry ∈ entries, ∀ c c', readEntry read c = .ok (entry, c') →
      ∃ f : Form × Form, (f.1.item, f.2.item) = entry ∧
        c.rest = f.1.octets ++ f.2.octets ++ c'.rest := by
    intro entry hmem c c' hc
    obtain ⟨next, hkey, hvalue⟩ := readEntry_eq_ok hc
    obtain ⟨hkeyHeld, hvalueHeld⟩ := hheld.of_mem_entries hmem
    obtain ⟨f, hfitem, hf⟩ := hread _ _ _ hkey hkeyHeld
    obtain ⟨g, hgitem, hg⟩ := hread _ _ _ hvalue hvalueHeld
    exact ⟨(f, g), Prod.ext hfitem hgitem, by rw [hf, hg, List.append_assoc]⟩
  obtain ⟨fs, rfl, hrest⟩ := hlist.exists_written hentry
  rw [List.length_map] at hcount
  refine ⟨.map extent (fun i => (fs.get (i.cast hcount)).1) fun i => (fs.get (i.cast hcount)).2,
    ?_, ?_⟩
  · rw [Form.item, ofFn_get_cast_eq_map hcount fun f : Form × Form => (f.1.item, f.2.item)]
  · rw [Form.octets, ofFn_get_cast_eq_map hcount fun f : Form × Form => f.1.octets ++ f.2.octets,
      hrest, hclosing]
    simp only [List.append_assoc]

/-- The simple values that a dictionary can hold are the truth values. -/
lemma exists_of_simpleItem? {n : ℕ} {item : Item} (h : simpleItem? n = some item)
    (hheld : item.Representable) : ∃ b : Bool, item = .bool b ∧ n = if b then 21 else 20 := by
  unfold simpleItem? at h
  split at h
  · cases h
    exact ⟨false, rfl, rfl⟩
  · cases h
    exact ⟨true, rfl, rfl⟩
  all_goals
    cases h
    try cases hheld

/-- What is read as an item that a dictionary can hold is written in some form, if this is so of
the items inside it. -/
lemma formsRead_readItem (bound : ℕ) {nested : Option (Cursor → Reading Item)}
    (hnested : ∀ read ∈ nested, FormsRead read) : FormsRead (readItem bound nested) := by
  intro c item c' h hheld
  obtain ⟨o, next, hrest, hbehind⟩ := ReadsBehind.of_readItem h
  rw [hrest]
  cases hbehind with
  | integer negative a => exact ⟨.integer negative a, by cases negative <;> rfl, rfl⟩
  | string hcontent => exact exists_string hcontent
  | array hread hitems => exact exists_array (hnested _ hread) hitems hheld
  | map hread hentries => exact exists_map (hnested _ hread) hentries hheld
  | tag htagged =>
    obtain ⟨n, rfl, rfl, hmagnitude⟩ := exists_tagged htagged hheld
    refine ⟨.big n, rfl, ?_⟩
    rw [hmagnitude, Form.octets, BigNumber.octets, List.append_assoc]
  | @simple a _ _ hhead hsimple =>
    obtain ⟨b, rfl, hb⟩ := exists_of_simpleItem? hsimple hheld
    exact ⟨.bool a b (hb ▸ hhead), rfl, rfl⟩
  | @float a bits _ hhead => exact ⟨.float a bits hhead, rfl, rfl⟩

/-- Whatever is read as an item that a dictionary can hold is written in some form. -/
theorem Form.exists_of_read (bound levels : ℕ) : FormsRead (Item.read bound levels) := by
  induction levels with
  | zero => exact formsRead_readItem bound fun read hread => by cases hread
  | succ levels ih =>
    refine formsRead_readItem bound fun read hread => ?_
    cases hread
    exact ih

end Introduction.Cbor
