import Introduction.Proofs.Dictionary.RoundTrip

/-!
# How deep a dictionary may be nested

A dictionary is encoded at any depth, but a reader follows arrays and maps only down to
`Dictionary.maxNesting` levels.  A dictionary is decoded from its encoded form exactly if its lists
and dictionaries, counting itself, are not nested deeper; of a deeper one nothing is decoded, and
the fault is the depth (`decode_encode_eq`).

A value that is nested deeper than the levels of a reader stops the reader with that fault, whatever
follows it (`read_encode_of_deep`): what stands before the first list or dictionary that is too deep
is read as usual, so no other fault comes first.  The induction is the one along the encoder by
which values within the levels are read back.

That the lengths in a value fit a head need not be assumed where its encoded form is shorter than
`2 ^ 64` octets, since no value has an empty encoded form (`writable_of_length`).
-/

namespace Introduction

open Cbor

/-- A head takes at least one octet. -/
lemma Cbor.Head.size_pos (n : ℕ) : 0 < Head.size n := by
  unfold Head.size
  split_ifs <;> decide

namespace Value

/-! ### Lengths of encoded forms -/

/-- No value has an empty encoded form. -/
lemma length_encode_pos (v : Value) : 0 < v.encode.length := by
  cases v with
  | bool b => cases b <;> exact Nat.one_pos
  | int n =>
    unfold encode encodeInt
    split_ifs <;> exact (Head.length_encode _ _).symm ▸ Head.size_pos _
  | float bits =>
    unfold encode encodeFloat
    split
    · exact Nat.succ_pos _
    · split <;> exact Nat.succ_pos _
  | string s =>
    rw [encode, encodeText, List.length_append, Head.length_encode]
    exact Nat.add_pos_left (Head.size_pos _) _
  | raw content =>
    rw [encode, List.length_append, Head.length_encode]
    exact Nat.add_pos_left (Head.size_pos _) _
  | list items =>
    rw [encode, List.length_append, Head.length_encode]
    exact Nat.add_pos_left (Head.size_pos _) _
  | dictionary entries =>
    rw [encode, List.length_append, Head.length_encode]
    exact Nat.add_pos_left (Head.size_pos _) _

/-- A list has at most as many items as its encoded form has octets. -/
lemma length_le_encodeItems (items : List Value) : items.length ≤ (encodeItems items).length := by
  induction items with
  | nil => exact Nat.le_refl 0
  | cons item items ih =>
    have hitem := item.length_encode_pos
    rw [encodeItems, List.length_append, List.length_cons]
    omega

/-- A map has at most as many entries as its encoded form has octets. -/
lemma size_le_encodeEntries {floor : Option String} (entries : Ascending String Value floor) :
    entries.size ≤ (encodeEntries entries).length := by
  induction entries with
  | nil => exact Nat.le_refl 0
  | cons key hkey value rest ih =>
    have hvalue := value.length_encode_pos
    have hsize : (Ascending.cons key hkey value rest).size = rest.size + 1 := rfl
    rw [encodeEntries, List.length_append, List.length_append, hsize]
    omega

/-- The length of a text fits a head if its encoded form is short enough. -/
lemma writableText_of_length {s : String} (h : (encodeText s).length < 2 ^ 64) :
    WritableText s := by
  rw [encodeText, List.length_append] at h
  unfold WritableText
  omega

mutual

/-- All lengths in a value fit a head if its encoded form is short enough. -/
theorem writable_of_length : (v : Value) → v.encode.length < 2 ^ 64 → v.Writable
  | .bool _, _ => trivial
  | .int _, _ => trivial
  | .float _, _ => trivial
  | .string _, h => writableText_of_length h
  | .raw content, h => by
    rw [encode, List.length_append] at h
    rw [Writable]
    omega
  | .list items, h => by
    rw [encode, List.length_append] at h
    have hitems := length_le_encodeItems items
    exact ⟨by omega, writableItems_of_length items (by omega)⟩
  | .dictionary entries, h => by
    rw [encode, List.length_append] at h
    have hentries := size_le_encodeEntries entries
    exact ⟨by omega, writableEntries_of_length entries (by omega)⟩

/-- All lengths in a list fit a head if its encoded form is short enough. -/
theorem writableItems_of_length : (items : List Value) →
    (encodeItems items).length < 2 ^ 64 → WritableItems items
  | [], _ => trivial
  | item :: items, h => by
    rw [encodeItems, List.length_append] at h
    exact ⟨writable_of_length item (by omega), writableItems_of_length items (by omega)⟩

/-- All lengths in entries fit a head if their encoded form is short enough. -/
theorem writableEntries_of_length {floor : Option String} :
    (entries : Ascending String Value floor) →
      (encodeEntries entries).length < 2 ^ 64 → WritableEntries entries
  | .nil, _ => trivial
  | .cons _ _ value rest, h => by
    rw [encodeEntries, List.length_append, List.length_append] at h
    exact ⟨writableText_of_length (by omega), writable_of_length value (by omega),
      writableEntries_of_length rest (by omega)⟩

end

/-! ### Values that are nested too deep -/

variable {bound : ℕ}

/-- A sequence stops the reader where its next element does. -/
lemma readTimes_of_deep {α : Type} {read : Cursor → Reading α} {c : Cursor}
    (h : read c = .error .tooDeep) (done : List α) (n : ℕ) :
    readTimes read done (n + 1) c = .error .tooDeep := by
  rw [readTimes, h]

mutual

/-- A value that is nested deeper than the levels of a reader stops it, whatever follows. -/
theorem read_encode_of_deep (levels offset : ℕ) (rest : Bytes) :
    (v : Value) → v.Writable → levels < v.depth →
      Item.read bound levels ⟨offset, v.encode ++ rest⟩ = .error .tooDeep
  | .bool _, _, hdepth => absurd hdepth (Nat.not_lt_zero _)
  | .int _, _, hdepth => absurd hdepth (Nat.not_lt_zero _)
  | .float _, _, hdepth => absurd hdepth (Nat.not_lt_zero _)
  | .string _, _, hdepth => absurd hdepth (Nat.not_lt_zero _)
  | .raw _, _, hdepth => absurd hdepth (Nat.not_lt_zero _)
  | .list items, hv, hdepth => by
    have hread := Head.read_encode 4 _ (by omega) hv.1 rfl offset (encodeItems items ++ rest)
    obtain _ | levels := levels
    · rw [Item.read, readItem, encode, List.append_assoc, hread]
    · have hitems := readTimes_encodeItems_of_deep levels (offset + Head.size items.length) rest
        items hv.2 (Nat.lt_of_succ_lt_succ hdepth) []
      rw [Item.read, readItem, encode, List.append_assoc, hread]
      simp only [readSequence, hitems, Reading.map]
  | .dictionary entries, hv, hdepth => by
    have hread := Head.read_encode 5 _ (by omega) hv.1 rfl offset (encodeEntries entries ++ rest)
    obtain _ | levels := levels
    · rw [Item.read, readItem, encode, List.append_assoc, hread]
    · have hentries := readTimes_encodeEntries_of_deep levels (offset + Head.size entries.size) rest
        entries hv.2 (Nat.lt_of_succ_lt_succ hdepth) []
      rw [Item.read, readItem, encode, List.append_assoc, hread]
      simp only [readSequence, hentries, Reading.map]

/-- Values of which some are nested too deep stop the reader at the first of these. -/
theorem readTimes_encodeItems_of_deep (levels offset : ℕ) (rest : Bytes) :
    (items : List Value) → WritableItems items → levels < depthOfItems items →
      (done : List Item) →
        readTimes (Item.read bound levels) done items.length ⟨offset, encodeItems items ++ rest⟩ =
          .error .tooDeep
  | [], _, hdepth, _ => absurd hdepth (Nat.not_lt_zero _)
  | item :: items, hv, hdepth, done => by
    obtain ⟨hitem, hitems⟩ := hv
    rw [List.length_cons, encodeItems, List.append_assoc]
    by_cases hlevels : item.depth ≤ levels
    · have hrest : levels < depthOfItems items :=
        (lt_max_iff.mp hdepth).resolve_left (Nat.not_lt.mpr hlevels)
      rw [readTimes_succ (read_encode levels offset _ item hitem hlevels)]
      exact readTimes_encodeItems_of_deep levels _ rest items hitems hrest _
    · exact readTimes_of_deep
        (read_encode_of_deep levels offset _ item hitem (Nat.lt_of_not_le hlevels)) _ _

/-- Entries of which some are nested too deep stop the reader at the first of these. -/
theorem readTimes_encodeEntries_of_deep (levels offset : ℕ) (rest : Bytes) {floor : Option String} :
    (entries : Ascending String Value floor) → WritableEntries entries →
      levels < depthOfEntries entries → (done : List (Item × Item)) →
        readTimes (readEntry (Item.read bound levels)) done entries.size
            ⟨offset, encodeEntries entries ++ rest⟩ = .error .tooDeep
  | .nil, _, hdepth, _ => absurd hdepth (Nat.not_lt_zero _)
  | .cons key hfloor value entries, hv, hdepth, done => by
    obtain ⟨hkey, hvalue, hentries⟩ := hv
    have hsize : (Ascending.cons key hfloor value entries).size = entries.size + 1 := rfl
    rw [hsize, encodeEntries, List.append_assoc, List.append_assoc]
    by_cases hlevels : value.depth ≤ levels
    · have hrest : levels < depthOfEntries entries :=
        (lt_max_iff.mp hdepth).resolve_left (Nat.not_lt.mpr hlevels)
      have hread := readEntry_encodeText bound hkey levels offset
        (value.encode ++ (encodeEntries entries ++ rest))
      rw [read_encode levels _ _ value hvalue hlevels] at hread
      rw [readTimes_succ hread]
      exact readTimes_encodeEntries_of_deep levels _ rest entries hentries hrest _
    · have hread := readEntry_encodeText bound hkey levels offset
        (value.encode ++ (encodeEntries entries ++ rest))
      rw [read_encode_of_deep levels _ _ value hvalue (Nat.lt_of_not_le hlevels)] at hread
      exact readTimes_of_deep hread _ _

end

end Value

namespace Dictionary

/-- Nothing is read from the encoded form of a dictionary that is nested too deep. -/
lemma ofBytes_encode_of_deep {d : Dictionary} (hwritable : Value.Writable (.dictionary d))
    (hdepth : maxNesting < Value.depth (.dictionary d)) :
    ofBytes d.encode = .error (.unreadable .tooDeep) := by
  have hread : Item.read (Value.dictionary d).encode.length maxNesting _ = _ :=
    Value.read_encode_of_deep maxNesting 0 [] _ hwritable hdepth
  rw [List.append_nil] at hread
  unfold ofBytes
  rw [encode, hread]

/-- From its encoded form a dictionary is decoded, under every limit that the form does not exceed,
if its lists and dictionaries, counting itself, are nested at most as deep as a reader goes;
otherwise decoding fails over the depth.  A limit is a number of 64 bits. -/
theorem decode_encode_eq (d : Dictionary) {limit : ℕ} (hlimit : d.encode.length ≤ limit)
    (hword : limit < 2 ^ 64) :
    decode d.encode limit =
      if Value.depth (.dictionary d) ≤ maxNesting then .ok d
      else .error (.undecodable (.unreadable .tooDeep)) := by
  have hwritable : Value.Writable (.dictionary d) :=
    Value.writable_of_length _ (hlimit.trans_lt hword)
  split_ifs with hdepth
  · exact decode_encode hwritable hdepth hlimit
  · rw [decode, if_neg (Nat.not_lt.mpr hlimit),
      ofBytes_encode_of_deep hwritable (Nat.lt_of_not_le hdepth)]

/-- An empty list inside `n` lists. -/
def nestedList : ℕ → Value
  | 0 => .list []
  | n + 1 => .list [nestedList n]

/-- A dictionary with one entry, of an empty list inside `n` lists. -/
def nested (n : ℕ) : Dictionary := Dictionary.empty.insert "" (nestedList n)

/-- With 256 levels a dictionary is decoded, and with 257 it is not. -/
theorem decode_encode_nested :
    ((nested 254).encode.length ≤ 65536 ∧ (nested 255).encode.length ≤ 65536 ∧
      65536 < 2 ^ 64) ∧
      decode (nested 254).encode 65536 = .ok (nested 254) ∧
        decode (nested 255).encode 65536 = .error (.undecodable (.unreadable .tooDeep)) := by
  have hword : 65536 < 2 ^ 64 := by decide
  have hlength : (nested 254).encode.length ≤ 65536 := by decide +kernel
  have hlength' : (nested 255).encode.length ≤ 65536 := by decide +kernel
  have hdepth : Value.depth (.dictionary (nested 254)) = 256 := by decide +kernel
  have hdepth' : Value.depth (.dictionary (nested 255)) = 257 := by decide +kernel
  refine ⟨⟨hlength, hlength', hword⟩, ?_, ?_⟩
  · rw [decode_encode_eq _ hlength hword, if_pos hdepth.le]
  · rw [decode_encode_eq _ hlength' hword, if_neg (by rw [hdepth']; decide)]

end Dictionary

end Introduction
