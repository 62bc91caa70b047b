import Introduction.Dictionary.Codec
import Introduction.Proofs.Cbor.Floats
import Introduction.Proofs.OrderedMap

/-!
# Reading dictionaries that were written

A dictionary is read back from its encoded form.  Reading falls into two parts, and so does the
proof.  The octets of a value are read as one data item, `Value.toItem`, whatever follows them, by a
reader with as many levels as arrays and maps are nested in the value (`read_encode`); and the value
that this item stands for is the value it was written from (`toValue_toItem`).  Both are inductions
along the encoder, with one statement each for values, for lists and for the entries of a map.

A head holds arguments below `2 ^ 64`, so the lengths in a value are assumed to be below that bound
(`Value.Writable`).
-/

namespace Introduction

open Cbor

namespace Value

mutual

/-- The data item that the encoded form of a value is. -/
def toItem : Value → Item
  | .bool b => .bool b
  | .int n => .integer n.toInt
  | .float bits => .float bits
  | .string s => .text s
  | .raw content => .bytes content
  | .list items => .array (toItems items)
  | .dictionary entries => .map (toEntries entries)

/-- The data items that the encoded forms of values are. -/
def toItems : List Value → List Item
  | [] => []
  | item :: items => item.toItem :: toItems items

/-- The keys and values that the encoded forms of entries are. -/
def toEntries {floor : Option String} : Ascending String Value floor → List (Item × Item)
  | .nil => []
  | .cons key _ value rest => (.text key, value.toItem) :: toEntries rest

end

mutual

/-- How deep lists and dictionaries are nested in a value. -/
def depth : Value → ℕ
  | .list items => depthOfItems items + 1
  | .dictionary entries => depthOfEntries entries + 1
  | _ => 0

/-- How deep lists and dictionaries are nested in some of the values. -/
def depthOfItems : List Value → ℕ
  | [] => 0
  | item :: items => max item.depth (depthOfItems items)

/-- How deep lists and dictionaries are nested in the value of some entry. -/
def depthOfEntries {floor : Option String} : Ascending String Value floor → ℕ
  | .nil => 0
  | .cons _ _ value rest => max value.depth (depthOfEntries rest)

end

/-- The length of a text in octets fits a head. -/
def WritableText (s : String) : Prop := (Bytes.ofText s).length < 2 ^ 64

mutual

/-- All lengths in a value fit a head. -/
def Writable : Value → Prop
  | .string s => WritableText s
  | .raw content => content.length < 2 ^ 64
  | .list items => items.length < 2 ^ 64 ∧ WritableItems items
  | .dictionary entries => entries.size < 2 ^ 64 ∧ WritableEntries entries
  | _ => True

/-- All lengths in a list of values fit a head. -/
def WritableItems : List Value → Prop
  | [] => True
  | item :: items => item.Writable ∧ WritableItems items

/-- All lengths in the keys and values of entries fit a head. -/
def WritableEntries {floor : Option String} : Ascending String Value floor → Prop
  | .nil => True
  | .cons key _ value rest => WritableText key ∧ value.Writable ∧ WritableEntries rest

end

/-! ### From octets to items -/

variable {bound : ℕ}

/-- An integer is read from its encoded form. -/
lemma readItem_encodeInt (nested : Option (Cursor → Reading Item)) (n : Int64) (offset : ℕ)
    (rest : Bytes) :
    readItem bound nested ⟨offset, encodeInt n ++ rest⟩ =
      .ok (.integer n.toInt, ⟨offset + (encodeInt n).length, rest⟩) := by
  have hlt := n.toInt_lt
  have hle := n.le_toInt
  unfold encodeInt
  split_ifs with hn
  · have hread := Head.read_encode 0 n.toInt.toNat (by omega) (by omega) rfl offset
      rest
    unfold readItem
    rw [hread, Head.length_encode]
    simp only [Int.toNat_of_nonneg hn]
  · have hread := Head.read_encode 1 (-1 - n.toInt).toNat (by omega) (by omega) rfl
      offset rest
    have hint : -1 - ((-1 - n.toInt).toNat : Int) = n.toInt := by omega
    unfold readItem
    rw [hread, Head.length_encode]
    simp only [hint]

/-- The encoded form of a floating-point number is a head with that number, bit by bit. -/
lemma read_encodeFloat (bits : UInt64) (offset : ℕ) (rest : Bytes) :
    Head.read ⟨offset, encodeFloat bits ++ rest⟩ =
      .ok (.float bits, ⟨offset + (encodeFloat bits).length, rest⟩) := by
  have hlt : bits.toNat < 2 ^ 64 := bits.toNat_lt
  unfold encodeFloat
  cases hhalf : FloatFormat.half.narrow? bits.toNat with
  | some narrow =>
    have hread := Head.read_seventh 25 2 narrow offset rest (by simp)
      (FloatFormat.narrow?_lt (f := .half) (by decide) hlt hhalf)
    have hwiden := FloatFormat.widen_of_narrow? (f := .half) hhalf
    rw [List.cons_append, show (0xf9 : UInt8) = UInt8.ofNat (7 * 32 + 25) from rfl, hread]
    simp [Head.ofSeventh, hwiden, Nat.add_assoc]
  | none =>
    cases hsingle : FloatFormat.single.narrow? bits.toNat with
    | some narrow =>
      have hread := Head.read_seventh 26 4 narrow offset rest (by simp)
        (FloatFormat.narrow?_lt (f := .single) (by decide) hlt hsingle)
      have hwiden := FloatFormat.widen_of_narrow? (f := .single) hsingle
      rw [List.cons_append, show (0xfa : UInt8) = UInt8.ofNat (7 * 32 + 26) from rfl, hread]
      simp [Head.ofSeventh, hwiden, Nat.add_assoc]
    | none =>
      have hread := Head.read_seventh 27 8 _ offset rest (by simp) hlt
      rw [List.cons_append, show (0xfb : UInt8) = UInt8.ofNat (7 * 32 + 27) from rfl, hread]
      simp [Head.ofSeventh, Nat.add_assoc]

/-- The octets of a string are read after its head. -/
lemma readString_append (bound : ℕ) {kind : StringKind} {content : Bytes}
    (hkind : kind.admits content) (offset : ℕ) (rest : Bytes) :
    readString bound kind (some content.length) ⟨offset, content ++ rest⟩ =
      .ok (content, ⟨offset + content.length, rest⟩) := by
  simp only [readString, Cursor.take_append, hkind, if_true]

/-- A text is read from its encoded form. -/
lemma readItem_encodeText (nested : Option (Cursor → Reading Item)) {s : String}
    (hs : WritableText s) (offset : ℕ) (rest : Bytes) :
    readItem bound nested ⟨offset, encodeText s ++ rest⟩ =
      .ok (.text s, ⟨offset + (encodeText s).length, rest⟩) := by
  have hread := Head.read_encode 3 _ (by omega) hs rfl offset (Bytes.ofText s ++ rest)
  have hstring := readString_append bound
    (show StringKind.text.admits (Bytes.ofText s) by simp [StringKind.admits])
    (offset + Head.size (Bytes.ofText s).length) rest
  unfold readItem encodeText
  rw [List.append_assoc, hread]
  simp only [hstring, Reading.map, Bytes.toText?_ofText, Option.getD_some, List.length_append,
    Head.length_encode, Nat.add_assoc]

/-- A byte string is read from its encoded form. -/
lemma readItem_encodeRaw (nested : Option (Cursor → Reading Item)) {content : Bytes}
    (hcontent : content.length < 2 ^ 64) (offset : ℕ) (rest : Bytes) :
    readItem bound nested ⟨offset, (Value.raw content).encode ++ rest⟩ =
      .ok (.bytes content, ⟨offset + (Value.raw content).encode.length, rest⟩) := by
  have hread := Head.read_encode 2 _ (by omega) hcontent rfl offset (content ++ rest)
  have hstring := readString_append bound (show StringKind.bytes.admits content from rfl)
    (offset + Head.size content.length) rest
  unfold readItem encode
  rw [List.append_assoc, hread]
  simp only [hstring, Reading.map, List.length_append, Head.length_encode, Nat.add_assoc]

/-- A truth value is read from its encoded form. -/
lemma readItem_encodeBool (nested : Option (Cursor → Reading Item)) (b : Bool) (offset : ℕ)
    (rest : Bytes) :
    readItem bound nested ⟨offset, (Value.bool b).encode ++ rest⟩ =
      .ok (.bool b, ⟨offset + (Value.bool b).encode.length, rest⟩) := by
  cases b <;> rfl

/-- A text is read from its encoded form, also where no level is left. -/
lemma read_encodeText (bound : ℕ) {s : String} (hs : WritableText s) (levels offset : ℕ)
    (rest : Bytes) :
    Item.read bound levels ⟨offset, encodeText s ++ rest⟩ =
      .ok (.text s, ⟨offset + (encodeText s).length, rest⟩) := by
  cases levels <;> exact readItem_encodeText _ hs offset rest

/-- An entry is read as its key and what the value is read as. -/
lemma readEntry_encodeText (bound : ℕ) {key : String} (hkey : WritableText key)
    (levels offset : ℕ) (octets : Bytes) :
    readEntry (Item.read bound levels) ⟨offset, encodeText key ++ octets⟩ =
      Reading.map (Prod.mk (.text key))
        (Item.read bound levels ⟨offset + (encodeText key).length, octets⟩) := by
  have hread := read_encodeText bound hkey levels offset octets
  simp only [readEntry, hread]
  cases Item.read bound levels ⟨offset + (encodeText key).length, octets⟩ <;> rfl

/-- A sequence of items of known number is read one after the other. -/
lemma readTimes_succ {α : Type} {read : Cursor → Reading α} {x : α} {c c' : Cursor}
    (h : read c = .ok (x, c')) (done : List α) (n : ℕ) :
    readTimes read done (n + 1) c = readTimes read (x :: done) n c' := by
  rw [readTimes, h]

mutual

/-- A value is read from its encoded form, whatever follows it. -/
theorem read_encode (levels offset : ℕ) (rest : Bytes) :
    (v : Value) → v.Writable → v.depth ≤ levels →
      Item.read bound levels ⟨offset, v.encode ++ rest⟩ =
        .ok (v.toItem, ⟨offset + v.encode.length, rest⟩)
  | .bool b, _, _ => by
    cases levels <;> exact readItem_encodeBool _ b offset rest
  | .int n, _, _ => by
    cases levels <;> exact readItem_encodeInt _ n offset rest
  | .float bits, _, _ => by
    cases levels <;>
    · rw [Item.read, readItem, encode, read_encodeFloat]
      rfl
  | .string _, hv, _ => read_encodeText bound hv levels offset rest
  | .raw _, hv, _ => by
    cases levels <;> exact readItem_encodeRaw _ hv offset rest
  | .list items, hv, hdepth => by
    obtain _ | levels := levels
    · exact absurd hdepth (Nat.not_succ_le_zero _)
    · have hread := Head.read_encode 4 _ (by omega) hv.1 rfl offset
        (encodeItems items ++ rest)
      have hitems := readTimes_encodeItems levels
        (offset + Head.size items.length) rest items hv.2 (Nat.le_of_succ_le_succ hdepth) []
      rw [Item.read, readItem, encode, List.append_assoc, hread]
      simp only [readSequence, hitems, Reading.map, toItem, List.length_append, Head.length_encode,
        List.reverse_nil, List.nil_append, Nat.add_assoc]
  | .dictionary entries, hv, hdepth => by
    obtain _ | levels := levels
    · exact absurd hdepth (Nat.not_succ_le_zero _)
    · have hread := Head.read_encode 5 _ (by omega) hv.1 rfl offset
        (encodeEntries entries ++ rest)
      have hentries := readTimes_encodeEntries levels
        (offset + Head.size entries.size) rest entries hv.2 (Nat.le_of_succ_le_succ hdepth) []
      rw [Item.read, readItem, encode, List.append_assoc, hread]
      simp only [readSequence, hentries, Reading.map, toItem, List.length_append,
        Head.length_encode, List.reverse_nil, List.nil_append, Nat.add_assoc]

/-- As many values as a list has are read from their encoded forms. -/
theorem readTimes_encodeItems (levels offset : ℕ) (rest : Bytes) :
    (items : List Value) → WritableItems items → depthOfItems items ≤ levels →
      (done : List Item) →
        readTimes (Item.read bound levels) done items.length ⟨offset, encodeItems items ++ rest⟩ =
          .ok (done.reverse ++ toItems items, ⟨offset + (encodeItems items).length, rest⟩)
  | [], _, _, done => by simp [readTimes, toItems, encodeItems]
  | item :: items, hv, hdepth, done => by
    obtain ⟨hitem, hitems⟩ := hv
    obtain ⟨hdepth, hdepths⟩ := max_le_iff.mp hdepth
    have hread := read_encode levels offset (encodeItems items ++ rest) item hitem hdepth
    rw [List.length_cons, encodeItems, List.append_assoc, readTimes_succ hread,
      readTimes_encodeItems _ _ rest items hitems hdepths]
    simp [toItems, Nat.add_assoc]

/-- As many entries as a map has are read from their encoded forms. -/
theorem readTimes_encodeEntries (levels offset : ℕ) (rest : Bytes) {floor : Option String} :
    (entries : Ascending String Value floor) → WritableEntries entries →
      depthOfEntries entries ≤ levels → (done : List (Item × Item)) →
        readTimes (readEntry (Item.read bound levels)) done entries.size
            ⟨offset, encodeEntries entries ++ rest⟩ =
          .ok (done.reverse ++ toEntries entries, ⟨offset + (encodeEntries entries).length, rest⟩)
  | .nil, _, _, done => by
    simp [Ascending.size, Ascending.toList, readTimes, toEntries, encodeEntries]
  | .cons key _ value entries, hv, hdepth, done => by
    obtain ⟨hkey, hvalue, hentries⟩ := hv
    obtain ⟨hdepth, hdepths⟩ := max_le_iff.mp hdepth
    have hreadValue := read_encode levels
      (offset + (encodeText key).length) (encodeEntries entries ++ rest) value hvalue hdepth
    have hread : readEntry (Item.read bound levels)
        ⟨offset, encodeText key ++ (value.encode ++ (encodeEntries entries ++ rest))⟩ =
          .ok ((.text key, value.toItem),
            ⟨offset + (encodeText key).length + value.encode.length,
              encodeEntries entries ++ rest⟩) := by
      rw [readEntry_encodeText bound hkey, hreadValue]
      rfl
    have hsize : (Ascending.cons key ‹_› value entries).size = entries.size + 1 := rfl
    rw [hsize, encodeEntries, List.append_assoc, List.append_assoc, readTimes_succ hread,
      readTimes_encodeEntries _ _ rest entries hentries hdepths]
    simp [toEntries, Nat.add_assoc]

end
/-! ### From items to values -/

mutual

/-- An item stands for the value it was written from. -/
theorem toValue_toItem : (v : Value) → v.toItem.toValue = .ok v
  | .bool b => rfl
  | .int n => by
    have hlt := n.toInt_lt
    have hle := n.le_toInt
    rw [toItem, Item.toValue, if_pos (by omega), Int64.ofInt_toInt]
  | .float bits => rfl
  | .string s => rfl
  | .raw content => rfl
  | .list items => by
    rw [toItem, Item.toValue, toValues_toItems items]
  | .dictionary entries => by
    obtain ⟨d, hd, hget⟩ := toDictionary_toEntries entries Dictionary.empty (fun _ _ => rfl)
    have heq : d = entries := Ascending.ext fun key => by
      rw [hget, OrderedMap.get?_empty, Option.or_none]
    rw [toItem, Item.toValue, hd, heq]

/-- Items stand for the values they were written from. -/
theorem toValues_toItems : (items : List Value) → Item.toValues (toItems items) = .ok items
  | [] => rfl
  | item :: items => by
    rw [toItems, Item.toValues, toValue_toItem item, toValues_toItems items]

/-- The entries of a map are added to a dictionary that has none of their keys. -/
theorem toDictionary_toEntries {floor : Option String} :
    (entries : Ascending String Value floor) → (d : Dictionary) →
      (∀ key, (entries.get? key).isSome → d.get? key = none) →
        ∃ d', Item.toDictionary d (toEntries entries) = .ok d' ∧
          ∀ key, d'.get? key = (entries.get? key).or (d.get? key)
  | .nil, d, _ => ⟨d, rfl, fun _ => rfl⟩
  | .cons key hkey value rest, d, hd => by
    have hfresh : d.get? key = none := hd key (by simp)
    have hrest : ∀ key', (rest.get? key').isSome → (d.insert key value).get? key' = none := by
      intro key' hmem
      have hne : key' ≠ key := by
        rintro rfl
        rw [rest.get?_rest_self] at hmem
        cases hmem
      rw [OrderedMap.get?_insert, if_neg hne]
      exact hd key' (by rwa [Ascending.get?_cons, if_neg hne])
    obtain ⟨d', hd', hget⟩ := toDictionary_toEntries rest (d.insert key value) hrest
    refine ⟨d', ?_, fun key' => ?_⟩
    · rw [toEntries, Item.toDictionary, toValue_toItem value]
      simp only [Ascending.contains, hfresh, Option.isSome_none]
      exact hd'
    · rw [hget, OrderedMap.get?_insert, Ascending.get?_cons]
      by_cases h : key' = key
      · subst h
        rw [if_pos rfl, if_pos rfl, rest.get?_rest_self]
        rfl
      · rw [if_neg h, if_neg h]

end

/-! ### Bounds from look-ups -/

/-- The lengths in entries fit a head if those in every key and value do. -/
lemma writableEntries_of_get? {floor : Option String} {entries : Ascending String Value floor}
    (h : ∀ key value, entries.get? key = some value → WritableText key ∧ value.Writable) :
    WritableEntries entries := by
  induction entries with
  | nil => exact trivial
  | cons key hkey value rest ih =>
    obtain ⟨htext, hvalue⟩ := h key value (by simp)
    exact ⟨htext, hvalue, ih fun key' value' hget => h key' value' (rest.get?_cons_of_rest hget)⟩

/-- Entries are nested no deeper than the values found in them. -/
lemma depthOfEntries_le_of_get? {floor : Option String} {entries : Ascending String Value floor}
    {n : ℕ} (h : ∀ key value, entries.get? key = some value → value.depth ≤ n) :
    depthOfEntries entries ≤ n := by
  induction entries with
  | nil => exact Nat.zero_le n
  | cons key hkey value rest ih =>
    exact max_le (h key value (by simp))
      (ih fun key' value' hget => h key' value' (rest.get?_cons_of_rest hget))

end Value

/-! ### Dictionaries -/

namespace Dictionary

/-- A dictionary is read back from its encoded form. -/
theorem ofBytes_encode {d : Dictionary} (hwritable : Value.Writable (.dictionary d))
    (hdepth : Value.depth (.dictionary d) ≤ maxNesting) : ofBytes d.encode = .ok d := by
  have hread : Item.read (Value.dictionary d).encode.length maxNesting _ = _ :=
    Value.read_encode maxNesting 0 [] _ hwritable hdepth
  have hvalue := Value.toValue_toItem (.dictionary d)
  rw [List.append_nil, Value.toItem] at hread
  rw [Value.toItem, Item.toValue] at hvalue
  unfold ofBytes ofItem
  rw [encode, hread]
  split at hvalue
  · cases hvalue
  · rename_i d' hd'
    cases hvalue
    simpa using hd'

/-- A dictionary is decoded from its encoded form, under every limit that it does not exceed. -/
theorem decode_encode {d : Dictionary} (hwritable : Value.Writable (.dictionary d))
    (hdepth : Value.depth (.dictionary d) ≤ maxNesting) {limit : ℕ}
    (hlimit : d.encode.length ≤ limit) : decode d.encode limit = .ok d := by
  rw [decode, if_neg (by omega), ofBytes_encode hwritable hdepth]

/-- An entry holds neither a list nor a dictionary, and its lengths fit a head. -/
def FlatEntry (key : String) (value : Value) : Prop :=
  Value.WritableText key ∧ value.Writable ∧ value.depth = 0

/-- No entry of a dictionary holds a list or a dictionary, and all lengths fit a head. -/
def Flat (d : Dictionary) : Prop := ∀ key value, d.get? key = some value → FlatEntry key value

/-- A flat dictionary stays flat when a flat entry is written. -/
lemma Flat.insert {d : Dictionary} (h : d.Flat) {key : String} {value : Value}
    (hentry : FlatEntry key value) : (d.insert key value).Flat :=
  OrderedMap.forall_get?_insert h hentry

/-- A flat dictionary stays flat when a flat entry is written, or none. -/
lemma Flat.insertSome {d : Dictionary} (h : d.Flat) {key : String} {value : Option Value}
    (hentry : ∀ v ∈ value, FlatEntry key v) : (d.insertSome key value).Flat := by
  cases value with
  | none => exact h
  | some value => exact h.insert (hentry value rfl)

/-- Writing an entry, or none, adds at most one. -/
lemma size_insertSome_le (d : Dictionary) (key : String) (value : Option Value) :
    (d.insertSome key value).size ≤ d.size + 1 := by
  cases value with
  | none => exact Nat.le_succ _
  | some value => exact OrderedMap.size_insert_le d key value

/-- A flat dictionary is decoded from its encoded form. -/
theorem Flat.decode_encode {d : Dictionary} (h : d.Flat) (hsize : d.size < 2 ^ 64) :
    decode d.encode d.encode.length = .ok d := by
  have hentries : Value.WritableEntries d :=
    Value.writableEntries_of_get? fun key value hget =>
      ⟨(h key value hget).1, (h key value hget).2.1⟩
  have hdepth : Value.depthOfEntries d ≤ 0 :=
    Value.depthOfEntries_le_of_get? fun key value hget => (h key value hget).2.2.le
  exact Dictionary.decode_encode ⟨hsize, hentries⟩
    (Nat.succ_le_succ (hdepth.trans (Nat.zero_le 255))) (Nat.le_refl _)

end Dictionary

end Introduction
