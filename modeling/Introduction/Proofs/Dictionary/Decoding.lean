import Introduction.Proofs.Cbor.Consumption
import Introduction.Proofs.Cbor.Order
import Introduction.Proofs.Dictionary.RoundTrip
import Mathlib.Data.List.Forall2
import Mathlib.Data.List.Nodup
import Mathlib.Data.List.Perm.Basic

/-!
# What decoding accepts

Decoding checks the length of its input, reads one item and takes a dictionary from it.  The items
that stand for a value are the `Representable` ones (`Item.representable_iff`), and an item stands
for the value whose own item it is, up to the order in which its maps list their entries
(`Item.toValue_eq_ok_iff`): a dictionary keeps no order, and everything else is kept.  Input is
therefore decoded if it is short enough and, as a whole, one representable map, and inputs that
differ in the order of entries only are decoded alike (`Dictionary.decode_cases`).
-/

namespace Introduction

open Cbor

/-- If every member of a list has something it is related to, all of them can be listed. -/
private lemma exists_forall₂_of_forall {α β : Type} {r : α → β → Prop} {xs : List α}
    (h : ∀ x ∈ xs, ∃ y, r x y) : ∃ ys, List.Forall₂ r xs ys := by
  induction xs with
  | nil => exact ⟨[], .nil⟩
  | cons x xs ih =>
    obtain ⟨y, hy⟩ := h x List.mem_cons_self
    obtain ⟨ys, hys⟩ := ih fun x' hx' => h x' (List.mem_cons_of_mem x hx')
    exact ⟨y :: ys, .cons hy hys⟩

/-- Every member of the first of two related lists is related to something. -/
private lemma forall_exists_of_forall₂ {α β : Type} {r : α → β → Prop} {xs : List α} {ys : List β}
    (h : List.Forall₂ r xs ys) : ∀ x ∈ xs, ∃ y, r x y := by
  induction h with
  | nil => exact fun _ hx => nomatch hx
  | cons hxy _ ih =>
    rintro x (_ | ⟨_, hx⟩)
    · exact ⟨_, hxy⟩
    · exact ih x hx

/-- A member of a list can be exchanged for one that is related to everything it was. -/
private lemma forall₂_exchange {α β : Type} {r : α → β → Prop} {front back : List α} {x x' : α}
    {ys : List β} (h : List.Forall₂ r (front ++ x :: back) ys) (hx : ∀ y, r x y → r x' y) :
    List.Forall₂ r (front ++ x' :: back) ys := by
  induction front generalizing ys with
  | nil =>
    obtain _ | ⟨hxy, hback⟩ := h
    exact .cons (hx _ hxy) hback
  | cons z front ih =>
    obtain _ | ⟨hzy, hrest⟩ := h
    exact .cons hzy (ih hrest)

namespace Cbor.Item

/-! ### The value of an item -/

/-- An entry of a map has a text as its key, and its value stands for the value of an entry of a
dictionary under that text. -/
def Stands (entry : Item × Item) (pair : String × Value) : Prop :=
  entry.1 = .text pair.1 ∧ entry.2.toValue = .ok pair.2

/-- The keys of entries that stand for pairs are the keys of the pairs. -/
lemma keys_of_stands {entries : List (Item × Item)} {pairs : List (String × Value)}
    (h : List.Forall₂ Stands entries pairs) :
    entries.map Prod.fst = (pairs.map Prod.fst).map Item.text := by
  induction h with
  | nil => rfl
  | cons hentry _ ih => exact congrArg₂ List.cons hentry.1 ih

/-- Items stand for values one by one. -/
lemma toValues_eq_ok_iff {items : List Item} {values : List Value} :
    toValues items = .ok values ↔
      List.Forall₂ (fun item value => item.toValue = .ok value) items values := by
  induction items generalizing values with
  | nil =>
    rw [toValues, List.forall₂_nil_left_iff, Except.ok.injEq, eq_comm]
  | cons item items ih =>
    rw [toValues, List.forall₂_cons_left_iff]
    cases hitem : item.toValue with
    | error e => simp
    | ok value =>
      simp only [Except.ok.injEq, ← ih, exists_eq_left', exists_and_left]
      cases toValues items with
      | error e => simp
      | ok rest => simp [eq_comm]

/-- A dictionary takes the entries of a map if they stand for pairs with different keys, none of
which it has. -/
lemma toDictionary_eq_ok_iff {d d' : Dictionary} {entries : List (Item × Item)} :
    toDictionary d entries = .ok d' ↔
      ∃ pairs, List.Forall₂ Stands entries pairs ∧ (pairs.map Prod.fst).Nodup ∧
        (∀ key ∈ pairs.map Prod.fst, d.get? key = none) ∧
          d' = pairs.foldl (fun d pair => d.insert pair.1 pair.2) d := by
  induction entries generalizing d with
  | nil =>
    rw [toDictionary, Except.ok.injEq]
    constructor
    · rintro rfl
      exact ⟨[], .nil, List.nodup_nil, by simp, rfl⟩
    · rintro ⟨_, _ | _, -, -, rfl⟩
      rfl
  | cons entry entries ih =>
    obtain ⟨key, item⟩ := entry
    constructor
    · intro h
      cases key with
      | text key =>
        rw [toDictionary] at h
        split at h
        · cases h
        · rename_i value hvalue
          split_ifs at h with hcontains
          have hfresh : d.get? key = none := by
            simpa [Ascending.contains] using hcontains
          obtain ⟨pairs, hpairs, hnodup, hrest, hd⟩ := ih.mp h
          have hinsert : ∀ other ∈ pairs.map Prod.fst, other ≠ key ∧ d.get? other = none := by
            intro other hmem
            have hnone := hrest other hmem
            rw [OrderedMap.get?_insert] at hnone
            split_ifs at hnone with hother
            exact ⟨hother, hnone⟩
          refine ⟨(key, value) :: pairs, .cons ⟨rfl, hvalue⟩ hpairs, ?_, ?_, hd⟩
          · exact List.nodup_cons.mpr ⟨fun hmem => (hinsert key hmem).1 rfl, hnodup⟩
          · rintro other (_ | ⟨_, hmem⟩)
            · exact hfresh
            · exact (hinsert other hmem).2
      | _ => cases h
    · rintro ⟨_, hstands, hnodup, hfresh, rfl⟩
      obtain ⟨pair, pairs, ⟨hkey, hvalue⟩, hpairs, rfl⟩ := List.forall₂_cons_left_iff.mp hstands
      obtain ⟨hnew, hnodup⟩ := List.nodup_cons.mp hnodup
      have hpair : d.contains pair.1 = false := by
        rw [Ascending.contains, hfresh _ List.mem_cons_self]
        rfl
      have hrest : ∀ other ∈ pairs.map Prod.fst, (d.insert pair.1 pair.2).get? other = none := by
        intro other hmem
        rw [OrderedMap.get?_insert, if_neg fun heq : other = pair.1 => hnew (heq ▸ hmem)]
        exact hfresh other (List.mem_cons_of_mem _ hmem)
      dsimp only at hkey hvalue
      rw [hkey, toDictionary, hvalue]
      dsimp only
      rw [hpair, if_neg Bool.false_ne_true]
      exact ih.mpr ⟨pairs, hpairs, hnodup, hrest, rfl⟩

/-- A map stands for the dictionary with the pairs its entries stand for, if their keys differ. -/
lemma toValue_map_eq_ok_iff {entries : List (Item × Item)} {v : Value} :
    (Item.map entries).toValue = .ok v ↔
      ∃ pairs d, v = .dictionary d ∧ List.Forall₂ Stands entries pairs ∧
        (pairs.map Prod.fst).Nodup ∧
          ∀ key value, d.get? key = some value ↔ (key, value) ∈ pairs := by
  have hfound : ∀ {pairs : List (String × Value)}, (pairs.map Prod.fst).Nodup → ∀ key value,
      (pairs.foldl (fun d pair => d.insert pair.1 pair.2) Dictionary.empty).get? key = some value ↔
        (key, value) ∈ pairs := by
    intro pairs hnodup key value
    rw [OrderedMap.get?_foldl_insert hnodup]
    simp
  rw [toValue]
  constructor
  · intro h
    split at h
    · cases h
    · rename_i d hd
      obtain ⟨pairs, hpairs, hnodup, -, rfl⟩ := toDictionary_eq_ok_iff.mp hd
      cases h
      exact ⟨pairs, _, rfl, hpairs, hnodup, hfound hnodup⟩
  · rintro ⟨pairs, d, rfl, hpairs, hnodup, hd⟩
    have heq : d = pairs.foldl (fun d pair => d.insert pair.1 pair.2) Dictionary.empty :=
      Ascending.ext fun key => Option.ext fun value => by rw [hd, hfound hnodup]
    rw [toDictionary_eq_ok_iff.mpr ⟨pairs, hpairs, hnodup, fun _ _ => rfl, heq⟩]

/-- An array stands for the list of the values of its members. -/
lemma toValue_array_eq_ok_iff {items : List Item} {v : Value} :
    (Item.array items).toValue = .ok v ↔
      ∃ values, v = .list values ∧
        List.Forall₂ (fun item value => item.toValue = .ok value) items values := by
  simp only [← toValues_eq_ok_iff]
  rw [toValue]
  constructor
  · intro h
    split at h
    · cases h
    · rename_i values hvalues
      cases h
      exact ⟨values, rfl, hvalues⟩
  · rintro ⟨values, rfl, hvalues⟩
    rw [hvalues]

/-! ### The order of entries -/

/-- Exchanging two neighbouring entries does not change the value. -/
lemma Swapped.toValue_eq_ok {item item' : Item} (h : Swapped item item') {v : Value}
    (hv : item.toValue = .ok v) : item'.toValue = .ok v := by
  induction h generalizing v with
  | entries front entry entry' back =>
    obtain ⟨pairs, d, rfl, hpairs, hnodup, hd⟩ := toValue_map_eq_ok_iff.mp hv
    obtain ⟨pairs', hpairs', hperm⟩ := List.perm_comp_forall₂
      ((List.Perm.swap entry entry' back).append_left front) hpairs
    refine toValue_map_eq_ok_iff.mpr ⟨pairs', d, rfl, hpairs', ?_, fun key value => ?_⟩
    · exact (hperm.map Prod.fst).nodup_iff.mpr hnodup
    · rw [hd, hperm.mem_iff]
  | inKey front value back hkey _ =>
    obtain ⟨pairs, d, rfl, hpairs, hrest⟩ := toValue_map_eq_ok_iff.mp hv
    refine toValue_map_eq_ok_iff.mpr ⟨pairs, d, rfl, forall₂_exchange hpairs ?_, hrest⟩
    rintro pair ⟨rfl, -⟩
    cases hkey
  | inValue front key back _ ih =>
    obtain ⟨pairs, d, rfl, hpairs, hrest⟩ := toValue_map_eq_ok_iff.mp hv
    exact toValue_map_eq_ok_iff.mpr ⟨pairs, d, rfl,
      forall₂_exchange hpairs fun pair hpair => ⟨hpair.1, ih hpair.2⟩, hrest⟩
  | inArray front back _ ih =>
    obtain ⟨values, rfl, hvalues⟩ := toValue_array_eq_ok_iff.mp hv
    exact toValue_array_eq_ok_iff.mpr ⟨values, rfl, forall₂_exchange hvalues fun _ => ih⟩
  | inTag => cases hv

/-- Items that differ in the order of entries only stand for the same value, or none of them for
any. -/
theorem Reordered.toValue_eq_ok_iff {item item' : Item} (h : Reordered item item') (v : Value) :
    item.toValue = .ok v ↔ item'.toValue = .ok v := by
  induction h with
  | refl => rfl
  | tail _ hlast ih => exact ih.trans ⟨hlast.toValue_eq_ok, hlast.symm.toValue_eq_ok⟩

/-- The items of a list of values are the items of its members. -/
lemma toItems_of_forall₂ {items : List Item} {values : List Value}
    (h : List.Forall₂ (fun item value => Reordered item value.toItem) items values) :
    List.Forall₂ Reordered items (Value.toItems values) := by
  induction h with
  | nil => exact .nil
  | cons hitem _ ih => exact .cons hitem ih

/-- The entries of the item of a dictionary are those of the dictionary. -/
lemma toEntries_eq_map {floor : Option String} (entries : Ascending String Value floor) :
    Value.toEntries entries =
      entries.toList.map fun pair => (Item.text pair.1, pair.2.toItem) := by
  induction entries with
  | nil => rfl
  | cons key hkey value rest ih => rw [Value.toEntries, ih, Ascending.toList, List.map_cons]

/-- Pairs with different keys are listed by the dictionary in which they are found. -/
lemma perm_toList {pairs : List (String × Value)} {d : Dictionary}
    (hnodup : (pairs.map Prod.fst).Nodup)
    (hd : ∀ key value, d.get? key = some value ↔ (key, value) ∈ pairs) : pairs.Perm d.toList :=
  (List.perm_ext_iff_of_nodup hnodup.of_map d.nodup_keys.of_map).mpr fun pair => by
    rw [← hd, d.mem_toList_iff]

/-- An item stands for the value whose own item it is, up to the order of entries. -/
theorem toValue_eq_ok_iff {item : Item} {v : Value} :
    item.toValue = .ok v ↔ Reordered item v.toItem := by
  constructor
  · intro h
    induction item generalizing v with
    | integer n =>
      rw [toValue] at h
      split_ifs at h with hn
      cases h
      rw [Value.toItem, Int64.toInt_ofInt_of_le hn.1 hn.2]
      exact .refl _
    | bytes content | float bits | text content | bool b =>
      cases h
      exact .refl _
    | null | tag number content => cases h
    | array items ih =>
      obtain ⟨values, rfl, hvalues⟩ := toValue_array_eq_ok_iff.mp h
      refine Reordered.array (toItems_of_forall₂ ?_)
      exact ((List.forall₂_and_left _ _).mpr ⟨ih, hvalues⟩).imp fun _ _ hitem => hitem.1 hitem.2
    | map entries ih =>
      obtain ⟨pairs, d, rfl, hpairs, hnodup, hd⟩ := toValue_map_eq_ok_iff.mp h
      -- the values are reordered in place, and then the entries are put in the order of the keys
      have hvalues : Reordered (.map entries)
          (.map (pairs.map fun pair => (.text pair.1, pair.2.toItem))) := by
        refine Reordered.map (List.forall₂_map_right_iff.mpr ?_)
        exact ((List.forall₂_and_left _ _).mpr ⟨ih, hpairs⟩).imp
          fun _ _ hentry => ⟨hentry.2.1, hentry.1.2 hentry.2.2⟩
      rw [Value.toItem, toEntries_eq_map]
      exact hvalues.trans (.of_perm ((perm_toList hnodup hd).map _))
  · intro h
    exact (h.toValue_eq_ok_iff v).mpr (Value.toValue_toItem v)

/-! ### Representable items -/

/-- A dictionary can hold an item: all integers have 64 bits with a sign, the keys of maps are texts
and differ, and there is neither a null nor a tag at any depth. -/
inductive Representable : Item → Prop
  | bool (b : Bool) : Representable (.bool b)
  | integer {n : Int} (low : -2 ^ 63 ≤ n) (high : n < 2 ^ 63) : Representable (.integer n)
  | float (bits : UInt64) : Representable (.float bits)
  | text (content : String) : Representable (.text content)
  | bytes (content : Bytes) : Representable (.bytes content)
  | array {items : List Item} (members : ∀ item ∈ items, Representable item) :
      Representable (.array items)
  | map {entries : List (Item × Item)} (texts : ∀ entry ∈ entries, ∃ key, entry.1 = .text key)
      (nodup : (entries.map Prod.fst).Nodup) (values : ∀ entry ∈ entries, Representable entry.2) :
      Representable (.map entries)

/-- Keys that are texts differ if the texts do. -/
lemma nodup_keys_iff {entries : List (Item × Item)} {pairs : List (String × Value)}
    (h : List.Forall₂ Stands entries pairs) :
    (entries.map Prod.fst).Nodup ↔ (pairs.map Prod.fst).Nodup := by
  rw [keys_of_stands h]
  exact List.nodup_map_iff fun _ _ heq => Item.text.inj heq

/-- A representable item stands for a value. -/
lemma Representable.exists_toValue {item : Item} (h : item.Representable) :
    ∃ v, item.toValue = .ok v := by
  induction h with
  | integer low high => exact ⟨_, by rw [toValue, if_pos ⟨low, high⟩]⟩
  | bool | float | text | bytes => exact ⟨_, rfl⟩
  | array _ ih =>
    obtain ⟨values, hvalues⟩ := exists_forall₂_of_forall ih
    exact ⟨_, toValue_array_eq_ok_iff.mpr ⟨values, rfl, hvalues⟩⟩
  | @map entries texts nodup _ ih =>
    have hstands : ∀ entry ∈ entries, ∃ pair, Stands entry pair := fun entry hentry =>
      (texts entry hentry).elim fun key hkey =>
        (ih entry hentry).elim fun value hvalue => ⟨(key, value), hkey, hvalue⟩
    obtain ⟨pairs, hpairs⟩ := exists_forall₂_of_forall hstands
    have hnodup := (nodup_keys_iff hpairs).mp nodup
    exact ⟨_, toValue_map_eq_ok_iff.mpr ⟨pairs, OrderedMap.ofList pairs, rfl, hpairs, hnodup,
      fun key value => by simp [OrderedMap.ofList, OrderedMap.get?_foldl_insert hnodup]⟩⟩

/-- An item that stands for a value is representable. -/
lemma representable_of_toValue {item : Item} {v : Value} (h : item.toValue = .ok v) :
    item.Representable := by
  induction item generalizing v with
  | integer n =>
    rw [toValue] at h
    split_ifs at h with hn
    exact .integer hn.1 hn.2
  | bytes content => exact .bytes content
  | float bits => exact .float bits
  | text content => exact .text content
  | bool b => exact .bool b
  | null | tag number content => cases h
  | array items ih =>
    obtain ⟨values, -, hvalues⟩ := toValue_array_eq_ok_iff.mp h
    refine .array fun item hitem => ?_
    obtain ⟨value, hvalue⟩ := forall_exists_of_forall₂ hvalues item hitem
    exact ih item hitem hvalue
  | map entries ih =>
    obtain ⟨pairs, d, -, hpairs, hnodup, -⟩ := toValue_map_eq_ok_iff.mp h
    refine .map (fun entry hentry => ?_) ((nodup_keys_iff hpairs).mpr hnodup)
      fun entry hentry => ?_
    · obtain ⟨pair, hpair⟩ := forall_exists_of_forall₂ hpairs entry hentry
      exact ⟨pair.1, hpair.1⟩
    · obtain ⟨pair, hpair⟩ := forall_exists_of_forall₂ hpairs entry hentry
      exact (ih entry hentry).2 hpair.2

/-- The items that stand for a value are the representable ones. -/
theorem representable_iff {item : Item} : item.Representable ↔ ∃ v, item.toValue = .ok v :=
  ⟨Representable.exists_toValue, fun ⟨_, h⟩ => representable_of_toValue h⟩

/-- The items that stand for a dictionary are the representable maps. -/
lemma exists_toValue_dictionary_iff {item : Item} :
    (∃ d, item.toValue = .ok (.dictionary d)) ↔
      ∃ entries, item = .map entries ∧ item.Representable := by
  constructor
  · rintro ⟨d, hd⟩
    have hreordered := toValue_eq_ok_iff.mp hd
    obtain ⟨entries, rfl⟩ := hreordered.symm.exists_map
    exact ⟨entries, rfl, representable_iff.mpr ⟨_, hd⟩⟩
  · rintro ⟨entries, rfl, h⟩
    obtain ⟨v, hv⟩ := representable_iff.mp h
    obtain ⟨-, d, rfl, -⟩ := toValue_map_eq_ok_iff.mp hv
    exact ⟨d, hv⟩

end Cbor.Item

namespace Dictionary

open Cbor.Item

/-! ### Decoding -/

/-- An item is all that a reader finds in some bytes: it reads the item, and nothing is left.  The
bound on the loops of the reader is any that the input cannot meet. -/
def Reads (bytes : Bytes) (item : Item) : Prop :=
  ∃ c : Cursor, c.rest = [] ∧
    ∀ bound, bytes.length ≤ bound → Item.read bound maxNesting ⟨0, bytes⟩ = .ok (item, c)

/-- The reader with the bound that decoding gives it decides what is read. -/
lemma reads_iff {bytes : Bytes} {item : Item} :
    Reads bytes item ↔
      ∃ c : Cursor, c.rest = [] ∧ Item.read bytes.length maxNesting ⟨0, bytes⟩ = .ok (item, c) := by
  constructor
  · rintro ⟨c, hc, hread⟩
    exact ⟨c, hc, hread _ (Nat.le_refl _)⟩
  · rintro ⟨c, hc, hread⟩
    refine ⟨c, hc, fun bound hbound => ?_⟩
    have hsame : Item.read bound maxNesting ⟨0, bytes⟩ =
        Item.read bytes.length maxNesting ⟨0, bytes⟩ :=
      Item.read_eq_of_length_le maxNesting hbound (Nat.le_refl _)
    rw [hsame, hread]

/-- There is one item that some bytes are read as. -/
lemma Reads.eq {bytes : Bytes} {item item' : Item} (h : Reads bytes item)
    (h' : Reads bytes item') : item = item' := by
  obtain ⟨c, -, hread⟩ := reads_iff.mp h
  obtain ⟨c', -, hread'⟩ := reads_iff.mp h'
  rw [hread] at hread'
  cases hread'
  rfl

/-- An item is taken as the dictionary it stands for. -/
lemma ofItem_eq_ok_iff {item : Item} {d : Dictionary} :
    ofItem item = .ok d ↔ item.toValue = .ok (.dictionary d) := by
  constructor
  · intro h
    cases item with
    | map entries =>
      rw [ofItem] at h
      rw [toValue, h]
    | _ => cases h
  · intro h
    obtain ⟨entries, rfl, -⟩ := exists_toValue_dictionary_iff.mp ⟨d, h⟩
    rw [toValue] at h
    split at h
    · cases h
    · rename_i d' hd'
      cases h
      exact hd'

/-- The dictionary that bytes are the encoded form of is that of the item they are read as. -/
lemma ofBytes_eq_ok_iff {bytes : Bytes} {d : Dictionary} :
    ofBytes bytes = .ok d ↔ ∃ item, Reads bytes item ∧ ofItem item = .ok d := by
  simp only [reads_iff]
  unfold ofBytes
  rcases Item.read bytes.length maxNesting ⟨0, bytes⟩ with fault | ⟨item, offset, _ | ⟨b, rest⟩⟩ <;>
    simp

/-- A dictionary is decoded from bytes that are within the limit and are read as its own item, up to
the order of entries. -/
theorem decode_eq_ok_iff {bytes : Bytes} {limit : ℕ} {d : Dictionary} :
    decode bytes limit = .ok d ↔
      bytes.length ≤ limit ∧
        ∃ item, Reads bytes item ∧ Reordered item (Value.dictionary d).toItem := by
  simp only [← toValue_eq_ok_iff, ← ofItem_eq_ok_iff, ← ofBytes_eq_ok_iff]
  unfold decode
  split_ifs with hlimit
  · simp [Nat.not_le.mpr hlimit]
  · cases ofBytes bytes <;> simp [Nat.le_of_not_lt hlimit]

/-- Input over the limit is refused over its length, and no other input is. -/
lemma decode_eq_tooLarge_iff {bytes : Bytes} {limit size most : ℕ} :
    decode bytes limit = .error (.tooLarge size most) ↔
      limit < bytes.length ∧ size = bytes.length ∧ most = limit := by
  unfold decode
  split_ifs with hlimit
  · simp only [hlimit, true_and, Except.error.injEq, WireError.tooLarge.injEq]
    exact and_congr eq_comm eq_comm
  · refine iff_of_false (fun h => ?_) fun h => hlimit h.1
    split at h <;> cases h

/-- Input is decoded if it is short enough and read, as a whole, as a representable map. -/
lemma exists_decode_iff {bytes : Bytes} {limit : ℕ} :
    (∃ d, decode bytes limit = .ok d) ↔
      bytes.length ≤ limit ∧ ∃ entries, Reads bytes (.map entries) ∧
        (Item.map entries).Representable := by
  constructor
  · rintro ⟨d, hd⟩
    obtain ⟨hlimit, item, hreads, hitem⟩ := decode_eq_ok_iff.mp hd
    obtain ⟨entries, rfl, hrepresentable⟩ :=
      exists_toValue_dictionary_iff.mp ⟨d, toValue_eq_ok_iff.mpr hitem⟩
    exact ⟨hlimit, entries, hreads, hrepresentable⟩
  · rintro ⟨hlimit, entries, hreads, hrepresentable⟩
    obtain ⟨d, hd⟩ := exists_toValue_dictionary_iff.mpr ⟨entries, rfl, hrepresentable⟩
    exact ⟨d, decode_eq_ok_iff.mpr ⟨hlimit, _, hreads, toValue_eq_ok_iff.mp hd⟩⟩

/-- Input within the limit that is not decoded is refused over its content. -/
lemma undecodable_of_not_decoded {bytes : Bytes} {limit : ℕ} (hlimit : bytes.length ≤ limit)
    (hnone : ¬ ∃ d, decode bytes limit = .ok d) :
    ∃ cause, decode bytes limit = .error (.undecodable cause) := by
  cases hdecode : decode bytes limit with
  | ok d => exact absurd ⟨d, hdecode⟩ hnone
  | error e =>
    unfold decode at hdecode
    rw [if_neg (Nat.not_lt.mpr hlimit)] at hdecode
    split at hdecode
    · exact ⟨_, hdecode.symm⟩
    · cases hdecode

/-- Inputs within their limits that are read as items which differ in the order of entries only are
decoded to the same dictionary, if to any. -/
lemma decode_eq_ok_of_reordered {bytes bytes' : Bytes} {limit limit' : ℕ} {item item' : Item}
    (hlimit' : bytes'.length ≤ limit') (hreads : Reads bytes item) (hreads' : Reads bytes' item')
    (hitems : Reordered item item') {d : Dictionary} (hd : decode bytes limit = .ok d) :
    decode bytes' limit' = .ok d := by
  obtain ⟨-, other, hother, hitem⟩ := decode_eq_ok_iff.mp hd
  rw [hother.eq hreads] at hitem
  exact decode_eq_ok_iff.mpr ⟨hlimit', item', hreads', hitems.symm.trans hitem⟩

/-- Input over the limit is refused over its length, and no other input is.  Other input is decoded
if it is read, as a whole, as a representable map; the dictionary is then the one whose own item
that map is, up to the order of entries, and inputs that differ in this order only are decoded
alike.  In every other case decoding fails over the content. -/
theorem decode_cases (bytes : Bytes) (limit : ℕ) :
    (∀ size most, decode bytes limit = .error (.tooLarge size most) ↔
      limit < bytes.length ∧ size = bytes.length ∧ most = limit) ∧
    ((∃ d, decode bytes limit = .ok d) ↔
      bytes.length ≤ limit ∧ ∃ entries, Reads bytes (.map entries) ∧
        (Item.map entries).Representable) ∧
    (∀ d item, decode bytes limit = .ok d → Reads bytes item →
      Reordered item (Value.dictionary d).toItem) ∧
    (bytes.length ≤ limit → (¬ ∃ d, decode bytes limit = .ok d) →
      ∃ cause, decode bytes limit = .error (.undecodable cause)) ∧
    ∀ bytes' limit' item item', bytes.length ≤ limit → bytes'.length ≤ limit' →
      Reads bytes item → Reads bytes' item' → Reordered item item' →
        ∀ d, decode bytes limit = .ok d ↔ decode bytes' limit' = .ok d := by
  refine ⟨fun _ _ => decode_eq_tooLarge_iff, exists_decode_iff, fun d item hd hreads => ?_,
    undecodable_of_not_decoded, ?_⟩
  · obtain ⟨-, item', hreads', hitem'⟩ := decode_eq_ok_iff.mp hd
    rwa [hreads.eq hreads']
  · intro bytes' limit' item item' hlimit hlimit' hreads hreads' hitems d
    constructor
    · exact decode_eq_ok_of_reordered hlimit' hreads hreads' hitems
    · exact decode_eq_ok_of_reordered hlimit hreads' hreads hitems.symm

/-- A map with two entries by ascending key, in the shortest form. -/
def forwards : Bytes := [0xa2, 0x61, 0x61, 0x01, 0x61, 0x62, 0x02]

/-- A map with the same entries by descending key, of indefinite length and with wider heads. -/
def backwards : Bytes := [0xbf, 0x61, 0x62, 0x18, 0x02, 0x78, 0x01, 0x61, 0x01, 0xff]

/-- Two inputs with the same entries in different order are read and decoded to one dictionary. -/
theorem decode_forwards_backwards :
    Reads forwards (.map [(.text "a", .integer 1), (.text "b", .integer 2)]) ∧
      Reads backwards (.map [(.text "b", .integer 2), (.text "a", .integer 1)]) ∧
      decode forwards 7 = .ok ((empty.insert "a" (.int 1)).insert "b" (.int 2)) ∧
      decode backwards 10 = .ok ((empty.insert "a" (.int 1)).insert "b" (.int 2)) := by
  have hforwards : Reads forwards (.map [(.text "a", .integer 1), (.text "b", .integer 2)]) :=
    reads_iff.mpr ⟨⟨7, []⟩, rfl, rfl⟩
  have hbackwards : Reads backwards (.map [(.text "b", .integer 2), (.text "a", .integer 1)]) :=
    reads_iff.mpr ⟨⟨10, []⟩, rfl, rfl⟩
  have hdecode : decode forwards 7 = .ok ((empty.insert "a" (.int 1)).insert "b" (.int 2)) := rfl
  have hswapped : Reordered (.map [(.text "a", .integer 1), (.text "b", .integer 2)])
      (.map [(.text "b", .integer 2), (.text "a", .integer 1)]) :=
    .of_perm (.swap _ _ _)
  obtain ⟨-, -, -, -, halike⟩ := decode_cases forwards 7
  exact ⟨hforwards, hbackwards, hdecode,
    (halike backwards 10 _ _ (Nat.le_refl _) (Nat.le_refl _) hforwards hbackwards hswapped _).mp
      hdecode⟩

end Dictionary

end Introduction
