import Introduction.Proofs.Dictionary.Growth
import Introduction.Proofs.Dictionary.Unambiguous

/-!
# Encoding again what was decoded

A dictionary that was decoded is encoded again in its canonical form.  The bytes it was decoded from
are written in some form, and this form says by how much the canonical one is longer at most
(`Dictionary.exists_form_of_decode`, `Dictionary.length_encode_le_of_decode`).  Nor is the
dictionary nested deeper than a reader goes (`Dictionary.depth_le_of_decode`).  So it can be decoded
again from its canonical form under the same limit, unless that form has outgrown the limit.

All this is still so when the value under a key is replaced by one whose form is as long and which
is nested as deep.
-/

namespace Introduction

open Cbor

/-! ### Levels -/

/-- Every member of the second of two related lists is related to a member of the first. -/
lemma exists_mem_of_forall₂ {α β : Type} {r : α → β → Prop} {xs : List α} {ys : List β}
    (h : List.Forall₂ r xs ys) {y : β} (hy : y ∈ ys) : ∃ x ∈ xs, r x y := by
  induction h with
  | nil => cases hy
  | @cons x _ xs _ hxy _ ih =>
    rcases List.mem_cons.mp hy with rfl | hy
    · exact ⟨x, List.mem_cons_self, hxy⟩
    · obtain ⟨x', hx', hr⟩ := ih hy
      exact ⟨x', List.mem_cons_of_mem x hx', hr⟩

/-- Values are nested no deeper than each of them. -/
lemma Value.depthOfItems_le {items : List Value} {n : ℕ} (h : ∀ item ∈ items, item.depth ≤ n) :
    depthOfItems items ≤ n := by
  induction items with
  | nil => exact Nat.zero_le n
  | cons item items ih =>
    exact max_le (h item List.mem_cons_self) (ih fun x hx => h x (List.mem_cons_of_mem item hx))

namespace Cbor

variable {read : Cursor → Reading Item} {levels : ℕ} {c c' : Cursor} {v : Value}

/-- The value of whatever is read is nested at most so many levels deep. -/
def ReadsWithin (read : Cursor → Reading Item) (levels : ℕ) : Prop :=
  ∀ c item c' v, read c = .ok (item, c') → item.toValue = .ok v → v.depth ≤ levels

/-- An array is nested one level deeper than its members. -/
lemma depth_le_of_array {items : List Item} (hread : ReadsWithin read levels)
    (h : ReadsList read c items c') (hv : (Item.array items).toValue = .ok v) :
    v.depth ≤ levels + 1 := by
  obtain ⟨values, rfl, hvalues⟩ := Item.toValue_array_eq_ok_iff.mp hv
  refine Nat.succ_le_succ (Value.depthOfItems_le fun value hvalue => ?_)
  obtain ⟨item, hitem, htoValue⟩ := exists_mem_of_forall₂ hvalues hvalue
  obtain ⟨c₁, c₂, hc⟩ := h.exists_of_mem hitem
  exact hread _ _ _ _ hc htoValue

/-- A map is nested one level deeper than its values. -/
lemma depth_le_of_map {entries : List (Item × Item)} (hread : ReadsWithin read levels)
    (h : ReadsList (readEntry read) c entries c') (hv : (Item.map entries).toValue = .ok v) :
    v.depth ≤ levels + 1 := by
  obtain ⟨pairs, d, rfl, hpairs, -, hd⟩ := Item.toValue_map_eq_ok_iff.mp hv
  refine Nat.succ_le_succ (Value.depthOfEntries_le_of_get? fun key value hget => ?_)
  obtain ⟨entry, hentry, hstands⟩ := exists_mem_of_forall₂ hpairs ((hd key value).mp hget)
  obtain ⟨c₁, c₂, hc⟩ := h.exists_of_mem hentry
  obtain ⟨next, -, hvalue⟩ := readEntry_eq_ok hc
  exact hread _ _ _ _ hvalue hstands.2

/-- Nothing is nested in an integer. -/
lemma depth_of_integer {n : ℤ} (hv : (Item.integer n).toValue = .ok v) : v.depth = 0 := by
  rw [Item.toValue] at hv
  split_ifs at hv
  cases hv
  rfl

/-- The value of what is read is nested one level deeper than the reader of nested items reads, and
not at all if there is none. -/
lemma readsWithin_readItem (bound : ℕ) {nested : Option (Cursor → Reading Item)}
    (hnested : ∀ read ∈ nested, ∃ n, levels = n + 1 ∧ ReadsWithin read n) :
    ReadsWithin (readItem bound nested) levels := by
  intro c item c' v h hv
  obtain ⟨o, next, -, hbehind⟩ := ReadsBehind.of_readItem h
  cases hbehind with
  | integer negative a =>
    rw [depth_of_integer hv]
    exact Nat.zero_le _
  | @string kind _ _ _ _ _ =>
    cases kind <;>
    · cases hv
      exact Nat.zero_le _
  | array hread hitems =>
    obtain ⟨n, rfl, hwithin⟩ := hnested _ hread
    obtain ⟨-, c₁, -, -, hlist, -⟩ := ReadsList.of_readSequence hitems
    exact depth_le_of_array hwithin hlist hv
  | map hread hentries =>
    obtain ⟨n, rfl, hwithin⟩ := hnested _ hread
    obtain ⟨-, c₁, -, -, hlist, -⟩ := ReadsList.of_readSequence hentries
    exact depth_le_of_map hwithin hlist hv
  | tag htagged =>
    obtain ⟨n, -, rfl, -⟩ := exists_tagged htagged (Item.representable_of_toValue hv)
    rw [depth_of_integer hv]
    exact Nat.zero_le _
  | simple _ hsimple =>
    obtain ⟨b, rfl, -⟩ := exists_of_simpleItem? hsimple (Item.representable_of_toValue hv)
    cases hv
    exact Nat.zero_le _
  | float _ =>
    cases hv
    exact Nat.zero_le _

/-- The value of what is read is nested at most as deep as the reader goes. -/
theorem Item.readsWithin (bound levels : ℕ) : ReadsWithin (Item.read bound levels) levels := by
  induction levels with
  | zero => exact readsWithin_readItem bound fun read hread => by cases hread
  | succ levels ih =>
    refine readsWithin_readItem bound fun read hread => ?_
    cases hread
    exact ⟨levels, rfl, ih⟩

end Cbor

/-! ### Replacing an entry -/

/-- The entries of a dictionary are nested as deep as the value that is nested deepest. -/
lemma Value.depthOfEntries_eq {floor : Option String} (entries : Ascending String Value floor) :
    depthOfEntries entries = (entries.toList.map fun pair => pair.2.depth).foldr max 0 := by
  induction entries with
  | nil => rfl
  | cons key hkey value rest ih =>
    rw [depthOfEntries, ih]
    rfl

namespace Dictionary

variable {d : Dictionary} {key : String} {v v' : Value}

/-- A dictionary is encoded in as many octets when a value is replaced by one that is. -/
lemma length_encode_insert (hget : d.get? key = some v)
    (hlength : v'.encode.length = v.encode.length) :
    (d.insert key v').encode.length = d.encode.length := by
  have hsize : (d.insert key v').size = d.size := by
    have hkeys : (d.insert key v').toList.map Prod.fst = d.toList.map Prod.fst :=
      OrderedMap.map_toList_insert Prod.fst hget (rfl : (key, v').1 = (key, v).1)
    have hlengths := congrArg List.length hkeys
    rw [List.length_map, List.length_map] at hlengths
    exact hlengths
  have hentries :
      (Value.encodeEntries (d.insert key v')).length = (Value.encodeEntries d).length := by
    rw [Value.length_encodeEntries, Value.length_encodeEntries]
    refine congrArg List.sum (OrderedMap.map_toList_insert _ hget ?_)
    dsimp only
    rw [hlength]
  rw [encode, encode, Value.encode, Value.encode, List.length_append, List.length_append, hsize,
    hentries]

/-- A dictionary is nested as deep when a value is replaced by one that is. -/
lemma depth_insert (hget : d.get? key = some v) (hdepth : v'.depth = v.depth) :
    Value.depth (.dictionary (d.insert key v')) = Value.depth (.dictionary d) := by
  have hdepths : ((d.insert key v').toList.map fun pair => pair.2.depth) =
      d.toList.map fun pair => pair.2.depth :=
    OrderedMap.map_toList_insert (fun pair : String × Value => pair.2.depth) hget hdepth
  rw [Value.depth, Value.depth, Value.depthOfEntries_eq, Value.depthOfEntries_eq, hdepths]

/-! ### What was decoded -/

variable {bytes : Bytes} {limit : ℕ}

/-- A dictionary that was decoded is that of an item that was read. -/
lemma exists_read_of_decode (h : decode bytes limit = .ok d) :
    ∃ item c, Item.read bytes.length maxNesting ⟨0, bytes⟩ = .ok (item, c) ∧ c.rest = [] ∧
      item.toValue = .ok (.dictionary d) := by
  obtain ⟨-, item, hreads, hitem⟩ := decode_eq_ok_iff.mp h
  obtain ⟨c, hc, hread⟩ := reads_iff.mp hreads
  exact ⟨item, c, hread, hc, Item.toValue_eq_ok_iff.mpr hitem⟩

/-- Bytes that a dictionary was decoded from are written in some form. -/
theorem exists_form_of_decode (h : decode bytes limit = .ok d) : ∃ f : Form, f.octets = bytes := by
  obtain ⟨item, c, hread, hc, hvalue⟩ := exists_read_of_decode h
  obtain ⟨f, -, hf⟩ :=
    Form.exists_of_read _ _ _ _ _ hread (Item.representable_of_toValue hvalue)
  rw [hc, List.append_nil] at hf
  exact ⟨f, hf.symm⟩

/-- The canonical form of a dictionary is longer than the bytes it was decoded from by at most the
growth of the form in which they are written. -/
theorem length_encode_le_of_decode (h : decode bytes limit = .ok d) {f : Form}
    (hf : f.octets = bytes) : d.encode.length ≤ bytes.length + f.growth := by
  obtain ⟨item, c, hread, hc, hvalue⟩ := exists_read_of_decode h
  have hinput : (⟨0, bytes⟩ : Cursor) = ⟨0, f.octets ++ []⟩ := by rw [hf, List.append_nil]
  rw [hinput] at hread
  obtain ⟨rfl, -⟩ := f.readAs _ _ _ _ _ _ hread
  exact hf ▸ f.bounded _ hvalue

/-- A dictionary that was decoded is nested no deeper than a reader goes. -/
theorem depth_le_of_decode (h : decode bytes limit = .ok d) :
    Value.depth (.dictionary d) ≤ maxNesting := by
  obtain ⟨item, c, hread, -, hvalue⟩ := exists_read_of_decode h
  exact Item.readsWithin _ _ _ _ _ _ hread hvalue

end Dictionary

end Introduction
