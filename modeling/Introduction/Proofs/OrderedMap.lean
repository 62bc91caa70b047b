import Introduction.OrderedMap
import Mathlib.Algebra.GroupWithZero.Nat
import Mathlib.Data.List.Basic
import Mathlib.Tactic.Common

/-!
# Entries of ordered maps

The entries that a map lists are the pairs of a key and the value found under it.  What holds of all
entries of a map can therefore be read off its look-ups, and holds again after one more entry that
satisfies it was written.
-/

namespace Introduction

namespace Ascending

variable {κ β : Type} [LT κ] {floor : Option κ}

/-- Writing an entry adds at most one. -/
lemma size_insertAbove_le [DecidableLT κ] (m : Ascending κ β floor) (k : κ) (v : β)
    (hk : ∀ b ∈ floor, b < k) : (m.insertAbove k v hk).size ≤ m.size + 1 := by
  induction m with
  | nil => simp [insertAbove, size, toList]
  | cons key hkey value rest ih =>
    unfold insertAbove
    split_ifs with hlt hgt
    · simp [size, toList]
    · have h := ih (by simpa using hgt)
      simp only [size, toList, List.length_cons] at h ⊢
      omega
    · simp [size, toList]

variable [DecidableEq κ] [LE κ] [Std.IsLinearOrder κ] [Std.LawfulOrderLT κ]

/-- The first key of a map does not occur again. -/
lemma get?_rest_self {key : κ} (rest : Ascending κ β (some key)) : rest.get? key = none :=
  rest.get?_eq_none_of_not_above (by simp [Std.lt_irrefl])

/-- What is found behind the first key is found in the whole map. -/
lemma get?_cons_of_rest {key k : κ} {hkey : ∀ b ∈ floor, b < key} {value v : β}
    (rest : Ascending κ β (some key)) (h : rest.get? k = some v) :
    (cons key hkey value rest).get? k = some v := by
  have hne : k ≠ key := by
    rintro rfl
    rw [get?_rest_self] at h
    cases h
  rwa [get?_cons, if_neg hne]

/-- The entries of a map are the pairs of a key and the value found under it. -/
theorem mem_toList_iff (m : Ascending κ β floor) {k : κ} {v : β} :
    (k, v) ∈ m.toList ↔ m.get? k = some v := by
  induction m with
  | nil => simp [toList]
  | cons key hkey value rest ih =>
    rw [toList, List.mem_cons, get?_cons, ih, Prod.mk.injEq]
    by_cases h : k = key
    · subst h
      rw [if_pos rfl, get?_rest_self]
      simp [eq_comm]
    · simp [h]

/-- The keys that a map lists are those with a value. -/
lemma mem_keys_iff (m : Ascending κ β floor) {k : κ} : k ∈ m.keys ↔ ∃ v, m.get? k = some v := by
  simp only [keys, List.mem_map, Prod.exists, m.mem_toList_iff]
  constructor
  · rintro ⟨_, v, hv, rfl⟩
    exact ⟨v, hv⟩
  · rintro ⟨v, hv⟩
    exact ⟨k, v, hv, rfl⟩

/-- No key is listed twice. -/
lemma nodup_keys (m : Ascending κ β floor) : m.keys.Nodup := by
  induction m with
  | nil => exact List.nodup_nil
  | cons key hkey value rest ih =>
    refine List.nodup_cons.mpr ⟨fun hmem => ?_, ih⟩
    obtain ⟨v, hv⟩ := rest.mem_keys_iff.mp hmem
    rw [rest.get?_rest_self] at hv
    cases hv

/-- The values found under the keys of a map are the values it lists. -/
lemma filterMap_get?_keys (m : Ascending κ β floor) :
    m.keys.filterMap (m.get? ·) = m.toList.map Prod.snd := by
  have hfound : ∀ entry ∈ m.toList, m.get? entry.1 = some entry.2 :=
    fun _ hentry => m.mem_toList_iff.mp hentry
  rw [keys, List.filterMap_map, List.filterMap_eq_map_iff_forall_eq_some]
  exact hfound

/-- A key below the first one has no value. -/
lemma get?_cons_of_lt {key k : κ} {hkey : ∀ b ∈ floor, b < key} {value : β}
    {rest : Ascending κ β (some key)} (h : k < key) :
    (cons key hkey value rest).get? k = none := by
  rw [get?_cons, if_neg fun heq : k = key => Std.lt_irrefl (heq ▸ h)]
  exact rest.get?_eq_none_of_not_above fun habove => Std.lt_irrefl (Std.lt_trans h (habove key rfl))

/-- What entries come to stays the same when one of them is replaced by one that comes to the
same. -/
lemma map_toList_insertAbove {γ : Type} [DecidableLT κ] {m : Ascending κ β floor} {k : κ}
    {v v' : β} (g : κ × β → γ) (hget : m.get? k = some v) (hg : g (k, v') = g (k, v))
    (hk : ∀ b ∈ floor, b < k) :
    (m.insertAbove k v' hk).toList.map g = m.toList.map g := by
  induction m with
  | nil => cases hget
  | cons key hkey value rest ih =>
    unfold insertAbove
    split_ifs with hlt hgt
    · rw [get?_cons_of_lt hlt] at hget
      cases hget
    · rw [get?_cons, if_neg fun heq : k = key => Std.lt_irrefl (heq ▸ hgt)] at hget
      rw [toList, toList, List.map_cons, List.map_cons, ih hget]
    · obtain rfl : k = key := Std.le_antisymm (Std.not_lt.mp hgt) (Std.not_lt.mp hlt)
      rw [get?_cons, if_pos rfl] at hget
      cases hget
      rw [toList, toList, List.map_cons, List.map_cons, hg]

/-- When an entry is written, what the entries weigh together changes by the weight of the entry
against the weight of the one in its place before. -/
lemma sum_toList_insertAbove [DecidableLT κ] (g : κ × β → ℕ) (m : Ascending κ β floor) (k : κ)
    (v : β) (hk : ∀ b ∈ floor, b < k) :
    ((m.insertAbove k v hk).toList.map g).sum + (m.get? k).elim 0 (fun v' => g (k, v')) =
      (m.toList.map g).sum + g (k, v) := by
  induction m with
  | nil => simp [insertAbove, toList]
  | cons key hkey value rest ih =>
    unfold insertAbove
    split_ifs with hlt hgt
    · rw [get?_cons_of_lt hlt]
      simp [toList, Nat.add_comm]
    · have hrest := ih (by simpa using hgt)
      rw [get?_cons, if_neg fun heq : k = key => Std.lt_irrefl (heq ▸ hgt)]
      simp only [toList, List.map_cons, List.sum_cons]
      omega
    · obtain rfl : k = key := Std.le_antisymm (Std.not_lt.mp hgt) (Std.not_lt.mp hlt)
      rw [get?_cons, if_pos rfl]
      simp only [toList, List.map_cons, List.sum_cons, Option.elim_some]
      omega

end Ascending

/-! ### Maps with some entries left out -/

namespace Ascending

variable {κ β : Type} [LT κ] [LE κ] [Std.IsLinearOrder κ] [Std.LawfulOrderLT κ]

/-- The entries with a value for which `p` holds. -/
def filter (p : β → Bool) {floor : Option κ} : Ascending κ β floor → Ascending κ β floor
  | .nil => .nil
  | .cons key hkey value rest =>
    if p value then .cons key hkey value (rest.filter p) else (rest.filter p).weaken hkey

variable {floor : Option κ}

/-- A weaker bound does not change the entries. -/
@[simp] lemma toList_weaken {a : κ} (h : ∀ b ∈ floor, b < a) (m : Ascending κ β (some a)) :
    (m.weaken h).toList = m.toList := by
  cases m <;> rfl

/-- The entries that are listed are those for which `p` holds. -/
lemma toList_filter (p : β → Bool) (m : Ascending κ β floor) :
    (m.filter p).toList = m.toList.filter fun entry => p entry.2 := by
  induction m with
  | nil => rfl
  | cons key hkey value rest ih =>
    rw [filter, toList, List.filter_cons]
    dsimp only
    split_ifs
    · rw [toList, ih]
    · rw [toList_weaken, ih]

/-- A value is found if it was there and `p` holds for it. -/
@[simp] lemma get?_filter [DecidableEq κ] (p : β → Bool) (m : Ascending κ β floor) (k : κ) :
    (m.filter p).get? k = (m.get? k).filter p := by
  induction m with
  | nil => rfl
  | cons key hkey value rest ih =>
    rw [filter, get?_cons]
    split_ifs with hp hk hk
    · rw [get?_cons, if_pos hk, Option.filter_some, if_pos hp]
    · rw [get?_cons, if_neg hk, ih]
    · rw [get?_weaken, ih, hk, get?_rest_self, Option.filter_some, if_neg hp]
      rfl
    · rw [get?_weaken, ih]

end Ascending

/-! ### Maps with every value replaced -/

namespace Ascending

variable {κ β γ : Type} [LT κ] {floor : Option κ}

/-- Under every key stands the replaced value. -/
@[simp] lemma get?_map [DecidableEq κ] (f : β → γ) (m : Ascending κ β floor) (k : κ) :
    (m.map f).get? k = (m.get? k).map f := by
  induction m with
  | nil => rfl
  | cons key hkey value rest ih =>
    rw [map, get?_cons, get?_cons, ih]
    split_ifs <;> rfl

/-- The keys stay the same. -/
@[simp] lemma keys_map (f : β → γ) (m : Ascending κ β floor) : (m.map f).keys = m.keys := by
  induction m with
  | nil => rfl
  | cons key hkey value rest ih => exact congrArg (key :: ·) ih

end Ascending

namespace OrderedMap

variable {κ β : Type} [LT κ] [DecidableLT κ]

/-- Writing an entry adds at most one. -/
lemma size_insert_le (m : OrderedMap κ β) (k : κ) (v : β) : (m.insert k v).size ≤ m.size + 1 :=
  m.size_insertAbove_le k v _

variable [DecidableEq κ] [LE κ] [Std.IsLinearOrder κ] [Std.LawfulOrderLT κ]

/-- What the entries of a map come to stays the same when one of them is replaced by one that comes
to the same. -/
lemma map_toList_insert {γ : Type} {m : OrderedMap κ β} {k : κ} {v v' : β} (g : κ × β → γ)
    (hget : m.get? k = some v) (hg : g (k, v') = g (k, v)) :
    (m.insert k v').toList.map g = m.toList.map g :=
  Ascending.map_toList_insertAbove g hget hg _

/-- When an entry is written, what the entries weigh together changes by the weight of the entry
against the weight of the one in its place before. -/
lemma sum_toList_insert (g : κ × β → ℕ) (m : OrderedMap κ β) (k : κ) (v : β) :
    ((m.insert k v).toList.map g).sum + (m.get? k).elim 0 (fun v' => g (k, v')) =
      (m.toList.map g).sum + g (k, v) :=
  m.sum_toList_insertAbove g k v _

/-- After entries with different keys were written, each of them is found, and what was there under
the other keys. -/
lemma get?_foldl_insert {entries : List (κ × β)} (h : (entries.map Prod.fst).Nodup)
    (m : OrderedMap κ β) (k : κ) (v : β) :
    (entries.foldl (fun m e => m.insert e.1 e.2) m).get? k = some v ↔
      (k, v) ∈ entries ∨ k ∉ entries.map Prod.fst ∧ m.get? k = some v := by
  induction entries generalizing m with
  | nil => simp
  | cons e entries ih =>
    obtain ⟨key, value⟩ := e
    obtain ⟨hkey, hentries⟩ := List.nodup_cons.mp h
    have hmem : (key, v) ∉ entries := fun hmem => hkey (List.mem_map.mpr ⟨_, hmem, rfl⟩)
    rw [List.foldl_cons, ih hentries, get?_insert]
    by_cases hk : k = key
    · subst hk
      simp [hkey, hmem, eq_comm]
    · simp [hk]

/-- What holds of all entries and of one more holds of all entries once that one is written. -/
lemma forall_get?_insert {P : κ → β → Prop} {m : OrderedMap κ β} {k : κ} {v : β}
    (hm : ∀ k' v', m.get? k' = some v' → P k' v') (hv : P k v) (k' : κ) (v' : β)
    (h : (m.insert k v).get? k' = some v') : P k' v' := by
  rw [get?_insert] at h
  split_ifs at h with hk
  · cases h
    rwa [hk]
  · exact hm k' v' h

end OrderedMap

end Introduction
