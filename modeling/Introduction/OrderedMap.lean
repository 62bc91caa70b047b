/-!
# Finite maps in key order

A finite map is kept as its entries in strictly ascending key order. The order is part of the
type: `Ascending κ β floor` holds entries whose keys all lie above `floor`, and the entries after
a key are bounded by that key. A map therefore has one representation only, so that two maps with
the same look-ups are equal (`Ascending.ext`), and listing the entries gives them in order.

The carrier is parametric in the values and refers to the order only through `<`, which lets a
tree type hold maps to itself.

The main statements are `get?_insert` and `get?_erase`, which say what writing does to look-ups,
and `ext`.
-/

namespace Introduction

/-- Entries in strictly ascending key order, all of whose keys lie above `floor`. -/
inductive Ascending (κ β : Type) [LT κ] : Option κ → Type where
  /-- No entry. -/
  | nil {floor : Option κ} : Ascending κ β floor
  /-- An entry followed by entries with larger keys. -/
  | cons {floor : Option κ} (key : κ) (above : ∀ b ∈ floor, b < key) (value : β)
      (rest : Ascending κ β (some key)) : Ascending κ β floor

/-- A finite map from `κ` to `β`, listed by ascending key. -/
abbrev OrderedMap (κ β : Type) [LT κ] : Type := Ascending κ β none

namespace Ascending

variable {κ β γ : Type} [LT κ] {floor : Option κ}

/-- The entries in ascending key order. -/
def toList {floor : Option κ} : Ascending κ β floor → List (κ × β)
  | .nil => []
  | .cons key _ value rest => (key, value) :: rest.toList

/-- The keys in ascending order. -/
def keys (m : Ascending κ β floor) : List κ := m.toList.map Prod.fst

/-- The number of entries. -/
def size (m : Ascending κ β floor) : Nat := m.toList.length

/-- Whether there is no entry. -/
def isEmpty : Ascending κ β floor → Bool
  | .nil => true
  | .cons .. => false

/-- The value stored under a key. -/
def get? [DecidableEq κ] (k : κ) {floor : Option κ} : Ascending κ β floor → Option β
  | .nil => none
  | .cons key _ value rest => if k = key then some value else rest.get? k

/-- Whether a key has a value. -/
def contains [DecidableEq κ] (m : Ascending κ β floor) (k : κ) : Bool := (m.get? k).isSome

/-- Stores `v` under `k`, in place of what was there. -/
def insertAbove [DecidableLT κ] (k : κ) (v : β) {floor : Option κ} :
    Ascending κ β floor → (∀ b ∈ floor, b < k) → Ascending κ β floor
  | .nil, hk => .cons k hk v .nil
  | .cons key hkey value rest, hk =>
    if hlt : k < key then .cons k hk v (.cons key (by simpa using hlt) value rest)
    else if hgt : key < k then .cons key hkey value (rest.insertAbove k v (by simpa using hgt))
    else .cons key hkey v rest

section Order

variable [LE κ] [Std.IsLinearOrder κ] [Std.LawfulOrderLT κ]

/-- The same entries under a weaker bound. -/
def weaken {a : κ} (h : ∀ b ∈ floor, b < a) : Ascending κ β (some a) → Ascending κ β floor
  | .nil => .nil
  | .cons key hkey value rest =>
    .cons key (fun b hb => Std.lt_trans (h b hb) (hkey a rfl)) value rest

/-- Removes the entry stored under `k`. -/
def erase [DecidableEq κ] (k : κ) {floor : Option κ} :
    Ascending κ β floor → Ascending κ β floor
  | .nil => .nil
  | .cons key hkey value rest =>
    if k = key then rest.weaken hkey else .cons key hkey value (rest.erase k)

end Order

/-- Applies a function to every value. -/
def map (f : β → γ) {floor : Option κ} : Ascending κ β floor → Ascending κ γ floor
  | .nil => .nil
  | .cons key hkey value rest => .cons key hkey (f value) (rest.map f)

end Ascending

namespace OrderedMap

variable {κ β : Type} [LT κ]

/-- The map without entries. -/
def empty : OrderedMap κ β := .nil

/-- Stores `v` under `k`, in place of what was there. -/
def insert [DecidableLT κ] (m : OrderedMap κ β) (k : κ) (v : β) : OrderedMap κ β :=
  m.insertAbove k v (by simp)

/-- The map holding the listed entries, where a later one replaces an earlier one. -/
def ofList [DecidableLT κ] (entries : List (κ × β)) : OrderedMap κ β :=
  entries.foldl (fun m e => m.insert e.1 e.2) empty

end OrderedMap

/-! ### Look-ups after writing -/

namespace Ascending

variable {κ β : Type} [LT κ] [DecidableEq κ] {floor : Option κ}

@[simp] theorem get?_nil (k : κ) : (nil : Ascending κ β floor).get? k = none := rfl

@[simp] theorem get?_cons (k key : κ) (h : ∀ b ∈ floor, b < key) (v : β)
    (rest : Ascending κ β (some key)) :
    (cons key h v rest).get? k = if k = key then some v else rest.get? k := rfl

section Order

variable [LE κ] [Std.IsLinearOrder κ] [Std.LawfulOrderLT κ]

/-- A key that is not above the bound has no value. -/
theorem get?_eq_none_of_not_above {k : κ} (m : Ascending κ β floor)
    (h : ¬ ∀ b ∈ floor, b < k) : m.get? k = none := by
  induction m with
  | nil => rfl
  | cons key hkey v rest ih =>
    have hne : k ≠ key := fun e => h (e ▸ hkey)
    rw [get?_cons, if_neg hne]
    refine ih fun hlt => h fun b hb => Std.lt_trans (hkey b hb) (hlt key rfl)

theorem get?_insertAbove [DecidableLT κ] (m : Ascending κ β floor) (k : κ) (v : β)
    (hk : ∀ b ∈ floor, b < k) (k' : κ) :
    (m.insertAbove k v hk).get? k' = if k' = k then some v else m.get? k' := by
  induction m with
  | nil => rfl
  | cons key hkey value rest ih =>
    unfold insertAbove
    split
    · rfl
    · split
      · rename_i hgt
        have hne : key ≠ k := fun e => Std.lt_irrefl (e ▸ hgt)
        by_cases h : k' = key
        · subst h; simp [hne]
        · simp [h, ih]
      · rename_i hlt hgt
        have : k = key := Std.le_antisymm (Std.not_lt.1 hgt) (Std.not_lt.1 hlt)
        subst this
        by_cases h : k' = k <;> simp [h]

@[simp] theorem get?_weaken {a : κ} (h : ∀ b ∈ floor, b < a) (m : Ascending κ β (some a))
    (k : κ) : (m.weaken h).get? k = m.get? k := by
  cases m <;> rfl

theorem get?_erase (m : Ascending κ β floor) (k k' : κ) :
    (m.erase k).get? k' = if k' = k then none else m.get? k' := by
  induction m with
  | nil => simp [erase]
  | cons key hkey value rest ih =>
    unfold erase
    split
    · rename_i h
      subst h
      by_cases h' : k' = k
      · subst h'
        simpa using rest.get?_eq_none_of_not_above (by simp [Std.lt_irrefl])
      · simp [h']
    · rename_i hne
      by_cases h : k' = key
      · subst h; simp [Ne.symm hne]
      · simp [h, ih]

/-- Of two maps with the same look-ups the one's first key is not larger than the other's. -/
private theorem key_le_of_get?_eq {a b : κ} {x y : β} {ha : ∀ c ∈ floor, c < a}
    {hb : ∀ c ∈ floor, c < b} {r : Ascending κ β (some a)} {s : Ascending κ β (some b)}
    (h : ∀ k, (cons a ha x r).get? k = (cons b hb y s).get? k) : a ≤ b := by
  refine Std.not_lt.1 fun hlt => ?_
  have hne : b ≠ a := fun e => Std.lt_irrefl (e ▸ hlt)
  have hat := h b
  simp only [get?_cons, if_neg hne, if_true] at hat
  rw [r.get?_eq_none_of_not_above (by simpa using Std.not_lt.2 (Std.le_of_lt hlt))] at hat
  cases hat

/-- A map is determined by its look-ups. -/
theorem ext {m n : Ascending κ β floor} (h : ∀ k, m.get? k = n.get? k) : m = n := by
  induction m with
  | nil =>
    cases n with
    | nil => rfl
    | cons key hkey v rest => simpa using h key
  | cons key hkey v rest ih =>
    cases n with
    | nil => simpa using h key
    | cons key' hkey' v' rest' =>
      have hkk : key = key' := Std.le_antisymm (key_le_of_get?_eq h)
        (key_le_of_get?_eq fun k => (h k).symm)
      subst hkk
      have hv : v = v' := by simpa using h key
      subst hv
      congr 1
      refine ih fun k => ?_
      by_cases hk : k = key
      · subst hk
        rw [rest.get?_eq_none_of_not_above (by simp [Std.lt_irrefl]),
          rest'.get?_eq_none_of_not_above (by simp [Std.lt_irrefl])]
      · simpa [hk] using h k

end Order

end Ascending

namespace OrderedMap

variable {κ β : Type} [LT κ] [DecidableEq κ]

@[simp] theorem get?_empty (k : κ) : (empty : OrderedMap κ β).get? k = none := rfl

theorem get?_insert [DecidableLT κ] [LE κ] [Std.IsLinearOrder κ] [Std.LawfulOrderLT κ]
    (m : OrderedMap κ β) (k : κ) (v : β) (k' : κ) :
    (m.insert k v).get? k' = if k' = k then some v else m.get? k' :=
  m.get?_insertAbove k v _ k'

end OrderedMap

end Introduction
