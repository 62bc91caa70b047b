import Introduction.Cbor.Item
import Mathlib.Data.List.Forall2
import Mathlib.Logic.Relation

/-!
# The order of map entries

A map lists its entries in some order, which has no meaning.  Two items are `Reordered` if one is
got from the other by exchanging neighbouring entries of maps, at any depth and any number of times.
Members of arrays and values of entries can be reordered in place (`Reordered.array`,
`Reordered.map`), and a map can list its entries in any order (`Reordered.of_perm`).

Items contain lists of items, so induction on an item gives the hypothesis for every member of such
a list (`Item.induction`).
-/

namespace Introduction.Cbor.Item

/-- Induction on items: what holds of all members of an array, of the keys and values of a map and
of the content of a tag has to hold of the whole. -/
@[elab_as_elim, induction_eliminator]
theorem induction {P : Item → Prop} (integer : ∀ n, P (.integer n))
    (bytes : ∀ content, P (.bytes content)) (float : ∀ bits, P (.float bits))
    (text : ∀ content, P (.text content)) (bool : ∀ b, P (.bool b)) (null : P .null)
    (tag : ∀ number content, P content → P (.tag number content))
    (array : ∀ items, (∀ item ∈ items, P item) → P (.array items))
    (map : ∀ entries, (∀ entry ∈ entries, P entry.1 ∧ P entry.2) → P (.map entries)) :
    (item : Item) → P item
  | .integer n => integer n
  | .bytes content => bytes content
  | .float bits => float bits
  | .text content => text content
  | .bool b => bool b
  | .null => null
  | .tag number content =>
    tag number content (induction integer bytes float text bool null tag array map content)
  | .array items => array items fun item _ =>
      induction integer bytes float text bool null tag array map item
  | .map entries => map entries fun entry _ =>
      ⟨induction integer bytes float text bool null tag array map entry.1,
        induction integer bytes float text bool null tag array map entry.2⟩
  termination_by item => sizeOf item
  decreasing_by
    · decreasing_tactic
    · have := List.sizeOf_lt_of_mem ‹item ∈ items›
      rw [Item.array.sizeOf_spec]
      omega
    · have := List.sizeOf_lt_of_mem ‹entry ∈ entries›
      have : sizeOf entry = 1 + sizeOf entry.1 + sizeOf entry.2 := rfl
      rw [Item.map.sizeOf_spec]
      omega
    · have := List.sizeOf_lt_of_mem ‹entry ∈ entries›
      have : sizeOf entry = 1 + sizeOf entry.1 + sizeOf entry.2 := rfl
      rw [Item.map.sizeOf_spec]
      omega

/-! ### Exchanging entries -/

/-- Two items differ in the order of two neighbouring entries of one map, which is the item itself
or stands anywhere inside it. -/
inductive Swapped : Item → Item → Prop
  | entries (front : List (Item × Item)) (entry entry' : Item × Item)
      (back : List (Item × Item)) :
      Swapped (.map (front ++ entry :: entry' :: back)) (.map (front ++ entry' :: entry :: back))
  | inKey (front : List (Item × Item)) {key key' : Item} (value : Item)
      (back : List (Item × Item)) (h : Swapped key key') :
      Swapped (.map (front ++ (key, value) :: back)) (.map (front ++ (key', value) :: back))
  | inValue (front : List (Item × Item)) (key : Item) {value value' : Item}
      (back : List (Item × Item)) (h : Swapped value value') :
      Swapped (.map (front ++ (key, value) :: back)) (.map (front ++ (key, value') :: back))
  | inArray (front : List Item) {item item' : Item} (back : List Item) (h : Swapped item item') :
      Swapped (.array (front ++ item :: back)) (.array (front ++ item' :: back))
  | inTag (number : ℕ) {content content' : Item} (h : Swapped content content') :
      Swapped (.tag number content) (.tag number content')

/-- Two items differ at most in the order of the entries of maps, at any depth. -/
def Reordered : Item → Item → Prop := Relation.ReflTransGen Swapped

/-- An exchange of neighbours is undone by exchanging them again. -/
lemma Swapped.symm {item item' : Item} (h : Swapped item item') : Swapped item' item := by
  induction h with
  | entries front entry entry' back => exact .entries front entry' entry back
  | inKey front value back _ ih => exact .inKey front value back ih
  | inValue front key back _ ih => exact .inValue front key back ih
  | inArray front back _ ih => exact .inArray front back ih
  | inTag number _ ih => exact .inTag number ih

namespace Reordered

variable {item item' item'' : Item}

lemma refl (item : Item) : Reordered item item := Relation.ReflTransGen.refl

lemma trans (h : Reordered item item') (h' : Reordered item' item'') : Reordered item item'' :=
  Relation.ReflTransGen.trans h h'

lemma symm (h : Reordered item item') : Reordered item' item := by
  induction h with
  | refl => exact refl item
  | tail _ hlast ih => exact Relation.ReflTransGen.head hlast.symm ih

/-- What a map is reordered to is a map. -/
lemma exists_map {entries : List (Item × Item)} (h : Reordered (.map entries) item) :
    ∃ entries', item = .map entries' := by
  induction h with
  | refl => exact ⟨entries, rfl⟩
  | tail _ hlast ih =>
    obtain ⟨entries', rfl⟩ := ih
    cases hlast <;> exact ⟨_, rfl⟩

/-- A member of an array can be reordered in place. -/
lemma inArray (front back : List Item) (h : Reordered item item') :
    Reordered (.array (front ++ item :: back)) (.array (front ++ item' :: back)) := by
  induction h with
  | refl => exact refl _
  | tail _ hlast ih => exact ih.tail (.inArray front back hlast)

/-- The value of an entry can be reordered in place. -/
lemma inValue (front : List (Item × Item)) (key : Item) (back : List (Item × Item))
    (h : Reordered item item') :
    Reordered (.map (front ++ (key, item) :: back)) (.map (front ++ (key, item') :: back)) := by
  induction h with
  | refl => exact refl _
  | tail _ hlast ih => exact ih.tail (.inValue front key back hlast)

/-- All members of an array can be reordered: one after the other, from the front. -/
lemma array {items items' : List Item} (h : List.Forall₂ Reordered items items') :
    Reordered (.array items) (.array items') := by
  suffices hfront : ∀ front, Reordered (.array (front ++ items)) (.array (front ++ items')) from
    hfront []
  induction h with
  | nil => exact fun front => refl _
  | @cons member member' items items' hmember _ ih =>
    intro front
    have hrest := ih (front ++ [member'])
    rw [List.append_assoc, List.append_assoc] at hrest
    exact (inArray front items hmember).trans hrest

/-- All values of a map can be reordered: one after the other, from the front. -/
lemma map {entries entries' : List (Item × Item)}
    (h : List.Forall₂ (fun e e' => e.1 = e'.1 ∧ Reordered e.2 e'.2) entries entries') :
    Reordered (.map entries) (.map entries') := by
  suffices hfront : ∀ front, Reordered (.map (front ++ entries)) (.map (front ++ entries')) from
    hfront []
  induction h with
  | nil => exact fun front => refl _
  | @cons e e' entries entries' hentry _ ih =>
    intro front
    obtain ⟨key, value⟩ := e
    obtain ⟨rfl, hvalue⟩ := hentry
    have hrest := ih (front ++ [e'])
    rw [List.append_assoc, List.append_assoc] at hrest
    exact (inValue front e'.1 entries hvalue).trans hrest

/-- A map can list its entries in any order. -/
lemma of_perm {entries entries' : List (Item × Item)} (h : entries.Perm entries') :
    Reordered (.map entries) (.map entries') := by
  suffices hfront : ∀ front, Reordered (.map (front ++ entries)) (.map (front ++ entries')) from
    hfront []
  induction h with
  | nil => exact fun front => refl _
  | cons entry _ ih =>
    intro front
    have hrest := ih (front ++ [entry])
    rwa [List.append_assoc, List.append_assoc] at hrest
  | swap entry entry' entries =>
    exact fun front => Relation.ReflTransGen.single (.entries front entry' entry entries)
  | trans _ _ ih ih' => exact fun front => (ih front).trans (ih' front)

end Reordered

end Introduction.Cbor.Item
