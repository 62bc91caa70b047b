import Introduction.Dictionary.Fields
import Introduction.Dictionary.Key
import Mathlib.Tactic.Common

/-!
# What a typed look-up finds

A typed look-up succeeds exactly when the key holds a value of the kind it asks for.  The lemmas
here say so for every getter, so that readings of whole dictionaries can be taken apart into
statements about `get?`, and `get?_insert` then says what a reading finds after a key was written.

What is read from a dictionary does not depend on entries that the reading does not ask for.  The
relation `Extends` says that a dictionary holds the entries of another one, and possibly more.
-/

namespace Introduction

/-- A computation in sequence succeeds when both parts do. -/
lemma Except.bind_eq_ok_iff {ε α β : Type} {x : Except ε α} {f : α → Except ε β} {b : β} :
    (x >>= f) = .ok b ↔ ∃ a, x = .ok a ∧ f a = .ok b := by
  cases x with
  | error e =>
    constructor
    · intro h
      cases h
    · rintro ⟨a, h, -⟩
      cases h
  | ok a =>
    constructor
    · intro h
      exact ⟨a, rfl, h⟩
    · rintro ⟨a', h, hf⟩
      cases h
      exact hf

/-- Checking the elements of a list succeeds when every check does. -/
lemma Except.forM_eq_ok_iff {ε α : Type} {check : α → Except ε Unit} {xs : List α} :
    xs.forM check = .ok () ↔ ∀ x ∈ xs, check x = .ok () := by
  induction xs with
  | nil => exact iff_of_true rfl nofun
  | cons x xs ih =>
    change (check x >>= fun _ => xs.forM check) = .ok () ↔ _
    rw [Except.bind_eq_ok_iff, List.forall_mem_cons, ih]
    exact ⟨fun ⟨_, hx, hxs⟩ => ⟨hx, hxs⟩, fun ⟨hx, hxs⟩ => ⟨(), hx, hxs⟩⟩

/-- A returned value is the value of the computation. -/
lemma Except.pure_eq_ok_iff {ε α : Type} {a b : α} : (pure a : Except ε α) = .ok b ↔ a = b :=
  ⟨fun h => Except.ok.inj h, fun h => h ▸ rfl⟩

namespace Identifier

variable {kind : Identifier.Kind}

/-- The bytes of an identifier read as that identifier and no other bytes do. -/
lemma ofBytes_eq_ok_iff {bytes : Bytes} {id : Identifier kind} :
    ofBytes bytes = .ok id ↔ bytes = id.bytes := by
  unfold ofBytes ofBytes?
  constructor
  · intro h
    split at h
    · rename_i id' hid
      cases h
      split at hid
      · cases hid
        rfl
      · cases hid
    · cases h
  · rintro rfl
    simp [id.length_bytes]

end Identifier

namespace Dictionary

variable {d : Dictionary} {key : String}

/-- An integer is found under a key that holds one. -/
lemma getInt_eq_ok_iff {n : Int64} : d.getInt key = .ok n ↔ d.get? key = some (.int n) := by
  unfold getInt require
  rcases h : d.get? key with _ | (_ | _ | _ | _ | _ | _ | _) <;> simp

/-- A text is found under a key that holds one. -/
lemma getString_eq_ok_iff {s : String} :
    d.getString key = .ok s ↔ d.get? key = some (.string s) := by
  unfold getString require
  rcases h : d.get? key with _ | (_ | _ | _ | _ | _ | _ | _) <;> simp

/-- A byte string is found under a key that holds one. -/
lemma getRaw_eq_ok_iff {bytes : Bytes} :
    d.getRaw key = .ok bytes ↔ d.get? key = some (.raw bytes) := by
  unfold getRaw require
  rcases h : d.get? key with _ | (_ | _ | _ | _ | _ | _ | _) <;> simp

/-- A truth value is found under a key that holds one. -/
lemma getBool_eq_ok_iff {b : Bool} : d.getBool key = .ok b ↔ d.get? key = some (.bool b) := by
  unfold getBool require
  rcases h : d.get? key with _ | (_ | _ | _ | _ | _ | _ | _) <;> simp

/-- An identifier is found under a key that holds its bytes. -/
lemma getId_eq_ok_iff {kind : Identifier.Kind} {id : Identifier kind} :
    d.getId key = .ok id ↔ d.get? key = some (.raw id.bytes) := by
  unfold getId
  simp only [Except.bind_eq_ok_iff, getRaw_eq_ok_iff, Identifier.ofBytes_eq_ok_iff]
  constructor
  · rintro ⟨bytes, h, rfl⟩
    exact h
  · intro h
    exact ⟨_, h, rfl⟩

/-- A text that may be absent is found under a key that holds a text or nothing. -/
lemma getString?_eq_ok_iff {s : Option String} :
    d.getString? key = .ok s ↔ d.get? key = s.map .string := by
  unfold getString? getString require Ascending.contains
  rcases h : d.get? key with _ | (_ | _ | _ | _ | _ | _ | _) <;> cases s <;> simp [Except.map]

/-- A byte string that may be absent is found under a key that holds one or nothing. -/
lemma getRaw?_eq_ok_iff {bytes : Option Bytes} :
    d.getRaw? key = .ok bytes ↔ d.get? key = bytes.map .raw := by
  unfold getRaw? getRaw require Ascending.contains
  rcases h : d.get? key with _ | (_ | _ | _ | _ | _ | _ | _) <;> cases bytes <;> simp [Except.map]

/-- An identifier that may be absent is found under a key that holds its bytes or nothing. -/
lemma getId?_eq_ok_iff {kind : Identifier.Kind} {id : Option (Identifier kind)} :
    d.getId? key = .ok id ↔ d.get? key = id.map (.raw ·.bytes) := by
  unfold getId?
  simp only [Except.bind_eq_ok_iff, getRaw?_eq_ok_iff]
  constructor
  · rintro ⟨bytes, h, hid⟩
    cases bytes with
    | none =>
      cases hid
      exact h
    | some bytes =>
      obtain ⟨id', hid', hret⟩ := Except.bind_eq_ok_iff.mp hid
      cases hret
      rw [h, Identifier.ofBytes_eq_ok_iff.mp hid']
      rfl
  · intro h
    refine ⟨id.map (·.bytes), by rw [h]; cases id <;> rfl, ?_⟩
    cases id with
    | none => rfl
    | some id =>
      exact Except.bind_eq_ok_iff.mpr ⟨id, Identifier.ofBytes_eq_ok_iff.mpr rfl, rfl⟩

/-- What a key holds after an entry that may be absent was written. -/
lemma get?_insertSome (value : Option Value) (key' : String) :
    (d.insertSome key value).get? key' =
      if key' = key then value.or (d.get? key') else d.get? key' := by
  cases value with
  | none => simp [insertSome]
  | some value => simp [insertSome, OrderedMap.get?_insert]

/-! ### Dictionaries that hold the entries of others -/

/-- A dictionary holds every entry of another one. -/
def Extends (d e : Dictionary) : Prop := ∀ key value, e.get? key = some value →
  d.get? key = some value

variable {e : Dictionary}

/-- Every dictionary holds its own entries. -/
lemma Extends.refl (d : Dictionary) : d.Extends d := fun _ _ h => h

/-- There is nothing to hold of the empty dictionary. -/
lemma extends_empty (d : Dictionary) : d.Extends empty := fun _ _ h => nomatch h

/-- An entry that the larger dictionary has can be added to the smaller one. -/
lemma Extends.insert (h : d.Extends e) {value : Value} (hkey : d.get? key = some value) :
    d.Extends (e.insert key value) := by
  intro key' value' hget
  rw [OrderedMap.get?_insert] at hget
  split_ifs at hget with heq
  · rw [heq, hkey, hget]
  · exact h key' value' hget

/-- An entry that may be absent can be added to the smaller dictionary if the larger one has it. -/
lemma Extends.insertSome (h : d.Extends e) {value : Option Value}
    (hkey : d.get? key = value) : d.Extends (e.insertSome key value) := by
  cases value with
  | none => exact h
  | some value => exact h.insert hkey

/-- A key that is present in both dictionaries or in neither has the same value in both. -/
lemma Extends.get?_eq (h : d.Extends e) (hkey : d.contains key = e.contains key) :
    d.get? key = e.get? key := by
  unfold Ascending.contains at hkey
  cases hget : e.get? key with
  | some value => exact h key value hget
  | none =>
    rw [hget, Option.isSome_none, Option.isSome_eq_false_iff] at hkey
    exact Option.isNone_iff_eq_none.mp hkey

/-- A reader and a writer of records belong together.  A record is read back from its written form,
with what the form cannot hold replaced by what is kept of it; and a record is read from exactly
those dictionaries that hold the entries of its written form and have the optional keys that it
has. -/
structure Spells {α ε : Type} (read : Dictionary → Except ε α) (write : α → Dictionary)
    (kept : α → α) (optional : α → List String) : Prop where
  /-- A record is read back as what is kept of it. -/
  read_write : ∀ x, read (write x) = .ok (kept x)
  /-- A record is read from the dictionaries that hold its entries. -/
  read_iff : ∀ d x, read d = .ok x ↔
    kept x = x ∧ d.Extends (write x) ∧ ∀ key ∈ optional x, d.contains key = (write x).contains key

/-- A record that is kept whole is read back, since its written form holds its own entries. -/
lemma spells_of_read_iff {α ε : Type} {read : Dictionary → Except ε α} {write : α → Dictionary}
    {optional : α → List String}
    (h : ∀ d x, read d = .ok x ↔
      d.Extends (write x) ∧ ∀ key ∈ optional x, d.contains key = (write x).contains key) :
    Spells read write id optional where
  read_write x := (h _ x).mpr ⟨.refl _, fun _ _ => rfl⟩
  read_iff d x := (h d x).trans (and_iff_right rfl).symm

end Dictionary

end Introduction
