import Introduction.WireError

/-!
# Typed look-ups

Reading a key at the kind of value it has to hold. An absent key and a value of another kind are
different errors, and an optional key may be absent but not of another kind.
-/

namespace Introduction

/-- The identifier with the given bytes, or the error that their number is wrong. -/
def Identifier.ofBytes {kind : Identifier.Kind} (bytes : Bytes) :
    Except WireError (Identifier kind) :=
  match ofBytes? bytes with
  | some id => .ok id
  | none => .error (.invalidLength kind bytes.length)

namespace Dictionary

/-- The value under a key that has to be present. -/
def require (d : Dictionary) (key : String) : Except WireError Value :=
  match d.get? key with
  | some value => .ok value
  | none => .error (.missingKey key)

/-- The integer under a key. -/
def getInt (d : Dictionary) (key : String) : Except WireError Int64 :=
  match d.require key with
  | .error e => .error e
  | .ok (.int n) => .ok n
  | .ok other => .error (.wrongKind key .int other.kind)

/-- The text under a key. -/
def getString (d : Dictionary) (key : String) : Except WireError String :=
  match d.require key with
  | .error e => .error e
  | .ok (.string s) => .ok s
  | .ok other => .error (.wrongKind key .string other.kind)

/-- The byte string under a key. -/
def getRaw (d : Dictionary) (key : String) : Except WireError Bytes :=
  match d.require key with
  | .error e => .error e
  | .ok (.raw bytes) => .ok bytes
  | .ok other => .error (.wrongKind key .raw other.kind)

/-- The truth value under a key. -/
def getBool (d : Dictionary) (key : String) : Except WireError Bool :=
  match d.require key with
  | .error e => .error e
  | .ok (.bool b) => .ok b
  | .ok other => .error (.wrongKind key .bool other.kind)

/-- The dictionary under a key. -/
def getDictionary (d : Dictionary) (key : String) : Except WireError Dictionary :=
  match d.require key with
  | .error e => .error e
  | .ok (.dictionary entries) => .ok entries
  | .ok other => .error (.wrongKind key .dictionary other.kind)

/-- The text under a key that may be absent. -/
def getString? (d : Dictionary) (key : String) : Except WireError (Option String) :=
  if d.contains key then (d.getString key).map some else .ok none

/-- The byte string under a key that may be absent. -/
def getRaw? (d : Dictionary) (key : String) : Except WireError (Option Bytes) :=
  if d.contains key then (d.getRaw key).map some else .ok none

/-- The identifier under a key. -/
def getId {kind : Identifier.Kind} (d : Dictionary) (key : String) :
    Except WireError (Identifier kind) := do
  Identifier.ofBytes (← d.getRaw key)

/-- The identifier under a key that may be absent. -/
def getId? {kind : Identifier.Kind} (d : Dictionary) (key : String) :
    Except WireError (Option (Identifier kind)) := do
  match ← d.getRaw? key with
  | none => return none
  | some bytes => return some (← Identifier.ofBytes bytes)

end Dictionary

end Introduction
