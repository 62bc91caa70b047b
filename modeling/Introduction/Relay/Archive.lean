import Introduction.Dictionary.Codec

/-!
# Sessions at rest

An archive keeps sessions in their encoded form, so a session only survives in it if it can be read
back from bytes.
-/

namespace Introduction

/-- Encoded dictionaries by session. -/
abbrev Archive : Type := OrderedMap SessionId Bytes

namespace Archive

/-- The archive that holds nothing. -/
abbrev empty : Archive := OrderedMap.empty

/-- The dictionary stored for a session. -/
def read (a : Archive) (id : SessionId) : Except WireError (Option Dictionary) :=
  match a.get? id with
  | none => .ok none
  | some bytes => (Dictionary.decode bytes bytes.length).map some

/-- Stores a dictionary for a session, in place of what was there. -/
def write (a : Archive) (id : SessionId) (d : Dictionary) : Archive :=
  OrderedMap.insert a id d.encode

/-- Deletes what is stored for a session. -/
def delete (a : Archive) (id : SessionId) : Archive := a.erase id

end Archive

end Introduction
