import Introduction.Message.Basic
import Introduction.Session.Error

/-!
# Local actions

What the user of the introducer can do to a session: start the introduction, with the public key of
either contact, or give it up. In dictionary form an action has the type number of the message it
makes the introducer send.
-/

namespace Introduction.Session

/-- An action of the introducer's user. -/
inductive LocalAction where
  /-- Introduces the contacts to each other. -/
  | request (publicKey₁ publicKey₂ : Bytes) (note : Option String)
  /-- Gives the introduction up. -/
  | abort
  deriving DecidableEq

namespace LocalAction

/-- Reads the fields of a request. -/
def readRequest (d : Dictionary) : Except WireError LocalAction := do
  let publicKey₁ ← d.getRaw (Key.publicKeyOf .first)
  let publicKey₂ ← d.getRaw (Key.publicKeyOf .second)
  let note ← d.getString? Key.note
  return .request publicKey₁ publicKey₂ note

/-- Reads a local action. -/
def ofDictionary (d : Dictionary) : Except Error LocalAction :=
  match d.getInt Key.type with
  | .error e => .error (.malformedLocalAction e)
  | .ok number =>
    match Message.Kind.ofNumber? number with
    | some .request => (readRequest d).mapError .malformedLocalAction
    | some .abort => .ok .abort
    | _ => .error (.unknownLocalAction number)

/-- The dictionary form of a local action. -/
def toDictionary : LocalAction → Dictionary
  | .request publicKey₁ publicKey₂ note =>
    Dictionary.empty
      |>.insert Key.type (.int Message.Kind.request.number)
      |>.insert (Key.publicKeyOf .first) (.raw publicKey₁)
      |>.insert (Key.publicKeyOf .second) (.raw publicKey₂)
      |>.insertSome Key.note (note.map .string)
  | .abort => Dictionary.empty.insert Key.type (.int Message.Kind.abort.number)

/-- The name of a local action. -/
def name : LocalAction → String
  | .request .. => "request"
  | .abort => "abort"

end LocalAction

end Introduction.Session
