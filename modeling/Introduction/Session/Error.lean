import Introduction.Session.State

/-!
# Refused inputs

Why a session cannot be made, or does not take an input.
-/

namespace Introduction.Session

/-- Why a session refuses what it is given. -/
inductive Error where
  /-- No local action has this type number. -/
  | unknownLocalAction (n : Int64)
  /-- A local action lacks what its type needs. -/
  | malformedLocalAction (cause : WireError)
  /-- The transition table allows an action that no rule takes in this state. -/
  | inconsistentState (state : State) (action : Action)
  /-- Both contacts use one channel. -/
  | sharedChannel (channel : ChannelId)
  /-- A stored session cannot be read back. -/
  | corrupt (cause : WireError)
  deriving DecidableEq

/-- The text of an error. -/
def Error.message : Error → String
  | .unknownLocalAction n => "unknown local action type " ++ toString n.toInt
  | .malformedLocalAction cause => "malformed local action: " ++ cause.message
  | .inconsistentState state action =>
    "no handler for action " ++ action.name ++ " in state " ++ state.name
  | .sharedChannel channel => "invalid session: both contacts use channel " ++ channel.short
  | .corrupt cause => "corrupt session: " ++ cause.message

end Introduction.Session
