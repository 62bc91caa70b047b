/-!
# Message kinds

The four kinds of message of an introduction and the numbers that stand for them on the wire.
-/

namespace Introduction.Message

/-- The kinds of message, in the order of their numbers. -/
inductive Kind where
  /-- The introducer asks a contact to accept an introduction. -/
  | request
  /-- A contact accepts or declines. -/
  | response
  /-- A contact confirms that it has seen the other contact's response. -/
  | ack
  /-- The introduction is given up. -/
  | abort
  deriving DecidableEq, Repr

namespace Kind

/-- The number of a kind on the wire. -/
def number : Kind → Int64
  | .request => 1
  | .response => 2
  | .ack => 3
  | .abort => 4

/-- The kind with a number. -/
def ofNumber? (n : Int64) : Option Kind :=
  if n = 1 then some .request
  else if n = 2 then some .response
  else if n = 3 then some .ack
  else if n = 4 then some .abort
  else none

/-- The name of a kind in log lines and error texts. -/
def name : Kind → String
  | .request => "request"
  | .response => "response"
  | .ack => "ack"
  | .abort => "abort"

/-- The label of a kind in diagnostics. -/
def label : Kind → String
  | .request => "Request"
  | .response => "Response"
  | .ack => "Ack"
  | .abort => "Abort"

@[simp] theorem ofNumber?_number (k : Kind) : ofNumber? k.number = some k := by
  cases k <;> decide

end Kind

end Introduction.Message
