import Introduction.Side

/-!
# Keys

The keys of messages, of local actions and of stored sessions. A key that belongs to one contact
of a session comes in two spellings, one per side.
-/

namespace Introduction.Key

/-- The type number of a message or local action. -/
def type : String := "type"

/-- The session that a message belongs to. -/
def session : String := "sessionId"

/-- The channel that a message travels on. -/
def channel : String := "groupId"

/-- The name of the contact being introduced. -/
def name : String := "name"

/-- The public key of the contact being introduced. -/
def publicKey : String := "publicKey"

/-- The introducer's note. -/
def note : String := "msg"

/-- The identifier of a response or ack. -/
def message : String := "messageId"

/-- The time of a response. -/
def time : String := "time"

/-- The answer that a response gives. -/
def accept : String := "accept"

/-- The state of a session. -/
def state : String := "state"

/-- The channel of a contact. -/
def channelOf : Side → String
  | .first => "groupId1"
  | .second => "groupId2"

/-- The name of a contact. -/
def nameOf : Side → String
  | .first => "contact1"
  | .second => "contact2"

/-- The number of a contact. -/
def contactOf : Side → String
  | .first => "contactId1"
  | .second => "contactId2"

/-- The author identifier of a contact. -/
def authorOf : Side → String
  | .first => "authorId1"
  | .second => "authorId2"

/-- The message identifier of a contact's response. -/
def responseOf : Side → String
  | .first => "response1"
  | .second => "response2"

/-- The public key of a contact, in a local action. -/
def publicKeyOf : Side → String
  | .first => "publicKey1"
  | .second => "publicKey2"

end Introduction.Key
