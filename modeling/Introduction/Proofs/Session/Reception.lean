import Introduction.Proofs.Session.Step

/-!
# What becomes of a message

`receive_verdict` says in full how a session answers a message, for every session and every
dictionary.  There are five verdicts.  Which of them applies is said by the entries of the
dictionary, the state, and the identifier and channels of the session; what it means is said by the
fields of the session afterwards, the messages sent and the events published.  Neither mentions how
a message is read or how a session is advanced, so that the statement can be set beside the rules of
an introduction line by line.

The proof goes through the steps of a session: each step is the carrying out of one verdict, and
the conditions of the verdicts exclude each other, since the entries under the three keys of a
header fix the kind and the side.
-/

namespace Introduction.Session

/-! ### What a dictionary has to hold -/

/-- A dictionary has the header of a message of a session, from the contact on a side. -/
structure Addressed (s : Session) (side : Side) (kind : Message.Kind) (d : Dictionary) : Prop where
  /-- The number of the kind. -/
  type : d.get? Key.type = some (.int kind.number)
  /-- The identifier of the session. -/
  session : d.get? Key.session = some (.raw s.id.bytes)
  /-- The channel of the contact. -/
  channel : d.get? Key.channel = some (.raw (s.contact side).channel.bytes)

/-- What a response says beside its header. -/
structure Reply where
  /-- Names the response. -/
  message : MessageId
  /-- When it was sent. -/
  time : Int64
  /-- Whether the contact accepts. -/
  accept : Bool

/-- A dictionary holds the entries of a reply, sent at a time that is not negative. -/
structure Reply.In (a : Reply) (d : Dictionary) : Prop where
  message : d.get? Key.message = some (.raw a.message.bytes)
  time : d.get? Key.time = some (.int a.time)
  time_nonneg : 0 ≤ a.time.toInt
  accept : d.get? Key.accept = some (.bool a.accept)

/-- A dictionary is a well-formed response of the contact on a side. -/
def IsResponse (s : Session) (side : Side) (a : Reply) (d : Dictionary) : Prop :=
  s.Addressed side .response d ∧ a.In d

/-- A dictionary is a well-formed ack of the contact on a side. -/
def IsAck (s : Session) (side : Side) (d : Dictionary) : Prop :=
  s.Addressed side .ack d ∧ ∃ message : MessageId, d.get? Key.message = some (.raw message.bytes)

/-- A session accepts a dictionary: it is a response in a state that awaits one of its sender or
that is final, or an ack in a state that awaits one of its sender. -/
inductive Acceptable (s : Session) (d : Dictionary) : Prop
  /-- A response, while it is awaited or after the end. -/
  | response {side : Side} {a : Reply} (is : s.IsResponse side a d)
      (expected : s.state = .awaitResponses ∨ s.state = .awaitResponse side ∨ s.state = .finished)
  /-- An ack, while it is awaited. -/
  | ack {side : Side} (is : s.IsAck side d)
      (expected : s.state = .awaitAcks ∨ s.state = .awaitAck side)

/-! ### What may become of it -/

/-- What becomes of a message. -/
inductive Verdict where
  /-- It is ignored, the introduction having been given up. -/
  | ignored
  /-- The introduction is given up over it. -/
  | givenUp
  /-- It is a response, which is recorded and passed on. -/
  | response (side : Side) (a : Reply)
  /-- It is an ack, which is passed on. -/
  | ack (side : Side)
  /-- It is a response after the end, which is recorded if none was. -/
  | late (side : Side) (a : Reply)

/-- When a verdict is passed on a message. -/
def Verdict.Applies (s : Session) (d : Dictionary) : Verdict → Prop
  | .ignored => s.state = .aborted
  | .givenUp => s.state ≠ .aborted ∧ ¬ s.Acceptable d
  | .response side a =>
    s.IsResponse side a d ∧ (s.state = .awaitResponses ∨ s.state = .awaitResponse side)
  | .ack side => s.IsAck side d ∧ (s.state = .awaitAcks ∨ s.state = .awaitAck side)
  | .late side a => s.IsResponse side a d ∧ s.state = .finished

/-- Where an accepted message from a side leads before the end: the two responses in either order,
then the two acks in either order. -/
inductive Advances : State → Message.Kind → Side → State → Prop
  | firstResponse (side : Side) :
      Advances .awaitResponses .response side (.awaitResponse side.other)
  | secondResponse (side : Side) : Advances (.awaitResponse side) .response side .awaitAcks
  | firstAck (side : Side) : Advances .awaitAcks .ack side (.awaitAck side.other)
  | secondAck (side : Side) : Advances (.awaitAck side) .ack side .finished

/-- A session has become another one: its state and its recorded responses are given, all else is
what it was. -/
structure Becomes (s : Session) (state : State) (responses : Side → Option MessageId)
    (t : Session) : Prop where
  id : t.id = s.id
  first : t.first = s.first
  second : t.second = s.second
  state : t.state = state
  response : ∀ side, t.response side = responses side

/-- An envelope tells the contact on a side that the introduction is given up: it holds the three
entries of a header and no other. -/
structure IsAbortTo (s : Session) (side : Side) (e : Envelope) : Prop where
  channel : e.channel = (s.contact side).channel
  addressed : s.Addressed side .abort e.message
  rest : ∀ key, key ≠ Key.type → key ≠ Key.session → key ≠ Key.channel → e.message.get? key = none

/-- An envelope passes a message of the contact on a side on to the other contact: the entry of the
channel is replaced and every other entry is kept. -/
structure PassesOn (s : Session) (side : Side) (d : Dictionary) (e : Envelope) : Prop where
  channel : e.channel = (s.contact side.other).channel
  replaced : e.message.get? Key.channel = some (.raw (s.contact side.other).channel.bytes)
  kept : ∀ key, key ≠ Key.channel → e.message.get? key = d.get? key

/-- The event that the contact on a side has replied. -/
def replyEvent (s : Session) (side : Side) (a : Reply) : Event :=
  { contact := (s.contact side).id
    session := s.id
    message := a.message
    time := UInt64.ofNat a.time.toInt.toNat
    author := (s.contact side).author
    name := (s.contact side.other).name
    accept := a.accept }

/-- What a verdict means: the session afterwards, what is sent and what is published. -/
def Verdict.Means (s : Session) (d : Dictionary) (t : Session) (envelopes : List Envelope)
    (events : List Event) : Verdict → Prop
  | .ignored => t = s ∧ envelopes = [] ∧ events = []
  | .givenUp =>
    s.Becomes .aborted s.response t ∧
      (∃ e e', envelopes = [e, e'] ∧ s.IsAbortTo .first e ∧ s.IsAbortTo .second e') ∧ events = []
  | .response side a =>
    (∃ next, Advances s.state .response side next ∧
        s.Becomes next (fun n => if n = side then some a.message else s.response n) t) ∧
      (∃ e, envelopes = [e] ∧ s.PassesOn side d e) ∧ events = [s.replyEvent side a]
  | .ack side =>
    (∃ next, Advances s.state .ack side next ∧ s.Becomes next s.response t) ∧
      (∃ e, envelopes = [e] ∧ s.PassesOn side d e) ∧ events = []
  | .late side a =>
    s.Becomes s.state
        (fun n => if n = side then (s.response n).or (some a.message) else s.response n) t ∧
      envelopes = [] ∧ events = [s.replyEvent side a]

variable {s : Session} {d : Dictionary}

/-! ### Messages by their entries -/

/-- The entries of a header are what reading a header looks for. -/
lemma addressed_iff {side : Side} {kind : Message.Kind} :
    s.Addressed side kind d ↔
      Message.Header.ofDictionary d = .ok ⟨kind, s.id, (s.contact side).channel⟩ := by
  rw [Message.Header.ofDictionary_eq_ok_iff]
  exact ⟨fun h => ⟨h.type, h.session, h.channel⟩, fun ⟨ht, hs, hc⟩ => ⟨ht, hs, hc⟩⟩

/-- A dictionary is addressed from one side and as one kind. -/
lemma Addressed.unique {side side' : Side} {kind kind' : Message.Kind}
    (h : s.Addressed side kind d) (h' : s.Addressed side' kind' d) :
    side = side' ∧ kind = kind' := by
  have heq := Except.ok.inj ((addressed_iff.mp h).symm.trans (addressed_iff.mp h'))
  injection heq with hkind _ hchannel
  have hside : some side = some side' := by
    rw [← s.sideOf_contact side, hchannel, s.sideOf_contact]
  exact ⟨Option.some.inj hside, hkind⟩

/-- A dictionary holds one reply. -/
lemma Reply.In.unique {a b : Reply} (h : a.In d) (h' : b.In d) : a = b := by
  obtain ⟨message, time, accept⟩ := a
  obtain ⟨message', time', accept'⟩ := b
  have hmessage : message = message' :=
    Identifier.ext (Value.raw.inj (Option.some.inj (h.message.symm.trans h'.message)))
  have htime : time = time' := Value.int.inj (Option.some.inj (h.time.symm.trans h'.time))
  have haccept : accept = accept' :=
    Value.bool.inj (Option.some.inj (h.accept.symm.trans h'.accept))
  rw [hmessage, htime, haccept]

/-- The response that a reply stands for. -/
def Reply.response (a : Reply) (s : Session) (side : Side) : Message.Response :=
  ⟨s.id, (s.contact side).channel, a.message, UInt64.ofNat a.time.toInt.toNat, a.accept⟩

/-- A well-formed response is heard. -/
lemma IsResponse.hears {side : Side} {a : Reply} (h : s.IsResponse side a d) :
    s.Hears side d (.response (a.response s side)) :=
  ⟨Message.ofDictionary_eq_ok_iff.mpr (Message.Response.ofDictionary_eq_ok_iff.mpr
    ⟨addressed_iff.mp h.1, ⟨a.time, h.2.time, h.2.time_nonneg, rfl⟩, h.2.message, h.2.accept⟩),
    rfl, rfl⟩

/-- A response that is heard is well-formed. -/
lemma Hears.isResponse {side : Side} {r : Message.Response} (h : s.Hears side d (.response r)) :
    ∃ a : Reply, s.IsResponse side a d ∧ r = a.response s side := by
  obtain ⟨_, ⟨time, htime, hnonneg, hr⟩, hmessage, haccept⟩ :=
    Message.Response.ofDictionary_eq_ok_iff.mp (Message.ofDictionary_eq_ok_iff.mp h.reads)
  refine ⟨⟨r.message, time, r.accept⟩,
    ⟨addressed_iff.mpr h.header_eq, hmessage, htime, hnonneg, haccept⟩, ?_⟩
  have hsession : r.session = s.id := h.session_eq
  have hchannel : r.channel = (s.contact side).channel := h.channel_eq
  rw [Reply.response, ← hsession, ← hchannel, hr]

/-- An ack is well-formed exactly if it is heard. -/
lemma isAck_iff {side : Side} : s.IsAck side d ↔ ∃ a, s.Hears side d (.ack a) := by
  constructor
  · rintro ⟨haddressed, message, hmessage⟩
    exact ⟨⟨s.id, (s.contact side).channel, message⟩, Message.ofDictionary_eq_ok_iff.mpr
      (Message.Ack.ofDictionary_eq_ok_iff.mpr ⟨addressed_iff.mp haddressed, hmessage⟩), rfl, rfl⟩
  · rintro ⟨a, h⟩
    exact ⟨addressed_iff.mpr h.header_eq, a.message, (Message.Ack.ofDictionary_eq_ok_iff.mp
      (Message.ofDictionary_eq_ok_iff.mp h.reads)).2⟩

/-- What is acceptable is what some side is accepted with. -/
lemma Acceptable.accepts (h : s.Acceptable d) : ∃ side m, s.Accepts side d m := by
  cases h with
  | response is expected => exact ⟨_, _, is.hears, expected⟩
  | ack is expected =>
    obtain ⟨a, ha⟩ := isAck_iff.mp is
    exact ⟨_, _, ha, expected⟩

/-! ### The conditions exclude each other -/

/-- What a verdict says about the state and the message: the introduction was given up, or the
message is not acceptable, or neither. -/
lemma Verdict.Applies.cases {v : Verdict} (h : v.Applies s d) :
    v = .ignored ∧ s.state = .aborted ∨ v = .givenUp ∧ s.state ≠ .aborted ∧ ¬ s.Acceptable d ∨
      s.state ≠ .aborted ∧ s.Acceptable d := by
  cases v with
  | ignored => exact .inl ⟨rfl, h⟩
  | givenUp => exact .inr (.inl ⟨rfl, h⟩)
  | response side a =>
    refine .inr (.inr ⟨?_, .response h.1 (h.2.imp_right .inl)⟩)
    rcases h.2 with hstate | hstate <;> simp [hstate]
  | ack side =>
    refine .inr (.inr ⟨?_, .ack h.1 h.2⟩)
    rcases h.2 with hstate | hstate <;> simp [hstate]
  | late side a => exact .inr (.inr ⟨by simp [h.2], .response h.1 (.inr (.inr h.2))⟩)

/-- An acceptable message is accepted in one way: its header fixes the side and the kind, and the
state tells a response before the end from one after it. -/
lemma Verdict.Applies.unique_of_acceptable {v w : Verdict} (hstate : s.state ≠ .aborted)
    (hacceptable : s.Acceptable d) (h : v.Applies s d) (h' : w.Applies s d) : v = w := by
  cases v with
  | ignored => exact absurd h hstate
  | givenUp => exact absurd hacceptable h.2
  | response side a =>
    cases w with
    | ignored => exact absurd h' hstate
    | givenUp => exact absurd hacceptable h'.2
    | response side' a' => rw [(h.1.1.unique h'.1.1).1, h.1.2.unique h'.1.2]
    | ack side' => exact absurd (h.1.1.unique h'.1.1).2 (by decide)
    | late side' a' => rcases h.2 with hs | hs <;> cases hs.symm.trans h'.2
  | ack side =>
    cases w with
    | ignored => exact absurd h' hstate
    | givenUp => exact absurd hacceptable h'.2
    | response side' a' => exact absurd (h.1.1.unique h'.1.1).2 (by decide)
    | ack side' => rw [(h.1.1.unique h'.1.1).1]
    | late side' a' => exact absurd (h.1.1.unique h'.1.1).2 (by decide)
  | late side a =>
    cases w with
    | ignored => exact absurd h' hstate
    | givenUp => exact absurd hacceptable h'.2
    | response side' a' => rcases h'.2 with hs | hs <;> cases hs.symm.trans h.2
    | ack side' => exact absurd (h.1.1.unique h'.1.1).2 (by decide)
    | late side' a' => rw [(h.1.1.unique h'.1.1).1, h.1.2.unique h'.1.2]

/-- One verdict is passed on a message. -/
lemma Verdict.Applies.unique {v w : Verdict} (h : v.Applies s d) (h' : w.Applies s d) : v = w := by
  rcases h.cases with ⟨rfl, hs⟩ | ⟨rfl, hs, hno⟩ | ⟨hs, hacceptable⟩
  · rcases h'.cases with ⟨rfl, -⟩ | ⟨-, hs', -⟩ | ⟨hs', -⟩
    · rfl
    · exact absurd hs hs'
    · exact absurd hs hs'
  · rcases h'.cases with ⟨-, hs'⟩ | ⟨rfl, -⟩ | ⟨-, hacceptable⟩
    · exact absurd hs' hs
    · rfl
    · exact absurd hacceptable hno
  · exact h.unique_of_acceptable hs hacceptable h'

/-! ### What the steps do -/

/-- Entering a state changes the state only. -/
lemma becomes_enter (s : Session) (state : State) :
    s.Becomes state s.response (s.enter state) :=
  ⟨rfl, rfl, rfl, rfl, fun side => by cases side <;> rfl⟩

/-- Recording a response changes the response of that side only. -/
lemma becomes_record (s : Session) (message : MessageId) (side : Side) :
    s.Becomes s.state (fun n => if n = side then some message else s.response n)
      (s.record message side) := by
  cases side <;> exact ⟨rfl, rfl, rfl, rfl, fun n => by cases n <;> rfl⟩

/-- Recording a first response changes nothing where there is one. -/
lemma becomes_recordFirst (s : Session) (message : MessageId) (side : Side) :
    s.Becomes s.state (fun n => if n = side then (s.response n).or (some message) else s.response n)
      (s.recordFirst message side) := by
  unfold recordFirst
  cases hresponse : s.response side with
  | none =>
    have h := s.becomes_record message side
    rw [if_pos Option.isNone_none]
    refine ⟨h.id, h.first, h.second, h.state, fun n => (h.response n).trans ?_⟩
    split_ifs with hn
    · rw [hn, hresponse]
      rfl
    · rfl
  | some message' =>
    rw [if_neg (by simp)]
    refine ⟨rfl, rfl, rfl, rfl, fun n => ?_⟩
    split_ifs with hn
    · rw [hn, hresponse]
      rfl
    · rfl

/-- The abort to the contact on a side. -/
lemma isAbortTo (s : Session) (side : Side) :
    s.IsAbortTo side (s.envelopeTo side (s.abortTo side).toDictionary) := by
  refine ⟨rfl, ⟨?_, ?_, ?_⟩, fun key htype hsession hchannel => ?_⟩ <;>
    simp only [envelopeTo, abortTo, Message.Abort.toDictionary, Message.Header.toDictionary,
      OrderedMap.get?_insert]
  · rfl
  · rfl
  · rfl
  · rw [if_neg hchannel, if_neg hsession, if_neg htype]
    rfl

/-- The envelope in which a message is passed on. -/
lemma passesOn_forward (s : Session) (side : Side) (d : Dictionary) :
    s.PassesOn side d (s.forward side d) :=
  ⟨rfl, by simp [forward, envelopeTo, OrderedMap.get?_insert],
    fun key hkey => by simp [forward, envelopeTo, OrderedMap.get?_insert, hkey]⟩

/-- A response leads where the transition table says. -/
lemma advances_answer {side : Side} (accept : Bool)
    (h : s.state = .awaitResponses ∨ s.state = .awaitResponse side) :
    Advances s.state .response side (s.state.next (.remoteAnswer side accept)) := by
  rcases h with h | h <;> rw [h]
  · exact .firstResponse side
  · rw [State.next, if_pos rfl]
    exact .secondResponse side

/-- An ack leads where the transition table says. -/
lemma advances_ack {side : Side} (h : s.state = .awaitAcks ∨ s.state = .awaitAck side) :
    Advances s.state .ack side (s.state.next (.remoteAck side)) := by
  rcases h with h | h <;> rw [h]
  · exact .firstAck side
  · rw [State.next, if_pos rfl]
    exact .secondAck side

/-- Every step over a message carries out a verdict that applies to it. -/
lemma Step.verdict {t : Session} {envelopes : List Envelope} {events : List Event}
    (h : Step s (.message d) t envelopes events) :
    ∃ v : Verdict, v.Applies s d ∧ v.Means s d t envelopes events := by
  cases h with
  | ignore hinput => exact ⟨.ignored, hinput, rfl, rfl, rfl⟩
  | giveUp hinput =>
    refine ⟨.givenUp, ⟨hinput.1, fun hacceptable => ?_⟩, s.becomes_enter .aborted,
      ⟨_, _, rfl, s.isAbortTo .first, s.isAbortTo .second⟩, rfl⟩
    obtain ⟨side, m, haccepts⟩ := hacceptable.accepts
    exact hinput.2 side m haccepts
  | @response side _ r haccepts hstate =>
    obtain ⟨a, ha, rfl⟩ := haccepts.hears.isResponse
    have hawaits : s.state = .awaitResponses ∨ s.state = .awaitResponse side := by
      rcases haccepts.expected with h | h | h
      · exact .inl h
      · exact .inr h
      · exact absurd h hstate
    refine ⟨.response side a, ⟨ha, hawaits⟩, ⟨_, advances_answer a.accept hawaits, ?_⟩,
      ⟨_, rfl, s.passesOn_forward side d⟩, rfl⟩
    have hrecord := becomes_record (s.enter (s.state.next (.remoteAnswer side a.accept))) a.message
      side
    exact ⟨hrecord.id, hrecord.first, hrecord.second, hrecord.state, fun n =>
      (hrecord.response n).trans (by cases n <;> rfl)⟩
  | @ack side _ a haccepts =>
    exact ⟨.ack side, ⟨isAck_iff.mpr ⟨a, haccepts.hears⟩, haccepts.expected⟩,
      ⟨_, advances_ack haccepts.expected, s.becomes_enter _⟩,
      ⟨_, rfl, s.passesOn_forward side d⟩, rfl⟩
  | @late side _ r haccepts hstate =>
    obtain ⟨a, ha, rfl⟩ := haccepts.hears.isResponse
    exact ⟨.late side a, ⟨ha, hstate⟩, s.becomes_recordFirst a.message side, rfl, rfl⟩

/-- No message is to be deleted for having been received. -/
lemma deletesMessage_of_receive {u : Update} (h : s.receive d = .ok u) :
    u.deletesMessage = false := by
  unfold receive rejectMalformed onResponse onAck onLateResponse rejectMalformed reject at h
  grind [abort, unchanged]

/-- A message is always answered; one verdict applies to it, and the answer is what that verdict
means.  Neither the message nor the session is to be deleted for it. -/
theorem receive_verdict (s : Session) (d : Dictionary) :
    ∃ u, s.receive d = .ok u ∧ (∃! v : Verdict, v.Applies s d) ∧
      (∀ v : Verdict, v.Applies s d → v.Means s d u.session u.envelopes u.events) ∧
        u.deletesMessage = false ∧ u.deletesSession = false := by
  obtain ⟨u, hu, hstep, hstays⟩ := s.receive_step d
  obtain ⟨v, happlies, hmeans⟩ := hstep.verdict
  refine ⟨u, hu, ⟨v, happlies, fun w hw => hw.unique happlies⟩, fun w hw => ?_,
    deletesMessage_of_receive hu, hstays⟩
  rw [hw.unique happlies]
  exact hmeans

end Introduction.Session
