import Introduction.Proofs.Message.Reading
import Introduction.Session.Rules

/-!
# One step of a session

`Step s input t envelopes events` says everything that a session can do with an input: `t` is the
session afterwards, and the lists are what it sends and publishes.  There are six ways.  A message
is passed on or recorded when it is *accepted*: it reads as a message of this session from the
channel of a side, and the state has a place for a message of its kind from that side.  Whatever is
neither accepted nor ignored gives the introduction up.

`answer_step` says that every input is answered by one of these steps, so that what follows about
sessions is shown by cases over them.
-/

namespace Introduction.Session

/-- What a session is given. -/
inductive Input where
  /-- An action of the introducer. -/
  | act (action : LocalAction)
  /-- A message of a contact. -/
  | message (d : Dictionary)
  /-- The news that a message was delivered. -/
  | delivered (d : Dictionary)

/-- Answers an input. -/
def answer (s : Session) : Input → Except Error Update
  | .act action => s.perform action
  | .message d => s.receive d
  | .delivered d => s.delivered d

/-! ### Messages that a session accepts -/

/-- A dictionary reads as a message of this session from the contact on a side. -/
structure Hears (s : Session) (side : Side) (d : Dictionary) (m : Message) : Prop where
  /-- The dictionary reads as the message. -/
  reads : Message.ofDictionary d = .ok m
  /-- The message belongs to the session. -/
  session_eq : m.session = s.id
  /-- It travelled on the channel of the contact. -/
  channel_eq : m.channel = (s.contact side).channel

/-- Whether a state has a place for a message of a kind from a side. -/
def State.expects (state : State) (side : Side) : Message.Kind → Prop
  | .response => state = .awaitResponses ∨ state = .awaitResponse side ∨ state = .finished
  | .ack => state = .awaitAcks ∨ state = .awaitAck side
  | .request => False
  | .abort => False

/-- A session accepts a dictionary as a message from the contact on a side. -/
structure Accepts (s : Session) (side : Side) (d : Dictionary) (m : Message) : Prop where
  /-- It is a message of this session from the contact. -/
  hears : s.Hears side d m
  /-- The state has a place for it. -/
  expected : s.state.expects side m.kind

/-- The header of a message that a session hears. -/
lemma Hears.header_eq {s : Session} {side : Side} {d : Dictionary} {m : Message}
    (h : s.Hears side d m) :
    Message.Header.ofDictionary d = .ok ⟨m.kind, s.id, (s.contact side).channel⟩ := by
  rw [Message.header_of_ofDictionary h.reads, Message.header, h.session_eq, h.channel_eq]

/-- The channel that a message travelled on is its entry under the channel. -/
lemma Hears.get?_channel {s : Session} {side : Side} {d : Dictionary} {m : Message}
    (h : s.Hears side d m) : d.get? Key.channel = some (.raw (s.contact side).channel.bytes) :=
  (Message.Header.ofDictionary_eq_ok_iff.mp h.header_eq).2.2

/-- A dictionary is heard from one side and as one message. -/
lemma Hears.unique {s : Session} {side side' : Side} {d : Dictionary} {m m' : Message}
    (h : s.Hears side d m) (h' : s.Hears side' d m') : side = side' ∧ m = m' := by
  have hm : m = m' := Except.ok.inj (h.reads.symm.trans h'.reads)
  have hchannel : (s.contact side).channel = (s.contact side').channel := by
    rw [← h.channel_eq, ← h'.channel_eq, hm]
  have hside : some side = some side' := by
    rw [← s.sideOf_contact side, hchannel, s.sideOf_contact]
  exact ⟨Option.some.inj hside, hm⟩

/-- A session hears what a session with the same identifier and contacts hears. -/
lemma Hears.congr {s t : Session} (hid : t.id = s.id) (hcontact : ∀ side, t.contact side =
    s.contact side) {side : Side} {d : Dictionary} {m : Message} (h : s.Hears side d m) :
    t.Hears side d m :=
  ⟨h.reads, by rw [hid, h.session_eq], by rw [hcontact, h.channel_eq]⟩

/-- A channel is that of the contact on its side. -/
lemma channel_of_sideOf (s : Session) {channel : ChannelId} {side : Side}
    (h : s.sideOf channel = some side) : channel = (s.contact side).channel := by
  unfold sideOf at h
  split_ifs at h with hfirst hsecond
  · cases h
    exact hfirst
  · cases h
    exact hsecond

/-- The transition table has a place for a message exactly if the state expects it. -/
lemma State.next_ofMessage_ne_aborted_iff (state : State) (kind : Message.Kind) (side : Side) :
    state.next (.ofMessage kind side) ≠ .aborted ↔ state.expects side kind := by
  cases kind <;> cases state <;>
    simp only [Action.ofMessage, State.next, State.expects, ne_eq, reduceCtorEq, not_false_eq_true,
      not_true_eq_false, or_false, false_or, or_true, State.awaitResponse.injEq,
      State.awaitAck.injEq]
  case response.awaitResponse expected => by_cases h : side = expected <;> simp [h, eq_comm]
  case ack.awaitAck expected => by_cases h : side = expected <;> simp [h, eq_comm]

/-- Nothing leads back to the first state. -/
lemma State.next_ne_prepareRequests (state : State) (action : Action) :
    state.next action ≠ .prepareRequests := by
  unfold State.next
  split <;> first | (split_ifs <;> simp) | simp

/-- The transition table does not look at the answer that a response gives. -/
lemma State.next_answer (state : State) (side : Side) (accept accept' : Bool) :
    state.next (.remoteAnswer side accept) = state.next (.remoteAnswer side accept') := by
  cases state <;> rfl

/-- An accepted message does not lead to the aborted state. -/
lemma Accepts.next_ne_aborted {s : Session} {side : Side} {d : Dictionary} {m : Message}
    (h : s.Accepts side d m) : s.state.next (.ofMessage m.kind side) ≠ .aborted :=
  (State.next_ofMessage_ne_aborted_iff _ _ _).mpr h.expected

/-- No ack is accepted once the introduction is finished. -/
lemma Accepts.state_ne_finished {s : Session} {side : Side} {d : Dictionary} {a : Message.Ack}
    (h : s.Accepts side d (.ack a)) : s.state ≠ .finished := by
  rcases h.expected with hstate | hstate <;> rw [hstate] <;> simp

/-! ### Steps -/

/-- The two requests, that to the first contact first. -/
def requests (s : Session) (publicKey₁ publicKey₂ : Bytes) (note : Option String) :
    List Envelope :=
  [s.envelopeTo .first (s.requestTo .first publicKey₂ note).toDictionary,
    s.envelopeTo .second (s.requestTo .second publicKey₁ note).toDictionary]

/-- The two aborts, that to the first contact first. -/
def aborts (s : Session) : List Envelope :=
  [s.envelopeTo .first (s.abortTo .first).toDictionary,
    s.envelopeTo .second (s.abortTo .second).toDictionary]

/-- The session with a response recorded for a side that has none. -/
def recordFirst (s : Session) (message : MessageId) (side : Side) : Session :=
  if (s.response side).isNone then s.record message side else s

/-- The inputs that a session does not react to: news of deliveries, a second request, and
everything once the introduction is given up. -/
def Ignores (s : Session) : Input → Prop
  | .act (.request ..) => s.state ≠ .prepareRequests
  | .act .abort => s.state = .aborted
  | .message _ => s.state = .aborted
  | .delivered _ => True

/-- The inputs over which a session gives the introduction up. -/
def GivesUpAt (s : Session) : Input → Prop
  | .act .abort => s.state ≠ .aborted
  | .message d => s.state ≠ .aborted ∧ ∀ side m, ¬ s.Accepts side d m
  | _ => False

/-- What a session can do with an input. -/
inductive Step (s : Session) : Input → Session → List Envelope → List Event → Prop
  /-- The first request starts the introduction. -/
  | start {publicKey₁ publicKey₂ : Bytes} {note : Option String}
      (hstate : s.state = .prepareRequests) :
      Step s (.act (.request publicKey₁ publicKey₂ note)) (s.enter .awaitResponses)
        (s.requests publicKey₁ publicKey₂ note) []
  /-- Some inputs change nothing. -/
  | ignore {input : Input} (hinput : s.Ignores input) : Step s input s [] []
  /-- Others give the introduction up, and both contacts are told. -/
  | giveUp {input : Input} (hinput : s.GivesUpAt input) :
      Step s input (s.enter .aborted) s.aborts []
  /-- A response is recorded, passed on and published. -/
  | response {side : Side} {d : Dictionary} {r : Message.Response}
      (haccepts : s.Accepts side d (.response r)) (hstate : s.state ≠ .finished) :
      Step s (.message d)
        ((s.enter (s.state.next (.remoteAnswer side r.accept))).record r.message side)
        [s.forward side d] [s.responseEvent side r]
  /-- An ack is passed on. -/
  | ack {side : Side} {d : Dictionary} {a : Message.Ack} (haccepts : s.Accepts side d (.ack a)) :
      Step s (.message d) (s.enter (s.state.next (.remoteAck side))) [s.forward side d] []
  /-- A response after both acks is published, and recorded if none was. -/
  | late {side : Side} {d : Dictionary} {r : Message.Response}
      (haccepts : s.Accepts side d (.response r)) (hstate : s.state = .finished) :
      Step s (.message d) (s.recordFirst r.message side) [] [s.responseEvent side r]

/-! ### Every answer is a step -/

/-- An update carries out a step, and does not ask for the session to be deleted. -/
structure CarriesOut (s : Session) (input : Input) (u : Update) : Prop where
  step : Step s input u.session u.envelopes u.events
  stays : u.deletesSession = false

/-- A local action is answered by a step. -/
lemma perform_step (s : Session) (action : LocalAction) :
    ∃ u, s.perform action = .ok u ∧ s.CarriesOut (.act action) u := by
  cases action with
  | request publicKey₁ publicKey₂ note =>
    refine ⟨_, rfl, ?_⟩
    unfold sendRequests
    by_cases hstate : s.state = .prepareRequests
    · rw [hstate]
      exact ⟨.start hstate, rfl⟩
    · have hnext : s.state.next .localRequest = .aborted := by
        cases h : s.state <;> first | rfl | exact absurd h hstate
      rw [hnext]
      exact ⟨.ignore hstate, rfl⟩
  | abort =>
    unfold perform
    split_ifs with hstate
    · exact ⟨_, rfl, .ignore hstate, rfl⟩
    · exact ⟨_, rfl, .giveUp hstate, rfl⟩

variable {s : Session} {d : Dictionary}

/-- Rejecting a message that is not accepted is a step. -/
lemma reject_step (reason : String) (hno : ∀ side m, ¬ s.Accepts side d m) :
    s.CarriesOut (.message d) (s.reject reason) := by
  unfold reject
  split_ifs with hstate
  · exact ⟨.ignore hstate, rfl⟩
  · exact ⟨.giveUp ⟨hstate, hno⟩, rfl⟩

/-- A message that is heard from a contact under a header. -/
lemma Hears.of_header {side : Side} {kind : Message.Kind} {m : Message}
    (hheader : Message.Header.ofDictionary d = .ok ⟨kind, s.id, (s.contact side).channel⟩)
    (hread : Message.ofDictionary d = .ok m) : s.Hears side d m := by
  have heq := Except.ok.inj (hheader.symm.trans (Message.header_of_ofDictionary hread))
  injection heq with _ hsession hchannel
  exact ⟨hread, hsession.symm, hchannel.symm⟩

/-- A message whose header the state does not expect is not accepted. -/
lemma not_accepts_of_header {header : Message.Header}
    (hheader : Message.Header.ofDictionary d = .ok header)
    (hno : ∀ side, header.session = s.id → header.channel = (s.contact side).channel →
      ¬ s.state.expects side header.kind) (side : Side) (m : Message) : ¬ s.Accepts side d m := by
  intro h
  have heq := Except.ok.inj (hheader.symm.trans h.hears.header_eq)
  subst heq
  exact hno side rfl rfl h.expected

/-- A response is taken by a step where the state expects it. -/
lemma onResponse_step {side : Side} (hexpected : s.state.expects side .response)
    (hheader : Message.Header.ofDictionary d = .ok ⟨.response, s.id, (s.contact side).channel⟩)
    (hstate : s.state ≠ .finished) : s.CarriesOut (.message d) (s.onResponse side d) := by
  have hread := Message.ofDictionary_of_response_header hheader
  unfold onResponse
  cases hview : Message.Response.ofDictionary d with
  | error e =>
    rw [hview] at hread
    refine reject_step _ fun side' m h => ?_
    cases hread.symm.trans h.hears.reads
  | ok r =>
    rw [hview] at hread
    have hnext : s.state.next (.remoteAnswer side r.accept) ≠ .aborted := by
      rw [State.next_answer _ _ _ true]
      exact (State.next_ofMessage_ne_aborted_iff s.state .response side).mpr hexpected
    have hstep := Step.response ⟨.of_header hheader hread, hexpected⟩ hstate
    dsimp only
    split
    · rename_i habort
      exact absurd habort hnext
    · exact ⟨hstep, rfl⟩

/-- An ack is taken by a step where the state expects it. -/
lemma onAck_step {side : Side} (hexpected : s.state.expects side .ack)
    (hheader : Message.Header.ofDictionary d = .ok ⟨.ack, s.id, (s.contact side).channel⟩) :
    s.CarriesOut (.message d) (s.onAck side (s.state.next (.remoteAck side)) d) := by
  have hread := Message.ofDictionary_of_ack_header hheader
  unfold onAck
  cases hview : Message.Ack.ofDictionary d with
  | error e =>
    rw [hview] at hread
    refine reject_step _ fun side' m h => ?_
    cases hread.symm.trans h.hears.reads
  | ok a =>
    rw [hview] at hread
    exact ⟨.ack ⟨.of_header hheader hread, hexpected⟩, rfl⟩

/-- A response after both acks is taken by a step. -/
lemma onLateResponse_step {side : Side} (hstate : s.state = .finished)
    (hheader : Message.Header.ofDictionary d = .ok ⟨.response, s.id, (s.contact side).channel⟩) :
    s.CarriesOut (.message d) (s.onLateResponse side d) := by
  have hread := Message.ofDictionary_of_response_header hheader
  unfold onLateResponse
  cases hview : Message.Response.ofDictionary d with
  | error e =>
    rw [hview] at hread
    refine reject_step _ fun side' m h => ?_
    cases hread.symm.trans h.hears.reads
  | ok r =>
    rw [hview] at hread
    exact ⟨.late ⟨.of_header hheader hread, .inr (.inr hstate)⟩ hstate, rfl⟩

/-- What a state expects has a place in the table of handlers. -/
lemma State.expects_cases {state : State} {side : Side} {kind : Message.Kind}
    (h : state.expects side kind) :
    (kind = .response ∧ state.awaitsResponse) ∨ (kind = .ack ∧ state.awaitsAck) ∨
      (kind = .response ∧ state = .finished) := by
  cases kind with
  | request => exact h.elim
  | abort => exact h.elim
  | response =>
    rcases h with rfl | rfl | rfl
    · exact .inl ⟨rfl, rfl⟩
    · exact .inl ⟨rfl, rfl⟩
    · exact .inr (.inr ⟨rfl, rfl⟩)
  | ack => rcases h with rfl | rfl <;> exact .inr (.inl ⟨rfl, rfl⟩)

/-- A message is answered by a step.  Its header decides which handler takes it; the states in which
a response or an ack is expected are those that have a handler for it. -/
lemma receive_step (s : Session) (d : Dictionary) :
    ∃ u, s.receive d = .ok u ∧ s.CarriesOut (.message d) u := by
  unfold receive
  cases hheader : Message.Header.ofDictionary d with
  | error e =>
    refine ⟨_, rfl, reject_step _ fun side m h => ?_⟩
    cases hheader.symm.trans h.hears.header_eq
  | ok header =>
    obtain ⟨kind, session, channel⟩ := header
    dsimp only
    by_cases hsession : session = s.id
    case neg =>
      rw [if_pos hsession]
      exact ⟨_, rfl, reject_step _ (not_accepts_of_header hheader fun _ h => absurd h hsession)⟩
    case pos =>
      subst hsession
      rw [if_neg (not_not.mpr rfl)]
      cases hside : s.sideOf channel with
      | none =>
        refine ⟨_, rfl, reject_step _ (not_accepts_of_header hheader fun side _ h => ?_)⟩
        rw [show channel = _ from h, s.sideOf_contact] at hside
        cases hside
      | some sender =>
        have hchannel : channel = (s.contact sender).channel := s.channel_of_sideOf hside
        subst hchannel
        dsimp only
        split_ifs with hnext hresponse hack hlate
        · refine ⟨_, rfl, reject_step _ (not_accepts_of_header hheader
            fun side _ h hexpected => ?_)⟩
          have hsender : some side = some sender := by
            rw [← s.sideOf_contact side, ← h, s.sideOf_contact]
          cases hsender
          exact (State.next_ofMessage_ne_aborted_iff _ _ _).mpr hexpected hnext
        · obtain ⟨rfl, hawaits⟩ := hresponse
          refine ⟨_, rfl, onResponse_step ?_ hheader ?_⟩
          · exact (State.next_ofMessage_ne_aborted_iff _ _ _).mp hnext
          · intro hfinished
            rw [hfinished] at hawaits
            cases hawaits
        · obtain ⟨rfl, -⟩ := hack
          exact ⟨_, rfl, onAck_step ((State.next_ofMessage_ne_aborted_iff _ _ _).mp hnext) hheader⟩
        · obtain ⟨rfl, hfinished⟩ := hlate
          exact ⟨_, rfl, onLateResponse_step hfinished hheader⟩
        · -- no other pair of state and kind has a place in the table
          rcases State.expects_cases ((State.next_ofMessage_ne_aborted_iff _ _ _).mp hnext) with
            h | h | h
          · exact absurd h hresponse
          · exact absurd h hack
          · exact absurd h hlate

/-- Every input is answered, and by a step. -/
theorem answer_step (s : Session) (input : Input) :
    ∃ u, s.answer input = .ok u ∧ s.CarriesOut input u := by
  cases input with
  | act action => exact s.perform_step action
  | message d => exact s.receive_step d
  | delivered d => exact ⟨_, rfl, .ignore trivial, rfl⟩

end Introduction.Session
