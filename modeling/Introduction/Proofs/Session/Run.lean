import Introduction.Proofs.Session.Step
import Mathlib.Data.List.Forall2

/-!
# Runs of a session

A run gives a session a sequence of inputs, each to the session that the one before left behind.  No
run stops with an error (`answers_run`): all that a session refuses ends in the aborted state.  The
relation `Run` holds the steps of a run together, so that what a run preserves is shown by induction
on it from what a step preserves.
-/

namespace Introduction.Session

/-! ### What no step changes -/

variable {s t : Session} {input : Input} {envelopes : List Envelope} {events : List Event}

@[simp] lemma id_enter (s : Session) (state : State) : (s.enter state).id = s.id := rfl

@[simp] lemma state_enter (s : Session) (state : State) : (s.enter state).state = state := rfl

@[simp] lemma contact_enter (s : Session) (state : State) (side : Side) :
    (s.enter state).contact side = s.contact side := by
  cases side <;> rfl

@[simp] lemma response_enter (s : Session) (state : State) (side : Side) :
    (s.enter state).response side = s.response side := by
  cases side <;> rfl

@[simp] lemma id_record (s : Session) (message : MessageId) (side : Side) :
    (s.record message side).id = s.id := by
  cases side <;> rfl

@[simp] lemma state_record (s : Session) (message : MessageId) (side : Side) :
    (s.record message side).state = s.state := by
  cases side <;> rfl

@[simp] lemma contact_record (s : Session) (message : MessageId) (side side' : Side) :
    (s.record message side).contact side' = s.contact side' := by
  cases side <;> cases side' <;> rfl

@[simp] lemma id_recordFirst (s : Session) (message : MessageId) (side : Side) :
    (s.recordFirst message side).id = s.id := by
  unfold recordFirst
  split_ifs <;> simp

@[simp] lemma state_recordFirst (s : Session) (message : MessageId) (side : Side) :
    (s.recordFirst message side).state = s.state := by
  unfold recordFirst
  split_ifs <;> simp

@[simp] lemma contact_recordFirst (s : Session) (message : MessageId) (side side' : Side) :
    (s.recordFirst message side).contact side' = s.contact side' := by
  unfold recordFirst
  split_ifs <;> simp

/-- A step keeps the identifier of the session. -/
lemma Step.id_eq (h : Step s input t envelopes events) : t.id = s.id := by
  cases h <;> simp

/-- A step keeps the contacts of the session. -/
lemma Step.contact_eq (h : Step s input t envelopes events) (side : Side) :
    t.contact side = s.contact side := by
  cases h <;> simp

/-- The events over a message that a session takes. -/
def eventsOver (s : Session) (side : Side) : Message → List Event
  | .response r => [s.responseEvent side r]
  | _ => []

/-- What becomes of a session over a message that it hears: nothing once the introduction is given
up; otherwise it is given up if the message is not expected; an expected one moves it on, or is
published only if the introduction was finished. -/
lemma Step.message_cases {side : Side} {d : Dictionary} {m : Message}
    (h : Step s (.message d) t envelopes events) (hhears : s.Hears side d m) :
    (s.state = .aborted ∧ t.state = .aborted ∧ events = []) ∨
      (¬ s.state.expects side m.kind ∧ t.state = .aborted ∧ events = []) ∨
        (s.state.expects side m.kind ∧ s.state ≠ .finished ∧
          t.state = s.state.next (.ofMessage m.kind side) ∧ events = s.eventsOver side m) ∨
          (s.state = .finished ∧ m.kind = .response ∧ t.state = .finished ∧
            events = s.eventsOver side m) := by
  cases h with
  | ignore hignores => exact .inl ⟨hignores, hignores, rfl⟩
  | giveUp hgivesUp =>
    exact .inr (.inl ⟨fun hexpected => hgivesUp.2 side m ⟨hhears, hexpected⟩, rfl, rfl⟩)
  | response haccepts hstate =>
    obtain ⟨rfl, rfl⟩ := haccepts.hears.unique hhears
    refine .inr (.inr (.inl ⟨haccepts.expected, hstate, ?_, rfl⟩))
    rw [state_record, state_enter, State.next_answer _ _ _ true]
    rfl
  | ack haccepts =>
    obtain ⟨rfl, rfl⟩ := haccepts.hears.unique hhears
    exact .inr (.inr (.inl ⟨haccepts.expected, haccepts.state_ne_finished, rfl, rfl⟩))
  | late haccepts hstate =>
    obtain ⟨rfl, rfl⟩ := haccepts.hears.unique hhears
    exact .inr (.inr (.inr ⟨hstate, rfl, by rw [state_recordFirst, hstate], rfl⟩))

/-! ### Runs -/

/-- The answers to a sequence of inputs, unless one of them is refused. -/
def answers (s : Session) : List Input → Except Error (List Update)
  | [] => .ok []
  | input :: inputs => do
    let u ← s.answer input
    let us ← u.session.answers inputs
    return u :: us

/-- The session after a sequence of answers. -/
def after (s : Session) : List Update → Session
  | [] => s
  | u :: us => u.session.after us

/-- The updates are the steps of a session through the inputs. -/
inductive Run : Session → List Input → List Update → Prop
  | nil {s : Session} : Run s [] []
  | cons {s : Session} {input : Input} {u : Update} {inputs : List Input} {us : List Update}
      (hstep : Step s input u.session u.envelopes u.events) (hrun : Run u.session inputs us) :
      Run s (input :: inputs) (u :: us)

/-- Every sequence of inputs is answered, and by a run. -/
theorem answers_run (s : Session) (inputs : List Input) :
    ∃ us, s.answers inputs = .ok us ∧ Run s inputs us := by
  induction inputs generalizing s with
  | nil => exact ⟨[], rfl, .nil⟩
  | cons input inputs ih =>
    obtain ⟨u, hu, hstep, -⟩ := s.answer_step input
    obtain ⟨us, hus, hrun⟩ := ih u.session
    refine ⟨u :: us, ?_, .cons hstep hrun⟩
    rw [answers, Except.bind_eq_ok_iff]
    refine ⟨u, hu, ?_⟩
    rw [hus]
    rfl

/-- A session is another one further on: it has the same identifier and the same contacts. -/
structure SameIntroduction (s t : Session) : Prop where
  id_eq : t.id = s.id
  contact_eq : ∀ side, t.contact side = s.contact side

/-- Every update of a run is a step of the session further on. -/
theorem Run.forall₂_step {inputs : List Input} {us : List Update} (h : Run s inputs us) :
    List.Forall₂ (fun input u => ∃ t, s.SameIntroduction t ∧
      Step t input u.session u.envelopes u.events) inputs us := by
  induction h with
  | nil => exact .nil
  | @cons s input u inputs us hstep _ ih =>
    refine .cons ⟨s, ⟨rfl, fun _ => rfl⟩, hstep⟩ (ih.imp ?_)
    rintro input' u' ⟨t, ht, hstep'⟩
    refine ⟨t, ⟨ht.id_eq.trans hstep.id_eq, fun side => ?_⟩, hstep'⟩
    rw [ht.contact_eq, hstep.contact_eq]

/-! ### A sample session -/

/-- A contact. -/
def alice : Contact := ⟨⟨1⟩, .replicate 11, "alice", .replicate 1⟩

/-- Another contact. -/
def bob : Contact := ⟨⟨2⟩, .replicate 22, "bob", .replicate 2⟩

/-- The two contacts use different channels. -/
lemma alice_channel_ne_bob_channel : alice.channel ≠ bob.channel := by decide

/-- The introduction of the two contacts before it starts. -/
def aliceAndBob : Session where
  id := .replicate 7
  state := .prepareRequests
  first := alice
  second := bob
  response₁ := none
  response₂ := none
  channels_ne := alice_channel_ne_bob_channel

/-- The introduction of the two contacts can be made. -/
lemma start_alice_bob : start (.replicate 7) alice bob = .ok aliceAndBob := by
  unfold start
  rw [dif_neg alice_channel_ne_bob_channel]
  rfl

end Introduction.Session
