import Introduction.Proofs.Message.Wire
import Introduction.Proofs.Session.Run

/-!
# The course of an introduction

Which inputs bring an introduction to its end, and which make it fail.  An introduction is completed
by one request, a response of each contact in either order, an ack of each contact in either order,
and any number of responses after that (`Complete`).  `Course s state inputs` says the same from any
state on, one constructor for each way to go on.

The invariant of a run is that the course to be taken from the state before an input is that input
followed by the course to be taken from the state after it (`Step.course_iff`).  A run therefore
ends finished exactly if the inputs that matter are a complete introduction, and aborted exactly if
nothing can complete them any more.
-/

namespace Introduction.Session

/-! ### Complete introductions -/

/-- An input is a well-formed message of a kind from the contact on a side. -/
def IsMessage (s : Session) (kind : Message.Kind) (side : Side) (input : Input) : Prop :=
  ∃ d m, input = .message d ∧ s.Hears side d m ∧ m.kind = kind

/-- The inputs are one of each side, in either order. -/
def FromEach (P : Side → Input → Prop) (inputs : List Input) : Prop :=
  ∃ side first second, inputs = [first, second] ∧ P side first ∧ P side.other second

/-- The inputs complete an introduction. -/
def Complete (s : Session) (inputs : List Input) : Prop :=
  ∃ publicKey₁ publicKey₂ note responses acks late,
    inputs = .act (.request publicKey₁ publicKey₂ note) :: (responses ++ acks ++ late) ∧
      FromEach (s.IsMessage .response) responses ∧
        FromEach (s.IsMessage .ack) acks ∧
          ∀ input ∈ late, ∃ side, s.IsMessage .response side input

/-- Whether an input is the news of a delivery. -/
def Input.isDelivery : Input → Bool
  | .delivered _ => true
  | _ => false

/-- Whether an input is a local request. -/
def Input.isRequest : Input → Bool
  | .act (.request ..) => true
  | _ => false

/-- The inputs without the local requests after the first. -/
def dropRepeated : List Input → List Input
  | [] => []
  | input :: inputs =>
    if input.isRequest then input :: inputs.filter (!·.isRequest)
    else input :: dropRepeated inputs

/-- The inputs that matter: those that are left once the news of deliveries and the local requests
after the first are removed. -/
def essential (inputs : List Input) : List Input := dropRepeated (inputs.filter (!·.isDelivery))

/-- The inputs complete an introduction that is in a state. -/
inductive Course (s : Session) : State → List Input → Prop
  | start {publicKey₁ publicKey₂ : Bytes} {note : Option String} {inputs : List Input}
      (h : Course s .awaitResponses inputs) :
      Course s .prepareRequests (.act (.request publicKey₁ publicKey₂ note) :: inputs)
  | firstResponse {side : Side} {input : Input} {inputs : List Input}
      (hinput : s.IsMessage .response side input)
      (h : Course s (.awaitResponse side.other) inputs) : Course s .awaitResponses (input :: inputs)
  | secondResponse {side : Side} {input : Input} {inputs : List Input}
      (hinput : s.IsMessage .response side input) (h : Course s .awaitAcks inputs) :
      Course s (.awaitResponse side) (input :: inputs)
  | firstAck {side : Side} {input : Input} {inputs : List Input}
      (hinput : s.IsMessage .ack side input) (h : Course s (.awaitAck side.other) inputs) :
      Course s .awaitAcks (input :: inputs)
  | secondAck {side : Side} {input : Input} {inputs : List Input}
      (hinput : s.IsMessage .ack side input) (h : Course s .finished inputs) :
      Course s (.awaitAck side) (input :: inputs)
  | late {side : Side} {input : Input} {inputs : List Input}
      (hinput : s.IsMessage .response side input) (h : Course s .finished inputs) :
      Course s .finished (input :: inputs)
  | finish : Course s .finished []

/-- After both acks every response is late. -/
lemma course_finished_iff {s : Session} {inputs : List Input} :
    Course s .finished inputs ↔ ∀ input ∈ inputs, ∃ side, s.IsMessage .response side input := by
  induction inputs with
  | nil =>
    constructor
    · intro _ input hinput
      cases hinput
    · intro _
      exact .finish
  | cons input inputs ih =>
    constructor
    · rintro (_ | _ | _ | _ | _ | ⟨hinput, h⟩ | _)
      exact List.forall_mem_cons.mpr ⟨⟨_, hinput⟩, ih.mp h⟩
    · intro h
      obtain ⟨⟨side, hinput⟩, hinputs⟩ := List.forall_mem_cons.mp h
      exact .late hinput (ih.mpr hinputs)

/-- The course of an introduction from its start is a complete introduction. -/
theorem course_iff_complete {s : Session} {inputs : List Input} :
    Course s .prepareRequests inputs ↔ s.Complete inputs := by
  constructor
  · intro h
    cases h with
    | @start k₁ k₂ note _ h =>
    cases h with
    | @firstResponse side response _ hresponse h =>
    cases h with
    | @secondResponse _ response' _ hresponse' h =>
    cases h with
    | @firstAck side' ack _ hack h =>
    cases h with
    | @secondAck _ ack' late hack' h =>
    exact ⟨k₁, k₂, note, [response, response'], [ack, ack'], late, rfl,
      ⟨side, _, _, rfl, hresponse, hresponse'⟩, ⟨side', _, _, rfl, hack, hack'⟩,
      course_finished_iff.mp h⟩
  · rintro ⟨k₁, k₂, note, _, _, late, rfl, ⟨side, _, _, rfl, hresponse, hresponse'⟩,
      ⟨side', _, _, rfl, hack, hack'⟩, hlate⟩
    exact .start (.firstResponse hresponse (.secondResponse hresponse' (.firstAck hack
      (.secondAck hack' (course_finished_iff.mpr hlate)))))

/-! ### Steps along the course -/

variable {s t : Session} {input : Input} {envelopes : List Envelope} {events : List Event}

/-- An accepted dictionary is a message of its kind. -/
lemma Accepts.isMessage {side : Side} {d : Dictionary} {m : Message} (h : s.Accepts side d m) :
    s.IsMessage m.kind side (.message d) :=
  ⟨d, m, rfl, h.hears, rfl⟩

/-- An accepted dictionary is a message of one kind from one side. -/
lemma Accepts.eq_of_isMessage {side side' : Side} {d : Dictionary} {m : Message}
    {kind : Message.Kind} (h : s.Accepts side d m) (h' : s.IsMessage kind side' (.message d)) :
    side' = side ∧ kind = m.kind := by
  obtain ⟨d', m', hd, hhears, rfl⟩ := h'
  cases hd
  obtain ⟨hside, hm⟩ := hhears.unique h.hears
  exact ⟨hside, by rw [hm]⟩

/-- The course is the same for a session with the same identifier and contacts. -/
lemma Course.congr (hid : t.id = s.id) (hcontact : ∀ side, t.contact side = s.contact side)
    {state : State} {inputs : List Input} (h : Course s state inputs) : Course t state inputs := by
  have hmessage : ∀ {kind side input}, s.IsMessage kind side input →
      t.IsMessage kind side input := by
    rintro kind side input ⟨d, m, hd, hhears, hkind⟩
    exact ⟨d, m, hd, hhears.congr hid hcontact, hkind⟩
  induction h with
  | start _ ih => exact .start ih
  | firstResponse hinput _ ih => exact .firstResponse (hmessage hinput) ih
  | secondResponse hinput _ ih => exact .secondResponse (hmessage hinput) ih
  | firstAck hinput _ ih => exact .firstAck (hmessage hinput) ih
  | secondAck hinput _ ih => exact .secondAck (hmessage hinput) ih
  | late hinput _ ih => exact .late (hmessage hinput) ih
  | finish => exact .finish

/-- An introduction that is given up has no course. -/
lemma not_course_aborted {inputs : List Input} : ¬ Course s .aborted inputs := by
  intro h
  cases h

/-- An input along the course does not make the session give up. -/
lemma Course.not_givesUpAt {inputs : List Input} (h : Course s s.state (input :: inputs)) :
    ¬ s.GivesUpAt input := by
  have haccepted : ∀ {kind side}, s.IsMessage kind side input → s.state.expects side kind →
      ¬ s.GivesUpAt input := by
    rintro kind side ⟨d, m, rfl, hhears, rfl⟩ hexpected ⟨-, hno⟩
    exact hno side m ⟨hhears, hexpected⟩
  generalize hstate : s.state = state at h
  cases h with
  | start _ => exact fun hno => hno
  | firstResponse hinput _ => exact haccepted hinput (.inl hstate)
  | secondResponse hinput _ => exact haccepted hinput (.inr (.inl hstate))
  | firstAck hinput _ => exact haccepted hinput (.inl hstate)
  | secondAck hinput _ => exact haccepted hinput (.inr hstate)
  | late hinput _ => exact haccepted hinput (.inr (.inr hstate))

/-- Past an accepted message the course goes on in the next state of the transition table. -/
lemma Accepts.course_iff {side : Side} {d : Dictionary} {m : Message} (h : s.Accepts side d m)
    {inputs : List Input} :
    Course s s.state (.message d :: inputs) ↔
      Course s (s.state.next (.ofMessage m.kind side)) inputs := by
  have hmessage := h.isMessage
  have hexpected := h.expected
  have hside : ∀ {kind side'}, s.IsMessage kind side' (.message d) → side' = side ∧ kind = m.kind :=
    h.eq_of_isMessage
  cases hkind : m.kind with
  | request =>
    rw [hkind] at hexpected
    exact hexpected.elim
  | abort =>
    rw [hkind] at hexpected
    exact hexpected.elim
  | response =>
    rw [hkind] at hexpected hmessage
    rcases hexpected with hstate | hstate | hstate <;> rw [hstate] <;> constructor
    · rintro (_ | ⟨hinput, hcourse⟩)
      obtain ⟨rfl, -⟩ := hside hinput
      exact hcourse
    · exact .firstResponse hmessage
    · rintro (_ | _ | ⟨hinput, hcourse⟩)
      simpa [State.next, Action.ofMessage] using hcourse
    · intro hcourse
      exact .secondResponse hmessage (by simpa [State.next, Action.ofMessage] using hcourse)
    · rintro (_ | _ | _ | _ | _ | ⟨hinput, hcourse⟩)
      exact hcourse
    · exact .late hmessage
  | ack =>
    rw [hkind] at hexpected hmessage
    rcases hexpected with hstate | hstate <;> rw [hstate] <;> constructor
    · rintro (_ | _ | _ | ⟨hinput, hcourse⟩)
      obtain ⟨rfl, -⟩ := hside hinput
      exact hcourse
    · exact .firstAck hmessage
    · rintro (_ | _ | _ | _ | ⟨hinput, hcourse⟩)
      simpa [State.next, Action.ofMessage] using hcourse
    · intro hcourse
      exact .secondAck hmessage (by simpa [State.next, Action.ofMessage] using hcourse)

/-- The course from the state before an input that the session does not ignore is the input and then
the course from the state after it. -/
theorem Step.course_iff (h : Step s input t envelopes events)
    (hinput : s.Ignores input → s.state = .aborted) {inputs : List Input} :
    Course s s.state (input :: inputs) ↔ Course s t.state inputs := by
  cases h with
  | start hstate =>
    rw [hstate]
    constructor
    · rintro ⟨hcourse⟩
      exact hcourse
    · exact .start
  | ignore hignores =>
    rw [hinput hignores]
    exact iff_of_false not_course_aborted not_course_aborted
  | giveUp hgivesUp =>
    exact iff_of_false (fun hcourse => hcourse.not_givesUpAt hgivesUp) not_course_aborted
  | response haccepts _ =>
    rw [haccepts.course_iff, state_record, state_enter, State.next_answer _ _ _ true]
    rfl
  | ack haccepts => exact haccepts.course_iff
  | late haccepts hstate =>
    rw [haccepts.course_iff, state_recordFirst, hstate]
    rfl

/-! ### Runs along the course -/

/-- What is ignored is the news of a delivery, or a request after the start, unless the introduction
is given up. -/
lemma Ignores.state_eq (h : s.Ignores input) (hdelivery : input.isDelivery = false)
    (hrequest : input.isRequest = true → s.state = .prepareRequests) : s.state = .aborted := by
  rcases input with (_ | _) | _ | _
  · exact absurd (hrequest rfl) h
  · exact h
  · exact h
  · cases hdelivery

/-- No step leads back to a session that has sent nothing. -/
lemma Step.state_ne_prepareRequests (h : Step s input t envelopes events)
    (hstate : s.state ≠ .prepareRequests) : t.state ≠ .prepareRequests := by
  cases h with
  | start _ => simp
  | ignore _ => exact hstate
  | giveUp _ => simp
  | response _ _ =>
    rw [state_record, state_enter]
    exact State.next_ne_prepareRequests _ _
  | ack _ => exact State.next_ne_prepareRequests _ _
  | late _ _ => rwa [state_recordFirst]

/-- A session that has started, or is given up, does not react to a request or to the news of a
delivery. -/
lemma Step.eq_of_idle (h : Step s input t envelopes events)
    (hinput : input.isDelivery = true ∨ input.isRequest = true ∧ s.state ≠ .prepareRequests) :
    t = s := by
  cases h with
  | start hstate => simp [Input.isDelivery, hstate] at hinput
  | ignore _ => rfl
  | @giveUp input hgivesUp =>
    rcases input with (_ | _) | _ | _
    · exact hgivesUp.elim
    · simp [Input.isDelivery, Input.isRequest] at hinput
    · simp [Input.isDelivery, Input.isRequest] at hinput
    · exact hgivesUp.elim
  | response _ _ => simp [Input.isDelivery, Input.isRequest] at hinput
  | ack _ => simp [Input.isDelivery, Input.isRequest] at hinput
  | late _ _ => simp [Input.isDelivery, Input.isRequest] at hinput

/-- Before the requests nothing is accepted, and neither is anything once the introduction is given
up. -/
lemma Accepts.state_ne {side : Side} {d : Dictionary} {m : Message} (h : s.Accepts side d m) :
    s.state ≠ .prepareRequests ∧ s.state ≠ .aborted := by
  have hexpected := h.expected
  cases hkind : m.kind <;> rw [hkind] at hexpected <;> unfold State.expects at hexpected
  · exact hexpected.elim
  · rcases hexpected with hstate | hstate | hstate <;> simp [hstate]
  · rcases hexpected with hstate | hstate <;> simp [hstate]
  · exact hexpected.elim

/-- Before the requests were sent a request starts the introduction and all else but the news of a
delivery gives it up. -/
lemma Step.state_of_prepareRequests (h : Step s input t envelopes events)
    (hstate : s.state = .prepareRequests) (hinput : input.isDelivery = false) :
    t.state = if input.isRequest then .awaitResponses else .aborted := by
  cases h with
  | start _ => rfl
  | ignore hignores =>
    rcases input with (_ | _) | _ | _
    · exact absurd hstate hignores
    · cases hstate.symm.trans hignores
    · cases hstate.symm.trans hignores
    · cases hinput
  | giveUp hgivesUp =>
    rcases input with (_ | _) | _ | _
    · exact hgivesUp.elim
    · rfl
    · rfl
    · exact hgivesUp.elim
  | response haccepts _ => exact absurd hstate haccepts.state_ne.1
  | ack haccepts => exact absurd hstate haccepts.state_ne.1
  | late haccepts _ => exact absurd hstate haccepts.state_ne.1

/-- A session that is given up does nothing any more. -/
lemma Step.eq_of_aborted (h : Step s input t envelopes events) (hstate : s.state = .aborted) :
    t = s ∧ envelopes = [] ∧ events = [] := by
  cases h with
  | start h => cases hstate.symm.trans h
  | ignore _ => exact ⟨rfl, rfl, rfl⟩
  | @giveUp input hgivesUp =>
    rcases input with (_ | _) | _ | _
    · exact hgivesUp.elim
    · exact absurd hstate hgivesUp
    · exact absurd hstate hgivesUp.1
    · exact hgivesUp.elim
  | response haccepts _ => exact absurd hstate haccepts.state_ne.2
  | ack haccepts => exact absurd hstate haccepts.state_ne.2
  | late haccepts _ => exact absurd hstate haccepts.state_ne.2

variable {inputs : List Input} {us : List Update}

/-- Nothing that follows changes a session that is given up. -/
lemma Run.after_of_aborted (h : Run s inputs us) (hstate : s.state = .aborted) :
    s.after us = s := by
  induction h with
  | nil => rfl
  | cons hstep _ ih =>
    have heq := (hstep.eq_of_aborted hstate).1
    rw [after, ih (by rw [heq]; exact hstate), heq]

/-- The course of a session along an input, read for the session after the input. -/
lemma Step.course_iff_course (h : Step s input t envelopes events) {state : State} :
    Course t state inputs ↔ Course s state inputs :=
  ⟨.congr h.id_eq.symm fun side => (h.contact_eq side).symm, .congr h.id_eq h.contact_eq⟩

/-- Along a run from a session that has started, the course is taken by the inputs that are neither
requests nor news of deliveries. -/
lemma Run.course_iff_of_started (h : Run s inputs us) (hstate : s.state ≠ .prepareRequests)
    (rest : List Input) :
    Course s s.state (inputs.filter (fun i => !i.isRequest && !i.isDelivery) ++ rest) ↔
      Course s (s.after us).state rest := by
  induction h with
  | nil => rfl
  | @cons s input u inputs us hstep hrun ih =>
    have ih' := ih (hstep.state_ne_prepareRequests hstate)
    rw [hstep.course_iff_course, hstep.course_iff_course] at ih'
    rw [after, ← ih']
    by_cases hidle : input.isDelivery = true ∨ input.isRequest = true
    · have heq : u.session = s := hstep.eq_of_idle (hidle.imp_right fun h => ⟨h, hstate⟩)
      rw [heq, List.filter_cons_of_neg (by rcases hidle with h | h <;> simp [h])]
    · rw [not_or, Bool.not_eq_true, Bool.not_eq_true] at hidle
      rw [List.filter_cons_of_pos (by simp [hidle]), List.cons_append]
      exact hstep.course_iff fun h => h.state_eq hidle.1 (by simp [hidle.2])

/-- Along a run from a session that has sent nothing, the course is taken by the inputs that
matter. -/
theorem Run.course_iff (h : Run s inputs us) (hstate : s.state = .prepareRequests)
    (rest : List Input) :
    Course s s.state (essential inputs ++ rest) ↔ Course s (s.after us).state rest := by
  induction h with
  | nil => rfl
  | @cons s input u inputs us hstep hrun ih =>
    rw [after]
    by_cases hdelivery : input.isDelivery = true
    · have heq : u.session = s := hstep.eq_of_idle (.inl hdelivery)
      rw [heq] at ih ⊢
      rw [← ih hstate, essential, List.filter_cons_of_neg (by simp [hdelivery])]
      rfl
    · have hessential : essential (input :: inputs) =
          dropRepeated (input :: inputs.filter (!·.isDelivery)) := by
        rw [essential, List.filter_cons_of_pos (by simp [hdelivery])]
      rw [Bool.not_eq_true] at hdelivery
      have hu := hstep.state_of_prepareRequests hstate hdelivery
      have hmatters : s.Ignores input → s.state = .aborted :=
        fun h => h.state_eq hdelivery fun _ => hstate
      rw [hessential, dropRepeated]
      by_cases hrequest : input.isRequest = true
      · rw [if_pos hrequest] at hu ⊢
        have hrun' := hrun.course_iff_of_started (by rw [hu]; simp) rest
        rw [hstep.course_iff_course, hstep.course_iff_course] at hrun'
        rw [List.filter_filter, List.cons_append, hstep.course_iff hmatters, hrun']
      · rw [if_neg hrequest] at hu ⊢
        rw [List.cons_append, hstep.course_iff hmatters, hrun.after_of_aborted hu, hu]
        exact iff_of_false not_course_aborted not_course_aborted

/-! ### How runs end -/

/-- A session hears the wire form of a message made out to it. -/
lemma hears_toDictionary {side : Side} {m : Message} (hid : m.session = s.id)
    (hchannel : m.channel = (s.contact side).channel) : s.Hears side m.toDictionary m.clamped :=
  ⟨m.ofDictionary_toDictionary, by rw [Message.session_clamped, hid],
    by rw [Message.channel_clamped, hchannel]⟩

/-- There is a response that a session hears from a contact. -/
lemma exists_response (s : Session) (side : Side) : ∃ input, s.IsMessage .response side input :=
  ⟨_, _, _, rfl,
    hears_toDictionary (m := .response ⟨s.id, (s.contact side).channel, .replicate 0, 0, true⟩)
      rfl rfl, rfl⟩

/-- There is an ack that a session hears from a contact. -/
lemma exists_ack (s : Session) (side : Side) : ∃ input, s.IsMessage .ack side input :=
  ⟨_, _, _, rfl,
    hears_toDictionary (m := .ack ⟨s.id, (s.contact side).channel, .replicate 0⟩) rfl rfl, rfl⟩

/-- The course is over exactly in the finished state. -/
lemma course_nil_iff {state : State} : Course s state [] ↔ state = .finished := by
  constructor
  · rintro ⟨⟩
    rfl
  · rintro rfl
    exact .finish

/-- An introduction can be completed from every state but the aborted one. -/
lemma exists_course_iff {state : State} : (∃ rest, Course s state rest) ↔ state ≠ .aborted := by
  constructor
  · rintro ⟨rest, h⟩ rfl
    exact not_course_aborted h
  · intro hstate
    have hfinished : ∃ rest, Course s .finished rest := ⟨[], .finish⟩
    have hack : ∀ side, ∃ rest, Course s (.awaitAck side) rest := fun side =>
      have ⟨_, hinput⟩ := s.exists_ack side
      have ⟨_, h⟩ := hfinished
      ⟨_, .secondAck hinput h⟩
    have hacks : ∃ rest, Course s .awaitAcks rest :=
      have ⟨_, hinput⟩ := s.exists_ack .first
      have ⟨_, h⟩ := hack .second
      ⟨_, .firstAck hinput h⟩
    have hresponse : ∀ side, ∃ rest, Course s (.awaitResponse side) rest := fun side =>
      have ⟨_, hinput⟩ := s.exists_response side
      have ⟨_, h⟩ := hacks
      ⟨_, .secondResponse hinput h⟩
    have hresponses : ∃ rest, Course s .awaitResponses rest :=
      have ⟨_, hinput⟩ := s.exists_response .first
      have ⟨_, h⟩ := hresponse .second
      ⟨_, .firstResponse hinput h⟩
    cases state with
    | prepareRequests =>
      have ⟨_, h⟩ := hresponses
      exact ⟨_, @Course.start s [] [] none _ h⟩
    | awaitResponses => exact hresponses
    | awaitResponse side => exact hresponse side
    | awaitAcks => exact hacks
    | awaitAck side => exact hack side
    | finished => exact hfinished
    | aborted => exact absurd rfl hstate

/-- A session that was just made has sent nothing. -/
lemma state_of_start {id : SessionId} {first second : Contact} (h : start id first second = .ok s) :
    s.state = .prepareRequests := by
  unfold start at h
  split_ifs at h
  cases h
  rfl

/-- A session that was just made answers every sequence of inputs.  It ends finished exactly if the
inputs that matter are a complete introduction, and aborted exactly if they are not the beginning of
one. -/
theorem answers_of_start {id : SessionId} {first second : Contact}
    (h : start id first second = .ok s) (inputs : List Input) :
    ∃ us, s.answers inputs = .ok us ∧
      ((s.after us).state = .finished ↔ s.Complete (essential inputs)) ∧
        ((s.after us).state = .aborted ↔ ¬ ∃ rest, s.Complete (essential inputs ++ rest)) := by
  obtain ⟨us, hus, hrun⟩ := s.answers_run inputs
  have hstate := state_of_start h
  have hcourse : ∀ rest, s.Complete (essential inputs ++ rest) ↔
      Course s (s.after us).state rest := by
    intro rest
    rw [← course_iff_complete, ← hrun.course_iff hstate, hstate]
  refine ⟨us, hus, ?_, ?_⟩
  · rw [← course_nil_iff (s := s), ← hcourse [], List.append_nil]
  · rw [exists_congr hcourse, exists_course_iff, not_not]

/-! ### A sample run -/

/-- The response of the contact on a side of the sample session. -/
def sampleResponse (side : Side) : Message :=
  .response ⟨aliceAndBob.id, (aliceAndBob.contact side).channel, .replicate 5, 1000, true⟩

/-- The ack of the contact on a side of the sample session. -/
def sampleAck (side : Side) : Message :=
  .ack ⟨aliceAndBob.id, (aliceAndBob.contact side).channel, .replicate 6⟩

/-- A complete introduction in which the second contact is the faster one, with a repeated request,
the news of a delivery and a late response. -/
def sampleInputs : List Input :=
  [.act (.request [1] [2] (some "hi")), .delivered Dictionary.empty, .act (.request [3] [4] none),
    .message (sampleResponse .second).toDictionary, .message (sampleResponse .first).toDictionary,
    .message (sampleAck .second).toDictionary, .delivered Dictionary.empty,
    .message (sampleAck .first).toDictionary, .message (sampleResponse .first).toDictionary]

/-- The sample session hears the sample messages. -/
lemma isMessage_sample (side : Side) :
    aliceAndBob.IsMessage .response side (.message (sampleResponse side).toDictionary) ∧
      aliceAndBob.IsMessage .ack side (.message (sampleAck side).toDictionary) :=
  ⟨⟨_, _, rfl, hears_toDictionary rfl rfl, rfl⟩, ⟨_, _, rfl, hears_toDictionary rfl rfl, rfl⟩⟩

/-- What matters of the sample inputs is a complete introduction. -/
lemma complete_sampleInputs : aliceAndBob.Complete (essential sampleInputs) := by
  refine ⟨[1], [2], some "hi", _, _, _, rfl, ⟨.second, _, _, rfl, ?_, ?_⟩,
    ⟨.second, _, _, rfl, ?_, ?_⟩, List.forall_mem_singleton.mpr ⟨.first, ?_⟩⟩
  · exact (isMessage_sample .second).1
  · exact (isMessage_sample .first).1
  · exact (isMessage_sample .second).2
  · exact (isMessage_sample .first).2
  · exact (isMessage_sample .first).1

/-- The sample session finishes on the sample inputs. -/
theorem answers_sampleInputs :
    start (.replicate 7) alice bob = .ok aliceAndBob ∧
      ∃ us, aliceAndBob.answers sampleInputs = .ok us ∧
        (aliceAndBob.after us).state = .finished := by
  obtain ⟨us, hus, hfinished, -⟩ := answers_of_start start_alice_bob sampleInputs
  exact ⟨start_alice_bob, us, hus, hfinished.mpr complete_sampleInputs⟩

end Introduction.Session
