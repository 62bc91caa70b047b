import Introduction.Proofs.Simulation.Opening
import Introduction.Proofs.Simulation.Settling

/-!
# Runs and schedules

An introduction that was started stays at a stage, whatever is delivered and whenever it is given
up.  As every delivery counts and the deliveries are bounded, every run that goes on long enough
comes to rest, in the same way whatever is chosen on it.

Two results are assembled here.  If nothing is copied and the introduction is not given up, the
scripts decide where it ends, and contacts who answer have been introduced
(`introduced_of_introduce`).  If deliveries are copied and the introduction is given up at any
times, contacts who answer end up both informed or both told (`settled_of_introduce`).
-/

namespace Introduction.Simulation.World

variable {σ : Type} {w : World σ} {plan : Plan}

/-! ### Introductions under way -/

/-- A planned introduction is at some stage. -/
def UnderWay (plan : Plan) (w : World σ) : Prop :=
  ∃ s reached seen record, w.Stage plan s reached seen record

/-- A planned introduction is at some stage and not given up, and nothing is copied. -/
def Undisturbed (plan : Plan) (w : World σ) : Prop :=
  w.network.duplication = .never ∧
    ∃ s reached seen record, w.Stage plan s reached seen record ∧ s.state ≠ .aborted

/-- An introduction under way takes at most 24 deliveries. -/
lemma UnderWay.delivered_le (h : w.UnderWay plan) : w.network.delivered ≤ 24 := by
  obtain ⟨s, reached, seen, record, hstage⟩ := h
  exact hstage.delivered_le

/-- An undisturbed introduction takes at most 10 deliveries. -/
lemma Undisturbed.delivered_le (h : w.Undisturbed plan) : w.network.delivered ≤ 10 := by
  obtain ⟨hnever, s, reached, seen, record, hstage, hs⟩ := h
  exact hstage.delivered_le_of_never hnever hs

/-- An introduction stays under way when it is given up. -/
lemma UnderWay.abort (h : w.UnderWay plan) : w.abort.2.UnderWay plan := by
  obtain ⟨s, reached, seen, record, hstage⟩ := h
  obtain ⟨-, -, t, record', hnext, -⟩ := hstage.abort
  exact ⟨_, _, _, _, hnext⟩

variable [Choice σ]

/-- A step delivers a message, which is counted, or leaves an idle network as it is. -/
def Advances (w : World σ) : Prop :=
  (w.step.1 = false ∧ w.isIdle ∧ w.step.2.network = w.network) ∨
    (w.step.1 = true ∧ w.step.2.network.delivered = w.network.delivered + 1)

/-- An introduction stays under way over a step. -/
lemma UnderWay.step (h : w.UnderWay plan) : w.step.2.UnderWay plan ∧ w.Advances := by
  obtain ⟨s, reached, seen, record, hstage⟩ := h
  rcases hstage.step with ⟨hfalse, hidle, hnetwork, hnext⟩ |
    ⟨htrue, hdelivered, -, t, reached', seen', record', hnext, -⟩
  · exact ⟨⟨_, _, _, _, hnext⟩, .inl ⟨hfalse, hidle, hnetwork⟩⟩
  · exact ⟨⟨_, _, _, _, hnext⟩, .inr ⟨htrue, hdelivered⟩⟩

/-- An introduction stays undisturbed over a step. -/
lemma Undisturbed.step (h : w.Undisturbed plan) : w.step.2.Undisturbed plan ∧ w.Advances := by
  obtain ⟨hnever, s, reached, seen, record, hstage, hs⟩ := h
  rcases hstage.step with ⟨hfalse, hidle, hnetwork, hnext⟩ |
    ⟨htrue, hdelivered, hrate, t, reached', seen', record', hnext, hgoes⟩
  · refine ⟨⟨?_, _, _, _, _, hnext, hs⟩, .inl ⟨hfalse, hidle, hnetwork⟩⟩
    rw [hnetwork]
    exact hnever
  · exact ⟨⟨hrate.trans hnever, _, _, _, _, hnext, hgoes hnever hs⟩, .inr ⟨htrue, hdelivered⟩⟩

/-! ### Runs -/

lemma run_succ (w : World σ) (limit : ℕ) :
    (w.run (limit + 1)).2 = if w.step.1 then (w.step.2.run limit).2 else w.step.2 := by
  rw [run]
  rcases w.step with ⟨_ | _, w'⟩ <;> rfl

/-- A run under an invariant that bounds the number of deliveries keeps the invariant, and comes to
rest if the bound is within its limit. -/
theorem run_of_bounded {P : World σ → Prop} {b : ℕ} (hbound : ∀ w, P w → w.network.delivered ≤ b)
    (hstep : ∀ w, P w → P w.step.2 ∧ w.Advances) {limit : ℕ} (hw : P w)
    (hlimit : b ≤ w.network.delivered + limit) :
    (w.run limit).2.isIdle ∧ P (w.run limit).2 := by
  induction limit generalizing w with
  | zero =>
    obtain ⟨hnext, ⟨-, hidle, -⟩ | ⟨-, hdelivered⟩⟩ := hstep w hw
    · exact ⟨hidle, hw⟩
    · -- another delivery would exceed the bound
      have hle := hbound _ hnext
      omega
  | succ limit ih =>
    rw [run_succ]
    obtain ⟨hnext, ⟨hfalse, hidle, hnetwork⟩ | ⟨htrue, hdelivered⟩⟩ := hstep w hw
    · rw [hfalse, if_neg (by simp)]
      refine ⟨?_, hnext⟩
      rw [isIdle, hnetwork]
      exact hidle
    · rw [htrue, if_pos rfl]
      refine ih hnext ?_
      omega

/-! ### Introductions without disturbance -/

/-- Two contacts were introduced to each other: three messages went to either and two came from
either, one event was published about either, and either holds a request with the name and the key
of the other, the other's answer and one ack. -/
structure Introduced (id : SessionId) (contact : Side → Contact) (publicKey : Side → Bytes)
    (script : Side → Script) (note : Option String) (w : World σ) : Prop where
  toContacts_eq : w.toContacts = 6
  toIntroducer_eq : w.toIntroducer = 4
  length_events : w.events.length = 2
  countP_events : ∀ side, w.events.countP (·.contact = (contact side).id) = 1
  request_eq : ∀ side, (w.participant side).request =
    some ⟨id, (contact side).channel, (contact side.other).name, publicKey side.other, note⟩
  otherAnswer_eq : ∀ side, (w.participant side).otherAnswer = some (script side.other).accept
  acksReceived_eq : ∀ side, (w.participant side).acksReceived = 1

variable {contact : Side → Contact} {script : Side → Script}

/-- In whatever order messages are delivered, the introduction of two contacts comes to rest without
an error after at most 10 deliveries, in a state that depends on the scripts alone, and contacts who
both answer have been introduced. -/
theorem introduced_of_introduce (hdistinct : Distinct contact) (source : σ)
    (script : Side → Script) (reorders : Bool) (note : Option String) {limit : ℕ}
    (hlimit : 10 ≤ limit) :
    ∃ w, (opening source contact script .never reorders).introduce note =
        (.ok (drawId source).1, w) ∧
      (w.run limit).2.isIdle ∧ (w.run limit).2.errors = [] ∧
      (w.run limit).2.state? = some (.atRest script) ∧
      ((∀ side, (script side).silent = false) →
        (w.run limit).2.Introduced (drawId source).1 contact (drawKeys source).1 script note) := by
  obtain ⟨w, hintroduce, hstage, hdelivered, hrate⟩ :=
    introduce_stage hdistinct source script .never reorders note
  have hundisturbed : w.Undisturbed (World.plan hdistinct source script note) :=
    ⟨hrate, _, _, _, _, hstage, by simp⟩
  obtain ⟨hidle, hnever, s, reached, seen, record, hend, hs⟩ :=
    run_of_bounded (fun _ => Undisturbed.delivered_le) (fun _ => Undisturbed.step)
      hundisturbed (show 10 ≤ w.network.delivered + limit by omega)
  have hrest := hend.state_eq_atRest hidle hs
  have hstate := hend.state?_eq
  rw [hrest] at hstate
  refine ⟨w, hintroduce, hidle, hend.errors_eq, hstate, fun hanswer => ?_⟩
  have hfinished : s.state = .finished := hrest.trans (Session.State.atRest_of_answering hanswer)
  have hreports := hend.reports_eq hnever hfinished
  have hparticipant := hend.participant_of_finished hidle hfinished
  obtain ⟨htoContacts, htoIntroducer⟩ := hend.delivered_eq hidle hnever hfinished
  refine ⟨htoContacts, htoIntroducer, ?_, fun side => ?_, fun side => ?_, fun side => ?_,
    fun side => ?_⟩
  · have hlength : (w.run limit).2.events.length = _ :=
      Plan.length_eq_reports hend.conducts.reports
    have hfirst := hreports .first
    have hsecond := hreports .second
    unfold World.events at hfirst hsecond hlength
    rw [hfirst, hsecond] at hlength
    exact hlength
  · have hreport := hreports side
    cases side <;> exact hreport
  · have hrequest := (hparticipant side).1
    cases side <;> exact hrequest
  · exact (hparticipant side).2.1
  · exact hend.acksReceived_eq hidle hnever hfinished side

/-- Two contacts who differ in everything that matters. -/
lemma distinct_alice_bob : Distinct (Side.select Session.alice Session.bob) := by
  refine ⟨by decide, Session.alice_channel_ne_bob_channel, fun side => ?_⟩
  cases side <;> unfold Contact.Storable Value.WritableText <;> decide

/-- One contact accepts and the other declines. -/
theorem introduced_alice_bob :
    Distinct (Side.select Session.alice Session.bob) ∧ 10 ≤ 10 ∧
    (∀ side, (Side.select Script.accepting Script.declining side).silent = false) ∧
    ∃ w, (opening (Generator.ofSeed 0) (Side.select Session.alice Session.bob)
        (Side.select .accepting .declining) .never true).introduce none =
        (.ok (drawId (Generator.ofSeed 0)).1, w) ∧
      (w.run 10).2.isIdle ∧ (w.run 10).2.errors = [] ∧ (w.run 10).2.state? = some .finished ∧
      (w.run 10).2.Introduced (drawId (Generator.ofSeed 0)).1
        (Side.select Session.alice Session.bob) (drawKeys (Generator.ofSeed 0)).1
        (Side.select .accepting .declining) none := by
  have hanswer : ∀ side, (Side.select Script.accepting Script.declining side).silent = false := by
    intro side
    cases side <;> rfl
  obtain ⟨w, hintroduce, hidle, herrors, hstate, hintroduced⟩ :=
    introduced_of_introduce distinct_alice_bob (Generator.ofSeed 0)
      (Side.select .accepting .declining) true none (Nat.le_refl 10)
  exact ⟨distinct_alice_bob, Nat.le_refl 10, hanswer, w, hintroduce, hidle, herrors, hstate,
    hintroduced hanswer⟩

/-! ### Introductions with disturbance -/

/-- What may happen next in a world: a message is delivered, or the introduction is given up. -/
inductive Move where
  | deliver
  | abort
  deriving DecidableEq, Repr

/-- The world after moves, one after the other. -/
def play (w : World σ) : List Move → World σ
  | [] => w
  | .deliver :: moves => w.step.2.play moves
  | .abort :: moves => w.abort.2.play moves

/-- An introduction stays under way over any moves. -/
theorem UnderWay.play (h : w.UnderWay plan) (moves : List Move) : (w.play moves).UnderWay plan := by
  induction moves generalizing w with
  | nil => exact h
  | cons move moves ih =>
    cases move with
    | deliver => exact ih h.step.1
    | abort => exact ih h.abort

/-- Whatever is delivered and copied and whenever the introduction of two contacts who answer is
given up, at most 24 messages are delivered, and it has come to its end where no message waits. -/
theorem settled_of_introduce (hdistinct : Distinct contact)
    (hanswer : ∀ side, (script side).silent = false) (source : σ) (duplication : Rate)
    (reorders : Bool) (note : Option String) :
    ∃ w, (opening source contact script duplication reorders).introduce note =
        (.ok (drawId source).1, w) ∧
      ∀ moves : List Move,
        (w.play moves).network.delivered ≤ 24 ∧
        ((w.play moves).isIdle → (w.play moves).Settled script) ∧
        ∀ limit, 24 ≤ (w.play moves).network.delivered + limit →
          ((w.play moves).run limit).2.isIdle ∧
            ((w.play moves).run limit).2.network.delivered ≤ 24 ∧
            ((w.play moves).run limit).2.Settled script := by
  obtain ⟨w, hintroduce, hstage, -, -⟩ :=
    introduce_stage hdistinct source script duplication reorders note
  have hunderWay : w.UnderWay (World.plan hdistinct source script note) := ⟨_, _, _, _, hstage⟩
  have hsettled : ∀ v : World σ, v.UnderWay (World.plan hdistinct source script note) →
      v.isIdle → v.Settled script := by
    rintro v ⟨_, _, _, _, hend⟩ hidle
    exact hend.settled hidle hanswer
  refine ⟨w, hintroduce, fun moves => ?_⟩
  have hplay := hunderWay.play moves
  refine ⟨hplay.delivered_le, hsettled _ hplay, fun limit hlimit => ?_⟩
  obtain ⟨hidle, hend⟩ :=
    run_of_bounded (fun _ => UnderWay.delivered_le) (fun _ => UnderWay.step) hplay hlimit
  exact ⟨hidle, hend.delivered_le, hsettled _ hend hidle⟩

/-- The introduction is given up after a delivery, while everything is copied. -/
theorem settled_alice_bob :
    Distinct (Side.select Session.alice Session.bob) ∧
    (∀ side, (Side.select Script.accepting Script.declining side).silent = false) ∧
    ∃ w, (opening (Generator.ofSeed 0) (Side.select Session.alice Session.bob)
        (Side.select .accepting .declining) .always true).introduce none =
        (.ok (drawId (Generator.ofSeed 0)).1, w) ∧
      ((w.play [.deliver, .abort]).run 24).2.isIdle ∧
      ((w.play [.deliver, .abort]).run 24).2.network.delivered ≤ 24 ∧
      ((w.play [.deliver, .abort]).run 24).2.Settled (Side.select .accepting .declining) := by
  have hanswer : ∀ side, (Side.select Script.accepting Script.declining side).silent = false := by
    intro side
    cases side <;> rfl
  obtain ⟨w, hintroduce, hmoves⟩ := settled_of_introduce distinct_alice_bob hanswer
    (Generator.ofSeed 0) .always true none
  obtain ⟨-, -, hrun⟩ := hmoves [.deliver, .abort]
  exact ⟨distinct_alice_bob, hanswer, w, hintroduce, hrun 24 (Nat.le_add_left 24 _)⟩

end Introduction.Simulation.World
