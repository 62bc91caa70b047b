import Introduction.Proofs.Simulation.Stage
import Introduction.Simulation.Oracle

/-!
# Where an introduction comes to rest

At most 24 messages are delivered while an introduction runs: a contact is sent no more than a
request, a response, an ack and an abort, it sends no more than a response and an ack, and
everything is delivered at most twice.  If nothing is copied and the introduction is not given up,
it is 10.

Once no message waits, everything that was sent has arrived.  Then the scripts alone decide the
state in which an introduction is that was not given up (`State.atRest`): it waits for the contacts
who do not answer.
-/

namespace Introduction

/-- The state in which an introduction comes to rest that is not given up. -/
def Session.State.atRest (script : Side → Simulation.Script) : State :=
  match (script .first).silent, (script .second).silent with
  | false, false => .finished
  | false, true => .awaitResponse .second
  | true, false => .awaitResponse .first
  | true, true => .awaitResponses

/-- The introduction of two contacts who answer finishes. -/
lemma Session.State.atRest_of_answering {script : Side → Simulation.Script}
    (h : ∀ side, (script side).silent = false) : atRest script = .finished := by
  rw [atRest, h, h]

/-- An introduction is at rest once every reply to what the contacts were sent was passed on. -/
lemma Session.State.eq_atRest {reached : State} {script : Side → Simulation.Script}
    (hstarted : reached ≠ .prepareRequests) (hgoing : reached ≠ .aborted)
    (h : ∀ side, reached.relayed side = (script side).replies (reached.carried side)) :
    reached = atRest script := by
  have hfirst := h .first
  have hsecond := h .second
  unfold Simulation.Script.replies at hfirst hsecond
  unfold atRest
  rcases hs₁ : (script .first).silent <;> rcases hs₂ : (script .second).silent <;>
    rw [hs₁] at hfirst <;> rw [hs₂] at hsecond <;>
    rcases reached with _ | _ | (_ | _) | _ | (_ | _) | _ | _ <;>
    simp_all [relayed, carried, Side.other]

namespace Simulation

/-! ### How much is delivered -/

namespace Traffic

variable {t : Traffic} {queue : List Transit}

/-- Without copies no more is delivered than was sent. -/
lemma Matches.delivered_le_of_returned_eq (h : t.Matches queue) (hreturned : t.returned = []) :
    t.delivered ≤ t.sent.length := by
  have harrived := h.isPrefix_arrived.length_le
  unfold delivered
  rw [hreturned]
  exact harrived

/-- Without copies everything that was sent is delivered once nothing waits. -/
lemma Matches.delivered_eq (h : t.Matches []) (hreturned : t.returned = []) :
    t.delivered = t.sent.length := by
  rw [delivered, hreturned, h.arrived_eq]
  rfl

end Traffic

variable {plan : Plan} {reached : Session.State} {record : Record} {s : Session}
  {events : List Event} {side : Side} {seen : List Message.Kind} {p : Participant}

/-- A contact is sent at most a request, a response, an ack and an abort. -/
lemma Plan.Conducts.length_sent_le (h : plan.Conducts s reached record events) (side : Side) :
    (record (plan.channel side) .toContact).sent.length ≤
      3 + s.state.farewell.length := by
  have hlength := congrArg List.length (h.sent_eq side)
  have hcarried := (reached.carried_prefix side).length_le
  simp only [kinds, List.length_map, List.length_append] at hlength
  rw [hlength]
  exact Nat.add_le_add_right hcarried _

/-- A contact sends at most a response and an ack. -/
lemma Plan.Follows.length_sent_le (h : plan.Follows side record seen p) :
    (record (plan.channel side) .toIntroducer).sent.length ≤ 2 := by
  have hlength := congrArg List.length h.sent_eq
  simp only [kinds, List.length_map] at hlength
  rw [hlength, Script.replies]
  split_ifs <;> simp

/-- What is delivered is bounded by what is delivered in every queue. -/
lemma Plan.Wires.delivered_le {net : Network} {toIntroducer toContacts a b : ℕ}
    (h : plan.Wires net toIntroducer toContacts record)
    (hcontact : ∀ side, (record (plan.channel side) .toContact).delivered ≤ a)
    (hintroducer : ∀ side, (record (plan.channel side) .toIntroducer).delivered ≤ b) :
    net.delivered ≤ 2 * a + 2 * b := by
  have hfirst := hcontact .first
  have hsecond := hcontact .second
  have hfirst' := hintroducer .first
  have hsecond' := hintroducer .second
  rw [h.delivered_eq, h.toIntroducer_eq, h.toContacts_eq, delivered, delivered]
  omega

namespace World

variable {σ : Type} {w : World σ} {seen : Side → List Message.Kind}

/-- At most one abort is sent to a contact. -/
lemma length_farewell_le (state : Session.State) : state.farewell.length ≤ 1 := by
  unfold Session.State.farewell
  split_ifs <;> simp

/-- No more than 24 messages are delivered. -/
theorem Stage.delivered_le (h : w.Stage plan s reached seen record) : w.network.delivered ≤ 24 := by
  refine h.wires.delivered_le (a := 8) (b := 4) (fun side => ?_) fun side => ?_
  · have hle := (h.wires.accounts (plan.channel side) .toContact).delivered_le
    have hsent := h.conducts.length_sent_le side
    have hfarewell := length_farewell_le s.state
    omega
  · have hle := (h.wires.accounts (plan.channel side) .toIntroducer).delivered_le
    have hsent := (h.follows side).length_sent_le
    omega

/-- No more than 10 messages are delivered if nothing is copied and the introduction goes on. -/
theorem Stage.delivered_le_of_never (h : w.Stage plan s reached seen record)
    (hnever : w.network.duplication = .never) (hs : s.state ≠ .aborted) :
    w.network.delivered ≤ 10 := by
  have hplain := h.wires.plain hnever
  refine h.wires.delivered_le (a := 3) (b := 2) (fun side => ?_) fun side => ?_
  · have hsent := h.conducts.length_sent_le side
    rw [Session.State.farewell, if_neg hs] at hsent
    exact ((h.wires.accounts _ _).delivered_le_of_returned_eq (hplain _ _).1).trans hsent
  · have hsent := (h.follows side).length_sent_le
    exact ((h.wires.accounts _ _).delivered_le_of_returned_eq (hplain _ _).1).trans hsent

/-! ### When nothing waits -/

/-- Where nothing waits, what a contact was sent has arrived. -/
lemma Stage.seen_eq (h : w.Stage plan s reached seen record) (hidle : w.isIdle) (side : Side) :
    seen side = reached.carried side ++ s.state.farewell := by
  have hmatches := h.wires.accounts (plan.channel side) .toContact
  rw [Network.isIdle_iff.mp hidle] at hmatches
  have harrived := (h.follows side).arrived_eq
  rw [hmatches.arrived_eq, h.conducts.sent_eq side] at harrived
  exact (List.map_injective_iff.mpr (fun _ _ => Option.some.inj) harrived).symm

/-- Where nothing waits and the introduction goes on, what a contact replied was passed on. -/
lemma Stage.relayed_eq (h : w.Stage plan s reached seen record) (hidle : w.isIdle)
    (hs : s.state ≠ .aborted) (side : Side) :
    reached.relayed side = (plan.script side).replies (seen side) := by
  have hmatches := h.wires.accounts (plan.channel side) .toIntroducer
  rw [Network.isIdle_iff.mp hidle] at hmatches
  have harrived := h.conducts.arrived_eq hs side
  rw [hmatches.arrived_eq, (h.follows side).sent_eq] at harrived
  exact (List.map_injective_iff.mpr (fun _ _ => Option.some.inj) harrived).symm

/-- Where nothing waits, an introduction that goes on is at rest. -/
theorem Stage.state_eq_atRest (h : w.Stage plan s reached seen record) (hidle : w.isIdle)
    (hs : s.state ≠ .aborted) : s.state = .atRest plan.script := by
  have hseen := h.seen_eq hidle
  rw [Session.State.farewell, if_neg hs] at hseen
  rw [h.conducts.state_eq.resolve_right hs]
  refine Session.State.eq_atRest h.conducts.started h.conducts.going fun side => ?_
  rw [h.relayed_eq hidle hs, hseen, List.append_nil]

/-- Where nothing waits, the contacts were told that the introduction was given up. -/
lemma Stage.aborted_eq (h : w.Stage plan s reached seen record) (hidle : w.isIdle)
    (hs : s.state = .aborted) (side : Side) : (w.participant side).aborted = true := by
  rw [(h.follows side).attends.aborted_iff, h.seen_eq hidle, Session.State.farewell, if_pos hs]
  exact List.mem_append_right _ List.mem_cons_self

/-- Where nothing waits, the contacts of a finished introduction were told everything. -/
lemma Stage.seen_eq_correspondence (h : w.Stage plan s reached seen record) (hidle : w.isIdle)
    (hs : s.state = .finished) (side : Side) : seen side = Session.correspondence := by
  have hreached : s.state = reached := h.conducts.state_eq.resolve_right (by rw [hs]; simp)
  rw [h.seen_eq hidle, ← hreached, hs]
  rfl

/-- A finished introduction was not given up. -/
lemma Stage.participant_of_finished (h : w.Stage plan s reached seen record) (hidle : w.isIdle)
    (hs : s.state = .finished) (side : Side) :
    (w.participant side).request = some (plan.request side) ∧
      (w.participant side).otherAnswer = some (plan.script side.other).accept ∧
      1 ≤ (w.participant side).acksReceived ∧ (w.participant side).aborted = false := by
  have hfollows := h.follows side
  rw [h.seen_eq_correspondence hidle hs] at hfollows
  refine ⟨hfollows.attends.request_eq, hfollows.attends.otherAnswer_eq, hfollows.le_acks, ?_⟩
  rw [← Bool.not_eq_true, hfollows.attends.aborted_iff]
  decide

/-! ### The events -/

/-- Every event is about one of the contacts. -/
lemma Plan.length_eq_reports {events : List Event}
    (h : ∀ e ∈ events, ∃ side, plan.Reports side e) :
    events.length = plan.reports .first events + plan.reports .second events := by
  induction events with
  | nil => rfl
  | cons e events ih =>
    obtain ⟨side, hreports⟩ := h e List.mem_cons_self
    have hne : (plan.session.contact .first).id ≠ (plan.session.contact .second).id := plan.ids_ne
    have hrest := ih fun e' he' => h e' (List.mem_cons_of_mem _ he')
    unfold Plan.reports at hrest ⊢
    rw [List.length_cons, List.countP_cons, List.countP_cons, hreports.contact_eq]
    cases side
    · simp [hne]
      omega
    · simp [hne.symm]
      omega

/-! ### What the oracles say -/

/-- The session of a world at a stage is read back. -/
lemma Stage.state?_eq (h : w.Stage plan s reached seen record) : w.state? = some s.state := by
  obtain ⟨config, archive, -, hholds, hshows⟩ := h.keeps
  obtain ⟨r, hread, -⟩ := Relay.yields_session? hholds w.relay hshows
  unfold state? session?
  rw [h.introduction_eq]
  dsimp only
  rw [hread]
  rfl

/-- Every event is accepted that was published. -/
lemma Stage.eventMatches (h : w.Stage plan s reached seen record) {e : Event}
    (he : e ∈ w.events) : Oracle.eventMatches w e = .ok () := by
  obtain ⟨side, hreports⟩ := h.conducts.reports e he
  have hfirst : w.first.contact = plan.session.contact .first := h.contact_eq .first
  have hside : Oracle.sideOf w e = side := by
    have hne : (plan.session.contact .first).id ≠ (plan.session.contact .second).id := plan.ids_ne
    unfold Oracle.sideOf
    rw [hfirst, hreports.contact_eq]
    cases side
    · rw [if_pos rfl]
    · rw [if_neg hne.symm]
  unfold Oracle.eventMatches
  rw [hside]
  dsimp only
  rw [(h.follows side).attends.script_eq, h.contact_eq, if_neg (by simp [hreports.speaks]),
    if_neg (by simp [hreports.accept_eq]), if_neg (by simp [hreports.name_eq, h.contact_eq])]

/-- Where nothing waits and the introduction goes on, every contact that answered is reported. -/
lemma Stage.reported (h : w.Stage plan s reached seen record) (hidle : w.isIdle)
    (hs : s.state ≠ .aborted) (side : Side) :
    Oracle.reported w (w.participant side) = .ok () := by
  unfold Oracle.reported
  by_cases hresponse : (w.participant side).response.isSome
  · have hreplied := (h.follows side).attends.response_iff.mp hresponse
    have hcount : 0 < plan.reports side w.events := by
      refine lt_of_lt_of_le ?_ (h.conducts.le_reports side)
      rw [h.relayed_eq hidle hs, Script.replies, if_pos hreplied]
      simp
    obtain ⟨e, he, hcontact⟩ := List.countP_pos_iff.mp hcount
    have hany : w.events.any (·.contact = (w.participant side).contact.id) = true := by
      rw [h.contact_eq]
      exact List.any_eq_true.mpr ⟨e, he, hcontact⟩
    rw [if_neg (by simp [hany])]
  · rw [if_neg (by simp [hresponse])]

/-- Both sides are accepted if each is. -/
lemma onBothSides_eq {check : Side → Except Oracle.Failure Unit}
    (h : ∀ side, check side = .ok ()) : Oracle.onBothSides check = .ok () := by
  unfold Oracle.onBothSides
  rw [h, h]
  rfl

/-- Where nothing waits, the events are what the contacts answered. -/
theorem Stage.eventsMatchResponses (h : w.Stage plan s reached seen record) (hidle : w.isIdle) :
    Oracle.eventsMatchResponses w = .ok () := by
  have hevents := Except.forM_eq_ok_iff.mpr fun e he => h.eventMatches (e := e) he
  unfold Oracle.eventsMatchResponses
  rw [hevents, h.state?_eq]
  by_cases hs : s.state = .aborted
  · rw [hs]
    rfl
  · have hreported := onBothSides_eq (h.reported hidle hs)
    show (if some s.state ≠ some .aborted then
      Oracle.onBothSides fun side => Oracle.reported w (w.participant side) else pure ()) = _
    rw [if_pos (by simpa using hs), hreported]

/-- An introduction has come to its end: it finished, and either contact knows the other's answer
and was sent an ack, or it was given up, and both contacts were told. -/
structure Settled (script : Side → Script) (w : World σ) : Prop where
  outcome :
    (w.state? = some .finished ∧ ∀ side,
      (w.participant side).otherAnswer = some (script side.other).accept ∧
        1 ≤ (w.participant side).acksReceived ∧ (w.participant side).aborted = false) ∨
    (w.state? = some .aborted ∧ ∀ side, (w.participant side).aborted = true)
  settled : Oracle.settled w = .ok ()
  eventsMatchResponses : Oracle.eventsMatchResponses w = .ok ()

/-- Where nothing waits, an introduction of two contacts who answer has come to its end. -/
theorem Stage.settled (h : w.Stage plan s reached seen record) (hidle : w.isIdle)
    (hanswer : ∀ side, (plan.script side).silent = false) : w.Settled plan.script := by
  have hevents := h.eventsMatchResponses hidle
  have hstate := h.state?_eq
  by_cases hs : s.state = .aborted
  · have htold := h.aborted_eq hidle hs
    rw [hs] at hstate
    refine ⟨.inr ⟨hstate, htold⟩, ?_, hevents⟩
    unfold Oracle.settled Oracle.aborted
    rw [hstate]
    exact onBothSides_eq fun side => if_pos (htold side)
  · have hrest := h.state_eq_atRest hidle hs
    have hfinished : s.state = .finished := hrest.trans (Session.State.atRest_of_answering hanswer)
    rw [hfinished] at hstate
    have hinformed := fun side => (h.participant_of_finished hidle hfinished side).2
    refine ⟨.inl ⟨hstate, hinformed⟩, ?_, hevents⟩
    unfold Oracle.settled
    rw [hstate]

/-! ### Where nothing is copied -/

/-- Where nothing waits and nothing is copied, a finished introduction took three messages to either
contact and two from either. -/
lemma Stage.delivered_eq (h : w.Stage plan s reached seen record) (hidle : w.isIdle)
    (hnever : w.network.duplication = .never) (hs : s.state = .finished) :
    w.toContacts = 6 ∧ w.toIntroducer = 4 := by
  have hplain := h.wires.plain hnever
  have hseen := h.seen_eq_correspondence hidle hs
  have hreached : s.state = reached := h.conducts.state_eq.resolve_right (by rw [hs]; simp)
  have hcontact : ∀ side, (record (plan.channel side) .toContact).delivered = 3 := by
    intro side
    have hmatches := h.wires.accounts (plan.channel side) .toContact
    rw [Network.isIdle_iff.mp hidle] at hmatches
    have hlength := congrArg List.length (h.follows side).arrived_eq
    rw [hmatches.delivered_eq (hplain _ _).1, ← hmatches.arrived_eq]
    rw [hseen, kinds, List.length_map, List.length_map] at hlength
    exact hlength
  have hintroducer : ∀ side, (record (plan.channel side) .toIntroducer).delivered = 2 := by
    intro side
    have hmatches := h.wires.accounts (plan.channel side) .toIntroducer
    rw [Network.isIdle_iff.mp hidle] at hmatches
    have hlength := congrArg List.length (h.conducts.arrived_eq (by rw [hs]; simp) side)
    rw [hmatches.delivered_eq (hplain _ _).1, ← hmatches.arrived_eq]
    rw [← hreached, hs, kinds, List.length_map, List.length_map] at hlength
    exact hlength
  rw [h.wires.toIntroducer_eq, h.wires.toContacts_eq, Plan.delivered, Plan.delivered, hcontact,
    hcontact, hintroducer, hintroducer]
  exact ⟨rfl, rfl⟩

/-- Where nothing is copied, a finished introduction published one event about either contact. -/
lemma Stage.reports_eq (h : w.Stage plan s reached seen record)
    (hnever : w.network.duplication = .never) (hs : s.state = .finished) (side : Side) :
    plan.reports side w.events = 1 := by
  have hreached : s.state = reached := h.conducts.state_eq.resolve_right (by rw [hs]; simp)
  have hle := h.conducts.reports_le side
  have hge := h.conducts.le_reports side
  rw [(h.wires.plain hnever _ _).1] at hle
  rw [← hreached, hs] at hle hge
  exact Nat.le_antisymm hle hge

/-- Where nothing waits and nothing is copied, a contact of a finished introduction was sent one
ack. -/
lemma Stage.acksReceived_eq (h : w.Stage plan s reached seen record) (hidle : w.isIdle)
    (hnever : w.network.duplication = .never) (hs : s.state = .finished) (side : Side) :
    (w.participant side).acksReceived = 1 := by
  have hfollows := h.follows side
  rw [h.seen_eq_correspondence hidle hs] at hfollows
  have hle := hfollows.acks_le
  rw [(h.wires.plain hnever _ _).1] at hle
  exact Nat.le_antisymm hle hfollows.le_acks

end World

end Simulation

end Introduction
