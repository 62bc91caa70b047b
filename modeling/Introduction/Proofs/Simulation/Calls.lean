import Introduction.Proofs.Relay.Reliable
import Introduction.Proofs.Simulation.Traffic
import Introduction.Simulation.World

/-!
# Calls of the introducer in the simulated world

In the simulated world nothing is refused to the introducer's relay, and all that it hands over goes
to the network at once.  While its relay keeps a session (`Relay.Keeps`), a call that gives the
session an input succeeds, leaves a relay that keeps the session after a step, puts the messages of
the step on the network and publishes its events; nothing else in the world changes but what was
told to the operator.
-/

namespace Introduction

/-- A reliable relay stores a session, keeps sessions that are given up, and has handed on
everything that it was to send. -/
def Relay.Keeps (r : Relay) (s : Session) : Prop :=
  ∃ config archive, config.retention = .keepAll ∧ Archive.Holds archive s ∧
    r.Shows ⟨config, archive, [], r.events⟩

namespace Simulation.World

variable {σ : Type} {w : World σ} {s : Session} {d : Delivery}

lemma participant_setParticipant (w : World σ) (p : Participant) (side side' : Side) :
    (w.setParticipant p side).participant side' =
      if side' = side then p else w.participant side' := by
  cases side <;> cases side' <;> rfl

/-- A call that succeeds on a reliable relay succeeds in the world, and what it hands over is on the
network. -/
lemma call_of_yields {α : Type} {action : Relaying α} {l l' : Relay.Ledger} {x : α}
    (h : Relay.Yields action l x l') (hw : w.relay.Shows l) :
    ∃ relay notices, w.call action = (.ok x, { w with
        relay, notices, network := l'.sent.foldl Network.route w.network }) ∧
      relay.Shows { l' with sent := [] } := by
  obtain ⟨r, hcall, hr⟩ := h w.relay hw
  refine ⟨{ r with outbox := r.outbox.drain.2, notices := [] }, w.notices ++ r.notices, ?_,
    { hr with sent_eq := rfl }⟩
  unfold call absorb
  rw [hcall, ← hr.sent_eq]
  rfl

/-- An input that is given to the session kept is answered by a step. -/
theorem call_give (h : w.relay.Keeps s) (hs : s.Storable) (input : Session.Input) :
    ∃ t envelopes events relay notices, Session.Step s input t envelopes events ∧
      w.call (Relay.give s.id input) = (.ok t, { w with
        relay, notices, network := envelopes.foldl Network.route w.network }) ∧
      relay.Keeps t ∧ relay.events = w.relay.events ++ events := by
  obtain ⟨config, archive, hkeep, hholds, hshows⟩ := h
  obtain ⟨t, envelopes, events, hstep, hyields⟩ :=
    Relay.yields_give (l := ⟨config, archive, [], w.relay.events⟩) hkeep hholds input
  obtain ⟨relay, notices, hcall, hrelay⟩ := call_of_yields hyields hshows
  have hevents := hrelay.events_eq
  refine ⟨t, envelopes, events, relay, notices, hstep, hcall, ?_, hevents⟩
  exact ⟨config, _, hkeep, archive.holds_write (hstep.storable hs), by rw [hevents]; exact hrelay⟩

/-- Giving the introduction up succeeds. -/
theorem abort_eq (h : w.relay.Keeps s) (hs : s.Storable) (hw : w.introduction = some s.id) :
    ∃ t envelopes events relay notices, Session.Step s (.act .abort) t envelopes events ∧
      w.abort = (.ok (), { w with
        relay, notices, network := envelopes.foldl Network.route w.network }) ∧
      relay.Keeps t ∧ relay.events = w.relay.events ++ events := by
  obtain ⟨t, envelopes, events, relay, notices, hstep, hcall, hkeeps, hevents⟩ :=
    call_give h hs (.act .abort)
  refine ⟨t, envelopes, events, relay, notices, hstep, ?_, hkeeps, hevents⟩
  have hperform : Relay.perform s.id .abort = Relay.give s.id (.act .abort) := rfl
  unfold abort
  rw [hw]
  dsimp only
  rw [hperform, hcall, hw]

/-- A message for the introducer that names the session kept is answered. -/
theorem deliverToIntroducer_eq (h : w.relay.Keeps s) (hs : s.Storable)
    (hd : d.message.getId Key.session = .ok s.id) :
    ∃ t envelopes events relay notices, Session.Step s (.message d.message) t envelopes events ∧
      w.deliverToIntroducer d = { w with
        relay, notices, network := envelopes.foldl Network.route w.network
        toIntroducer := w.toIntroducer + 1 } ∧
      relay.Keeps t ∧ relay.events = w.relay.events ++ events := by
  obtain ⟨t, envelopes, events, relay, notices, hstep, hcall, hkeeps, hevents⟩ :=
    call_give (w := { w with toIntroducer := w.toIntroducer + 1 }) h hs (.message d.message)
  refine ⟨t, envelopes, events, relay, notices, hstep, ?_, hkeeps, hevents⟩
  unfold deliverToIntroducer
  rw [Relay.receive_eq_give hd, hcall]

/-- The news of a delivery changes nothing. -/
theorem noteDelivery_eq (h : w.relay.Keeps s) (hs : s.Storable)
    (hd : d.message.getId Key.session = .ok s.id) :
    ∃ relay notices, w.noteDelivery d = { w with relay, notices } ∧
      relay.Keeps s ∧ relay.events = w.relay.events := by
  obtain ⟨t, envelopes, events, relay, notices, hstep, hcall, hkeeps, hevents⟩ :=
    call_give h hs (.delivered d.message)
  have hidle : t = s ∧ envelopes = [] ∧ events = [] := by
    cases hstep with
    | ignore _ => exact ⟨rfl, rfl, rfl⟩
    | giveUp hgivesUp => exact hgivesUp.elim
  obtain ⟨rfl, rfl, rfl⟩ := hidle
  refine ⟨relay, notices, ?_, hkeeps, by rw [hevents, List.append_nil]⟩
  unfold noteDelivery
  rw [Relay.delivered_eq_give hd, hcall]
  rfl

/-- A message for a contact is handled by it, and its replies are on the network. -/
theorem deliverToContact_eq [Choice σ] (h : w.relay.Keeps s) (hs : s.Storable)
    (hd : d.message.getId Key.session = .ok s.id) {side : Side}
    (hside : w.sideOn d.channel = some side) {reaction : Participant.Reaction σ}
    (hreaction : (w.participant side).handle w.now d.message w.source = reaction) :
    ∃ relay notices, w.deliverToContact d = { w with
        relay, notices
        source := reaction.source
        toContacts := w.toContacts + 1
        network := reaction.replies.foldl (·.send (w.participant side).contact.channel ·)
          w.network }.setParticipant reaction.participant side ∧
      relay.Keeps s ∧ relay.events = w.relay.events := by
  obtain ⟨relay, notices, hnote, hkeeps, hevents⟩ := noteDelivery_eq h hs hd
  refine ⟨relay, notices ++ reaction.notices, ?_, hkeeps, hevents⟩
  subst hreaction
  unfold deliverToContact
  rw [hnote]
  dsimp only
  rw [show World.sideOn { w with relay, notices } d.channel = some side from hside]
  cases side <;> rfl

end Simulation.World

end Introduction
