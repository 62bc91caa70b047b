import Introduction.Proofs.Simulation.Calls
import Introduction.Proofs.Simulation.Conduct

/-!
# The invariant of the simulated world

A world in which a planned introduction runs is always at some stage (`World.Stage`): the relay
keeps the session, the record accounts for every queue, the introducer and either contact have come
to what the record says, and the counters count its deliveries.  Every delivery and every local
abort lead from a stage to a stage (`Stage.deliver`, `Stage.abort`).
-/

namespace Introduction.Simulation

/-- How many messages were delivered in a direction. -/
def Plan.delivered (plan : Plan) (record : Record) (direction : Direction) : ℕ :=
  (record (plan.channel .first) direction).delivered +
    (record (plan.channel .second) direction).delivered

namespace Plan

/-- A record accounts for the network of a world in which only the contacts' channels are used, and
whose deliveries were counted. -/
structure Wires (plan : Plan) (net : Network) (toIntroducer toContacts : ℕ) (record : Record) :
    Prop where
  accounts : net.Accounts record
  /-- Nothing is sent on channels of nobody. -/
  unused : ∀ channel direction, (∀ side, channel ≠ plan.channel side) →
    (record channel direction).sent = []
  toIntroducer_eq : toIntroducer = plan.delivered record .toIntroducer
  toContacts_eq : toContacts = plan.delivered record .toContact
  delivered_eq : net.delivered = toIntroducer + toContacts
  plain : net.duplication = .never → net.Plain record

variable {plan : Plan} {net net' : Network} {a b : ℕ} {record : Record}

/-- Whatever waits travels on the channel of a contact. -/
lemma Wires.exists_side (h : plan.Wires net a b record) {channel : ChannelId}
    {direction : Direction} {t : Transit} {rest : List Transit}
    (hqueue : net.queue channel direction = t :: rest) : ∃ side, channel = plan.channel side := by
  have hmatches := h.accounts channel direction
  rw [hqueue] at hmatches
  have hmem := hmatches.mem_sent
  by_contra hno
  rw [h.unused channel direction fun side hside => hno ⟨side, hside⟩] at hmem
  cases hmem

/-- Messages are routed to the contacts. -/
lemma Wires.route (h : plan.Wires net a b record) {envelopes : List Envelope}
    (henvelopes : ∀ e ∈ envelopes, ∃ side, e.channel = plan.channel side) :
    plan.Wires (envelopes.foldl Network.route net) a b (record.route envelopes) := by
  obtain ⟨lanes, hnet⟩ := net.foldl_route_eq envelopes
  refine ⟨h.accounts.route _, fun channel direction hchannel => ?_, ?_, ?_, ?_, fun hrate => ?_⟩
  · have hnone : messagesOn channel envelopes = [] := by
      unfold messagesOn
      rw [List.map_eq_nil_iff, List.filter_eq_nil_iff]
      intro e he heq
      obtain ⟨side, hside⟩ := henvelopes e he
      exact hchannel side ((of_decide_eq_true heq).symm.trans hside)
    rw [Record.sent_route, h.unused channel direction hchannel, hnone]
    split_ifs <;> rfl
  · simpa [delivered] using h.toIntroducer_eq
  · simpa [delivered] using h.toContacts_eq
  · rw [hnet]
    exact h.delivered_eq
  · rw [hnet] at hrate
    exact (h.plain hrate).route _

/-- Messages are sent from a contact. -/
lemma Wires.send (h : plan.Wires net a b record) (side : Side) (messages : List Dictionary) :
    plan.Wires (messages.foldl (·.send (plan.channel side) ·) net) a b
      (record.send (plan.channel side) messages) := by
  obtain ⟨lanes, hnet⟩ := net.foldl_send_eq (plan.channel side) messages
  refine ⟨h.accounts.send _ _, fun channel direction hchannel => ?_, ?_, ?_, ?_, fun hrate => ?_⟩
  · rw [Record.sent_send, h.unused channel direction hchannel, if_neg fun h => hchannel side h.1]
    rfl
  · simpa [delivered] using h.toIntroducer_eq
  · simpa [delivered] using h.toContacts_eq
  · rw [hnet]
    exact h.delivered_eq
  · rw [hnet] at hrate
    exact (h.plain hrate).send _ _

/-- A delivery on the channel of a contact counts in its direction. -/
lemma delivered_deliver (record : Record) (side : Side) (direction direction' : Direction)
    (d : Dictionary) (isCopy : Bool) :
    plan.delivered (record.deliver ⟨plan.channel side, direction, d, isCopy⟩) direction' =
      plan.delivered record direction' + if direction' = direction then 1 else 0 := by
  unfold delivered Record.deliver
  by_cases hdirection : direction' = direction
  · cases side <;> simp [hdirection, channel_eq_iff] <;> omega
  · simp [hdirection]

/-- A message is delivered. -/
lemma Wires.deliver (h : plan.Wires net a b record) {side : Side} {direction : Direction}
    {d : Dictionary} {isCopy : Bool}
    (hstep : net.Step (some ⟨plan.channel side, direction, d, isCopy⟩) net') :
    plan.Wires net' (a + if direction = .toIntroducer then 1 else 0)
      (b + if direction = .toContact then 1 else 0)
      (record.deliver ⟨plan.channel side, direction, d, isCopy⟩) := by
  obtain ⟨hdelivered, hrate⟩ := hstep.delivered_eq
  refine ⟨h.accounts.step hstep, fun channel direction hchannel => ?_, ?_, ?_, ?_, fun hnever => ?_⟩
  · rw [Record.sent_deliver]
    exact h.unused channel direction hchannel
  · rw [delivered_deliver, h.toIntroducer_eq]
    simp only [eq_comm]
  · rw [delivered_deliver, h.toContacts_eq]
    simp only [eq_comm]
  · rw [hdelivered, h.delivered_eq]
    cases direction <;> simp <;> omega
  · rw [hrate] at hnever
    exact (h.plain hnever).step hnever hstep

end Plan

namespace World

variable {σ : Type}

/-- Where a world stands in which a planned introduction runs. -/
structure Stage (plan : Plan) (w : World σ) (s : Session) (reached : Session.State)
    (seen : Side → List Message.Kind) (record : Record) : Prop where
  keeps : w.relay.Keeps s
  introduction_eq : w.introduction = some s.id
  wires : plan.Wires w.network w.toIntroducer w.toContacts record
  conducts : plan.Conducts s reached record w.relay.events
  follows : ∀ side, plan.Follows side record (seen side) (w.participant side)
  errors_eq : w.errors = []

variable {plan : Plan} {w : World σ} {s : Session} {reached : Session.State}
  {seen : Side → List Message.Kind} {record : Record}

/-! ### What waits -/

/-- The kinds of the messages sent begin with those that arrived. -/
lemma kinds_prefix {t : Traffic} {queue : List Transit} (h : t.Matches queue) :
    kinds t.arrived <+: kinds t.sent :=
  h.isPrefix_arrived.map _

/-- The kind of an original that waits comes after those that arrived. -/
lemma kinds_append_prefix {t : Traffic} {d : Dictionary} {rest : List Transit} {kind : Message.Kind}
    (h : t.Matches (⟨d, false⟩ :: rest)) (hkind : Message.kindOf d = some kind) :
    kinds t.arrived ++ [some kind] <+: kinds t.sent := by
  have harrived := h.deliver.isPrefix_arrived.map Message.kindOf
  rw [Traffic.deliver, if_neg (by simp)] at harrived
  simpa [kinds, hkind] using harrived

/-- The kind of a copy that waits is among those that arrived. -/
lemma kind_mem_of_copy {t : Traffic} {d : Dictionary} {rest : List Transit} {kind : Message.Kind}
    (h : t.Matches (⟨d, true⟩ :: rest)) (hkind : Message.kindOf d = some kind) :
    some kind ∈ kinds t.arrived := by
  rw [← hkind]
  exact List.mem_map_of_mem h.mem_arrived

variable {d : Dictionary} {m : Message} {rest : List Transit} {side : Side}

/-- An original that waits for a contact is of a new kind, and the contact was not told to stop. -/
lemma Stage.original_toContact (h : w.Stage plan s reached seen record)
    (hqueue : w.network.queue (plan.channel side) .toContact = ⟨d, false⟩ :: rest)
    (hkind : Message.kindOf d = some m.kind) : m.kind ∉ seen side ∧ .abort ∉ seen side := by
  have hmatches := h.wires.accounts (plan.channel side) .toContact
  rw [hqueue] at hmatches
  have hprefix := kinds_append_prefix hmatches hkind
  rw [(h.follows side).arrived_eq, h.conducts.sent_eq side] at hprefix
  have hnext : seen side ++ [m.kind] <+: reached.carried side ++ s.state.farewell := by
    rw [← List.prefix_map_iff_of_injective fun _ _ => Option.some.inj, List.map_append]
    exact hprefix
  exact Session.State.new_of_prefix hnext

/-- A copy that waits for a contact is of a kind that it has seen. -/
lemma Stage.copy_toContact (h : w.Stage plan s reached seen record)
    (hqueue : w.network.queue (plan.channel side) .toContact = ⟨d, true⟩ :: rest)
    (hkind : Message.kindOf d = some m.kind) : m.kind ∈ seen side := by
  have hmatches := h.wires.accounts (plan.channel side) .toContact
  rw [hqueue] at hmatches
  have hmem := kind_mem_of_copy hmatches hkind
  rw [(h.follows side).arrived_eq] at hmem
  simpa using hmem

/-- An original that waits for the introducer is expected, unless the introduction was given up. -/
lemma Stage.original_toIntroducer (h : w.Stage plan s reached seen record)
    (hqueue : w.network.queue (plan.channel side) .toIntroducer = ⟨d, false⟩ :: rest)
    (hkind : Message.kindOf d = some m.kind) (hs : s.state ≠ .aborted) :
    reached.expects side m.kind ∧ reached ≠ .finished := by
  have hinjective : Function.Injective (some : Message.Kind → _) := fun _ _ => Option.some.inj
  have hmatches := h.wires.accounts (plan.channel side) .toIntroducer
  rw [hqueue] at hmatches
  have hnext := kinds_append_prefix hmatches hkind
  rw [h.conducts.arrived_eq hs side, (h.follows side).sent_eq] at hnext
  have htold := kinds_prefix (h.wires.accounts (plan.channel side) .toContact)
  rw [(h.follows side).arrived_eq, h.conducts.sent_eq side, Session.State.farewell, if_neg hs,
    List.append_nil, List.prefix_map_iff_of_injective hinjective] at htold
  have hreply : reached.relayed side ++ [m.kind] <+: (plan.script side).replies (seen side) := by
    rw [← List.prefix_map_iff_of_injective hinjective, List.map_append]
    exact hnext
  exact Session.State.expects_of_replies h.conducts.started h.conducts.going htold hreply

/-- A copy that waits for the introducer is of a kind that was passed on, unless the introduction
was given up. -/
lemma Stage.copy_toIntroducer (h : w.Stage plan s reached seen record)
    (hqueue : w.network.queue (plan.channel side) .toIntroducer = ⟨d, true⟩ :: rest)
    (hkind : Message.kindOf d = some m.kind) (hs : s.state ≠ .aborted) :
    m.kind ∈ reached.relayed side := by
  have hmatches := h.wires.accounts (plan.channel side) .toIntroducer
  rw [hqueue] at hmatches
  have hmem := kind_mem_of_copy hmatches hkind
  rw [h.conducts.arrived_eq hs side] at hmem
  simpa using hmem

/-! ### Steps -/

/-- The session at a stage can be stored. -/
lemma Stage.storable (h : w.Stage plan s reached seen record) : s.Storable := by
  intro side
  rw [h.conducts.same.contact_eq]
  exact plan.storable side

/-- The contacts are those of the plan. -/
lemma Stage.contact_eq (h : w.Stage plan s reached seen record) (side : Side) :
    (w.participant side).contact = plan.session.contact side :=
  (h.follows side).attends.contact_eq

/-- A contact is found by its channel. -/
lemma Stage.sideOn_eq (h : w.Stage plan s reached seen record) (side : Side) :
    w.sideOn (plan.channel side) = some side := by
  have hfirst : w.first.contact.channel = plan.channel .first := by
    rw [show w.first.contact = _ from h.contact_eq .first, Plan.channel]
  have hsecond : w.second.contact.channel = plan.channel .second := by
    rw [show w.second.contact = _ from h.contact_eq .second, Plan.channel]
  unfold sideOn
  rw [hfirst, hsecond]
  simp only [Plan.channel_eq_iff]
  cases side <;> simp

/-- What a step of the session sends goes to the contacts. -/
lemma Stage.exists_channel_eq (h : w.Stage plan s reached seen record) {t : Session}
    {input : Session.Input} {envelopes : List Envelope} {events : List Event}
    (hstep : Session.Step s input t envelopes events) :
    ∀ e ∈ envelopes, ∃ side, e.channel = plan.channel side := by
  intro e he
  obtain ⟨side, hchannel, -⟩ := hstep.sends he
  exact ⟨side, hchannel.trans (Plan.channel_eq h.conducts.same side)⟩

/-- A local abort leads to a stage in which the introduction is given up. -/
theorem Stage.abort (h : w.Stage plan s reached seen record) :
    w.abort.1 = .ok () ∧ w.abort.2.network.delivered = w.network.delivered ∧
      ∃ t record', w.abort.2.Stage plan t reached seen record' ∧ t.state = .aborted := by
  obtain ⟨t, envelopes, events, relay, notices, hstep, habort, hkeeps, hevents⟩ :=
    abort_eq h.keeps h.storable h.introduction_eq
  have hwires := h.wires.route (h.exists_channel_eq hstep)
  have ht : t.state = .aborted := by
    cases hstep with
    | ignore hignores => exact hignores
    | giveUp _ => rfl
  rw [habort]
  have hdelivered := hwires.delivered_eq.trans h.wires.delivered_eq.symm
  refine ⟨rfl, hdelivered, t, record.route envelopes, ?_, ht⟩
  refine ⟨hkeeps, ?_, hwires, ?_, fun side => ?_, h.errors_eq⟩
  · rw [hstep.id_eq]
    exact h.introduction_eq
  · rw [hevents]
    exact h.conducts.abort hstep
  · refine (h.follows side).congr ?_ ?_ ?_ <;> simp

/-- A message that the session hears names the session. -/
lemma getId_session_of_hears {d : Dictionary} {m : Message} (h : s.Hears side d m) :
    d.getId Key.session = .ok s.id :=
  Dictionary.getId_eq_ok_iff.mpr (Message.Header.ofDictionary_eq_ok_iff.mp h.header_eq).2.1

/-- A delivery to the introducer leads to a stage, in which the introduction is not given up over an
original. -/
lemma Stage.deliverToIntroducer (h : w.Stage plan s reached seen record) {isCopy : Bool}
    {net : Network}
    (hstep : w.network.Step (some ⟨plan.channel side, .toIntroducer, d, isCopy⟩) net) (source : σ)
    (now : UInt64) (notices : List Notice) :
    ∃ t reached' record' w',
      ({ w with network := net, source, now, notices } : World σ).deliverToIntroducer
          ⟨plan.channel side, .toIntroducer, d, isCopy⟩ = w' ∧
        w'.Stage plan t reached' seen record' ∧ (∃ lanes, w'.network = { net with lanes }) ∧
          (isCopy = false → s.state ≠ .aborted → t.state ≠ .aborted) := by
  obtain ⟨rest, hqueue⟩ := hstep.exists_queue_eq
  have hmatches := h.wires.accounts (plan.channel side) .toIntroducer
  rw [hqueue] at hmatches
  obtain ⟨m, hspoken⟩ := (h.follows side).says_of_mem d hmatches.mem_sent
  have hhears : s.Hears side d m :=
    hspoken.hears.congr h.conducts.same.id_eq h.conducts.same.contact_eq
  obtain ⟨t, envelopes, events, relay, notices', hsession, hdeliver, hkeeps, hevents⟩ :=
    deliverToIntroducer_eq (w := { w with network := net, source, now, notices })
      (d := ⟨plan.channel side, .toIntroducer, d, isCopy⟩) h.keeps h.storable
      (getId_session_of_hears hhears)
  have hwires := (h.wires.deliver hstep).route (h.exists_channel_eq hsession)
  obtain ⟨hconducts, hgoes⟩ := h.conducts.receive isCopy hspoken hsession
    (by rintro rfl hs; exact h.original_toIntroducer hqueue hspoken.kindOf_eq hs)
    (by rintro rfl hs; exact h.copy_toIntroducer hqueue hspoken.kindOf_eq hs)
  refine ⟨t, Plan.reachedAfter reached t, _, _, hdeliver,
    ⟨hkeeps, ?_, hwires, ?_, fun side' => ?_, h.errors_eq⟩, net.foldl_route_eq envelopes, hgoes⟩
  · rw [hsession.id_eq]
    exact h.introduction_eq
  · rw [hevents]
    exact hconducts
  · have hother : record.deliver ⟨plan.channel side, .toIntroducer, d, isCopy⟩ (plan.channel side')
        .toContact = record (plan.channel side') .toContact := Record.deliver_of_ne _ _ _ (by simp)
    refine (h.follows side').congr ?_ ?_ ?_ <;> simp [hother]

/-- A world with another contact is at a stage if that contact has come to what the record says. -/
lemma Stage.setParticipant {p : Participant} (hkeeps : w.relay.Keeps s)
    (hintroduction : w.introduction = some s.id)
    (hwires : plan.Wires w.network w.toIntroducer w.toContacts record)
    (hconducts : plan.Conducts s reached record w.relay.events)
    (hfollows : ∀ side', plan.Follows side' record (seen side')
      (if side' = side then p else w.participant side')) (herrors : w.errors = []) :
    (w.setParticipant p side).Stage plan s reached seen record := by
  simp only [← participant_setParticipant] at hfollows
  cases side <;> exact ⟨hkeeps, hintroduction, hwires, hconducts, hfollows, herrors⟩

/-- A delivery to a contact leads to a stage of the same session. -/
lemma Stage.deliverToContact [Choice σ] (h : w.Stage plan s reached seen record) {isCopy : Bool}
    {net : Network}
    (hstep : w.network.Step (some ⟨plan.channel side, .toContact, d, isCopy⟩) net) (source : σ)
    (now : UInt64) (notices : List Notice) :
    ∃ seen' record' w',
      ({ w with network := net, source, now, notices } : World σ).deliverToContact
          ⟨plan.channel side, .toContact, d, isCopy⟩ = w' ∧
        w'.Stage plan s reached seen' record' ∧ ∃ lanes, w'.network = { net with lanes } := by
  obtain ⟨rest, hqueue⟩ := hstep.exists_queue_eq
  have hmatches := h.wires.accounts (plan.channel side) .toContact
  rw [hqueue] at hmatches
  obtain ⟨m, htells⟩ := h.conducts.tells side d hmatches.mem_sent
  have hhears : s.Hears side d m :=
    htells.hears.congr h.conducts.same.id_eq h.conducts.same.contact_eq
  obtain ⟨reaction, hreaction⟩ : ∃ reaction, (w.participant side).handle now d source = reaction :=
    ⟨_, rfl⟩
  obtain ⟨relay, notices', hdeliver, hkeeps, hevents⟩ :=
    deliverToContact_eq (w := { w with network := net, source, now, notices })
      (d := ⟨plan.channel side, .toContact, d, isCopy⟩) h.keeps h.storable
      (getId_session_of_hears hhears) (h.sideOn_eq side) hreaction
  have hchannel : (World.participant { w with network := net, source, now, notices }
      side).contact.channel = plan.channel side := congrArg Contact.channel (h.contact_eq side)
  rw [hchannel] at hdeliver
  have hreceive := (h.follows side).receive isCopy htells
    (by rintro rfl; exact h.original_toContact hqueue htells.kindOf_eq)
    (by rintro rfl; exact h.copy_toContact hqueue htells.kindOf_eq) now source
  rw [hreaction] at hreceive
  have hwires := (h.wires.deliver hstep).send side reaction.replies
  refine ⟨fun side' => if side' = side then (if isCopy then seen side else seen side ++ [m.kind])
    else seen side', _, _, hdeliver, Stage.setParticipant hkeeps h.introduction_eq hwires ?_
    (fun side' => ?_) h.errors_eq, ?_⟩
  · rw [hevents]
    refine h.conducts.congr (fun side' => ?_) (fun side' => ?_) fun side' => ?_
    · simp
    · rw [Record.arrived_send, Record.deliver_of_ne _ _ _ (by simp)]
    · rw [Record.returned_send, Record.deliver_of_ne _ _ _ (by simp)]
  · by_cases hother : side' = side
    · subst hother
      rw [if_pos rfl, if_pos rfl]
      exact hreceive
    · have hne : plan.channel side' ≠ plan.channel side :=
        fun hchannel => hother ((Plan.channel_eq_iff _ _).mp hchannel)
      rw [if_neg hother, if_neg hother]
      refine (h.follows side').congr ?_ ?_ ?_
      · rw [Record.arrived_send, Record.deliver_of_ne _ _ _ fun h => hne h.1]
      · rw [Record.returned_send, Record.deliver_of_ne _ _ _ fun h => hne h.1]
      · simp [hne]
  · have hnetwork : ∀ w' : World σ, ∀ p, (w'.setParticipant p side).network = w'.network := by
      intro w' p
      cases side <;> rfl
    rw [hnetwork]
    exact net.foldl_send_eq (plan.channel side) reaction.replies

/-- A step of the world delivers a message and leads to a stage, unless none waits.  Where nothing
is copied it does not make the introducer give up. -/
theorem Stage.step [Choice σ] (h : w.Stage plan s reached seen record) :
    (w.step.1 = false ∧ w.isIdle ∧ w.step.2.network = w.network ∧
        w.step.2.Stage plan s reached seen record) ∨
      (w.step.1 = true ∧ w.step.2.network.delivered = w.network.delivered + 1 ∧
        w.step.2.network.duplication = w.network.duplication ∧
          ∃ t reached' seen' record', w.step.2.Stage plan t reached' seen' record' ∧
            (w.network.duplication = .never → s.state ≠ .aborted → t.state ≠ .aborted)) := by
  have hstep := w.network.step_step w.source
  unfold World.step
  revert hstep
  rcases w.network.step w.source with ⟨_ | d, net, source⟩ <;> intro hstep
  · left
    cases hstep with
    | idle hidle => exact ⟨rfl, hidle, rfl, h.keeps, h.introduction_eq, h.wires, h.conducts,
        h.follows, h.errors_eq⟩
  · right
    dsimp only at hstep ⊢
    obtain ⟨hdelivered, hrate⟩ := hstep.delivered_eq
    obtain ⟨channel, direction, message, isCopy⟩ := d
    obtain ⟨rest, hqueue⟩ := hstep.exists_queue_eq
    obtain ⟨side, rfl⟩ := h.wires.exists_side hqueue
    cases direction with
    | toIntroducer =>
      obtain ⟨t, reached', record', w', hdeliver, hstage, ⟨lanes, hnet⟩, hgoes⟩ :=
        h.deliverToIntroducer hstep source (advance w.now stepTime)
          (w.notices ++ [Network.notice ⟨plan.channel side, .toIntroducer, message, isCopy⟩])
      have heq : ({ w with network := net, source } : World σ).deliver
          ⟨plan.channel side, .toIntroducer, message, isCopy⟩ = w' := hdeliver
      rw [heq, hnet]
      refine ⟨rfl, hdelivered, hrate, t, reached', seen, record', hstage, fun hnever hs => ?_⟩
      exact hgoes ((h.wires.plain hnever).isCopy_eq hqueue) hs
    | toContact =>
      obtain ⟨seen', record', w', hdeliver, hstage, lanes, hnet⟩ :=
        h.deliverToContact hstep source (advance w.now stepTime)
          (w.notices ++ [Network.notice ⟨plan.channel side, .toContact, message, isCopy⟩])
      have heq : ({ w with network := net, source } : World σ).deliver
          ⟨plan.channel side, .toContact, message, isCopy⟩ = w' := hdeliver
      rw [heq, hnet]
      exact ⟨rfl, hdelivered, hrate, s, reached, seen', record', hstage, fun _ hs => hs⟩

end World

end Introduction.Simulation
