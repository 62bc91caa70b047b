import Introduction.Proofs.Simulation.Contact
import Introduction.Proofs.Simulation.Traffic

/-!
# The introducer and the contacts against the traffic between them

What is known of a planned introduction while it runs, in terms of the record of its traffic.

The introducer has come to some state and may have given the introduction up in it (`Conducts`):
what it sent to a contact is what that state requires, with an abort at the end if it gave up, and
as long as it did not, what arrived from a contact is what that state has passed on.  A contact has
come to what arrived at it and has sent the replies to that (`Follows`).

Each side is preserved by the deliveries to it.  An original that arrives at the introducer is
always expected (`State.expects_of_replies`): a contact replies to what the introducer told it, and
the introducer told it no more than the state requires.
-/

namespace Introduction

namespace Session.State

/-- What a state expects has not been passed on yet. -/
lemma not_mem_relayed {state : State} {side : Side} {kind : Message.Kind}
    (h : state.expects side kind) (hstate : state ≠ .finished) : kind ∉ state.relayed side := by
  cases kind with
  | request => exact h.elim
  | abort => exact h.elim
  | response =>
    rcases h with rfl | rfl | rfl
    · simp [relayed]
    · simp [relayed]
    · exact absurd rfl hstate
  | ack => rcases h with rfl | rfl <;> simp [relayed]

/-- The next reply to what a contact was told is expected: a contact that has not been told the
other's answer has only its own to send. -/
theorem expects_of_replies {reached : State} {side : Side} {kind : Message.Kind}
    {script : Simulation.Script} {seen : List Message.Kind} (hstarted : reached ≠ .prepareRequests)
    (hgoing : reached ≠ .aborted) (hseen : seen <+: reached.carried side)
    (hnext : reached.relayed side ++ [kind] <+: script.replies seen) :
    reached.expects side kind ∧ reached ≠ .finished := by
  have hreplies : script.replies seen <+:
      if .response ∈ reached.relayed side.other then [.response, .ack] else [.response] := by
    have htold : .response ∈ seen → .response ∈ reached.relayed side.other := by
      intro hmem
      have hcarried := hseen.subset hmem
      rw [carried, if_neg hstarted] at hcarried
      simpa using hcarried
    unfold Simulation.Script.replies
    split_ifs <;> simp_all
  have hlist := hnext.trans hreplies
  rcases reached with _ | _ | waiting | _ | waiting | _ | _
  · exact absurd rfl hstarted
  · simp [relayed] at hlist
    simp [expects, hlist]
  · cases waiting <;> cases side <;> simp [relayed, Side.other] at hlist <;> simp [expects, hlist]
  · simp [relayed] at hlist
    simp [expects, hlist]
  · cases waiting <;> cases side <;> simp [relayed, Side.other] at hlist <;> simp [expects, hlist]
  · simp [relayed] at hlist
  · exact absurd rfl hgoing

/-- What a contact is sent is of different kinds. -/
lemma nodup_carried_farewell (reached state : State) (side : Side) :
    (reached.carried side ++ state.farewell).Nodup := by
  have hcarried := (reached.carried_prefix side).sublist
  have hfarewell : state.farewell.Sublist [.abort] := by
    unfold farewell
    split_ifs
    · exact List.Sublist.refl _
    · exact List.nil_sublist _
  exact (hcarried.append hfarewell).nodup (by decide)

/-- No contact is sent an abort before the introduction is given up. -/
lemma abort_not_mem_carried (reached : State) (side : Side) : .abort ∉ reached.carried side :=
  fun h => absurd ((reached.carried_prefix side).subset h) (by decide)

/-- The next message that a contact is sent is of a new kind, and comes before it was told to
stop. -/
theorem new_of_prefix {reached state : State} {side : Side} {seen : List Message.Kind}
    {kind : Message.Kind} (h : seen ++ [kind] <+: reached.carried side ++ state.farewell) :
    kind ∉ seen ∧ .abort ∉ seen := by
  have hnodup := h.sublist.nodup (nodup_carried_farewell reached state side)
  refine ⟨fun hmem => ?_, fun hmem => ?_⟩
  · exact (List.nodup_append.mp hnodup).2.2 kind hmem kind (by simp) rfl
  · obtain ⟨rest, hrest⟩ := h
    rw [List.append_assoc, List.append_eq_append_iff] at hrest
    rcases hrest with ⟨more, hcarried, -⟩ | ⟨more, hseen, hfarewell⟩
    · exact abort_not_mem_carried reached side (hcarried ▸ List.mem_append_left _ hmem)
    · -- an abort is the last message, so nothing of it is left to be sent
      have hlength : state.farewell.length ≤ 1 := by
        unfold farewell
        split_ifs <;> simp
      have hmore : more = [] := by
        rw [hfarewell] at hlength
        simp at hlength
        exact List.length_eq_zero_iff.mp (by omega)
      rw [hseen, hmore, List.append_nil] at hmem
      exact abort_not_mem_carried reached side hmem

end Session.State

namespace Simulation

variable {plan : Plan} {side : Side} {record record' : Record}

/-! ### The introducer -/

/-- An event reports what the contact on a side answered, as its script says. -/
structure Plan.Reports (plan : Plan) (side : Side) (e : Event) : Prop where
  contact_eq : e.contact = (plan.session.contact side).id
  accept_eq : e.accept = (plan.script side).accept
  name_eq : e.name = (plan.session.contact side.other).name
  speaks : (plan.script side).silent = false

/-- How many events are about the contact on a side. -/
def Plan.reports (plan : Plan) (side : Side) (events : List Event) : ℕ :=
  events.countP (·.contact = (plan.session.contact side).id)

/-- How far the introducer has come, by the record of the traffic and the events published. -/
structure Plan.Conducts (plan : Plan) (s : Session) (reached : Session.State) (record : Record)
    (events : List Event) : Prop where
  /-- The session is the planned one further on. -/
  same : plan.session.SameIntroduction s
  /-- It is in the state reached, or was given up in it. -/
  state_eq : s.state = reached ∨ s.state = .aborted
  started : reached ≠ .prepareRequests
  going : reached ≠ .aborted
  /-- Either contact was sent what the state reached requires, and an abort if it was given up. -/
  sent_eq : ∀ side, kinds (record (plan.channel side) .toContact).sent =
    (reached.carried side ++ s.state.farewell).map some
  tells : ∀ side, ∀ d ∈ (record (plan.channel side) .toContact).sent, ∃ m, plan.Tells side d m
  /-- What has arrived was passed on, unless the introduction was given up. -/
  arrived_eq : s.state ≠ .aborted → ∀ side,
    kinds (record (plan.channel side) .toIntroducer).arrived = (reached.relayed side).map some
  reports : ∀ e ∈ events, ∃ side, plan.Reports side e
  /-- The responses that were passed on were published, and else only copies were. -/
  le_reports : ∀ side, (reached.relayed side).count .response ≤ plan.reports side events
  reports_le : ∀ side, plan.reports side events ≤ (reached.relayed side).count .response +
    (kinds (record (plan.channel side) .toIntroducer).returned).count (some .response)

namespace Plan

variable {s t : Session} {reached : Session.State} {events : List Event} {d : Dictionary}
  {m : Message} {input : Session.Input} {envelopes : List Envelope} {published : List Event}

/-- Further on the contacts have the planned channels. -/
lemma channel_eq (h : plan.session.SameIntroduction s) (side : Side) :
    (s.contact side).channel = plan.channel side := by
  rw [h.contact_eq]
  rfl

/-- What a session sends over a message or an abort is planned, if the message says what its
sender's script says. -/
lemma exists_tells_of_step (hsame : plan.session.SameIntroduction s)
    (hstep : Session.Step s input t envelopes published)
    (hinput : input = .act .abort ∨ ∃ sender d m, input = .message d ∧ plan.Says sender d m)
    (side : Side) (hmem : d ∈ messagesOn (plan.channel side) envelopes) :
    ∃ m, plan.Tells side d m := by
  obtain ⟨e, he, rfl⟩ := List.mem_map.mp hmem
  obtain ⟨he, hchannel⟩ := List.mem_filter.mp he
  obtain ⟨side', hsends⟩ := hstep.sends he
  obtain ⟨hchannel', m, hhears, horigin⟩ := hsame.sends hsends
  have hside : side' = side := by
    rw [← plan.session.channel_eq_iff, ← hchannel']
    exact of_decide_eq_true hchannel
  subst hside
  refine ⟨m, hhears, ?_, ?_⟩
  · rintro r rfl
    obtain ⟨_, _, hrequest, -⟩ := horigin
    rcases hinput with h | ⟨_, _, _, h, -⟩ <;> cases h.symm.trans hrequest
  · rintro r rfl
    obtain ⟨⟨inbound, m', hinbound, hhears', hkind⟩, inbound', hinbound', heq⟩ := horigin
    rcases hinput with h | ⟨sender, d, m'', h, hspoken⟩
    · cases h.symm.trans hinbound
    · cases h.symm.trans hinbound
      cases h.symm.trans hinbound'
      obtain ⟨rfl, rfl⟩ := hspoken.hears.unique hhears'
      have hread := Message.ofDictionary_insert_channel hspoken.hears.reads
        (plan.session.contact side').channel
      rw [← heq, hhears.reads] at hread
      cases m'' with
      | response r' =>
        cases hread
        exact hspoken.accept_eq r' rfl
      | request _ => cases hread
      | ack _ => cases hread
      | abort _ => cases hread

/-- The state that an introduction has come to after a step. -/
def reachedAfter (reached : Session.State) (t : Session) : Session.State :=
  if t.state = .aborted then reached else t.state

/-- Over a step either contact is sent what is missing. -/
lemma Conducts.sent_append (h : plan.Conducts s reached record events)
    (hstep : Session.Step s input t envelopes published) (side : Side) :
    kinds ((record (plan.channel side) .toContact).sent ++
        messagesOn (plan.channel side) envelopes) =
      ((reachedAfter reached t).carried side ++ t.state.farewell).map some := by
  have hsent := h.sent_eq side
  have hkinds : kinds (messagesOn (plan.channel side) envelopes) = s.kindsTo side envelopes := by
    rw [Session.kindsTo, channel_eq h.same]
    rfl
  rw [kinds_append, hsent, hkinds]
  by_cases hs : s.state = .aborted
  · obtain ⟨rfl, rfl, -⟩ := hstep.eq_of_aborted hs
    rw [reachedAfter, if_pos hs]
    exact List.append_nil _
  · have hreached : s.state = reached := h.state_eq.resolve_right hs
    have hfarewell : s.state.farewell = [] := if_neg hs
    rw [hfarewell, List.append_nil]
    by_cases ht : t.state = .aborted
    · rw [reachedAfter, if_pos ht, hstep.kindsTo_of_aborted hs ht, Session.State.farewell,
        if_pos ht, List.map_append]
      rfl
    · rw [reachedAfter, if_neg ht, ← hreached, hstep.carried_append ht, Session.State.farewell,
        if_neg ht, List.append_nil]

/-- Events over a message are about its sender. -/
lemma reports_eventsOver (hsame : plan.session.SameIntroduction s) (sender side : Side)
    (m : Message) :
    plan.reports side (s.eventsOver sender m) =
      if sender = side then [m.kind].count .response else 0 := by
  have hids : (plan.session.contact sender).id = (plan.session.contact side).id ↔
      sender = side := by
    have hne := plan.ids_ne
    cases sender <;> cases side <;> simp [Session.contact, hne, hne.symm]
  cases m with
  | response r =>
    simp [reports, Session.eventsOver, Session.responseEvent, hsame.contact_eq, hids, Message.kind,
      List.countP_cons]
  | request _ => simp [reports, Session.eventsOver, Message.kind]
  | ack _ => simp [reports, Session.eventsOver, Message.kind]
  | abort _ => simp [reports, Session.eventsOver, Message.kind]

/-- Events over a message that says what its sender's script says report that. -/
lemma Says.reports {sender : Side} (hsame : plan.session.SameIntroduction s)
    (hspoken : plan.Says sender d m) {e : Event} (he : e ∈ s.eventsOver sender m) :
    plan.Reports sender e := by
  cases m with
  | response r =>
    rw [List.mem_singleton.mp he]
    refine ⟨?_, hspoken.accept_eq r rfl, ?_, hspoken.speaks⟩
    · rw [Session.responseEvent, hsame.contact_eq]
    · rw [Session.responseEvent, hsame.contact_eq, hsame.contact_eq]
  | request _ => cases he
  | ack _ => cases he
  | abort _ => cases he

/-- The session after a step is the planned one further on. -/
lemma sameIntroduction_step (h : plan.session.SameIntroduction s)
    (hstep : Session.Step s input t envelopes published) : plan.session.SameIntroduction t :=
  ⟨hstep.id_eq.trans h.id_eq, fun side => (hstep.contact_eq side).trans (h.contact_eq side)⟩

/-- Over a step the contacts are sent what is missing, and it is planned. -/
lemma Conducts.sent_route (h : plan.Conducts s reached record events) (record' : Record)
    (hstep : Session.Step s input t envelopes published)
    (hinput : input = .act .abort ∨ ∃ sender d m, input = .message d ∧ plan.Says sender d m)
    (hsent : ∀ side, (record' (plan.channel side) .toContact).sent =
      (record (plan.channel side) .toContact).sent) (side : Side) :
    kinds (record'.route envelopes (plan.channel side) .toContact).sent =
        ((reachedAfter reached t).carried side ++ t.state.farewell).map some ∧
      ∀ d ∈ (record'.route envelopes (plan.channel side) .toContact).sent,
        ∃ m, plan.Tells side d m := by
  rw [Record.sent_route, if_pos rfl, hsent]
  refine ⟨h.sent_append hstep side, fun d hd => ?_⟩
  rcases List.mem_append.mp hd with hd | hd
  · exact h.tells side d hd
  · exact exists_tells_of_step h.same hstep hinput side hd

/-- Giving the introduction up tells both contacts, and publishes nothing. -/
theorem Conducts.abort (h : plan.Conducts s reached record events)
    (hstep : Session.Step s (.act .abort) t envelopes published) :
    plan.Conducts t reached (record.route envelopes) (events ++ published) := by
  have hstate : t.state = .aborted ∧ published = [] := by
    cases hstep with
    | ignore hignores => exact ⟨hignores, rfl⟩
    | giveUp _ => exact ⟨rfl, rfl⟩
  obtain ⟨ht, rfl⟩ := hstate
  have hsent := h.sent_route record hstep (.inl rfl) fun _ => rfl
  rw [reachedAfter, if_pos ht] at hsent
  rw [List.append_nil]
  refine ⟨sameIntroduction_step h.same hstep, .inr ht, h.started, h.going,
    fun side => (hsent side).1, fun side => (hsent side).2, fun hne => absurd ht hne, h.reports,
    h.le_reports, fun side => ?_⟩
  rw [Record.returned_route]
  exact h.reports_le side

/-- The contacts use different channels. -/
lemma channel_eq_iff (side side' : Side) : plan.channel side = plan.channel side' ↔ side = side' :=
  plan.session.channel_eq_iff

/-- What has arrived after a delivery, by kind. -/
lemma kinds_arrived_deliver (plan : Plan) {kind : Message.Kind}
    (hkind : Message.kindOf d = some kind) (record : Record) (side side' : Side)
    (direction : Direction) (isCopy : Bool) :
    kinds (record.deliver ⟨plan.channel side, direction, d, isCopy⟩ (plan.channel side')
        direction).arrived =
      kinds (record (plan.channel side') direction).arrived ++
        if side = side' ∧ isCopy = false then [some kind] else [] := by
  by_cases hside : side = side'
  · subst hside
    rw [Record.deliver, if_pos ⟨rfl, rfl⟩]
    cases isCopy <;> simp [Traffic.deliver, kinds, hkind]
  · rw [Record.deliver_of_ne _ _ _ fun h => hside (channel_eq_iff _ _ |>.mp h.1).symm]
    simp [hside]

/-- What has come back after a delivery, by kind. -/
lemma kinds_returned_deliver (plan : Plan) {kind : Message.Kind}
    (hkind : Message.kindOf d = some kind) (record : Record) (side side' : Side)
    (direction : Direction) (isCopy : Bool) :
    kinds (record.deliver ⟨plan.channel side, direction, d, isCopy⟩ (plan.channel side')
        direction).returned =
      kinds (record (plan.channel side') direction).returned ++
        if side = side' ∧ isCopy = true then [some kind] else [] := by
  by_cases hside : side = side'
  · subst hside
    rw [Record.deliver, if_pos ⟨rfl, rfl⟩]
    cases isCopy <;> simp [Traffic.deliver, kinds, hkind]
  · rw [Record.deliver_of_ne _ _ _ fun h => hside (channel_eq_iff _ _ |>.mp h.1).symm]
    simp [hside]

/-- What becomes of the introduction over a message from a contact: it is given up, or ignored if it
is given up already; or the message is passed on, unless it is a copy of a response and is published
again. -/
lemma Conducts.message_cases (h : plan.Conducts s reached record events) {sender : Side}
    {isCopy : Bool} (hspoken : plan.Says sender d m)
    (hstep : Session.Step s (.message d) t envelopes published)
    (horiginal : isCopy = false → s.state ≠ .aborted →
      reached.expects sender m.kind ∧ reached ≠ .finished)
    (hcopy : isCopy = true → s.state ≠ .aborted → m.kind ∈ reached.relayed sender) :
    (t.state = .aborted ∧ published = [] ∧ (isCopy = false → s.state = .aborted)) ∨
      (t.state ≠ .aborted ∧ published = s.eventsOver sender m ∧
        (isCopy = true → m.kind = .response) ∧ s.state = reached ∧
          ∀ side, t.state.relayed side =
            reached.relayed side ++ if sender = side ∧ isCopy = false then [m.kind] else []) := by
  have hhears : s.Hears sender d m := hspoken.hears.congr h.same.id_eq h.same.contact_eq
  rcases hstep.message_cases hhears with ⟨hs, ht, hpublished⟩ | ⟨hunexpected, ht, hpublished⟩ |
    ⟨hexpected, hfinished, ht, hpublished⟩ | ⟨hfinished, hresponse, ht, hpublished⟩
  · exact .inl ⟨ht, hpublished, fun _ => hs⟩
  · refine .inl ⟨ht, hpublished, fun hno => by_contra fun hs => hunexpected ?_⟩
    rw [h.state_eq.resolve_right hs]
    exact (horiginal hno hs).1
  · have hnext := (Session.State.next_ofMessage_ne_aborted_iff _ _ _).mpr hexpected
    have hs : s.state ≠ .aborted := by
      intro hs
      rw [hs] at hnext
      exact hnext rfl
    have hreached := h.state_eq.resolve_right hs
    have hno : isCopy = false := by
      rw [← Bool.not_eq_true]
      intro hyes
      have hmem := hcopy hyes hs
      rw [← hreached] at hmem
      exact Session.State.not_mem_relayed hexpected hfinished hmem
    refine .inr ⟨by rw [ht]; exact hnext, hpublished, by simp [hno], hreached, fun side => ?_⟩
    rw [ht, ← hreached, Session.State.relayed_next hexpected hfinished]
    simp [hno]
  · have hs : s.state ≠ .aborted := by rw [hfinished]; simp
    have hreached := h.state_eq.resolve_right hs
    have hyes : isCopy = true := by
      rw [← Bool.not_eq_false]
      exact fun hno => (horiginal hno hs).2 (hreached ▸ hfinished)
    refine .inr ⟨by rw [ht]; simp, hpublished, fun _ => hresponse, hreached, fun side => ?_⟩
    rw [ht, ← hreached, hfinished]
    simp [hyes]

/-- A message from a contact brings the introducer to the state after it, if originals are expected
and copies are of messages that were passed on. -/
theorem Conducts.receive (h : plan.Conducts s reached record events) {sender : Side} (isCopy : Bool)
    (hspoken : plan.Says sender d m) (hstep : Session.Step s (.message d) t envelopes published)
    (horiginal : isCopy = false → s.state ≠ .aborted →
      reached.expects sender m.kind ∧ reached ≠ .finished)
    (hcopy : isCopy = true → s.state ≠ .aborted → m.kind ∈ reached.relayed sender) :
    plan.Conducts t (reachedAfter reached t)
        ((record.deliver ⟨plan.channel sender, .toIntroducer, d, isCopy⟩).route envelopes)
        (events ++ published) ∧
      (isCopy = false → s.state ≠ .aborted → t.state ≠ .aborted) := by
  have hkind := hspoken.kindOf_eq
  have harrived := fun side =>
    plan.kinds_arrived_deliver hkind record sender side .toIntroducer isCopy
  have hreturned := fun side =>
    plan.kinds_returned_deliver hkind record sender side .toIntroducer isCopy
  -- whatever becomes of the session, what was sent follows from the step alone
  have hsame := sameIntroduction_step h.same hstep
  have hsent := h.sent_route (record.deliver ⟨plan.channel sender, .toIntroducer, d, isCopy⟩) hstep
    (.inr ⟨sender, d, m, rfl, hspoken⟩) fun side => Record.sent_deliver _ _ _ _
  have hstarted : t.state ≠ .prepareRequests := by
    refine hstep.state_ne_prepareRequests ?_
    rcases h.state_eq with hs | hs <;> rw [hs]
    · exact h.started
    · simp
  rcases h.message_cases hspoken hstep horiginal hcopy with ⟨ht, rfl, hno⟩ |
    ⟨ht, rfl, hresponse, hreached, hrelayed⟩
  · have hafter : reachedAfter reached t = reached := if_pos ht
    rw [List.append_nil]
    rw [hafter] at hsent ⊢
    refine ⟨⟨hsame, .inr ht, h.started, h.going, fun side => (hsent side).1,
      fun side => (hsent side).2, fun hne => absurd ht hne, h.reports, h.le_reports, fun side => ?_⟩,
      fun hcopy hs => absurd (hno hcopy) hs⟩
    rw [Record.returned_route, hreturned, List.count_append]
    exact (h.reports_le side).trans (by omega)
  · have hafter : reachedAfter reached t = t.state := if_neg ht
    have hreports : ∀ side, plan.reports side (events ++ s.eventsOver sender m) =
        plan.reports side events + if sender = side then [m.kind].count .response else 0 := by
      intro side
      rw [← reports_eventsOver h.same]
      exact List.countP_append
    rw [hafter] at hsent ⊢
    refine ⟨⟨hsame, .inl rfl, hstarted, ht, fun side => (hsent side).1, fun side => (hsent side).2,
      fun _ side => ?_, fun e he => ?_, fun side => ?_, fun side => ?_⟩, fun _ _ => ht⟩
    · have hs : s.state ≠ .aborted := by rw [hreached]; exact h.going
      rw [Record.arrived_route, harrived, h.arrived_eq hs, hrelayed, List.map_append]
      split_ifs <;> rfl
    · rcases List.mem_append.mp he with he | he
      · exact h.reports e he
      · exact ⟨sender, hspoken.reports h.same he⟩
    · have hle := h.le_reports side
      rw [hreports, hrelayed, List.count_append]
      cases isCopy <;> by_cases hside : sender = side <;> simp [hside] <;> omega
    · have hle := h.reports_le side
      rw [hreports, hrelayed, List.count_append, Record.returned_route, hreturned,
        List.count_append]
      cases isCopy with
      | false => by_cases hside : sender = side <;> simp [hside] <;> omega
      | true =>
        rw [hresponse rfl]
        by_cases hside : sender = side <;> simp [hside] <;> omega

/-- What the introducer has come to depends on what it sent and on what arrived at it. -/
lemma Conducts.congr (h : plan.Conducts s reached record events)
    (hsent : ∀ side, (record' (plan.channel side) .toContact).sent =
      (record (plan.channel side) .toContact).sent)
    (harrived : ∀ side, (record' (plan.channel side) .toIntroducer).arrived =
      (record (plan.channel side) .toIntroducer).arrived)
    (hreturned : ∀ side, (record' (plan.channel side) .toIntroducer).returned =
      (record (plan.channel side) .toIntroducer).returned) :
    plan.Conducts s reached record' events := by
  refine ⟨h.same, h.state_eq, h.started, h.going, fun side => ?_, fun side => ?_, fun hs side => ?_,
    h.reports, h.le_reports, fun side => ?_⟩
  · rw [hsent]
    exact h.sent_eq side
  · rw [hsent]
    exact h.tells side
  · rw [harrived]
    exact h.arrived_eq hs side
  · rw [hreturned]
    exact h.reports_le side

/-! ### The contacts -/

/-- How far the contact on a side has come, by the record of the traffic. -/
structure Follows (plan : Plan) (side : Side) (record : Record) (seen : List Message.Kind)
    (p : Participant) : Prop where
  arrived_eq : kinds (record (plan.channel side) .toContact).arrived = seen.map some
  attends : plan.Attends side seen p
  /-- It has sent the replies to what it has seen. -/
  sent_eq : kinds (record (plan.channel side) .toIntroducer).sent =
    ((plan.script side).replies seen).map some
  says_of_mem : ∀ d ∈ (record (plan.channel side) .toIntroducer).sent, ∃ m, plan.Says side d m
  /-- It has counted the acks that it has seen, and else only copies. -/
  le_acks : seen.count .ack ≤ p.acksReceived
  acks_le : p.acksReceived ≤ seen.count .ack +
    (kinds (record (plan.channel side) .toContact).returned).count (some .ack)

variable {seen : List Message.Kind} {p : Participant}

/-- What a contact has come to depends on what arrived at it and on what it sent. -/
lemma Follows.congr (h : plan.Follows side record seen p)
    (harrived : (record' (plan.channel side) .toContact).arrived =
      (record (plan.channel side) .toContact).arrived)
    (hreturned : (record' (plan.channel side) .toContact).returned =
      (record (plan.channel side) .toContact).returned)
    (hsent : (record' (plan.channel side) .toIntroducer).sent =
      (record (plan.channel side) .toIntroducer).sent) : plan.Follows side record' seen p := by
  refine ⟨?_, h.attends, ?_, ?_, h.le_acks, ?_⟩
  · rw [harrived]
    exact h.arrived_eq
  · rw [hsent]
    exact h.sent_eq
  · rw [hsent]
    exact h.says_of_mem
  · rw [hreturned]
    exact h.acks_le

/-- A message from the introducer brings a contact to the kinds seen after it, if originals are of
new kinds and copies are of kinds seen before. -/
theorem Follows.receive {σ : Type} [Choice σ] (h : plan.Follows side record seen p) (isCopy : Bool)
    (htells : plan.Tells side d m)
    (horiginal : isCopy = false → m.kind ∉ seen ∧ .abort ∉ seen)
    (hcopy : isCopy = true → m.kind ∈ seen) (now : UInt64) (source : σ) :
    plan.Follows side
      ((record.deliver ⟨plan.channel side, .toContact, d, isCopy⟩).send (plan.channel side)
        (p.handle now d source).replies)
      (if isCopy then seen else seen ++ [m.kind]) (p.handle now d source).participant := by
  have hkind := htells.kindOf_eq
  have harrived := plan.kinds_arrived_deliver hkind record side side .toContact isCopy
  have hreturned := plan.kinds_returned_deliver hkind record side side .toContact isCopy
  have hgoes : ∃ acks ≤ [m.kind].count .ack, (isCopy = false → acks = [m.kind].count .ack) ∧
      plan.Goes side p seen (if isCopy then seen else seen ++ [m.kind]) acks
        (p.handle now d source) := by
    cases isCopy with
    | false =>
      obtain ⟨hnew, hgoing⟩ := horiginal rfl
      exact ⟨_, Nat.le_refl _, fun _ => rfl, h.attends.handle_new htells hnew hgoing now source⟩
    | true =>
      obtain ⟨acks, hacks, hgoes⟩ :=
        h.attends.handle_repeated htells (.inl (hcopy rfl)) now source
      exact ⟨acks, hacks, fun hno => absurd hno (by simp), hgoes⟩
  obtain ⟨acks, hacks, hall, hgoes⟩ := hgoes
  have hle := h.le_acks
  have hge := h.acks_le
  refine ⟨?_, hgoes.attends, ?_, fun reply hmem => ?_, ?_, ?_⟩
  · rw [Record.arrived_send, harrived, h.arrived_eq]
    cases isCopy <;> simp
  · rw [Record.sent_send, if_pos ⟨rfl, rfl⟩, Record.sent_deliver, kinds_append, h.sent_eq,
      hgoes.replies_eq]
  · rw [Record.sent_send, if_pos ⟨rfl, rfl⟩, Record.sent_deliver] at hmem
    rcases List.mem_append.mp hmem with hmem | hmem
    · exact h.says_of_mem reply hmem
    · exact hgoes.says_of_mem reply hmem
  · rw [hgoes.acks_eq]
    cases isCopy with
    | false =>
      rw [hall rfl, if_neg (by simp), List.count_append]
      omega
    | true =>
      rw [if_pos rfl]
      omega
  · rw [hgoes.acks_eq, Record.returned_send, hreturned, List.count_append]
    cases isCopy with
    | false =>
      rw [if_neg (by simp), List.count_append]
      omega
    | true =>
      have hcount : [some m.kind].count (some .ack) = [m.kind].count .ack := by
        cases m.kind <;> rfl
      rw [if_pos rfl, if_pos ⟨rfl, rfl⟩, hcount]
      omega

end Plan

end Simulation

end Introduction
