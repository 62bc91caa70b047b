import Introduction.Proofs.Session.Course

/-!
# What a session sends

The messages that a session sends to either contact, over runs of any length and whatever it is
given.  A contact is sent a request, the other contact's response and the other contact's ack, in
this order and as far as the introduction came, and at last an abort if it is given up.

`State.carried` is what a contact has been sent in a state.  A step sends what is missing from the
state before it to the state after it (`Step.carried_append`), or the aborts; the shape of what a
run sends follows by induction, and with it that an introduction has finished exactly if both
contacts were sent everything.
-/

namespace Introduction

/-- The kind of the message that a dictionary is read as. -/
def Message.kindOf (d : Dictionary) : Option Message.Kind :=
  match Message.ofDictionary d with
  | .ok m => some m.kind
  | .error _ => none

/-- The kind of a dictionary that reads as a message. -/
lemma Message.kindOf_of_ofDictionary {d : Dictionary} {m : Message}
    (h : Message.ofDictionary d = .ok m) : Message.kindOf d = some m.kind := by
  unfold Message.kindOf
  rw [h]

/-- The messages among envelopes that are addressed to a channel. -/
def messagesOn (channel : ChannelId) (envelopes : List Envelope) : List Dictionary :=
  (envelopes.filter (·.channel = channel)).map (·.message)

@[simp] lemma messagesOn_nil (channel : ChannelId) : messagesOn channel [] = [] := rfl

@[simp] lemma messagesOn_append (channel : ChannelId) (es es' : List Envelope) :
    messagesOn channel (es ++ es') = messagesOn channel es ++ messagesOn channel es' := by
  simp [messagesOn]

/-- The envelopes of a sequence of answers. -/
def sent (us : List Update) : List Envelope := us.flatMap (·.envelopes)

namespace Session

/-- The kinds of the messages that were sent to the contact on a side. -/
def kindsTo (s : Session) (side : Side) (envelopes : List Envelope) : List (Option Message.Kind) :=
  (messagesOn (s.contact side).channel envelopes).map Message.kindOf

/-! ### What has been sent in a state -/

/-- Which messages of the contact on a side have been passed on, in a state that is not aborted. -/
def State.relayed : State → Side → List Message.Kind
  | .awaitResponse waiting, side => if side = waiting then [] else [.response]
  | .awaitAcks, _ => [.response]
  | .awaitAck waiting, side => if side = waiting then [.response] else [.response, .ack]
  | .finished, _ => [.response, .ack]
  | _, _ => []

/-- What the contact on a side has been sent, in a state that is not aborted. -/
def State.carried (state : State) (side : Side) : List Message.Kind :=
  if state = .prepareRequests then [] else .request :: state.relayed side.other

/-- All that a contact is sent in a complete introduction. -/
def correspondence : List Message.Kind := [.request, .response, .ack]

/-- What a contact has been sent is the beginning of the whole correspondence. -/
lemma State.carried_prefix (state : State) (side : Side) :
    state.carried side <+: correspondence := by
  rcases state with _ | _ | (_ | _) | _ | (_ | _) | _ | _ <;> cases side <;> decide

/-- In the finished state, and in no other, both contacts have been sent everything, even if an
abort is counted. -/
lemma State.forall_correspondence_prefix_iff {state : State} {tail : List Message.Kind}
    (htail : tail = [] ∨ tail = [.abort]) :
    (∀ side, correspondence <+: state.carried side ++ tail) ↔ state = .finished := by
  constructor
  · intro h
    have hfirst := h .first
    have hsecond := h .second
    rcases htail with rfl | rfl <;> rcases state with _ | _ | (_ | _) | _ | (_ | _) | _ | _ <;>
      first | rfl | (revert hfirst; decide) | (revert hsecond; decide)
  · rintro rfl side
    exact List.prefix_append _ _

/-- When an expected message moves the introduction on, it has been passed on in the next state. -/
lemma State.relayed_next {state : State} {sender : Side} {kind : Message.Kind}
    (hexpected : state.expects sender kind) (hstate : state ≠ .finished) (side : Side) :
    (state.next (.ofMessage kind sender)).relayed side =
      state.relayed side ++ if sender = side then [kind] else [] := by
  cases kind with
  | request => exact hexpected.elim
  | abort => exact hexpected.elim
  | response =>
    rcases hexpected with rfl | rfl | rfl
    · cases sender <;> cases side <;> rfl
    · cases sender <;> cases side <;> rfl
    · exact absurd rfl hstate
  | ack => rcases hexpected with rfl | rfl <;> cases sender <;> cases side <;> rfl

/-- When an expected message moves the introduction on, the other contact has been sent it in the
next state. -/
lemma State.carried_next {state : State} {sender : Side} {kind : Message.Kind}
    (hexpected : state.expects sender kind) (hstate : state ≠ .finished)
    (hstarted : state ≠ .prepareRequests) (side : Side) :
    (state.next (.ofMessage kind sender)).carried side =
      state.carried side ++ if sender.other = side then [kind] else [] := by
  have hside : sender = side.other ↔ sender.other = side := by
    cases sender <;> cases side <;> decide
  rw [carried, carried, if_neg (state.next_ne_prepareRequests _), if_neg hstarted,
    relayed_next hexpected hstate, List.cons_append]
  simp only [hside]

/-! ### What a step sends -/

variable {s t : Session} {input : Input} {envelopes : List Envelope} {events : List Event}

/-- The contacts use different channels. -/
lemma channel_eq_iff (s : Session) {side side' : Side} :
    (s.contact side).channel = (s.contact side').channel ↔ side = side' := by
  constructor
  · intro h
    have hside : some side = some side' := by rw [← s.sideOf_contact side, h, s.sideOf_contact]
    exact Option.some.inj hside
  · rintro rfl
    rfl

/-- A message for a contact travels on the channel of that contact only. -/
lemma messagesOn_envelopeTo (s : Session) (side side' : Side) (d : Dictionary) :
    messagesOn (s.contact side).channel [s.envelopeTo side' d] =
      if side' = side then [d] else [] := by
  unfold messagesOn envelopeTo
  by_cases h : side' = side
  · subst h
    simp
  · have hne : (s.contact side').channel ≠ (s.contact side).channel := fun hc =>
      h (s.channel_eq_iff.mp hc)
    simp [h, hne]

/-- Of two messages, one for either contact, each contact is sent its own. -/
lemma messagesOn_both (s : Session) (side : Side) (d d' : Dictionary) :
    messagesOn (s.contact side).channel [s.envelopeTo .first d, s.envelopeTo .second d'] =
      [side.select d d'] := by
  rw [← List.singleton_append, messagesOn_append, messagesOn_envelopeTo, messagesOn_envelopeTo]
  cases side <;> rfl

/-- The request to the contact on a side, by the keys of the first and the second contact. -/
lemma messagesOn_requests (s : Session) (side : Side) (publicKey₁ publicKey₂ : Bytes)
    (note : Option String) :
    messagesOn (s.contact side).channel (s.requests publicKey₁ publicKey₂ note) =
      [(s.requestTo side (side.other.select publicKey₁ publicKey₂) note).toDictionary] := by
  rw [requests, messagesOn_both]
  cases side <;> rfl

/-- The abort to the contact on a side. -/
lemma messagesOn_aborts (s : Session) (side : Side) :
    messagesOn (s.contact side).channel s.aborts = [(s.abortTo side).toDictionary] := by
  rw [aborts, messagesOn_both]
  cases side <;> rfl

/-- A message that is passed on reads as the message on the channel of the other contact. -/
lemma Hears.reads_forward {side : Side} {d : Dictionary} {m : Message} (h : s.Hears side d m) :
    Message.ofDictionary (s.forward side d).message =
      .ok (m.onChannel (s.contact side.other).channel) :=
  Message.ofDictionary_insert_channel h.reads _

/-- Passing a message on sends a message of its kind to the other contact and nothing to its
sender. -/
lemma Hears.kindsTo_forward {sender : Side} {d : Dictionary} {m : Message}
    (h : s.Hears sender d m) (side : Side) :
    s.kindsTo side [s.forward sender d] = if sender.other = side then [some m.kind] else [] := by
  unfold kindsTo forward
  rw [messagesOn_envelopeTo]
  split_ifs
  · have hread := Message.kindOf_of_ofDictionary h.reads_forward
    rw [Message.kind_onChannel] at hread
    exact congrArg (fun kind => [kind]) hread
  · rfl

/-- A message that is passed on completes what the contacts were sent. -/
lemma Accepts.carried_append {sender : Side} {d : Dictionary} {m : Message}
    (h : s.Accepts sender d m) (hstate : s.state ≠ .finished) (side : Side) :
    (s.state.carried side).map some ++ s.kindsTo side [s.forward sender d] =
      ((s.state.next (.ofMessage m.kind sender)).carried side).map some := by
  rw [State.carried_next h.expected hstate h.state_ne.1, h.hears.kindsTo_forward, List.map_append]
  split_ifs <;> rfl

/-- A step that does not give the introduction up sends either contact what is missing from the
state before to the state after. -/
theorem Step.carried_append (h : Step s input t envelopes events) (ht : t.state ≠ .aborted)
    (side : Side) :
    (s.state.carried side).map some ++ s.kindsTo side envelopes =
      (t.state.carried side).map some := by
  cases h with
  | @start k₁ k₂ note hstate =>
    have hread := Message.kindOf_of_ofDictionary
      (Message.ofDictionary_toDictionary
        (.request (s.requestTo side (side.other.select k₁ k₂) note)))
    rw [hstate, kindsTo, messagesOn_requests]
    exact congrArg (fun kind => [kind]) hread
  | ignore _ => exact List.append_nil _
  | giveUp _ => exact absurd rfl ht
  | response haccepts hstate =>
    rw [haccepts.carried_append hstate, state_record, state_enter, State.next_answer _ _ _ true]
    rfl
  | ack haccepts => exact haccepts.carried_append haccepts.state_ne_finished side
  | late _ _ =>
    rw [state_recordFirst]
    exact List.append_nil _

/-- A step that gives the introduction up sends either contact an abort. -/
theorem Step.kindsTo_of_aborted (h : Step s input t envelopes events) (hs : s.state ≠ .aborted)
    (ht : t.state = .aborted) (side : Side) : s.kindsTo side envelopes = [some .abort] := by
  cases h with
  | start _ => cases ht
  | ignore _ => exact absurd ht hs
  | giveUp _ =>
    have hread := Message.kindOf_of_ofDictionary
      (Message.ofDictionary_toDictionary (.abort (s.abortTo side)))
    rw [kindsTo, messagesOn_aborts]
    exact congrArg (fun kind => [kind]) hread
  | response haccepts _ =>
    rw [state_record, state_enter, State.next_answer _ _ _ true] at ht
    exact absurd ht haccepts.next_ne_aborted
  | ack haccepts => exact absurd ht haccepts.next_ne_aborted
  | late _ _ =>
    rw [state_recordFirst] at ht
    exact absurd ht hs

/-- A finished introduction stays finished unless it is given up. -/
lemma Step.state_of_finished (h : Step s input t envelopes events) (hs : s.state = .finished)
    (ht : t.state ≠ .aborted) : t.state = .finished := by
  cases h with
  | start hstate => cases hs.symm.trans hstate
  | ignore _ => exact hs
  | giveUp _ => exact absurd rfl ht
  | response _ hstate => exact absurd hs hstate
  | ack haccepts => exact absurd hs haccepts.state_ne_finished
  | late _ _ => rw [state_recordFirst, hs]

/-! ### What a run sends -/

variable {inputs : List Input} {us : List Update}

/-- Once the introduction is given up nothing more is sent, and it stays given up. -/
lemma Run.sent_of_aborted (h : Run s inputs us) (hs : s.state = .aborted) :
    sent us = [] ∧ ∀ u ∈ us, u.session.state = .aborted := by
  induction h with
  | nil => exact ⟨rfl, fun u hu => absurd hu List.not_mem_nil⟩
  | @cons s input u inputs us hstep _ ih =>
    obtain ⟨heq, hsent, -⟩ := hstep.eq_of_aborted hs
    have hu : u.session.state = .aborted := by rw [heq, hs]
    obtain ⟨hrest, hstates⟩ := ih hu
    refine ⟨?_, List.forall_mem_cons.mpr ⟨hu, hstates⟩⟩
    rw [sent, List.flatMap_cons, hsent]
    exact hrest

/-- What a contact is sent does not depend on how far a session with the same contacts has come. -/
lemma Step.kindsTo_eq (h : Step s input t envelopes events) (side : Side) (es : List Envelope) :
    t.kindsTo side es = s.kindsTo side es := by
  rw [kindsTo, kindsTo, h.contact_eq]

/-- The abort at the end of what was sent, if the introduction was given up. -/
def State.farewell (state : State) : List Message.Kind :=
  if state = .aborted then [.abort] else []

/-- A run completes what the contacts were sent up to some state that is not aborted, followed by
the aborts if it ends aborted.  That state is finished exactly if the run has been in the finished
state. -/
theorem Run.carried_append (h : Run s inputs us) (hs : s.state ≠ .aborted) :
    ∃ reached : State,
      (∀ side, (s.state.carried side).map some ++ s.kindsTo side (sent us) =
        (reached.carried side ++ (s.after us).state.farewell).map some) ∧
        ((s.state = .finished ∨ ∃ u ∈ us, u.session.state = .finished) ↔ reached = .finished) := by
  induction h with
  | @nil s =>
    refine ⟨s.state, fun side => ?_, by simp⟩
    rw [after, State.farewell, if_neg hs, List.append_nil]
    exact List.append_nil _
  | @cons s input u inputs us hstep hrun ih =>
    have hsent : ∀ side, s.kindsTo side (sent (u :: us)) =
        s.kindsTo side u.envelopes ++ s.kindsTo side (sent us) := by
      intro side
      rw [sent, List.flatMap_cons, kindsTo, messagesOn_append, List.map_append]
      rfl
    by_cases hu : u.session.state = .aborted
    · obtain ⟨hrest, hstates⟩ := hrun.sent_of_aborted hu
      refine ⟨s.state, fun side => ?_, ?_⟩
      · rw [hsent, hrest, hstep.kindsTo_of_aborted hs hu, after, hrun.after_of_aborted hu,
          State.farewell, if_pos hu, List.map_append]
        rfl
      · refine or_iff_left ?_
        rintro ⟨u', hu', hfinished⟩
        rcases List.mem_cons.mp hu' with rfl | hmem
        · cases hu.symm.trans hfinished
        · cases (hstates u' hmem).symm.trans hfinished
    · obtain ⟨reached, hkinds, hreached⟩ := ih hu
      refine ⟨reached, fun side => ?_, ?_⟩
      · rw [hsent, ← List.append_assoc, hstep.carried_append hu, ← hstep.kindsTo_eq, hkinds, after]
      · rw [← hreached]
        constructor
        · rintro (hs' | ⟨u', hu', hfinished⟩)
          · exact .inl (hstep.state_of_finished hs' hu)
          · rcases List.mem_cons.mp hu' with rfl | hmem
            · exact .inl hfinished
            · exact .inr ⟨u', hmem, hfinished⟩
        · rintro (hfinished | ⟨u', hmem, hfinished⟩)
          · exact .inr ⟨u, List.mem_cons_self, hfinished⟩
          · exact .inr ⟨u', List.mem_cons_of_mem u hmem, hfinished⟩

/-! ### Where messages come from -/

/-- What a message to the contact on a side has to do with the input over which it is sent: a
request names the other contact and carries its key; a response or an ack is what the other contact
just sent, with the channel replaced. -/
def Origin (s : Session) (side : Side) (input : Input) (d : Dictionary) : Message → Prop
  | .request m =>
    ∃ publicKey₁ publicKey₂, input = .act (.request publicKey₁ publicKey₂ m.note) ∧
      m.name = (s.contact side.other).name ∧
        m.publicKey = side.other.select publicKey₁ publicKey₂
  | .abort _ => True
  | m =>
    s.IsMessage m.kind side.other input ∧
      ∃ inbound, input = .message inbound ∧
        d = inbound.insert Key.channel (.raw (s.contact side).channel.bytes)

/-- An envelope is a well-formed message of the session for the contact on a side, with an origin in
the input. -/
def Sends (s : Session) (side : Side) (input : Input) (e : Envelope) : Prop :=
  e.channel = (s.contact side).channel ∧
    ∃ m, s.Hears side e.message m ∧ s.Origin side input e.message m

/-- What a session passes on is well formed and comes from the other contact. -/
lemma Accepts.sends_forward {sender : Side} {d : Dictionary} {m : Message}
    (h : s.Accepts sender d m) : s.Sends sender.other (.message d) (s.forward sender d) := by
  refine ⟨rfl, m.onChannel (s.contact sender.other).channel,
    ⟨h.hears.reads_forward, ?_, Message.channel_onChannel m _⟩, ?_⟩
  · rw [Message.session_onChannel, h.hears.session_eq]
  · have hmessage := h.isMessage
    have hexpected := h.expected
    cases m with
    | request _ => exact hexpected.elim
    | abort _ => exact hexpected.elim
    | response _ => exact ⟨by rw [Side.other_other]; exact hmessage, d, rfl, rfl⟩
    | ack _ => exact ⟨by rw [Side.other_other]; exact hmessage, d, rfl, rfl⟩

/-- Every message that a step sends is a well-formed message of the session for one of the contacts,
with an origin in the input. -/
theorem Step.sends (h : Step s input t envelopes events) {e : Envelope} (he : e ∈ envelopes) :
    ∃ side, s.Sends side input e := by
  cases h with
  | @start k₁ k₂ note _ =>
    have hrequest : ∀ side, s.Sends side (.act (.request k₁ k₂ note)) (s.envelopeTo side
        (s.requestTo side (side.other.select k₁ k₂) note).toDictionary) := by
      intro side
      have hhears : s.Hears side (s.requestTo side (side.other.select k₁ k₂) note).toDictionary _ :=
        hears_toDictionary (m := .request _) rfl rfl
      exact ⟨rfl, _, hhears, k₁, k₂, rfl, rfl, rfl⟩
    rcases List.mem_cons.mp he with rfl | he
    · exact ⟨.first, hrequest .first⟩
    · rw [List.mem_singleton.mp he]
      exact ⟨.second, hrequest .second⟩
  | ignore _ => exact absurd he List.not_mem_nil
  | giveUp _ =>
    have habort : ∀ side, s.Sends side input
        (s.envelopeTo side (s.abortTo side).toDictionary) := by
      intro side
      exact ⟨rfl, _, hears_toDictionary (m := .abort (s.abortTo side)) rfl rfl, trivial⟩
    rcases List.mem_cons.mp he with rfl | he
    · exact ⟨.first, habort .first⟩
    · rw [List.mem_singleton.mp he]
      exact ⟨.second, habort .second⟩
  | response haccepts _ =>
    rw [List.mem_singleton.mp he]
    exact ⟨_, haccepts.sends_forward⟩
  | ack haccepts =>
    rw [List.mem_singleton.mp he]
    exact ⟨_, haccepts.sends_forward⟩
  | late _ _ => exact absurd he List.not_mem_nil

/-- What a session sends is what it sends further back. -/
lemma SameIntroduction.sends (h : s.SameIntroduction t) {side : Side} {e : Envelope}
    (hsends : t.Sends side input e) : s.Sends side input e := by
  obtain ⟨hchannel, m, hhears, horigin⟩ := hsends
  have hcontact := fun side => (h.contact_eq side).symm
  have hmessage : ∀ {kind side}, t.IsMessage kind side input → s.IsMessage kind side input := by
    rintro kind side ⟨d, m, hd, hhears, hkind⟩
    exact ⟨d, m, hd, hhears.congr h.id_eq.symm hcontact, hkind⟩
  refine ⟨by rw [hchannel, h.contact_eq], m, hhears.congr h.id_eq.symm hcontact, ?_⟩
  cases m with
  | request m =>
    rw [Origin, h.contact_eq] at horigin
    exact horigin
  | abort _ => trivial
  | response _ =>
    obtain ⟨hinput, hinbound⟩ := horigin
    rw [h.contact_eq] at hinbound
    exact ⟨hmessage hinput, hinbound⟩
  | ack _ =>
    obtain ⟨hinput, hinbound⟩ := horigin
    rw [h.contact_eq] at hinbound
    exact ⟨hmessage hinput, hinbound⟩

/-- A step sends a contact an abort exactly if it gives the introduction up. -/
lemma Step.abort_mem_kindsTo_iff (h : Step s input t envelopes events) (side : Side) :
    some .abort ∈ s.kindsTo side envelopes ↔ s.state ≠ .aborted ∧ t.state = .aborted := by
  by_cases hs : s.state = .aborted
  · obtain ⟨-, hsent, -⟩ := h.eq_of_aborted hs
    rw [hsent]
    simp [kindsTo, hs]
  · by_cases ht : t.state = .aborted
    · rw [h.kindsTo_of_aborted hs ht]
      simp [hs, ht]
    · refine iff_of_false (fun hmem => ?_) fun h => ht h.2
      have hmem' : some .abort ∈ (t.state.carried side).map some := by
        rw [← h.carried_append ht]
        exact List.mem_append_right _ hmem
      rw [List.mem_map_of_injective fun _ _ => Option.some.inj] at hmem'
      exact absurd ((t.state.carried_prefix side).subset hmem') (by decide)

/-- What one step of a session may send: well-formed messages of the session for its contacts, with
their origin in the input at hand, and an abort to both contacts if to one. -/
def SendsProperly (s : Session) (input : Input) (u : Update) : Prop :=
  (∀ e ∈ u.envelopes, ∃ side, s.Sends side input e) ∧
    ∀ side, some .abort ∈ s.kindsTo side u.envelopes →
      some .abort ∈ s.kindsTo side.other u.envelopes

/-- Every step of a run sends properly. -/
theorem Run.sendsProperly (h : Run s inputs us) : List.Forall₂ s.SendsProperly inputs us := by
  refine h.forall₂_step.imp ?_
  rintro input u ⟨t, ht, hstep⟩
  have hkinds : ∀ side, s.kindsTo side u.envelopes = t.kindsTo side u.envelopes := by
    intro side
    rw [kindsTo, kindsTo, ht.contact_eq]
  constructor
  · intro e he
    obtain ⟨side, hsends⟩ := hstep.sends he
    exact ⟨side, ht.sends hsends⟩
  · intro side hmem
    rw [hkinds, hstep.abort_mem_kindsTo_iff] at hmem ⊢
    exact hmem

/-- Over any run of a session that was just made, every message sent is a well-formed message of the
session for one of the contacts, with its origin in the input at hand, and an abort goes to both
contacts in the same step or to neither.  The kinds sent to a contact are the beginning of a whole
correspondence, possibly with one abort after it, and the introduction was finished at some point
exactly if both contacts were sent the whole correspondence. -/
theorem sent_of_start {id : SessionId} {first second : Contact}
    (h : start id first second = .ok s) (inputs : List Input) :
    ∃ us, s.answers inputs = .ok us ∧
      List.Forall₂ s.SendsProperly inputs us ∧
        (∀ side, ∃ passed farewell,
          s.kindsTo side (sent us) = (passed ++ farewell).map some ∧
            passed <+: correspondence ∧ (farewell = [] ∨ farewell = [.abort])) ∧
          ((∃ u ∈ us, u.session.state = .finished) ↔
            ∀ side, correspondence.map some <+: s.kindsTo side (sent us)) := by
  obtain ⟨us, hus, hrun⟩ := s.answers_run inputs
  have hstate := state_of_start h
  obtain ⟨reached, hkinds, hreached⟩ := hrun.carried_append (by rw [hstate]; simp)
  have hcarried : ∀ side, s.kindsTo side (sent us) =
      (reached.carried side ++ (s.after us).state.farewell).map some := by
    intro side
    rw [← hkinds, hstate]
    rfl
  have hfarewell : (s.after us).state.farewell = [] ∨ (s.after us).state.farewell = [.abort] := by
    unfold State.farewell
    split_ifs
    · exact .inr rfl
    · exact .inl rfl
  refine ⟨us, hus, hrun.sendsProperly, fun side => ?_, ?_⟩
  · exact ⟨_, _, hcarried side, State.carried_prefix _ _, hfarewell⟩
  · have hnever : ¬ s.state = .finished := by rw [hstate]; simp
    calc
      (∃ u ∈ us, u.session.state = .finished) ↔ reached = .finished := by
        rw [← hreached, or_iff_right hnever]
      _ ↔ ∀ side, correspondence <+: reached.carried side ++ (s.after us).state.farewell :=
        (State.forall_correspondence_prefix_iff hfarewell).symm
      _ ↔ ∀ side, correspondence.map some <+: s.kindsTo side (sent us) := by
        refine forall_congr' fun side => ?_
        rw [hcarried, List.prefix_map_iff_of_injective fun _ _ => Option.some.inj]

/-- On the sample inputs the sample session sends either contact the whole correspondence. -/
theorem sent_sampleInputs :
    start (.replicate 7) alice bob = .ok aliceAndBob ∧
      ∃ us, aliceAndBob.answers sampleInputs = .ok us ∧
        List.Forall₂ aliceAndBob.SendsProperly sampleInputs us ∧
          ∀ side, correspondence.map some <+: aliceAndBob.kindsTo side (sent us) := by
  obtain ⟨us, hus, hproper, -, hfinished⟩ := sent_of_start start_alice_bob sampleInputs
  have hstates : (aliceAndBob.answers sampleInputs).map
      (fun us => us.any (·.session.state = .finished)) = .ok true := by
    decide +kernel
  rw [hus] at hstates
  have hsome : ∃ u ∈ us, u.session.state = .finished := by
    simpa using Except.ok.inj hstates
  exact ⟨start_alice_bob, us, hus, hproper, hfinished.mp hsome⟩

end Session

end Introduction
