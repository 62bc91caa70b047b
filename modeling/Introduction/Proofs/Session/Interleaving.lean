import Introduction.Proofs.Session.Record

/-!
# Interleavings

The messages of the two contacts travel on two channels, and nothing orders what arrives on one
against what arrives on the other.  Two orders in which the same messages may arrive need not be
connected by exchanges of neighbours, since an exchange can give the introduction up.

The outcome is therefore followed on either side by itself.  What a session keeps, passes on and
publishes for one contact makes up a `Strand`; unless the introduction is given up, a message
changes the strand of its sender only (`Step.strand_other`), and in a way that can be told from this
strand alone (`Step.strand_sender`).  So the strand after a run is what the contact's own messages
make of the strand before it (`Run.strand_eq`), whatever came between them, and the strands of both
contacts determine the session (`SameIntroduction.eq_of_strand_eq`).  The main statement is
`sameOutcome_of_interleaves`.
-/

namespace Introduction.Session

/-! ### Arrivals -/

/-- A message that arrives. -/
structure Arrival where
  /-- The side of the contact that it comes from. -/
  side : Side
  /-- The message. -/
  message : Dictionary

/-- The input that an arrival is. -/
def Arrival.input (x : Arrival) : Input := .message x.message

/-- The messages that come from a side. -/
def messagesFrom (side : Side) (xs : List Arrival) : List Dictionary :=
  (xs.filter (·.side = side)).map (·.message)

/-- The arrivals are an interleaving of two sequences of messages, one for each side. -/
def Interleaves (ds : Side → List Dictionary) (xs : List Arrival) : Prop :=
  ∀ side, messagesFrom side xs = ds side

/-- A dictionary is on the channel of the contact on a side. -/
def OnChannelOf (s : Session) (side : Side) (d : Dictionary) : Prop :=
  d.get? Key.channel = some (.raw (s.contact side).channel.bytes)

/-- The events that were published over arrivals. -/
def published (us : List Update) : List Event := us.flatMap (·.events)

/-- The events that were published over the arrivals from a side. -/
def publishedOver (side : Side) (xs : List Arrival) (us : List Update) : List Event :=
  ((xs.zip us).filter (·.1.side = side)).flatMap (·.2.events)

@[simp] lemma messagesFrom_cons_self (x : Arrival) (xs : List Arrival) :
    messagesFrom x.side (x :: xs) = x.message :: messagesFrom x.side xs := by
  simp [messagesFrom]

lemma messagesFrom_cons_of_ne {x : Arrival} {side : Side} (h : x.side ≠ side) (xs : List Arrival) :
    messagesFrom side (x :: xs) = messagesFrom side xs := by
  simp [messagesFrom, h]

@[simp] lemma publishedOver_cons_self (x : Arrival) (xs : List Arrival) (u : Update)
    (us : List Update) :
    publishedOver x.side (x :: xs) (u :: us) = u.events ++ publishedOver x.side xs us := by
  simp [publishedOver]

lemma publishedOver_cons_of_ne {x : Arrival} {side : Side} (h : x.side ≠ side) (xs : List Arrival)
    (u : Update) (us : List Update) :
    publishedOver side (x :: xs) (u :: us) = publishedOver side xs us := by
  simp [publishedOver, h]

/-- A message that comes from a side is among those that come from it. -/
lemma mem_messagesFrom {x : Arrival} {xs : List Arrival} (h : x ∈ xs) :
    x.message ∈ messagesFrom x.side xs :=
  List.mem_map_of_mem (List.mem_filter.mpr ⟨h, by simp⟩)

/-! ### Strands -/

/-- What a session keeps, has passed on and has published for one contact. -/
structure Strand where
  /-- The kinds of the messages that the other contact was sent. -/
  carried : List Message.Kind
  /-- The recorded response. -/
  response : Option MessageId
  /-- The messages that were sent to the other contact. -/
  passed : List Dictionary
  /-- The events. -/
  events : List Event

/-- The strand of the contact on a side, after some messages and events. -/
def strand (s : Session) (side : Side) (passed : List Dictionary) (events : List Event) : Strand :=
  ⟨s.state.carried side.other, s.response side, passed, events⟩

/-- What becomes of the strand of a contact over an expected message of that contact.  A response is
late if the contact has acknowledged. -/
def hear (s : Session) (side : Side) (x : Strand) (d : Dictionary) : Strand :=
  match Message.ofDictionary d with
  | .ok (.response r) =>
    if .ack ∈ x.carried then
      { x with
        response := x.response.or (some r.message)
        events := x.events ++ [s.responseEvent side r] }
    else
      { carried := x.carried ++ [.response]
        response := some r.message
        passed := x.passed ++ [(s.forward side d).message]
        events := x.events ++ [s.responseEvent side r] }
  | .ok (.ack _) =>
    { x with
      carried := x.carried ++ [.ack]
      passed := x.passed ++ [(s.forward side d).message] }
  | _ => x

variable {s t : Session} {d : Dictionary} {envelopes : List Envelope} {events : List Event}

/-- A response is passed on, recorded and published until the contact has acknowledged. -/
lemma hear_response {side : Side} {x : Strand} {r : Message.Response}
    (hread : Message.ofDictionary d = .ok (.response r)) (hack : .ack ∉ x.carried) :
    s.hear side x d =
      ⟨x.carried ++ [.response], some r.message, x.passed ++ [(s.forward side d).message],
        x.events ++ [s.responseEvent side r]⟩ := by
  unfold hear
  rw [hread]
  exact if_neg hack

/-- After that a response is recorded if there is none, and published. -/
lemma hear_late {side : Side} {x : Strand} {r : Message.Response}
    (hread : Message.ofDictionary d = .ok (.response r)) (hack : .ack ∈ x.carried) :
    s.hear side x d =
      ⟨x.carried, x.response.or (some r.message), x.passed,
        x.events ++ [s.responseEvent side r]⟩ := by
  unfold hear
  rw [hread]
  exact if_pos hack

/-- An ack is passed on. -/
lemma hear_ack {side : Side} {x : Strand} {a : Message.Ack}
    (hread : Message.ofDictionary d = .ok (.ack a)) :
    s.hear side x d =
      ⟨x.carried ++ [.ack], x.response, x.passed ++ [(s.forward side d).message], x.events⟩ := by
  unfold hear
  rw [hread]

/-- What a message does to a strand does not depend on how far the session has come. -/
lemma SameIntroduction.hear_eq (h : s.SameIntroduction t) (side : Side) :
    t.hear side = s.hear side := by
  have hevent : t.responseEvent side = s.responseEvent side := by
    funext r
    rw [responseEvent, responseEvent, h.id_eq, h.contact_eq, h.contact_eq]
  funext x d
  have hforward : t.forward side d = s.forward side d := by
    rw [forward, forward, envelopeTo, envelopeTo, h.contact_eq]
  unfold hear
  rw [hevent, hforward]

/-- The state of an introduction that is not given up can be told from what both contacts were
sent. -/
lemma State.eq_of_carried_eq {a b : State} (ha : a ≠ .aborted) (hb : b ≠ .aborted)
    (h : ∀ side, a.carried side = b.carried side) : a = b := by
  have hfirst := h .first
  have hsecond := h .second
  clear h
  revert hfirst hsecond ha hb
  rcases a with _ | _ | (_ | _) | _ | (_ | _) | _ | _ <;>
    rcases b with _ | _ | (_ | _) | _ | (_ | _) | _ | _ <;> decide

/-- Two stages of an introduction are the same session if the states and the recorded responses
are. -/
lemma SameIntroduction.eq (h : s.SameIntroduction t) (hstate : t.state = s.state)
    (hresponse : ∀ side, t.response side = s.response side) : t = s := by
  have hid := h.id_eq
  have hfirst := h.contact_eq .first
  have hsecond := h.contact_eq .second
  have hresponse₁ := hresponse .first
  have hresponse₂ := hresponse .second
  cases s
  cases t
  simp only [contact, response] at *
  subst hid hstate hfirst hsecond hresponse₁ hresponse₂
  rfl

/-- What a session that is not given up becomes can be told from the strands of both contacts. -/
lemma SameIntroduction.eq_of_strand_eq (h : s.SameIntroduction t) (hs : s.state ≠ .aborted)
    (ht : t.state ≠ .aborted) (hcarried : ∀ side : Side, t.state.carried side.other =
      s.state.carried side.other) (hresponse : ∀ side, t.response side = s.response side) :
    t = s := by
  refine h.eq (State.eq_of_carried_eq ht hs fun side => ?_) hresponse
  have hside := hcarried side.other
  rwa [Side.other_other] at hside

/-! ### Strands over a step -/

/-- A message that is heard from a contact is on the channel of the contact. -/
lemma Hears.onChannelOf {side : Side} {m : Message} (h : s.Hears side d m) :
    s.OnChannelOf side d :=
  h.get?_channel

/-- A message is on the channel of one contact. -/
lemma OnChannelOf.unique {side side' : Side} (h : s.OnChannelOf side d)
    (h' : s.OnChannelOf side' d) : side = side' := by
  have hbytes := Value.raw.inj (Option.some.inj (h.symm.trans h'))
  exact s.channel_eq_iff.mp (Identifier.ext hbytes)

/-- A message that is passed on reaches the contact on the other side. -/
lemma messagesOn_forward (s : Session) (sender side : Side) (d : Dictionary) :
    messagesOn (s.contact side.other).channel [s.forward sender d] =
      if sender = side then [(s.forward sender d).message] else [] := by
  have hside : sender.other = side.other ↔ sender = side := by
    cases sender <;> cases side <;> decide
  rw [forward, messagesOn_envelopeTo]
  simp only [hside]
  rfl

/-- Over a message that is passed on, only the other contact of its sender is sent more. -/
lemma Accepts.carried_other {sender : Side} {m : Message} (h : s.Accepts sender d m)
    (hstate : s.state ≠ .finished) (side : Side) :
    (s.state.next (.ofMessage m.kind sender)).carried side.other =
      s.state.carried side.other ++ if sender = side then [m.kind] else [] := by
  have hside : sender.other = side.other ↔ sender = side := by
    cases sender <;> cases side <;> decide
  rw [State.carried_next h.expected hstate h.state_ne.1]
  simp only [hside]

/-- A contact whose response is expected has not acknowledged, unless both have. -/
lemma Accepts.ack_not_mem_carried {sender : Side} {r : Message.Response}
    (h : s.Accepts sender d (.response r)) (hstate : s.state ≠ .finished) :
    .ack ∉ s.state.carried sender.other := by
  rcases h.expected with h | h | h
  · rw [h]
    cases sender <;> decide
  · rw [h]
    cases sender <;> decide
  · exact absurd h hstate

/-- A message that does not give the introduction up changes the strand of its sender as can be told
from this strand alone. -/
theorem Step.strand_sender (h : Step s (.message d) t envelopes events) (ht : t.state ≠ .aborted)
    {side : Side} (hd : s.OnChannelOf side d) (passed : List Dictionary) (before : List Event) :
    s.hear side (s.strand side passed before) d =
      t.strand side (passed ++ messagesOn (s.contact side.other).channel envelopes)
        (before ++ events) := by
  cases h with
  | ignore hignores => exact absurd hignores ht
  | giveUp _ => exact absurd rfl ht
  | @response sender _ r haccepts hstate =>
    obtain rfl := haccepts.hears.onChannelOf.unique hd
    have hcarried := haccepts.carried_other hstate sender
    rw [if_pos rfl] at hcarried
    rw [hear_response haccepts.hears.reads (haccepts.ack_not_mem_carried hstate), strand, strand,
      messagesOn_forward, if_pos rfl, response_record, if_pos rfl, state_record, state_enter,
      State.next_answer _ _ _ true]
    exact congrArg (Strand.mk · _ _ _) hcarried.symm
  | @ack sender _ a haccepts =>
    obtain rfl := haccepts.hears.onChannelOf.unique hd
    have hcarried := haccepts.carried_other haccepts.state_ne_finished sender
    rw [if_pos rfl] at hcarried
    rw [hear_ack haccepts.hears.reads, strand, strand, messagesOn_forward, if_pos rfl,
      response_enter, state_enter, List.append_nil]
    exact congrArg (Strand.mk · _ _ _) hcarried.symm
  | @late sender _ r haccepts hstate =>
    obtain rfl := haccepts.hears.onChannelOf.unique hd
    have hack : .ack ∈ s.state.carried sender.other := by
      rw [hstate]
      cases sender <;> decide
    have hresponse : (s.recordFirst r.message sender).response sender =
        (s.response sender).or (some r.message) := by
      unfold recordFirst
      cases hrecorded : s.response sender <;> simp [hrecorded]
    rw [hear_late haccepts.hears.reads hack, strand, strand, hresponse, state_recordFirst,
      messagesOn_nil, List.append_nil]

/-- A message that does not give the introduction up leaves the strand of the other contact as it
is. -/
theorem Step.strand_other (h : Step s (.message d) t envelopes events) (ht : t.state ≠ .aborted)
    {sender side : Side} (hd : s.OnChannelOf sender d) (hside : sender ≠ side)
    (passed : List Dictionary) (before : List Event) :
    s.strand side passed before =
      t.strand side (passed ++ messagesOn (s.contact side.other).channel envelopes) before := by
  cases h with
  | ignore hignores => exact absurd hignores ht
  | giveUp _ => exact absurd rfl ht
  | @response sender' _ r haccepts hstate =>
    obtain rfl := haccepts.hears.onChannelOf.unique hd
    have hcarried := haccepts.carried_other hstate side
    rw [if_neg hside, List.append_nil] at hcarried
    rw [strand, strand, messagesOn_forward, if_neg hside, List.append_nil, response_record,
      if_neg hside.symm, response_enter, state_record, state_enter, State.next_answer _ _ _ true]
    exact congrArg (Strand.mk · _ _ _) hcarried.symm
  | @ack sender' _ a haccepts =>
    obtain rfl := haccepts.hears.onChannelOf.unique hd
    have hcarried := haccepts.carried_other haccepts.state_ne_finished side
    rw [if_neg hside, List.append_nil] at hcarried
    rw [strand, strand, messagesOn_forward, if_neg hside, List.append_nil, response_enter,
      state_enter]
    exact congrArg (Strand.mk · _ _ _) hcarried.symm
  | @late sender' _ r haccepts hstate =>
    obtain rfl := haccepts.hears.onChannelOf.unique hd
    have hresponse : (s.recordFirst r.message sender').response side = s.response side := by
      unfold recordFirst
      split_ifs
      · rw [response_record, if_neg hside.symm]
      · rfl
    rw [strand, strand, hresponse, state_recordFirst, messagesOn_nil, List.append_nil]

/-! ### Strands over a run -/

variable {us : List Update}

/-- An introduction that is not given up in the end was not given up on the way. -/
lemma Run.state_ne_of_after {inputs : List Input} (h : Run s inputs us)
    (hend : (s.after us).state ≠ .aborted) : s.state ≠ .aborted := by
  intro hstate
  rw [h.after_of_aborted hstate] at hend
  exact hend hstate

/-- The strand of a contact after a run that does not give the introduction up is what the messages
of the contact make of the strand before it. -/
theorem Run.strand_eq {xs : List Arrival} (h : Run s (xs.map Arrival.input) us)
    (hxs : ∀ x ∈ xs, s.OnChannelOf x.side x.message) (hend : (s.after us).state ≠ .aborted)
    (side : Side) (passed : List Dictionary) (before : List Event) :
    (messagesFrom side xs).foldl (s.hear side) (s.strand side passed before) =
      (s.after us).strand side (passed ++ messagesOn (s.contact side.other).channel (sent us))
        (before ++ publishedOver side xs us) := by
  induction xs generalizing s us passed before with
  | nil =>
    cases h
    simp [messagesFrom, publishedOver, sent, after]
  | cons x xs ih =>
    obtain ⟨hx, hrest⟩ := List.forall_mem_cons.mp hxs
    rw [List.map_cons] at h
    cases h with
    | @cons _ _ u _ us hstep hrun =>
      have hsame : s.SameIntroduction u.session := ⟨hstep.id_eq, hstep.contact_eq⟩
      have hstate := hrun.state_ne_of_after hend
      have hrest' : ∀ x ∈ xs, u.session.OnChannelOf x.side x.message := by
        intro y hy
        rw [OnChannelOf, hsame.contact_eq]
        exact hrest y hy
      have hsent : messagesOn (s.contact side.other).channel (sent (u :: us)) =
          messagesOn (s.contact side.other).channel u.envelopes ++
            messagesOn (s.contact side.other).channel (sent us) := by
        rw [sent, List.flatMap_cons, messagesOn_append]
        rfl
      have ih' := ih hrun hrest' hend
      rw [hsame.hear_eq, hsame.contact_eq] at ih'
      rw [after, hsent, ← List.append_assoc]
      by_cases hside : x.side = side
      · subst hside
        rw [messagesFrom_cons_self, List.foldl_cons, hstep.strand_sender hstate hx, ih',
          publishedOver_cons_self, ← List.append_assoc]
      · rw [messagesFrom_cons_of_ne hside, publishedOver_cons_of_ne hside,
          hstep.strand_other hstate hx hside, ih']

/-- A session sends messages to its contacts only. -/
lemma Run.channel_of_mem_sent {inputs : List Input} (h : Run s inputs us) {e : Envelope}
    (he : e ∈ sent us) : ∃ side, e.channel = (s.contact side).channel := by
  induction h with
  | nil => cases he
  | cons hstep _ ih =>
    rw [sent, List.flatMap_cons, List.mem_append] at he
    rcases he with he | he
    · obtain ⟨side, hsends⟩ := hstep.sends he
      exact ⟨side, hsends.1⟩
    · obtain ⟨side, hchannel⟩ := ih he
      exact ⟨side, hchannel.trans (congrArg _ (hstep.contact_eq side))⟩

/-- Nothing is sent on the channel of neither contact. -/
lemma Run.messagesOn_sent_eq_nil {inputs : List Input} (h : Run s inputs us) {channel : ChannelId}
    (hchannel : ∀ side, channel ≠ (s.contact side).channel) :
    messagesOn channel (sent us) = [] := by
  unfold messagesOn
  rw [List.map_eq_nil_iff, List.filter_eq_nil_iff]
  intro e he heq
  obtain ⟨side, hside⟩ := h.channel_of_mem_sent he
  exact hchannel side ((of_decide_eq_true heq).symm.trans hside)

/-- The events over all arrivals are those over the arrivals from either side, reordered. -/
lemma published_perm {xs : List Arrival} (h : xs.length = us.length) :
    (published us).Perm (publishedOver .first xs us ++ publishedOver .second xs us) := by
  have hsecond : (fun step : Arrival × Update => decide (step.1.side = .second)) =
      fun step => !decide (step.1.side = .first) := by
    funext step
    cases step.1.side <;> rfl
  have hall : published us = (xs.zip us).flatMap (·.2.events) := by
    have hsnd : (xs.zip us).map (·.2) = us := List.map_snd_zip (Nat.le_of_eq h.symm)
    rw [published, ← hsnd, List.flatMap_map, hsnd]
  rw [hall, publishedOver, publishedOver, ← List.flatMap_append, hsecond]
  exact ((List.filter_append_perm _ _).flatMap_right _).symm

/-! ### Two orders of arrival -/

/-- Two orders of arrival, with the answers to either, have the same outcome. -/
structure SameOutcome (s : Session) (xs : List Arrival) (us : List Update) (ys : List Arrival)
    (vs : List Update) : Prop where
  /-- The session is the same in the end. -/
  after_eq : s.after us = s.after vs
  /-- The same messages are sent in the same order on each channel. -/
  messagesOn_eq : ∀ channel, messagesOn channel (sent us) = messagesOn channel (sent vs)
  /-- The same events are published in the same order over the messages of each contact. -/
  publishedOver_eq : ∀ side, publishedOver side xs us = publishedOver side ys vs
  /-- The same events are published in all. -/
  published_perm : (published us).Perm (published vs)

/-- All messages of an interleaving are on their channels if those of the two sequences are. -/
lemma Interleaves.onChannelOf {ds : Side → List Dictionary} {xs : List Arrival}
    (h : Interleaves ds xs) (hds : ∀ side, ∀ d ∈ ds side, s.OnChannelOf side d) :
    ∀ x ∈ xs, s.OnChannelOf x.side x.message := by
  intro x hx
  refine hds x.side x.message ?_
  rw [← h x.side]
  exact mem_messagesFrom hx

/-- Whatever the order in which messages on the channels of the two contacts arrive, a session
answers them; and two orders that keep the order on either channel and do not make the session give
the introduction up have the same outcome. -/
theorem sameOutcome_of_interleaves (s : Session) {ds : Side → List Dictionary}
    (hds : ∀ side, ∀ d ∈ ds side, s.OnChannelOf side d) {xs ys : List Arrival}
    (hxs : Interleaves ds xs) (hys : Interleaves ds ys) :
    ∃ us vs, s.answers (xs.map Arrival.input) = .ok us ∧
      s.answers (ys.map Arrival.input) = .ok vs ∧
        ((s.after us).state ≠ .aborted → (s.after vs).state ≠ .aborted →
          s.SameOutcome xs us ys vs) := by
  obtain ⟨us, hus, hrun⟩ := s.answers_run (xs.map Arrival.input)
  obtain ⟨vs, hvs, hrun'⟩ := s.answers_run (ys.map Arrival.input)
  refine ⟨us, vs, hus, hvs, fun hend hend' => ?_⟩
  have hstrand : ∀ side, (s.after us).strand side
      (messagesOn (s.contact side.other).channel (sent us)) (publishedOver side xs us) =
        (s.after vs).strand side
          (messagesOn (s.contact side.other).channel (sent vs)) (publishedOver side ys vs) := by
    intro side
    have hus' := hrun.strand_eq (hxs.onChannelOf hds) hend side [] []
    have hvs' := hrun'.strand_eq (hys.onChannelOf hds) hend' side [] []
    rw [hxs side] at hus'
    rw [hys side] at hvs'
    exact hus'.symm.trans hvs'
  have hcarried := fun side => congrArg Strand.carried (hstrand side)
  have hresponse := fun side => congrArg Strand.response (hstrand side)
  have hpassed := fun side => congrArg Strand.passed (hstrand side)
  have hevents := fun side => congrArg Strand.events (hstrand side)
  have hsame := hrun.sameIntroduction
  have hsame' := hrun'.sameIntroduction
  have hvsus : (s.after vs).SameIntroduction (s.after us) :=
    ⟨hsame.id_eq.trans hsame'.id_eq.symm,
      fun side => (hsame.contact_eq side).trans (hsame'.contact_eq side).symm⟩
  refine ⟨hvsus.eq_of_strand_eq hend' hend hcarried hresponse, fun channel => ?_, hevents, ?_⟩
  · by_cases hchannel : ∃ side, channel = (s.contact side).channel
    · obtain ⟨side, rfl⟩ := hchannel
      have hside := hpassed side.other
      rwa [strand, strand, Side.other_other] at hside
    · rw [not_exists] at hchannel
      rw [hrun.messagesOn_sent_eq_nil hchannel, hrun'.messagesOn_sent_eq_nil hchannel]
  · have hlength := hrun.forall₂_step.length_eq
    have hlength' := hrun'.forall₂_step.length_eq
    rw [List.length_map] at hlength hlength'
    refine (published_perm hlength).trans ?_
    rw [show publishedOver .first xs us = _ from hevents .first,
      show publishedOver .second xs us = _ from hevents .second]
    exact (published_perm hlength').symm

/-! ### Two sample orders -/

/-- The sample session after the requests were sent. -/
def startedSession : Session := aliceAndBob.enter .awaitResponses

/-- A response, an ack and a late response of the contact on a side. -/
def sampleMessages (side : Side) : List Dictionary :=
  [(sampleResponse side).toDictionary, (sampleAck side).toDictionary,
    (sampleResponse side).toDictionary]

/-- The messages of both contacts in turns, those of the contact on a side first. -/
def sampleArrivals (side : Side) : List Arrival :=
  [⟨side, (sampleResponse side).toDictionary⟩,
    ⟨side.other, (sampleResponse side.other).toDictionary⟩,
    ⟨side, (sampleAck side).toDictionary⟩,
    ⟨side.other, (sampleAck side.other).toDictionary⟩,
    ⟨side, (sampleResponse side).toDictionary⟩,
    ⟨side.other, (sampleResponse side.other).toDictionary⟩]

/-- Either contact keeps its own order. -/
lemma interleaves_sampleArrivals (side : Side) :
    Interleaves sampleMessages (sampleArrivals side) := by
  intro side'
  cases side <;> cases side' <;> rfl

/-- The started session hears the sample messages. -/
lemma isMessage_startedSession (side : Side) :
    startedSession.IsMessage .response side (.message (sampleResponse side).toDictionary) ∧
      startedSession.IsMessage .ack side (.message (sampleAck side).toDictionary) := by
  have hchannel : (aliceAndBob.contact side).channel = (startedSession.contact side).channel :=
    congrArg Contact.channel (contact_enter aliceAndBob .awaitResponses side).symm
  exact ⟨⟨_, _, rfl, hears_toDictionary rfl hchannel, rfl⟩,
    ⟨_, _, rfl, hears_toDictionary rfl hchannel, rfl⟩⟩

/-- The sample messages are on the channels of the contacts. -/
lemma onChannelOf_sampleMessages (side : Side) :
    ∀ d ∈ sampleMessages side, startedSession.OnChannelOf side d := by
  have hmessage : ∀ {kind d}, startedSession.IsMessage kind side (.message d) →
      startedSession.OnChannelOf side d := by
    rintro kind d ⟨_, _, hd, hhears, -⟩
    cases hd
    exact hhears.onChannelOf
  obtain ⟨hresponse, hack⟩ := isMessage_startedSession side
  intro d hd
  simp only [sampleMessages, List.mem_cons, List.not_mem_nil, or_false] at hd
  rcases hd with rfl | rfl | rfl
  · exact hmessage hresponse
  · exact hmessage hack
  · exact hmessage hresponse

/-- The introduction is completed whichever contact comes first. -/
lemma finished_sampleArrivals {side : Side} {us : List Update}
    (h : startedSession.answers ((sampleArrivals side).map Arrival.input) = .ok us) :
    (startedSession.after us).state = .finished := by
  obtain ⟨us', hus', hrun⟩ := startedSession.answers_run ((sampleArrivals side).map Arrival.input)
  obtain rfl := Except.ok.inj (h.symm.trans hus')
  obtain ⟨hresponse, hack⟩ := isMessage_startedSession side
  obtain ⟨hresponse', hack'⟩ := isMessage_startedSession side.other
  have hcourse := hrun.course_iff_of_started (by simp [startedSession]) []
  rw [course_nil_iff] at hcourse
  exact hcourse.mp (.firstResponse hresponse (.secondResponse hresponse' (.firstAck hack
    (.secondAck hack' (.late hresponse (.late hresponse' .finish))))))

/-- The started session comes to the same outcome whichever contact comes first. -/
theorem sameOutcome_sampleArrivals :
    ∃ us vs, startedSession.answers ((sampleArrivals .first).map Arrival.input) = .ok us ∧
      startedSession.answers ((sampleArrivals .second).map Arrival.input) = .ok vs ∧
        (startedSession.after us).state = .finished ∧
          startedSession.SameOutcome (sampleArrivals .first) us (sampleArrivals .second) vs := by
  obtain ⟨us, vs, hus, hvs, hsame⟩ :=
    sameOutcome_of_interleaves startedSession onChannelOf_sampleMessages
      (interleaves_sampleArrivals .first) (interleaves_sampleArrivals .second)
  have hend := finished_sampleArrivals hus
  have hend' := finished_sampleArrivals hvs
  exact ⟨us, vs, hus, hvs, hend, hsame (by rw [hend]; simp) (by rw [hend']; simp)⟩

end Introduction.Session
