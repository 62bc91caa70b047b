import Introduction.Proofs.Session.Course

/-!
# The introducer does not look at answers

Whether a contact accepts does not decide anything.  Two dictionaries are alike if they hold the
same under the keys that the rules read, but for the answer, which may be a yes in one and a no in
the other; whatever else they hold may differ.  A session that is given alike messages goes through
the same states and records the same responses, and what it sends and publishes is alike
(`answers_of_alike`).

A step is determined by the session and the input (`Step.unique`), so it is enough to find, for
every step over a message, a step over an alike message that is alike (`Step.exists_alike`).  Only
an accepted message needs an argument: an alike one is accepted as well, from the same contact and
up to the answer as the same message.
-/

namespace Introduction

/-! ### What is alike -/

/-- The keys that the rules read in a message, apart from that of the answer. -/
def Key.read : List String := [Key.type, Key.session, Key.channel, Key.message, Key.time]

/-- Two dictionaries hold the same under the keys that the rules read, but for the answer, which may
differ where both hold a truth value. -/
structure Dictionary.Alike (d d' : Dictionary) : Prop where
  /-- The keys apart from that of the answer hold the same. -/
  read_eq : ∀ key ∈ Key.read, d'.get? key = d.get? key
  /-- The answer is the same, or both dictionaries give one. -/
  accept : d'.get? Key.accept = d.get? Key.accept ∨
    ∃ b b', d.get? Key.accept = some (.bool b) ∧ d'.get? Key.accept = some (.bool b')

/-- Two envelopes are addressed to the same channel and hold alike messages. -/
def Envelope.Alike (e e' : Envelope) : Prop := e'.channel = e.channel ∧ e.message.Alike e'.message

/-- Two events differ in the answer at most. -/
def Event.Alike (e e' : Event) : Prop := ∃ b, e' = { e with accept := b }

/-- Two updates leave the same session, send alike messages and publish alike events. -/
structure Update.Alike (u u' : Update) : Prop where
  session_eq : u'.session = u.session
  envelopes : List.Forall₂ Envelope.Alike u.envelopes u'.envelopes
  events : List.Forall₂ Event.Alike u.events u'.events

namespace Dictionary

variable {d d' : Dictionary}

/-- A dictionary is alike itself. -/
lemma Alike.refl (d : Dictionary) : d.Alike d := ⟨fun _ _ => rfl, .inl rfl⟩

/-- Which of two dictionaries comes first does not matter. -/
lemma Alike.symm (h : d.Alike d') : d'.Alike d := by
  refine ⟨fun key hkey => (h.read_eq key hkey).symm, ?_⟩
  rcases h.accept with heq | ⟨b, b', hb, hb'⟩
  · exact .inl heq.symm
  · exact .inr ⟨b', b, hb', hb⟩

/-- Alike dictionaries stay alike when the same entry is written into both. -/
lemma Alike.insert (h : d.Alike d') (key : String) (value : Value) :
    (d.insert key value).Alike (d'.insert key value) := by
  constructor
  · intro key' hkey'
    rw [OrderedMap.get?_insert, OrderedMap.get?_insert, h.read_eq key' hkey']
  · rw [OrderedMap.get?_insert, OrderedMap.get?_insert]
    split_ifs
    · exact .inl rfl
    · exact h.accept

end Dictionary

namespace Message

variable {d d' : Dictionary}

/-- The message with another answer, if it gives one. -/
def withAnswer (accept : Bool) : Message → Message
  | .response r => .response { r with accept }
  | m => m

/-- A header is read from alike dictionaries alike. -/
lemma Header.ofDictionary_of_alike (h : d.Alike d') {header : Header}
    (hread : Header.ofDictionary d = .ok header) : Header.ofDictionary d' = .ok header := by
  rw [Header.ofDictionary_eq_ok_iff] at hread ⊢
  rw [h.read_eq Key.type (by simp [Key.read]), h.read_eq Key.session (by simp [Key.read]),
    h.read_eq Key.channel (by simp [Key.read])]
  exact hread

/-- A response is read from alike dictionaries up to its answer. -/
lemma Response.ofDictionary_of_alike (h : d.Alike d') {r : Response}
    (hread : Response.ofDictionary d = .ok r) :
    ∃ accept, Response.ofDictionary d' = .ok { r with accept } := by
  obtain ⟨hheader, htime, hmessage, haccept⟩ := Response.ofDictionary_eq_ok_iff.mp hread
  have hread' : ∀ accept, d'.get? Key.accept = some (.bool accept) →
      Response.ofDictionary d' = .ok { r with accept } := by
    intro accept haccept'
    rw [Response.ofDictionary_eq_ok_iff, h.read_eq Key.time (by simp [Key.read]),
      h.read_eq Key.message (by simp [Key.read])]
    exact ⟨Header.ofDictionary_of_alike h hheader, htime, hmessage, haccept'⟩
  rcases h.accept with heq | ⟨b, b', -, hb'⟩
  · exact ⟨r.accept, hread' _ (heq.trans haccept)⟩
  · exact ⟨b', hread' _ hb'⟩

/-- An ack is read from alike dictionaries alike. -/
lemma Ack.ofDictionary_of_alike (h : d.Alike d') {a : Ack} (hread : Ack.ofDictionary d = .ok a) :
    Ack.ofDictionary d' = .ok a := by
  obtain ⟨hheader, hmessage⟩ := Ack.ofDictionary_eq_ok_iff.mp hread
  rw [Ack.ofDictionary_eq_ok_iff, h.read_eq Key.message (by simp [Key.read])]
  exact ⟨Header.ofDictionary_of_alike h hheader, hmessage⟩

end Message

namespace Session

variable {s t t' : Session} {input : Input} {envelopes envelopes' : List Envelope}
  {events events' : List Event} {d d' : Dictionary}

/-! ### Steps are determined -/

/-- A message is accepted by a session that neither ignores it nor gives up over it. -/
lemma Accepts.not_ignores {side : Side} {m : Message} (h : s.Accepts side d m) :
    ¬ s.Ignores (.message d) ∧ ¬ s.GivesUpAt (.message d) :=
  ⟨h.state_ne.2, fun hgivesUp => hgivesUp.2 side m h⟩

/-- An input is not ignored where a session gives up over it. -/
lemma Ignores.not_givesUpAt (h : s.Ignores input) : ¬ s.GivesUpAt input := by
  rcases input with (_ | _) | _ | _
  · exact fun hgivesUp => hgivesUp
  · exact fun hgivesUp => hgivesUp h
  · exact fun hgivesUp => hgivesUp.1 h
  · exact fun hgivesUp => hgivesUp

/-- What a session does with an input is determined. -/
theorem Step.unique (h : Step s input t envelopes events)
    (h' : Step s input t' envelopes' events') :
    t' = t ∧ envelopes' = envelopes ∧ events' = events := by
  cases h with
  | start hstate =>
    cases h' with
    | start _ => exact ⟨rfl, rfl, rfl⟩
    | ignore hignores => exact absurd hstate hignores
    | giveUp hgivesUp => exact hgivesUp.elim
  | ignore hignores =>
    cases h' with
    | start hstate => exact absurd hstate hignores
    | ignore _ => exact ⟨rfl, rfl, rfl⟩
    | giveUp hgivesUp => exact absurd hgivesUp hignores.not_givesUpAt
    | response haccepts _ => exact absurd hignores haccepts.not_ignores.1
    | ack haccepts => exact absurd hignores haccepts.not_ignores.1
    | late haccepts _ => exact absurd hignores haccepts.not_ignores.1
  | giveUp hgivesUp =>
    cases h' with
    | start _ => exact hgivesUp.elim
    | ignore hignores => exact absurd hgivesUp hignores.not_givesUpAt
    | giveUp _ => exact ⟨rfl, rfl, rfl⟩
    | response haccepts _ => exact absurd hgivesUp haccepts.not_ignores.2
    | ack haccepts => exact absurd hgivesUp haccepts.not_ignores.2
    | late haccepts _ => exact absurd hgivesUp haccepts.not_ignores.2
  | response haccepts hstate =>
    cases h' with
    | ignore hignores => exact absurd hignores haccepts.not_ignores.1
    | giveUp hgivesUp => exact absurd hgivesUp haccepts.not_ignores.2
    | response haccepts' _ =>
      obtain ⟨rfl, heq⟩ := haccepts.hears.unique haccepts'.hears
      cases heq
      exact ⟨rfl, rfl, rfl⟩
    | ack haccepts' => cases (haccepts.hears.unique haccepts'.hears).2
    | late _ hfinished => exact absurd hfinished hstate
  | ack haccepts =>
    cases h' with
    | ignore hignores => exact absurd hignores haccepts.not_ignores.1
    | giveUp hgivesUp => exact absurd hgivesUp haccepts.not_ignores.2
    | response haccepts' _ => cases (haccepts.hears.unique haccepts'.hears).2
    | ack haccepts' =>
      obtain ⟨rfl, -⟩ := haccepts.hears.unique haccepts'.hears
      exact ⟨rfl, rfl, rfl⟩
    | late haccepts' _ => cases (haccepts.hears.unique haccepts'.hears).2
  | late haccepts hstate =>
    cases h' with
    | ignore hignores => exact absurd hignores haccepts.not_ignores.1
    | giveUp hgivesUp => exact absurd hgivesUp haccepts.not_ignores.2
    | response _ hne => exact absurd hstate hne
    | ack haccepts' => cases (haccepts.hears.unique haccepts'.hears).2
    | late haccepts' _ =>
      obtain ⟨rfl, heq⟩ := haccepts.hears.unique haccepts'.hears
      cases heq
      exact ⟨rfl, rfl, rfl⟩

/-! ### Steps over alike messages -/

/-- A message that is accepted is accepted with another answer and other entries that the rules do
not read. -/
lemma Accepts.of_alike {side : Side} {m : Message} (h : s.Accepts side d m) (hd : d.Alike d') :
    ∃ accept, s.Accepts side d' (m.withAnswer accept) := by
  have hread := Message.ofDictionary_eq_ok_iff.mp h.hears.reads
  have hexpected := h.expected
  cases m with
  | request _ => exact hexpected.elim
  | abort _ => exact hexpected.elim
  | response r =>
    obtain ⟨accept, hread'⟩ := Message.Response.ofDictionary_of_alike hd hread
    exact ⟨accept, ⟨Message.ofDictionary_eq_ok_iff.mpr hread', h.hears.session_eq,
      h.hears.channel_eq⟩, hexpected⟩
  | ack a =>
    have hread' := Message.Ack.ofDictionary_of_alike hd hread
    exact ⟨true, ⟨Message.ofDictionary_eq_ok_iff.mpr hread', h.hears.session_eq,
      h.hears.channel_eq⟩, hexpected⟩

/-- Alike messages are passed on alike. -/
lemma forward_alike (s : Session) (sender : Side) (hd : d.Alike d') :
    (s.forward sender d).Alike (s.forward sender d') :=
  ⟨rfl, hd.insert _ _⟩

/-- For every step over a message there is a step over an alike message that leads to the same
session, sends alike messages and publishes alike events. -/
theorem Step.exists_alike (h : Step s (.message d) t envelopes events) (hd : d.Alike d') :
    ∃ envelopes' events', Step s (.message d') t envelopes' events' ∧
      List.Forall₂ Envelope.Alike envelopes envelopes' ∧
        List.Forall₂ Event.Alike events events' := by
  cases h with
  | ignore hignores => exact ⟨[], [], .ignore hignores, .nil, .nil⟩
  | giveUp hgivesUp =>
    have hgivesUp' : s.GivesUpAt (.message d') := by
      refine ⟨hgivesUp.1, fun side m haccepts => ?_⟩
      obtain ⟨accept, haccepts'⟩ := haccepts.of_alike hd.symm
      exact hgivesUp.2 side _ haccepts'
    have hsame : ∀ e : Envelope, e.Alike e := fun e => ⟨rfl, .refl e.message⟩
    exact ⟨_, [], .giveUp hgivesUp', .cons (hsame _) (.cons (hsame _) .nil), .nil⟩
  | @response side d r haccepts hstate =>
    obtain ⟨accept, haccepts'⟩ := haccepts.of_alike hd
    have hstep := Step.response haccepts' hstate
    dsimp only at hstep
    rw [State.next_answer _ _ _ r.accept] at hstep
    exact ⟨_, _, hstep, .cons (s.forward_alike side hd) .nil, .cons ⟨accept, rfl⟩ .nil⟩
  | @ack side d a haccepts =>
    obtain ⟨accept, haccepts'⟩ := haccepts.of_alike hd
    exact ⟨_, [], .ack haccepts', .cons (s.forward_alike side hd) .nil, .nil⟩
  | late haccepts hstate =>
    obtain ⟨accept, haccepts'⟩ := haccepts.of_alike hd
    have hstep := Step.late haccepts' hstate
    dsimp only at hstep
    exact ⟨[], _, hstep, .nil, .cons ⟨accept, rfl⟩ .nil⟩

/-- Alike messages are answered alike. -/
lemma receive_alike (s : Session) (hd : d.Alike d') :
    ∃ u u', s.receive d = .ok u ∧ s.receive d' = .ok u' ∧ u.Alike u' := by
  obtain ⟨u, hu, hstep, -⟩ := s.receive_step d
  obtain ⟨u', hu', hstep', -⟩ := s.receive_step d'
  obtain ⟨envelopes, events, halike, henvelopes, hevents⟩ := hstep.exists_alike hd
  obtain ⟨hsession, hsent, hpublished⟩ := halike.unique hstep'
  refine ⟨u, u', hu, hu', hsession, ?_, ?_⟩
  · rw [hsent]
    exact henvelopes
  · rw [hpublished]
    exact hevents

/-! ### Runs over alike messages -/

/-- A session that is given alike messages, one after the other, is the same after each of them,
sends alike messages to the same channels, and publishes events that differ in the answer at
most. -/
theorem answers_of_alike (s : Session) {ds ds' : List Dictionary}
    (h : List.Forall₂ Dictionary.Alike ds ds') :
    ∃ us us', s.answers (ds.map .message) = .ok us ∧ s.answers (ds'.map .message) = .ok us' ∧
      List.Forall₂ Update.Alike us us' := by
  induction h generalizing s with
  | nil => exact ⟨[], [], rfl, rfl, .nil⟩
  | @cons d d' ds ds' hd _ ih =>
    obtain ⟨u, u', hu, hu', halike⟩ := s.receive_alike hd
    obtain ⟨us, us', hus, hus', hrest⟩ := ih u.session
    rw [← halike.session_eq] at hus'
    have hcons : ∀ {e v vs es}, s.receive e = .ok v → v.session.answers es = .ok vs →
        s.answers (.message e :: es) = .ok (v :: vs) := by
      intro e v vs es hv hvs
      rw [answers, Except.bind_eq_ok_iff]
      refine ⟨v, hv, ?_⟩
      rw [hvs]
      rfl
    exact ⟨u :: us, u' :: us', hcons hu hus, hcons hu' hus', .cons halike hrest⟩

/-- The response of the contact on a side of the sample session, with an answer and a remark that
the rules know nothing about. -/
def remarkedResponse (side : Side) (accept : Bool) (remark : String) : Dictionary :=
  (Message.Response.toDictionary
    ⟨aliceAndBob.id, (aliceAndBob.contact side).channel, .replicate 5, 1000, accept⟩).insert
      "remark" (.string remark)

/-- Whatever the answer and the remark are, the responses are alike. -/
lemma remarkedResponse_alike (side : Side) (accept accept' : Bool) (remark remark' : String) :
    (remarkedResponse side accept remark).Alike (remarkedResponse side accept' remark') := by
  constructor
  · intro key hkey
    simp only [Key.read, List.mem_cons, List.not_mem_nil, or_false] at hkey
    rcases hkey with rfl | rfl | rfl | rfl | rfl <;>
      simp [remarkedResponse, Message.Response.toDictionary, OrderedMap.get?_insert, Key.type,
        Key.session, Key.channel, Key.message, Key.time, Key.accept]
  · exact .inr ⟨accept, accept', rfl, rfl⟩

/-- Both contacts of the sample session accept, or one of them declines. -/
theorem answers_remarkedResponses :
    List.Forall₂ Dictionary.Alike
        [remarkedResponse .first true "yes", remarkedResponse .second true ""]
        [remarkedResponse .first true "yes", remarkedResponse .second false "no, thanks"] ∧
      ∃ us us',
        (aliceAndBob.enter .awaitResponses).answers
            ([remarkedResponse .first true "yes", remarkedResponse .second true ""].map .message) =
          .ok us ∧
        (aliceAndBob.enter .awaitResponses).answers
            ([remarkedResponse .first true "yes",
              remarkedResponse .second false "no, thanks"].map .message) = .ok us' ∧
        List.Forall₂ Update.Alike us us' :=
  have halike := .cons (remarkedResponse_alike .first true true "yes" "yes")
    (.cons (remarkedResponse_alike .second true false "" "no, thanks") .nil)
  ⟨halike, answers_of_alike _ halike⟩

end Session

end Introduction
