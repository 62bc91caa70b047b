import Introduction.Proofs.Relay.Runs
import Introduction.Proofs.Session.Outgoing

/-!
# Sessions that do not disturb each other

A call is addressed to one session, by its argument or by the message that it is about
(`Call.addressee`), or to none.  What a call comes to depends on what is stored for the session it
is addressed to and on nothing else (`Outcome.SameAt`), and it changes nothing that is stored for
another session, nor does it send or publish anything in the name of another
(`Registry.Confined`).  Calls that are addressed to no session change nothing at all.

Where nothing is refused, a session can therefore not tell a run from the run of the calls that are
addressed to it, whatever the other sessions are given and whichever channels they share with it
(`isolated_of_calls`).
-/

namespace Introduction

/-- Whether the message in an envelope names a session. -/
def Envelope.names (e : Envelope) (id : SessionId) : Bool :=
  match Relay.sessionOf e.message with
  | .ok id' => id' = id
  | .error _ => false

/-- The session that a message is heard in is the one that it names. -/
lemma Session.Hears.sessionOf_eq {s : Session} {side : Side} {d : Dictionary} {m : Message}
    (h : s.Hears side d m) : Relay.sessionOf d = .ok s.id :=
  Dictionary.getId_eq_ok_iff.mpr (Message.Header.ofDictionary_eq_ok_iff.mp h.header_eq).2.1

namespace Session

variable {s t : Session} {input : Input} {envelopes : List Envelope} {events : List Event}

/-- What a step sends names the session and no other. -/
lemma Step.names_iff (h : Step s input t envelopes events) {e : Envelope} (he : e ∈ envelopes)
    (id : SessionId) : e.names id ↔ s.id = id := by
  obtain ⟨side, -, m, hhears, -⟩ := h.sends he
  unfold Envelope.names
  rw [hhears.sessionOf_eq]
  simp

/-- What a step publishes is about the session. -/
lemma Step.session_event_eq (h : Step s input t envelopes events) {event : Event}
    (hevent : event ∈ events) : event.session = s.id := by
  cases h with
  | start => cases hevent
  | ignore => cases hevent
  | giveUp => cases hevent
  | ack => cases hevent
  | response => rw [List.mem_singleton.mp hevent, responseEvent]
  | late => rw [List.mem_singleton.mp hevent, responseEvent]

end Session

/-- The session that a call is addressed to, if it is addressed to one, where messages of more than
`limit` bytes are not decoded. -/
def Relay.Call.addressee (limit : ℕ) : Relay.Call → Option SessionId
  | .create s _ => some s.id
  | .perform id _ => some id
  | .receive message => (Relay.sessionOf message).toOption
  | .receiveBytes bytes =>
    match Dictionary.decode bytes limit with
    | .error _ => none
    | .ok message => (Relay.sessionOf message).toOption
  | .delivered message => (Relay.sessionOf message).toOption

/-! ### Single calls -/

/-- Two outcomes are the same for a session: the results, what is sent and published, and what the
session is afterwards. -/
structure Outcome.SameAt (id : SessionId) {α : Type} (o o' : Outcome α) : Prop where
  result_eq : o.result = o'.result
  get?_eq : o.sessions.get? id = o'.sessions.get? id
  envelopes_eq : o.envelopes = o'.envelopes
  events_eq : o.events = o'.events

namespace Registry

variable {α : Type} {m m' : Registry} {config : Relay.Config} {id : SessionId}

/-- An outcome leaves all sessions but one as they are in a registry, and sends and publishes in the
name of this one only. -/
structure Confined (m : Registry) (id : SessionId) (o : Outcome α) : Prop where
  get?_eq : ∀ id', id' ≠ id → o.sessions.get? id' = m.get? id'
  names_iff : ∀ e ∈ o.envelopes, ∀ id', e.names id' ↔ id = id'
  session_eq : ∀ event ∈ o.events, event.session = id

/-- A call that stops with an error is confined to any session. -/
lemma confined_refuse (e : Relay.Error) : m.Confined id (m.refuse e : Outcome α) :=
  ⟨fun _ _ => rfl, fun _ h => absurd h List.not_mem_nil, fun _ h => absurd h List.not_mem_nil⟩

/-- Carrying out the answer of a session is confined to it. -/
lemma confined_carryOut (s : Session) (input : Session.Input) :
    m.Confined s.id (m.carryOut config s.id (s.answer input)) := by
  obtain ⟨update, hanswer, hcarries⟩ := s.answer_step input
  rw [hanswer, carryOut_ok hcarries]
  refine ⟨fun id' hid => ?_, fun e he => hcarries.step.names_iff he,
    fun event => hcarries.step.session_event_eq⟩
  rw [get?_keep, if_neg (by rwa [hcarries.step.id_eq])]

/-- Giving an input to a session is confined to it. -/
lemma Sound.confined_give (hm : m.Sound) (id : SessionId) (input : Session.Input) :
    m.Confined id (m.give config id input) := by
  unfold Registry.give
  cases hget : m.get? id with
  | none => exact confined_refuse _
  | some s =>
    obtain ⟨rfl, -⟩ := hm id s hget
    exact confined_carryOut s input

/-- Creating a session is confined to it. -/
lemma confined_create (s : Session) (action : Session.LocalAction) :
    m.Confined s.id (m.create config s action) := by
  unfold Registry.create
  cases m.get? s.id with
  | some t => exact confined_refuse _
  | none => exact confined_carryOut s (.act action)

/-- Errors are the same for a session on registries that have the same under its identifier. -/
lemma sameAt_refuse (h : m.get? id = m'.get? id) (e : Relay.Error) :
    (m.refuse e : Outcome α).SameAt id (m'.refuse e) :=
  ⟨rfl, h, rfl, rfl⟩

/-- An answer comes to the same for a session on registries that have the same under its
identifier. -/
lemma sameAt_carryOut (h : m.get? id = m'.get? id) (answer : Except Session.Error Update) :
    (m.carryOut config id answer).SameAt id (m'.carryOut config id answer) := by
  cases answer with
  | error e => exact sameAt_refuse h _
  | ok update =>
    refine ⟨rfl, ?_, rfl, rfl⟩
    simp only [carryOut, settle]
    split_ifs
    · rw [Ascending.get?_erase, Ascending.get?_erase, if_pos rfl, if_pos rfl]
    · rw [OrderedMap.get?_insert, OrderedMap.get?_insert, if_pos rfl, if_pos rfl]

/-- So does giving an input to the session. -/
lemma sameAt_give (h : m.get? id = m'.get? id) (input : Session.Input) :
    (m.give config id input).SameAt id (m'.give config id input) := by
  unfold Registry.give
  rw [← h]
  cases m.get? id with
  | none => exact sameAt_refuse h _
  | some s => exact sameAt_carryOut h _

/-- And so does creating the session. -/
lemma sameAt_create {s : Session} (h : m.get? s.id = m'.get? s.id) (action : Session.LocalAction) :
    (m.create config s action).SameAt s.id (m'.create config s action) := by
  unfold Registry.create
  rw [← h]
  cases m.get? s.id with
  | some t => exact sameAt_refuse h _
  | none => exact sameAt_carryOut h _

/-- A call is to create a session, or it gives an input to the session that it is addressed to, or
it stops with an error: how, does not depend on what is stored. -/
lemma serve_cases (limit : ℕ) (c : Relay.Call) :
    (∃ s action, c = .create s action) ∨
    (∃ id input, c.addressee limit = some id ∧ ∀ (m : Registry) retention,
      m.serve ⟨retention, limit⟩ c = m.give ⟨retention, limit⟩ id input) ∨
    ∃ e, c.addressee limit = none ∧ ∀ (m : Registry) retention,
      m.serve ⟨retention, limit⟩ c = m.refuse e := by
  have hnamed : ∀ (message : Dictionary) (input : Session.Input),
      (∃ id input', (Relay.sessionOf message).toOption = some id ∧ ∀ (m : Registry) retention,
        m.giveNamed ⟨retention, limit⟩ message input = m.give ⟨retention, limit⟩ id input') ∨
      ∃ e, (Relay.sessionOf message).toOption = none ∧ ∀ (m : Registry) retention,
        m.giveNamed ⟨retention, limit⟩ message input = m.refuse e := by
    intro message input
    simp only [Registry.giveNamed]
    cases Relay.sessionOf message with
    | error e => exact .inr ⟨_, rfl, fun _ _ => rfl⟩
    | ok id => exact .inl ⟨id, input, rfl, fun _ _ => rfl⟩
  cases c with
  | create s action => exact .inl ⟨s, action, rfl⟩
  | perform id action => exact .inr (.inl ⟨id, .act action, rfl, fun _ _ => rfl⟩)
  | receive message => exact .inr (hnamed message (.message message))
  | delivered message => exact .inr (hnamed message (.delivered message))
  | receiveBytes bytes =>
    simp only [Relay.Call.addressee, serve]
    cases Dictionary.decode bytes limit with
    | error e => exact .inr (.inr ⟨_, rfl, fun _ _ => rfl⟩)
    | ok message => exact .inr (hnamed message (.message message))

/-- A call comes to the same for the session that it is addressed to on registries that have the
same under its identifier. -/
theorem sameAt_serve {c : Relay.Call} (hc : c.addressee config.maxMessageSize = some id)
    (h : m.get? id = m'.get? id) : (m.serve config c).SameAt id (m'.serve config c) := by
  obtain ⟨retention, limit⟩ := config
  rcases serve_cases limit c with ⟨s, action, rfl⟩ | ⟨id', input, hid, hserve⟩ | ⟨e, hnone, -⟩
  · cases hc
    exact sameAt_create h action
  · cases hid.symm.trans hc
    rw [hserve, hserve]
    exact sameAt_give h input
  · cases hnone.symm.trans hc

/-- A call is confined to the session that it is addressed to. -/
theorem Sound.confined_serve (hm : m.Sound) {c : Relay.Call}
    (hc : c.addressee config.maxMessageSize = some id) : m.Confined id (m.serve config c) := by
  obtain ⟨retention, limit⟩ := config
  rcases serve_cases limit c with ⟨s, action, rfl⟩ | ⟨id', input, hid, hserve⟩ | ⟨e, hnone, -⟩
  · cases hc
    exact confined_create s action
  · cases hid.symm.trans hc
    rw [hserve]
    exact hm.confined_give id input
  · cases hnone.symm.trans hc

/-- A call that is not addressed to a session leaves it alone, and neither sends nor publishes
anything in its name. -/
theorem Sound.serve_spares (hm : m.Sound) {c : Relay.Call}
    (hc : c.addressee config.maxMessageSize ≠ some id) :
    (m.serve config c).sessions.get? id = m.get? id ∧
      (m.serve config c).envelopes.filter (·.names id) = [] ∧
        (m.serve config c).events.filter (·.session = id) = [] := by
  cases haddressee : c.addressee config.maxMessageSize with
  | none =>
    obtain ⟨retention, limit⟩ := config
    rcases serve_cases limit c with ⟨s, action, rfl⟩ | ⟨id', input, hid, -⟩ | ⟨e, -, hserve⟩
    · cases haddressee
    · cases hid.symm.trans haddressee
    · rw [hserve]
      exact ⟨rfl, rfl, rfl⟩
  | some id' =>
    have hne : id' ≠ id := by
      rintro rfl
      exact hc haddressee
    have hconfined := hm.confined_serve haddressee
    refine ⟨hconfined.get?_eq id hne.symm, List.filter_eq_nil_iff.mpr fun e he hnames => ?_,
      List.filter_eq_nil_iff.mpr fun event hevent hsession => ?_⟩
    · exact hne ((hconfined.names_iff e he id).mp hnames)
    · rw [decide_eq_true_eq, hconfined.session_eq event hevent] at hsession
      exact hne hsession

/-- All that a call sends and publishes is in the name of the session that it is addressed to. -/
lemma Sound.serve_filter (hm : m.Sound) {c : Relay.Call}
    (hc : c.addressee config.maxMessageSize = some id) :
    (m.serve config c).envelopes.filter (·.names id) = (m.serve config c).envelopes ∧
      (m.serve config c).events.filter (·.session = id) = (m.serve config c).events := by
  have hconfined := hm.confined_serve hc
  refine ⟨List.filter_eq_self.mpr fun e he => ?_, List.filter_eq_self.mpr fun event hevent => ?_⟩
  · exact (hconfined.names_iff e he id).mpr rfl
  · rw [decide_eq_true_eq, hconfined.session_eq event hevent]

end Registry

/-! ### Runs -/

namespace Relay

/-- The calls that are addressed to a session. -/
def callsTo (limit : ℕ) (id : SessionId) (calls : List Call) : List Call :=
  calls.filter (·.addressee limit = some id)

/-- The entries of a log for the calls that are addressed to a session. -/
def entriesOf (limit : ℕ) (id : SessionId) (log : List Entry) : List Entry :=
  log.filter (·.call.addressee limit = some id)

variable {config : Config} {id : SessionId} {r r₀ : Relay} {m m₀ : Registry}

/-- Two relays that are refused nothing are the same for a session: both store the same under its
identifier, and what the second has sent and published is what the first has in its name. -/
structure SameFor (config : Config) (id : SessionId) (r r₀ : Relay) (m m₀ : Registry) : Prop where
  sound : m.Sound
  sound₀ : m₀.Sound
  bears : r.Bears .none ⟨config, m.archive, r.outbox.sent, r.events⟩
  bears₀ : r₀.Bears .none ⟨config, m₀.archive, r₀.outbox.sent, r₀.events⟩
  get?_eq : m.get? id = m₀.get? id
  sent_eq : r₀.outbox.sent = r.outbox.sent.filter (·.names id)
  events_eq : r₀.events = r.events.filter (·.session = id)

/-- The same octets are stored for the session. -/
lemma SameFor.stored_eq (h : SameFor config id r r₀ m m₀) :
    r₀.store.archive.get? id = r.store.archive.get? id := by
  rw [h.bears.archive_eq, h.bears₀.archive_eq]
  change (Ascending.map _ m₀).get? id = (Ascending.map _ m).get? id
  rw [Ascending.get?_map, Ascending.get?_map, h.get?_eq]

/-- A relay bears what it has sent and published. -/
lemma Bears.self {faults : Faults} {l : Ledger} (h : r.Bears faults l) :
    r.Bears faults ⟨l.config, l.archive, r.outbox.sent, r.events⟩ :=
  { h with sent_eq := rfl, events_eq := rfl }

/-- A call that is addressed to the session, made on both relays, is recorded alike, and the relays
stay the same for the session. -/
lemma SameFor.own (h : SameFor config id r r₀ m m₀) {c : Call} (hstorable : c.Storable)
    (hc : c.addressee config.maxMessageSize = some id) :
    (r₀.record c).1 = (r.record c).1 ∧
      SameFor config id (r.record c).2 (r₀.record c).2 (m.serve config c).sessions
        (m₀.serve config c).sessions := by
  obtain ⟨hentry, hbears⟩ := h.bears.record_of_none h.sound rfl c
  obtain ⟨hentry₀, hbears₀⟩ := h.bears₀.record_of_none h.sound₀ rfl c
  have hsame := Registry.sameAt_serve hc h.get?_eq
  obtain ⟨henvelopes, hevents⟩ := h.sound.serve_filter hc
  refine ⟨?_, ?_, ?_, hbears.self, hbears₀.self, hsame.get?_eq, ?_, ?_⟩
  · rw [hentry, hentry₀]
    dsimp only
    rw [hsame.result_eq, hsame.envelopes_eq]
  · exact (h.sound.serves c).sound h.sound fun _ _ _ => hstorable.of_creates
  · exact (h.sound₀.serves c).sound h.sound₀ fun _ _ _ => hstorable.of_creates
  · rw [hbears.sent_eq, hbears₀.sent_eq]
    dsimp only [Ledger.enter]
    rw [List.filter_append, henvelopes, h.sent_eq, hsame.envelopes_eq]
  · rw [hbears.events_eq, hbears₀.events_eq]
    dsimp only [Ledger.enter]
    rw [List.filter_append, hevents, h.events_eq, hsame.events_eq]

/-- The relays stay the same for the session over a call of the first that is not addressed to
it. -/
lemma SameFor.other (h : SameFor config id r r₀ m m₀) {c : Call} (hstorable : c.Storable)
    (hc : c.addressee config.maxMessageSize ≠ some id) :
    SameFor config id (r.record c).2 r₀ (m.serve config c).sessions m₀ := by
  obtain ⟨-, hbears⟩ := h.bears.record_of_none h.sound rfl c
  obtain ⟨hget, henvelopes, hevents⟩ := h.sound.serve_spares hc
  refine ⟨(h.sound.serves c).sound h.sound fun _ _ _ => hstorable.of_creates, h.sound₀, hbears.self,
    h.bears₀, hget.trans h.get?_eq, ?_, ?_⟩
  · rw [hbears.sent_eq]
    dsimp only [Ledger.enter]
    rw [List.filter_append, henvelopes, List.append_nil, h.sent_eq]
  · rw [hbears.events_eq]
    dsimp only [Ledger.enter]
    rw [List.filter_append, hevents, List.append_nil, h.events_eq]

/-- The relays stay the same for the session over a run of the first and the run, on the second, of
the calls that are addressed to it: by induction on the calls. -/
lemma SameFor.run (h : SameFor config id r r₀ m m₀) {calls : List Call}
    (hcalls : ∀ c ∈ calls, c.Storable) :
    r₀.log (callsTo config.maxMessageSize id calls) =
        entriesOf config.maxMessageSize id (r.log calls) ∧
      ∃ m m₀, SameFor config id (r.afterAll calls)
        (r₀.afterAll (callsTo config.maxMessageSize id calls)) m m₀ := by
  induction calls generalizing r r₀ m m₀ with
  | nil => exact ⟨rfl, m, m₀, h⟩
  | cons c calls ih =>
    have hc := hcalls c List.mem_cons_self
    have hcalls' : ∀ c' ∈ calls, c'.Storable := fun c' hc' => hcalls c' (List.mem_cons_of_mem c hc')
    have hcall : (r.record c).1.call = c := rfl
    by_cases haddressee : c.addressee config.maxMessageSize = some id
    · obtain ⟨hentry, hsame⟩ := h.own hc haddressee
      obtain ⟨hlog, hafter⟩ := ih hsame hcalls'
      have hown : callsTo config.maxMessageSize id (c :: calls) =
          c :: callsTo config.maxMessageSize id calls :=
        List.filter_cons_of_pos (decide_eq_true haddressee)
      rw [hown]
      refine ⟨?_, hafter⟩
      rw [log, Calls.results, hentry]
      exact (congrArg _ hlog).trans
        (List.filter_cons_of_pos (by rw [hcall]; exact decide_eq_true haddressee)).symm
    · obtain ⟨hlog, hafter⟩ := ih (h.other hc haddressee) hcalls'
      have hown : callsTo config.maxMessageSize id (c :: calls) =
          callsTo config.maxMessageSize id calls :=
        List.filter_cons_of_neg (by simpa using haddressee)
      rw [hown]
      refine ⟨hlog.trans ?_, hafter⟩
      exact (List.filter_cons_of_neg (by rw [hcall]; simpa using haddressee)).symm

/-- For a session a run of a relay is the run of the calls that are addressed to it. -/
structure Isolated (r : Relay) (calls : List Call) (id : SessionId) : Prop where
  /-- These calls return the same and send the same. -/
  log_eq : r.log (callsTo r.config.maxMessageSize id calls) =
    entriesOf r.config.maxMessageSize id (r.log calls)
  /-- The same octets are stored for the session. -/
  stored_eq : (r.afterAll (callsTo r.config.maxMessageSize id calls)).store.archive.get? id =
    (r.afterAll calls).store.archive.get? id
  /-- The messages that name the session are the same, and no others are sent in the run of its own
  calls. -/
  sent_eq : (r.afterAll (callsTo r.config.maxMessageSize id calls)).outbox.sent =
    (r.afterAll calls).outbox.sent.filter (·.names id)
  /-- So are the events about the session. -/
  events_eq : (r.afterAll (callsTo r.config.maxMessageSize id calls)).events =
    (r.afterAll calls).events.filter (·.session = id)

/-- Where nothing is refused, no session can tell a run from the run of its own calls: whatever is
stored at first, and whichever other sessions are given calls in between. -/
theorem isolated_of_calls (config : Config) {m : Registry} (hm : m.Sound) {calls : List Call}
    (hcalls : ∀ c ∈ calls, c.Storable) (id : SessionId) :
    ({ config, store := { archive := m.archive } } : Relay).Isolated calls id := by
  have hbears : ({ config, store := { archive := m.archive } } : Relay).Bears .none
      ⟨config, m.archive, [], []⟩ := ⟨rfl, rfl, rfl, fun _ _ => rfl, rfl, rfl, rfl, rfl⟩
  have hsame : SameFor config id { config, store := { archive := m.archive } }
      { config, store := { archive := m.archive } } m m :=
    ⟨hm, hm, hbears, hbears, rfl, rfl, rfl⟩
  obtain ⟨hlog, m', m₀, hafter⟩ := hsame.run hcalls
  exact ⟨hlog, hafter.stored_eq, hafter.sent_eq, hafter.events_eq⟩

/-- Alice and Bob are introduced in two sessions at a time; one takes a response of Alice and the
other is given up. -/
def sharedCalls : List Call :=
  [.create Session.aliceAndBob (.request [1] [2] (some "hi")),
    .create { Session.aliceAndBob with id := .replicate 8 } (.request [3] [4] none),
    .receive (Session.sampleResponse .first).toDictionary, .perform (.replicate 8) .abort]

/-- The sample calls create storable sessions only. -/
lemma storable_sharedCalls : ∀ c ∈ sharedCalls, c.Storable := by
  intro c hc
  simp only [sharedCalls, List.mem_cons, List.not_mem_nil, or_false] at hc
  rcases hc with rfl | rfl | rfl | rfl
  · exact storable_aliceAndBob
  · intro side
    cases side
    · exact storable_aliceAndBob .first
    · exact storable_aliceAndBob .second
  all_goals exact trivial

/-- Neither of the two sessions can tell that there is the other. -/
theorem isolated_sharedCalls :
    (Registry.Sound Registry.empty ∧ ∀ c ∈ sharedCalls, c.Storable) ∧
      ({ store := { archive := Registry.archive Registry.empty } } : Relay).Isolated sharedCalls
          (.replicate 7) ∧
        ({ store := { archive := Registry.archive Registry.empty } } : Relay).Isolated sharedCalls
          (.replicate 8) :=
  ⟨⟨Registry.sound_empty, storable_sharedCalls⟩,
    isolated_of_calls {} Registry.sound_empty storable_sharedCalls (.replicate 7),
    isolated_of_calls {} Registry.sound_empty storable_sharedCalls (.replicate 8)⟩

end Relay

end Introduction
