import Introduction.Proofs.Relay.Runs
import Introduction.Relay.Introducer

/-!
# Calls of an introducer

An introducer is asked to introduce two contacts, to give an introduction up, and to apply local
actions and messages (`Call`).  What a call comes to on a registry is `Registry.respond`.  A session
is only created by an introduction, under the identifier that is drawn for it, and while no session
that goes on introduces the same contacts (`Registry.Introducible`).

`Keeps.call` says all that a call can do under faults: what it comes to on the registry, or nothing,
or something in between; what is handed over is in any case a beginning of what was to be sent.
What a run preserves follows from it by induction on the calls.
-/

namespace Introduction

/-! ### Pairs of contacts -/

namespace Session

/-- Two sessions introduce the contacts on the same two channels, in either order. -/
def SamePair (s t : Session) : Prop :=
  (s.first.channel = t.first.channel ∧ s.second.channel = t.second.channel) ∨
    (s.first.channel = t.second.channel ∧ s.second.channel = t.first.channel)

lemma SamePair.symm {s t : Session} (h : s.SamePair t) : t.SamePair s := by
  rcases h with ⟨h₁, h₂⟩ | ⟨h₁, h₂⟩
  · exact .inl ⟨h₁.symm, h₂.symm⟩
  · exact .inr ⟨h₂.symm, h₁.symm⟩

/-- A session introduces the contacts of the sessions with the same pair of channels. -/
lemma introduces_iff (s t : Session) :
    s.introduces t.first.channel t.second.channel = true ↔ s.SamePair t := by
  simp [introduces, SamePair]

variable {s t : Session} {input : Input} {envelopes : List Envelope} {events : List Event}

/-- A step keeps the pair of channels. -/
lemma Step.samePair_iff (h : Step s input t envelopes events) (u : Session) :
    u.SamePair t ↔ u.SamePair s := by
  have hfirst : t.first = s.first := h.contact_eq .first
  have hsecond : t.second = s.second := h.contact_eq .second
  rw [SamePair, hfirst, hsecond, SamePair]

/-- A session is over once it is finished or given up. -/
lemma isLive_iff (s : Session) : s.isLive = true ↔ s.state ≠ .finished ∧ s.state ≠ .aborted := by
  unfold isLive State.isTerminal
  cases s.state <;> simp

/-- A session that accepts a message goes on, unless the message is a late response. -/
lemma Accepts.isLive {side : Side} {d : Dictionary} {m : Message} (h : s.Accepts side d m)
    (hlate : m.kind = .response → s.state ≠ .finished) : s.isLive := by
  refine s.isLive_iff.mpr ⟨fun hfinished => ?_, h.state_ne.2⟩
  have hexpected := h.expected
  rw [hfinished] at hexpected
  cases hkind : m.kind <;> rw [hkind] at hexpected
  · exact hexpected
  · exact hlate hkind hfinished
  · rcases hexpected with h | h <;> cases h
  · exact hexpected

/-- A session that is over stays over. -/
lemma Step.isLive_of_isLive (h : Step s input t envelopes events) (ht : t.isLive) : s.isLive := by
  cases h with
  | start hstate => rw [isLive_iff, hstate]; simp
  | ignore _ => exact ht
  | giveUp _ => cases ht
  | response haccepts hstate => exact haccepts.isLive fun _ => hstate
  | ack haccepts => exact haccepts.isLive fun hkind => by cases hkind
  | late _ _ =>
    rw [isLive_iff] at ht ⊢
    rwa [state_recordFirst] at ht

/-- The only error of making a session is that both contacts use one channel. -/
lemma eq_of_start_error {id : SessionId} {first second : Contact} {e : Error}
    (h : start id first second = .error e) : e = .sharedChannel first.channel := by
  unfold start at h
  split_ifs at h
  cases h
  rfl

/-- A dictionary that is no local action has an unknown type or lacks what its type needs. -/
lemma LocalAction.ofDictionary_error_cases {d : Dictionary} {e : Error}
    (h : LocalAction.ofDictionary d = .error e) :
    (∃ n, e = .unknownLocalAction n) ∨ ∃ cause, e = .malformedLocalAction cause := by
  unfold LocalAction.ofDictionary at h
  split at h
  · rename_i cause _
    cases h
    exact .inr ⟨cause, rfl⟩
  · rename_i number _
    split at h
    · cases hread : LocalAction.readRequest d with
      | error cause =>
        rw [hread] at h
        cases h
        exact .inr ⟨cause, rfl⟩
      | ok action =>
        rw [hread] at h
        cases h
    · cases h
    · cases h
      exact .inl ⟨number, rfl⟩

/-- What a session that was just made consists of. -/
lemma eq_of_start {id : SessionId} {first second : Contact} (h : start id first second = .ok s) :
    s.id = id ∧ s.first = first ∧ s.second = second := by
  unfold start at h
  split_ifs at h
  cases h
  exact ⟨rfl, rfl, rfl⟩

end Session

/-! ### Calls -/

/-- Introduces two contacts in a session with the given identifier, if they can be introduced. -/
def Relay.introduce (id : SessionId) (first second : Contact) (publicKey₁ publicKey₂ : Bytes)
    (note : Option String) : Relaying SessionId := do
  Relay.ensureFree first second
  Relay.introduceAs id first second publicKey₁ publicKey₂ note

namespace Introducer

/-- What an introducer is asked for. -/
inductive Call where
  /-- To introduce two contacts to each other. -/
  | introduce (first second : Contact) (publicKey₁ publicKey₂ : Bytes) (note : Option String)
  /-- To give an introduction up. -/
  | abort (id : SessionId)
  /-- To apply a local action in dictionary form. -/
  | perform (id : SessionId) (action : Dictionary)
  /-- To apply a message received from a contact. -/
  | receive (message : Dictionary)
  /-- To decode and apply a message received from a contact. -/
  | receiveBytes (bytes : Bytes)
  /-- To take note that a message reached the transport. -/
  | delivered (message : Dictionary)

/-- What an introducer returns. -/
inductive Reply where
  /-- The identifier of a new introduction. -/
  | started (id : SessionId)
  /-- The session that took an input, afterwards. -/
  | session (s : Session)

/-- The contacts that are to be introduced can be stored. -/
def Call.Storable : Call → Prop
  | .introduce first second .. => first.Storable ∧ second.Storable
  | _ => True

/-- The call of the introducer that is asked for. -/
def Call.toIntroducing : Call → Introducing Reply
  | .introduce first second publicKey₁ publicKey₂ note => do
    return .started (← Introducer.introduce first second publicKey₁ publicKey₂ note)
  | .abort id => do return .session (← Introducer.abort id)
  | .perform id action => do return .session (← Introducer.perform id action)
  | .receive message => do return .session (← Introducer.receive message)
  | .receiveBytes bytes => do return .session (← Introducer.receiveBytes bytes)
  | .delivered message => do return .session (← Introducer.delivered message)

/-- Makes a call. -/
def call (i : Introducer) (c : Call) : Except Relay.Error Reply × Introducer :=
  outcome c.toIntroducing i

/-- The call of the relay that a call comes to, where `next` is the next identifier. -/
def Call.toRelaying (next : SessionId) : Call → Relaying Reply
  | .introduce first second publicKey₁ publicKey₂ note => do
    return .started (← Relay.introduce next first second publicKey₁ publicKey₂ note)
  | .abort id => do return .session (← (Relay.Call.perform id .abort).toRelaying)
  | .perform id action =>
    match Session.LocalAction.ofDictionary action with
    | .error e => throw (.session e)
    | .ok action => do return .session (← (Relay.Call.perform id action).toRelaying)
  | .receive message => do return .session (← (Relay.Call.receive message).toRelaying)
  | .receiveBytes bytes => do return .session (← (Relay.Call.receiveBytes bytes).toRelaying)
  | .delivered message => do return .session (← (Relay.Call.delivered message).toRelaying)

/-- A call of the introducer comes to a call of the relay, and may draw identifiers. -/
def Relays {α : Type} (i : Introducer) (call : Introducing α) (relaying : Relaying α) : Prop :=
  ∃ drawn, outcome call i =
    ((outcome relaying i.relay).1, { i with relay := (outcome relaying i.relay).2, drawn })

variable {α : Type} {i : Introducer}

/-- A call of the relay draws nothing. -/
lemma outcome_onRelay (call : Relaying α) (i : Introducer) :
    outcome (onRelay call) i =
      ((outcome call i.relay).1, { i with relay := (outcome call i.relay).2 }) := by
  unfold outcome onRelay
  cases call i.relay <;> rfl

lemma relays_onRelay (call : Relaying α) : i.Relays (onRelay call) call :=
  ⟨i.drawn, outcome_onRelay call i⟩

/-- The result can be returned in another form. -/
lemma Relays.return {β : Type} {call : Introducing α} {relaying : Relaying α}
    (h : i.Relays call relaying) (f : α → β) :
    i.Relays (do return f (← call)) (do return f (← relaying)) := by
  obtain ⟨drawn, h⟩ := h
  refine ⟨drawn, ?_⟩
  rw [outcome_bind, outcome_bind, h]
  rcases outcome relaying i.relay with ⟨e | x, r⟩ <;> rfl

/-- An identifier is drawn for an introduction once it is known that the contacts can be
introduced. -/
lemma relays_introduce (first second : Contact) (publicKey₁ publicKey₂ : Bytes)
    (note : Option String) :
    i.Relays (introduce first second publicKey₁ publicKey₂ note)
      (Relay.introduce (i.ids i.drawn) first second publicKey₁ publicKey₂ note) := by
  unfold Relays introduce Relay.introduce
  rw [outcome_bind, outcome_onRelay, outcome_bind]
  rcases outcome (Relay.ensureFree first second) i.relay with ⟨e | x, r⟩
  · exact ⟨i.drawn, rfl⟩
  · exact ⟨i.drawn + 1, (outcome_bind draw _ _).trans (outcome_onRelay _ _)⟩

/-- A call comes to a call of the relay. -/
lemma relays_call (c : Call) : i.Relays c.toIntroducing (c.toRelaying (i.ids i.drawn)) := by
  cases c with
  | introduce first second publicKey₁ publicKey₂ note =>
    exact (relays_introduce first second publicKey₁ publicKey₂ note).return Reply.started
  | abort id => exact (relays_onRelay _).return Reply.session
  | receive message => exact (relays_onRelay _).return Reply.session
  | receiveBytes bytes => exact (relays_onRelay _).return Reply.session
  | delivered message => exact (relays_onRelay _).return Reply.session
  | perform id action =>
    unfold Call.toIntroducing Introducer.perform Call.toRelaying
    dsimp only
    cases Session.LocalAction.ofDictionary action with
    | error e => exact ⟨i.drawn, rfl⟩
    | ok action => exact (relays_onRelay _).return Reply.session

end Introducer

/-! ### Calls on a registry -/

/-- The session that is read from an archive. -/
def Archive.session? (a : Archive) (id : SessionId) : Option Session :=
  match a.read id with
  | .ok (some d) => (Session.ofDictionary d).toOption
  | _ => none

namespace Registry

open Introducer (Reply)

/-- The first session that goes on and introduces the contacts on two channels. -/
def liveSessionFor (m : Registry) (a b : ChannelId) : Option SessionId :=
  (m.values.find? fun s => s.isLive && s.introduces a b).map (·.id)

/-- Introduces two contacts in a session with the given identifier, if they can be introduced. -/
def introduce (m : Registry) (config : Relay.Config) (id : SessionId) (first second : Contact)
    (publicKey₁ publicKey₂ : Bytes) (note : Option String) : Outcome SessionId :=
  match m.liveSessionFor first.channel second.channel with
  | some existing => m.refuse (.alreadyIntroducing existing)
  | none =>
    match Session.start id first second with
    | .error e => m.refuse (.session e)
    | .ok s => (m.create config s (.request publicKey₁ publicKey₂ note)).map fun _ => id

/-- What a call of an introducer comes to, where `next` is the next identifier. -/
def respond (m : Registry) (config : Relay.Config) (next : SessionId) :
    Introducer.Call → Outcome Reply
  | .introduce first second publicKey₁ publicKey₂ note =>
    (m.introduce config next first second publicKey₁ publicKey₂ note).map .started
  | .abort id => (m.serve config (.perform id .abort)).map .session
  | .perform id action =>
    match Session.LocalAction.ofDictionary action with
    | .error e => m.refuse (.session e)
    | .ok action => (m.serve config (.perform id action)).map .session
  | .receive message => (m.serve config (.receive message)).map .session
  | .receiveBytes bytes => (m.serve config (.receiveBytes bytes)).map .session
  | .delivered message => (m.serve config (.delivered message)).map .session

/-- A session that an introduction may create on a registry, its first input and what is returned:
its contacts are not those of a session that goes on. -/
structure Introducible (m : Registry) (next : SessionId) (s : Session) (input : Session.Input)
    (x : Reply) : Prop where
  start_eq : ∃ first second, Session.start next first second = .ok s
  storable : s.Storable
  free : ∀ id t, m.get? id = some t → t.isLive → ¬ t.SamePair s
  input_eq : ∃ publicKey₁ publicKey₂ note, input = .act (.request publicKey₁ publicKey₂ note)
  reply_eq : x = .started s.id

variable {m : Registry} {config : Relay.Config} {next id : SessionId} {s t : Session}

/-- The sessions that are read from the encoded form are those of the registry. -/
lemma Sound.session?_archive (hm : m.Sound) (id : SessionId) : m.archive.session? id = m.get? id := by
  unfold Archive.session?
  rw [hm.read_archive]
  cases m.get? id with
  | none => rfl
  | some s =>
    simp only [Option.map_some, Session.ofDictionary_toDictionary]
    rfl

/-- What stands in the registry once a session is kept or dropped is this session or was there. -/
lemma get?_keep_cases (h : (m.keep config t).get? id = some s) :
    (id = t.id ∧ s = t) ∨ (id ≠ t.id ∧ m.get? id = some s) := by
  rw [get?_keep] at h
  split_ifs at h with hid
  · exact .inl ⟨hid, (Option.some.inj h).symm⟩
  · exact .inr ⟨hid, h⟩

/-- Where no session is found that goes on and introduces the contacts of another, there is none. -/
lemma not_samePair_of_liveSessionFor_eq_none
    (h : m.liveSessionFor s.first.channel s.second.channel = none) (id : SessionId) (t : Session)
    (hget : m.get? id = some t) (hlive : t.isLive) : ¬ t.SamePair s := by
  unfold liveSessionFor at h
  rw [Option.map_eq_none_iff, List.find?_eq_none] at h
  have hmem : t ∈ m.values := List.mem_map.mpr ⟨(id, t), m.mem_toList_iff.mpr hget, rfl⟩
  intro hpair
  refine h t hmem ?_
  rw [Bool.and_eq_true]
  exact ⟨hlive, (t.introduces_iff s).mpr hpair⟩

/-- An introduction comes to an error or to the first step of a session that it may create. -/
lemma serves_introduce {first second : Contact} (hfirst : first.Storable)
    (hsecond : second.Storable) (publicKey₁ publicKey₂ : Bytes) (note : Option String) :
    m.Serves config (m.Introducible next)
      ((m.introduce config next first second publicKey₁ publicKey₂ note).map .started) := by
  unfold Registry.introduce
  cases hlive : m.liveSessionFor first.channel second.channel with
  | some existing => exact .refuse _ rfl
  | none =>
    cases hstart : Session.start next first second with
    | error e =>
      rw [Session.eq_of_start_error hstart]
      exact .refuse _ rfl
    | ok s =>
      obtain ⟨rfl, rfl, rfl⟩ := Session.eq_of_start hstart
      have hstorable : s.Storable := by
        intro side
        cases side
        · exact hfirst
        · exact hsecond
      have hcreate : m.Serves config (fun t input _ => t = s ∧
          input = .act (.request publicKey₁ publicKey₂ note)) _ :=
        serves_create fun _ => ⟨rfl, rfl⟩
      have hintroduce : m.Serves config (fun t input id => t = s ∧
          input = .act (.request publicKey₁ publicKey₂ note) ∧ id = s.id) _ :=
        hcreate.map (fun _ => s.id) fun t input _ h => ⟨h.1, h.2, rfl⟩
      refine hintroduce.map Reply.started ?_
      rintro t input id ⟨rfl, rfl, rfl⟩
      exact ⟨⟨_, _, hstart⟩, hstorable, not_samePair_of_liveSessionFor_eq_none hlive, ⟨_, _, _, rfl⟩, rfl⟩

/-- A call of an introducer comes to an error or to a step of a session.  It only creates a session
if it is to introduce contacts who are not being introduced. -/
theorem Sound.serves_respond (hm : m.Sound) {c : Introducer.Call} (hc : c.Storable) :
    m.Serves config (m.Introducible next) (m.respond config next c) := by
  -- a call of the relay that creates no session
  have hserve : ∀ c : Relay.Call, (∀ s input, ¬ c.Creates s input) →
      m.Serves config (m.Introducible next) ((m.serve config c).map .session) :=
    fun c hno => (hm.serves c).map _ fun s input _ h => absurd h (hno s input)
  cases c with
  | introduce first second publicKey₁ publicKey₂ note =>
    exact serves_introduce hc.1 hc.2 publicKey₁ publicKey₂ note
  | abort id => exact hserve _ fun _ _ h => h
  | receive message => exact hserve _ fun _ _ h => h
  | receiveBytes bytes => exact hserve _ fun _ _ h => h
  | delivered message => exact hserve _ fun _ _ h => h
  | perform id action =>
    unfold respond
    dsimp only
    cases haction : Session.LocalAction.ofDictionary action with
    | error e =>
      refine .refuse _ ?_
      rcases Session.LocalAction.ofDictionary_error_cases haction with ⟨n, rfl⟩ | ⟨cause, rfl⟩ <;> rfl
    | ok action => exact hserve _ fun _ _ h => h

end Registry

/-! ### Calls of an introducer that stores a registry -/

namespace Relay

variable {α β : Type} {faults : Faults} {l l' l₁ : Ledger} {m : Registry}

/-- What becomes of a call whose result is returned in another form. -/
lemma Disturbed.map {x y : Except Error α} (h : Disturbed faults l l' x y l₁) (f : α → β) :
    Disturbed faults l l' (x.map f) (y.map f) l₁ := by
  cases h with
  | done => exact .done
  | refused hstore e => exact .refused hstore e
  | restored htransport e hsplit hrest => exact .restored htransport e hsplit hrest
  | stuck hstore htransport e hsplit hrest => exact .stuck hstore htransport e hsplit hrest

/-- A call whose result is returned in another form. -/
lemma Leads.return {call : Relaying α} {o : Outcome α} (h : Leads call faults l (ComesTo faults l o))
    (f : α → β) : Leads (do return f (← call)) faults l (ComesTo faults l (o.map f)) :=
  h.bind (fun _ _ hx => leads_pure (hx.map f)) fun _ _ he => he.map f

/-- Looking for a session that goes on. -/
lemma tries_liveSessionFor (hm : m.Sound) (hl : l.archive = m.archive) (a b : ChannelId) :
    Tries (liveSessionFor a b) faults l (m.liveSessionFor a b) l :=
  (tries_sessions hm hl).bind (tries_pure _)

/-- Refusing to introduce contacts who are being introduced. -/
lemma leads_ensureFree (hm : m.Sound) (hl : l.archive = m.archive) (first second : Contact) :
    Leads (ensureFree first second) faults l fun y l₁ => l₁ = l ∧
      ((m.liveSessionFor first.channel second.channel = none ∧ y = .ok ()) ∨
        (∃ existing, m.liveSessionFor first.channel second.channel = some existing ∧
          y = .error (.alreadyIntroducing existing)) ∨
          (faults.HitStore ∧ ∃ e, y = .error (.store e))) := by
  refine (tries_liveSessionFor hm hl first.channel second.channel).then ?_
    fun hstore e => ⟨rfl, .inr (.inr ⟨hstore, e, rfl⟩)⟩
  cases m.liveSessionFor first.channel second.channel with
  | none => exact leads_pure ⟨rfl, .inl ⟨rfl, rfl⟩⟩
  | some existing =>
    exact (leads_tell _).then (leads_throw ⟨rfl, .inr (.inl ⟨existing, rfl, rfl⟩)⟩)

/-- Starting an introduction under an identifier, of contacts who are not being introduced. -/
lemma leads_introduceAs (hm : m.Sound) (hl : l.archive = m.archive) (id : SessionId)
    {first second : Contact} (hfree : m.liveSessionFor first.channel second.channel = none)
    (publicKey₁ publicKey₂ : Bytes) (note : Option String) :
    Leads (introduceAs id first second publicKey₁ publicKey₂ note) faults l
      (ComesTo faults l
        (m.introduce l.config id first second publicKey₁ publicKey₂ note)) := by
  refine (leads_tell _).then ?_
  rw [Registry.introduce, hfree]
  cases hstart : Session.start id first second with
  | error e => exact leads_throw (comesTo_refuse hl _)
  | ok s => exact (leads_create hm hl s _).return fun _ => id

/-- Introducing two contacts. -/
lemma leads_introduce (hm : m.Sound) (hl : l.archive = m.archive) (id : SessionId)
    (first second : Contact) (publicKey₁ publicKey₂ : Bytes) (note : Option String) :
    Leads (introduce id first second publicKey₁ publicKey₂ note) faults l
      (ComesTo faults l
        (m.introduce l.config id first second publicKey₁ publicKey₂ note)) := by
  refine (leads_ensureFree hm hl first second).bind (fun x l₁ hx => ?_) fun e l₁ he => ?_
  · obtain ⟨rfl, ⟨hfree, -⟩ | ⟨existing, -, herror⟩ | ⟨-, e, herror⟩⟩ := hx
    · exact leads_introduceAs hm hl id hfree publicKey₁ publicKey₂ note
    · cases herror
    · cases herror
  · obtain ⟨rfl, ⟨-, hok⟩ | ⟨existing, hlive, herror⟩ | ⟨hstore, e', herror⟩⟩ := he
    · cases hok
    · cases herror
      rw [Registry.introduce, hlive]
      exact comesTo_refuse hl _
    · cases herror
      exact .refused hstore e'

/-- A call of an introducer comes to what it comes to on the registry, unless it is disturbed. -/
theorem leads_respond (hm : m.Sound) (hl : l.archive = m.archive) (next : SessionId)
    (c : Introducer.Call) :
    Leads (c.toRelaying next) faults l (ComesTo faults l (m.respond l.config next c)) := by
  have hserve : ∀ c : Call, Leads (do return Introducer.Reply.session (← c.toRelaying)) faults l
      (ComesTo faults l ((m.serve l.config c).map .session)) :=
    fun c => (leads_call hm hl c).return Introducer.Reply.session
  cases c with
  | introduce first second publicKey₁ publicKey₂ note =>
    exact (leads_introduce hm hl next first second publicKey₁ publicKey₂ note).return
      Introducer.Reply.started
  | abort id => exact hserve _
  | receive message => exact hserve _
  | receiveBytes bytes => exact hserve _
  | delivered message => exact hserve _
  | perform id action =>
    unfold Introducer.Call.toRelaying Registry.respond
    dsimp only
    cases Session.LocalAction.ofDictionary action with
    | error e => exact leads_throw (comesTo_refuse hl _)
    | ok action => exact hserve _

end Relay

namespace Introducer

open Relay (Config Faults)

variable {i : Introducer} {config : Config} {faults : Faults} {m : Registry}

/-- The relay of an introducer is under faults and stores a sound registry. -/
structure Keeps (i : Introducer) (config : Config) (faults : Faults) (m : Registry) : Prop where
  sound : m.Sound
  bears : i.relay.Bears faults ⟨config, m.archive, i.relay.outbox.sent, i.relay.events⟩

/-- An introducer with nothing stored, under faults. -/
def vacant (config : Config) (faults : Faults) (ids : ℕ → SessionId) : Introducer where
  relay := { config, store := { refuses := faults.store }, outbox := { refuses := faults.transport } }
  ids := ids

/-- An introducer with nothing stored keeps the registry without sessions. -/
lemma keeps_vacant (config : Config) (faults : Faults) (ids : ℕ → SessionId) :
    (vacant config faults ids).Keeps config faults Registry.empty :=
  ⟨Registry.sound_empty, rfl, rfl, rfl, fun _ _ => rfl, rfl, rfl, rfl, rfl⟩

/-- The session stored under an identifier. -/
def stored (i : Introducer) (id : SessionId) : Option Session := i.relay.store.archive.session? id

/-- The messages that are handed over in a call. -/
def sentOver (i : Introducer) (c : Call) : List Envelope :=
  (i.call c).2.relay.outbox.sent.drop i.relay.outbox.sent.length

/-- The stored sessions are those of the registry. -/
lemma Keeps.stored_eq (h : i.Keeps config faults m) (id : SessionId) : i.stored id = m.get? id := by
  rw [stored, h.bears.archive_eq]
  exact h.sound.session?_archive id

/-- What becomes of a call, given what it comes to on the registry: the result, the registry after
it and what was handed over in it. -/
inductive Ends (faults : Faults) (m : Registry) (o : Outcome Reply) :
    Except Relay.Error Reply → Registry → List Envelope → Prop
  /-- It comes to what it comes to on the registry. -/
  | done : Ends faults m o o.result o.sessions o.envelopes
  /-- The transport refused a message, and nothing is changed. -/
  | restored (htransport : faults.HitTransport) (cause : Relay.RouteError) {sent : List Envelope}
      (hsent : sent <+: o.envelopes) : Ends faults m o (.error (.route cause)) m sent
  /-- The store refused something; the sessions may be changed or not. -/
  | failed (hstore : faults.HitStore) (cause : Relay.StoreError) {sent : List Envelope}
      (hsent : sent <+: o.envelopes) {m' : Registry} (hm' : m' = m ∨ m' = o.sessions) :
      Ends faults m o (.error (.store cause)) m' sent

/-- The registry after a call is the one before or what the call comes to. -/
lemma Ends.sessions_eq {o : Outcome Reply} {x : Except Relay.Error Reply} {m' : Registry}
    {sent : List Envelope} (h : Ends faults m o x m' sent) : m' = m ∨ m' = o.sessions := by
  cases h with
  | done => exact .inr rfl
  | restored => exact .inl rfl
  | failed _ _ _ hm' => exact hm'

/-- Where the store refuses nothing, a call comes to what it comes to on the registry, or changes
nothing because the transport refused a message. -/
lemma Ends.cases_of_not_hitStore {o : Outcome Reply} {x : Except Relay.Error Reply} {m' : Registry}
    {sent : List Envelope} (h : Ends faults m o x m' sent) (hstore : ¬ faults.HitStore) :
    (x = o.result ∧ m' = o.sessions ∧ sent = o.envelopes) ∨
      ∃ cause, x = .error (.route cause) ∧ m' = m ∧ sent <+: o.envelopes := by
  cases h with
  | done => exact .inl ⟨rfl, rfl, rfl⟩
  | restored _ cause hsent => exact .inr ⟨cause, rfl, rfl, hsent⟩
  | failed hhit => exact absurd hhit hstore

/-- An introducer keeps the registry of which the ledger of its relay holds the encoded form. -/
lemma keeps_of_bears {l : Relay.Ledger} (h : i.relay.Bears faults l) (hm : m.Sound)
    (hconfig : l.config = config) (harchive : l.archive = m.archive) : i.Keeps config faults m := by
  refine ⟨hm, ?_⟩
  rw [h.sent_eq, h.events_eq, ← hconfig, ← harchive]
  exact h

/-- A call comes to what it comes to on the registry, unless it is disturbed by faults. -/
lemma Keeps.comesTo (h : i.Keeps config faults m) (c : Call) :
    ∃ l', (i.call c).2.relay.Bears faults l' ∧
      Relay.ComesTo faults ⟨config, m.archive, i.relay.outbox.sent, i.relay.events⟩
        (m.respond config (i.ids i.drawn) c) (i.call c).1 l' := by
  obtain ⟨drawn, hcall⟩ := i.relays_call c
  have hresult : (i.call c).1 = (outcome (c.toRelaying (i.ids i.drawn)) i.relay).1 :=
    congrArg Prod.fst hcall
  have hrelay : (i.call c).2.relay = (outcome (c.toRelaying (i.ids i.drawn)) i.relay).2 :=
    congrArg (·.2.relay) hcall
  rw [hresult, hrelay]
  exact Relay.leads_respond h.sound rfl (i.ids i.drawn) c _ h.bears

/-- The registry that a call comes to is sound. -/
lemma Keeps.sound_respond (h : i.Keeps config faults m) {c : Call} (hc : c.Storable)
    (next : SessionId) : (m.respond config next c).sessions.Sound :=
  (h.sound.serves_respond hc).sound h.sound fun _ _ _ hfresh => hfresh.storable

/-- A call where nothing is refused. -/
lemma Keeps.call_of_none (h : i.Keeps config .none m) {c : Call} (hc : c.Storable) :
    let o := m.respond config (i.ids i.drawn) c
    (i.call c).1 = o.result ∧ (i.call c).2.Keeps config .none o.sessions ∧
      (i.call c).2.relay.outbox.sent = i.relay.outbox.sent ++ o.envelopes ∧
        (i.call c).2.relay.events = i.relay.events ++ o.events := by
  intro o
  obtain ⟨l', hbears, hcomes⟩ := h.comesTo c
  obtain ⟨hresult, rfl⟩ :=
    hcomes.eq_done (Faults.not_hitStore _) Faults.not_hitTransport_none
  exact ⟨hresult, keeps_of_bears hbears (h.sound_respond hc _) rfl rfl, hbears.sent_eq,
    hbears.events_eq⟩

/-- What is handed over in a call is what it adds to what was handed over before. -/
lemma sentOver_eq {c : Call} {sent : List Envelope}
    (h : (i.call c).2.relay.outbox.sent = i.relay.outbox.sent ++ sent) : i.sentOver c = sent := by
  rw [sentOver, h, List.drop_left]

/-- What a call can do under faults. -/
theorem Keeps.call (h : i.Keeps config faults m) {c : Call} (hc : c.Storable) :
    ∃ m', (i.call c).2.Keeps config faults m' ∧
      (i.call c).2.relay.outbox.sent = i.relay.outbox.sent ++ i.sentOver c ∧
        Ends faults m (m.respond config (i.ids i.drawn) c) (i.call c).1 m' (i.sentOver c) := by
  set next := i.ids i.drawn
  suffices hends : ∃ m' sent, (i.call c).2.Keeps config faults m' ∧
      (i.call c).2.relay.outbox.sent = i.relay.outbox.sent ++ sent ∧
        Ends faults m (m.respond config next c) (i.call c).1 m' sent by
    obtain ⟨m', sent, hkeeps, hsent, hends⟩ := hends
    rw [sentOver_eq hsent]
    exact ⟨m', hkeeps, hsent, hends⟩
  have hsound := h.sound_respond hc next
  obtain ⟨l', hbears, hcomes⟩ := h.comesTo c
  have hsent := hbears.sent_eq
  generalize (i.call c).1 = x at hcomes
  cases hcomes with
  | done => exact ⟨_, _, keeps_of_bears hbears hsound rfl rfl, hsent, .done⟩
  | refused hstore e =>
    exact ⟨m, [], keeps_of_bears hbears h.sound rfl rfl, by rw [hsent, List.append_nil],
      .failed hstore e List.nil_prefix (.inl rfl)⟩
  | @restored htransport e sent rest hsplit =>
    have henvelopes : (m.respond config next c).envelopes = sent ++ rest :=
      List.append_cancel_left hsplit
    exact ⟨m, sent, keeps_of_bears hbears h.sound rfl rfl, hsent,
      .restored htransport e (by rw [henvelopes]; exact List.prefix_append sent rest)⟩
  | @stuck hstore htransport e sent rest hsplit =>
    have henvelopes : (m.respond config next c).envelopes = sent ++ rest :=
      List.append_cancel_left hsplit
    exact ⟨_, sent, keeps_of_bears hbears hsound rfl rfl, hsent,
      .failed hstore e (by rw [henvelopes]; exact List.prefix_append sent rest) (.inr rfl)⟩

/-- What calls on a registry preserve holds after any calls of an introducer under faults. -/
theorem Keeps.after {P : Registry → Prop}
    (hstep : ∀ m next o, m.Sound → P m → m.Serves config (m.Introducible next) o → P o.sessions)
    (h : i.Keeps config faults m) (hm : P m) {calls : List Call}
    (hcalls : ∀ c ∈ calls, c.Storable) :
    ∃ m', (Calls.after Introducer.call i calls).Keeps config faults m' ∧ P m' := by
  induction calls generalizing i m with
  | nil => exact ⟨m, h, hm⟩
  | cons c calls ih =>
    have hc := hcalls c List.mem_cons_self
    obtain ⟨m', hkeeps, -, hends⟩ := h.call hc
    have hm' : P m' := by
      rcases hends.sessions_eq with rfl | rfl
      · exact hm
      · exact hstep m _ _ h.sound hm (h.sound.serves_respond hc)
    exact ih hkeeps hm' fun c' hc' => hcalls c' (List.mem_cons_of_mem c hc')

/-! ### A sample call -/

/-- Alice and Bob are introduced. -/
def introduceAliceAndBob : Call := .introduce Session.alice Session.bob [1] [2] (some "hi")

/-- Alice and Bob can be stored. -/
lemma storable_introduceAliceAndBob : introduceAliceAndBob.Storable :=
  ⟨Relay.storable_aliceAndBob .first, Relay.storable_aliceAndBob .second⟩

end Introducer

end Introduction
