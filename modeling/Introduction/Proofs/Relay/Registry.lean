import Introduction.Proofs.Relay.Reliable

/-!
# Sessions kept as they are

A `Registry` keeps sessions as values, by identifier, and `Registry.serve` says what a call comes to
on one: its result, the sessions after it, and what it sends and publishes.  Nothing is encoded on
the way, and nothing is refused.

A relay that starts with nothing stored only ever stores encoded sessions under their identifiers.
Its store is therefore the encoded form of a registry (`Registry.archive`), and a call of the relay
comes to what the registry says unless it is disturbed by faults (`leads_call`).  This rests on
sessions being read back from their encoded form, for which the names of their contacts have to fit
a head (`Registry.Sound`).
-/

namespace Introduction

namespace Relay

/-- What a relay is asked for. -/
inductive Call where
  /-- To store a new session once it has answered its first local action. -/
  | create (s : Session) (action : Session.LocalAction)
  /-- To apply a local action to a stored session. -/
  | perform (id : SessionId) (action : Session.LocalAction)
  /-- To apply an incoming message. -/
  | receive (message : Dictionary)
  /-- To decode and apply an incoming message. -/
  | receiveBytes (bytes : Bytes)
  /-- To take note that an outgoing message reached the transport. -/
  | delivered (message : Dictionary)

/-- The call of the relay that is asked for. -/
def Call.toRelaying : Call → Relaying Session
  | .create s action => Relay.create s action
  | .perform id action => Relay.perform id action
  | .receive message => Relay.receive message
  | .receiveBytes bytes => Relay.receiveBytes bytes
  | .delivered message => Relay.delivered message

/-- Whether an error says that a session is not sound: it cannot be read back, or has no rule for
what its state allows. -/
def Error.isUnsound : Error → Bool
  | .session (.corrupt _) => true
  | .session (.inconsistentState ..) => true
  | _ => false

/-- Whether a call can stop with an error although nothing is refused: the error is neither one of
the store nor one of the transport, and does not say that a session is not sound. -/
def Error.isInternal : Error → Bool
  | .store _ => false
  | .route _ => false
  | e => !e.isUnsound

/-- An error that a call can stop with although nothing is refused does not say that a session is
not sound. -/
lemma Error.isUnsound_of_isInternal {e : Error} (h : e.isInternal) : e.isUnsound = false := by
  cases e with
  | store _ => cases h
  | route _ => cases h
  | session cause => exact (Bool.not_eq_true' _).mp h
  | _ => rfl

/-- A session that is to be created can be stored. -/
def Call.Storable : Call → Prop
  | .create s _ => s.Storable
  | _ => True

/-- The session that a call is to create, and the input that it answers first. -/
def Call.Creates : Call → Session → Session.Input → Prop
  | .create s action, s', input => s' = s ∧ input = .act action
  | _, _, _ => False

/-- The session that a call creates can be stored if the call says so. -/
lemma Call.Storable.of_creates {c : Call} (hc : c.Storable) {s : Session} {input : Session.Input}
    (h : c.Creates s input) : s.Storable := by
  cases c with
  | create s' action =>
    rw [h.1]
    exact hc
  | _ => exact h.elim

/-- Makes a call. -/
def call (r : Relay) (c : Call) : Except Error Session × Relay := outcome c.toRelaying r

end Relay

/-- Sessions by identifier. -/
abbrev Registry : Type := OrderedMap SessionId Session

/-- What a call comes to when nothing is refused. -/
structure Outcome (α : Type) where
  /-- The result. -/
  result : Except Relay.Error α
  /-- The sessions after it. -/
  sessions : Registry
  /-- Messages to send, in order. -/
  envelopes : List Envelope
  /-- Events to publish, in order. -/
  events : List Event

/-- The outcome with another result. -/
def Outcome.map {α β : Type} (f : α → β) (o : Outcome α) : Outcome β :=
  ⟨o.result.map f, o.sessions, o.envelopes, o.events⟩

namespace Registry

/-- The registry without sessions. -/
abbrev empty : Registry := OrderedMap.empty

/-- Every session, in the order of the identifiers. -/
def values (m : Registry) : List Session := m.toList.map Prod.snd

/-! ### Calls on a registry -/

/-- A call that stops with an error changes nothing. -/
def refuse {α : Type} (m : Registry) (e : Relay.Error) : Outcome α := ⟨.error e, m, [], []⟩

/-- The registry after an answer: the session is kept or dropped. -/
def settle (m : Registry) (config : Relay.Config) (id : SessionId) (update : Update) : Registry :=
  if config.drops update then m.erase id else m.insert id update.session

/-- Carries out the answer of a session. -/
def carryOut (m : Registry) (config : Relay.Config) (id : SessionId) :
    Except Session.Error Update → Outcome Session
  | .error e => m.refuse (.session e)
  | .ok update =>
    ⟨.ok update.session, m.settle config id update, update.envelopes, update.events⟩

/-- Creates a session, unless there is one with its identifier. -/
def create (m : Registry) (config : Relay.Config) (s : Session) (action : Session.LocalAction) :
    Outcome Session :=
  match m.get? s.id with
  | some _ => m.refuse (.duplicateSession s.id)
  | none => m.carryOut config s.id (s.perform action)

/-- Gives an input to a session. -/
def give (m : Registry) (config : Relay.Config) (id : SessionId) (input : Session.Input) :
    Outcome Session :=
  match m.get? id with
  | none => m.refuse (.unknownSession id)
  | some s => m.carryOut config id (s.answer input)

/-- Gives an input to the session that a message names. -/
def giveNamed (m : Registry) (config : Relay.Config) (message : Dictionary)
    (input : Session.Input) : Outcome Session :=
  match Relay.sessionOf message with
  | .error e => m.refuse (.wire e)
  | .ok id => m.give config id input

/-- What a call comes to. -/
def serve (m : Registry) (config : Relay.Config) : Relay.Call → Outcome Session
  | .create s action => m.create config s action
  | .perform id action => m.give config id (.act action)
  | .receive message => m.giveNamed config message (.message message)
  | .receiveBytes bytes =>
    match Dictionary.decode bytes config.maxMessageSize with
    | .error e => m.refuse (.wire e)
    | .ok message => m.giveNamed config message (.message message)
  | .delivered message => m.giveNamed config message (.delivered message)

/-! ### The encoded form of a registry -/

/-- The archive with the encoded form of every session. -/
def archive (m : Registry) : Archive := m.map fun s => s.toDictionary.encode

/-- Every session is kept under its identifier, and can be stored. -/
def Sound (m : Registry) : Prop := ∀ id s, m.get? id = some s → s.id = id ∧ s.Storable

variable {m : Registry} {id : SessionId} {s : Session}

lemma archive_insert (m : Registry) (id : SessionId) (s : Session) :
    Registry.archive (m.insert id s) = m.archive.write id s.toDictionary := by
  refine Ascending.ext fun id' => ?_
  rw [archive, Ascending.get?_map, OrderedMap.get?_insert, Archive.write, OrderedMap.get?_insert,
    archive, Ascending.get?_map]
  split_ifs <;> rfl

lemma archive_erase (m : Registry) (id : SessionId) :
    Registry.archive (m.erase id) = m.archive.delete id := by
  refine Ascending.ext fun id' => ?_
  rw [archive, Ascending.get?_map, Ascending.get?_erase, Archive.delete, Ascending.get?_erase,
    archive, Ascending.get?_map]
  split_ifs <;> rfl

/-- The sessions that are listed are those of the registry. -/
@[simp] lemma keys_archive (m : Registry) : m.archive.keys = m.keys := Ascending.keys_map _ m

/-- A session of a sound registry is read from its encoded form. -/
lemma Sound.read_archive (hm : m.Sound) (id : SessionId) :
    m.archive.read id = .ok ((m.get? id).map Session.toDictionary) := by
  unfold Archive.read archive
  rw [Ascending.get?_map]
  cases hget : m.get? id with
  | none => rfl
  | some s =>
    have hdecode := Session.decode_encode_toDictionary (hm id s hget).2
    simp only [Option.map_some, hdecode]
    rfl

/-- The encoded form of a sound registry can be put back. -/
lemma Sound.faithful_archive (hm : m.Sound) : m.archive.Faithful := by
  intro id bytes hget
  unfold archive at hget
  rw [Ascending.get?_map, Option.map_eq_some_iff] at hget
  obtain ⟨s, hs, rfl⟩ := hget
  exact ⟨_, Session.decode_encode_toDictionary (hm id s hs).2, rfl⟩

/-- A registry without sessions is sound. -/
lemma sound_empty : empty.Sound := by
  intro id s hget
  cases hget

/-! ### What calls can come to -/

/-- The registry with a session kept under its identifier, or dropped if it was given up and such
sessions are not kept. -/
def keep (m : Registry) (config : Relay.Config) (s : Session) : Registry :=
  if config.retention = .dropAborted ∧ s.isAborted then m.erase s.id else m.insert s.id s

/-- What stands in the registry once a session is kept or dropped. -/
lemma get?_keep (m : Registry) (config : Relay.Config) (s : Session) (id : SessionId) :
    (m.keep config s).get? id =
      if id = s.id then
        if config.retention = .dropAborted ∧ s.isAborted then none else some s
      else m.get? id := by
  unfold keep
  split_ifs with hdrops hid hid
  · rw [Ascending.get?_erase, if_pos hid]
  · rw [Ascending.get?_erase, if_neg hid]
  · rw [OrderedMap.get?_insert, if_pos hid]
  · rw [OrderedMap.get?_insert, if_neg hid]

/-- An answer keeps or drops the session that it leaves. -/
lemma carryOut_ok {input : Session.Input} {update : Update}
    (h : s.CarriesOut input update) (config : Relay.Config) :
    m.carryOut config s.id (.ok update) =
      ⟨.ok update.session, m.keep config update.session, update.envelopes, update.events⟩ := by
  have hsettle : m.settle config s.id update = m.keep config update.session := by
    unfold settle keep Relay.Config.drops
    rw [h.stays, h.step.id_eq]
    simp
  exact congrArg (Outcome.mk _ · _ _) hsettle

/-- What a call can come to on a registry, where `fresh s input x` says which sessions can be
created, by which input and with which result. -/
inductive Serves {α : Type} (m : Registry) (config : Relay.Config)
    (fresh : Session → Session.Input → α → Prop) : Outcome α → Prop
  /-- It stops with an error, although nothing is refused. -/
  | refuse (e : Relay.Error) (he : e.isInternal) : Serves m config fresh (m.refuse e)
  /-- A stored session takes a step. -/
  | stored {s t : Session} {input : Session.Input} {envelopes : List Envelope} {events : List Event}
      {x : α} (hget : m.get? s.id = some s) (hstep : Session.Step s input t envelopes events) :
      Serves m config fresh ⟨.ok x, m.keep config t, envelopes, events⟩
  /-- A session that is not stored takes its first step. -/
  | created {s t : Session} {input : Session.Input} {envelopes : List Envelope}
      {events : List Event} {x : α} (hget : m.get? s.id = none) (hfresh : fresh s input x)
      (hstep : Session.Step s input t envelopes events) :
      Serves m config fresh ⟨.ok x, m.keep config t, envelopes, events⟩

/-- What a call can come to, with another result. -/
lemma Serves.map {α β : Type} {config : Relay.Config} {fresh : Session → Session.Input → α → Prop}
    {fresh' : Session → Session.Input → β → Prop} {o : Outcome α} (h : m.Serves config fresh o)
    (f : α → β) (hfresh : ∀ s input x, fresh s input x → fresh' s input (f x)) :
    m.Serves config fresh' (o.map f) := by
  cases h with
  | refuse e he => exact .refuse e he
  | stored hget hstep => exact .stored hget hstep
  | created hget hnew hstep => exact .created hget (hfresh _ _ _ hnew) hstep

variable {config : Relay.Config} {fresh : Session → Session.Input → Session → Prop}

/-- Giving an input to a session comes to an error or to a step of the session. -/
lemma Sound.serves_give (hm : m.Sound) (id : SessionId) (input : Session.Input) :
    m.Serves config fresh (m.give config id input) := by
  unfold Registry.give
  cases hget : m.get? id with
  | none => exact .refuse _ rfl
  | some s =>
    obtain ⟨rfl, -⟩ := hm id s hget
    obtain ⟨update, hanswer, hcarries⟩ := s.answer_step input
    dsimp only
    rw [hanswer, carryOut_ok hcarries]
    exact .stored hget hcarries.step

/-- Giving an input to the session that a message names comes to an error or to a step. -/
lemma Sound.serves_giveNamed (hm : m.Sound) (message : Dictionary) (input : Session.Input) :
    m.Serves config fresh (m.giveNamed config message input) := by
  unfold Registry.giveNamed
  cases Relay.sessionOf message with
  | error e => exact .refuse _ rfl
  | ok id => exact hm.serves_give id input

/-- Creating a session comes to an error or to its first step. -/
lemma serves_create {action : Session.LocalAction} (hfresh : ∀ x, fresh s (.act action) x) :
    m.Serves config fresh (m.create config s action) := by
  unfold Registry.create
  cases hget : m.get? s.id with
  | some t => exact .refuse _ rfl
  | none =>
    obtain ⟨update, hanswer, hcarries⟩ := s.answer_step (.act action)
    dsimp only
    rw [show s.perform action = .ok update from hanswer, carryOut_ok hcarries]
    exact .created hget (hfresh _) hcarries.step

/-- A call comes to an error or to a step of a session. -/
theorem Sound.serves (hm : m.Sound) (c : Relay.Call) :
    m.Serves config (fun s input _ => c.Creates s input) (m.serve config c) := by
  cases c with
  | create s action => exact serves_create fun _ => ⟨rfl, rfl⟩
  | perform id action => exact hm.serves_give id (.act action)
  | receive message => exact hm.serves_giveNamed message _
  | delivered message => exact hm.serves_giveNamed message _
  | receiveBytes bytes =>
    unfold serve
    dsimp only
    split
    · exact .refuse _ rfl
    · exact hm.serves_giveNamed _ _

/-- A registry stays sound when a session is kept or dropped. -/
lemma Sound.keep (hm : m.Sound) (hs : s.Storable) : (m.keep config s).Sound := by
  intro id t hget
  rw [get?_keep] at hget
  split_ifs at hget with hid
  · cases hget
    exact ⟨hid.symm, hs⟩
  · exact hm id t hget

/-- A registry stays sound over a call that creates storable sessions only. -/
theorem Serves.sound {α : Type} {fresh : Session → Session.Input → α → Prop} {o : Outcome α}
    (h : m.Serves config fresh o) (hm : m.Sound)
    (hfresh : ∀ s input x, fresh s input x → s.Storable) : o.sessions.Sound := by
  cases h with
  | refuse e he => exact hm
  | stored hget hstep => exact hm.keep (hstep.storable (hm _ _ hget).2)
  | created hget hnew hstep => exact hm.keep (hstep.storable (hfresh _ _ _ hnew))

/-- The error of a call that is not disturbed is one that it can stop with although nothing is
refused. -/
lemma Serves.isInternal {α : Type} {fresh : Session → Session.Input → α → Prop} {o : Outcome α}
    (h : m.Serves config fresh o) {e : Relay.Error} (he : o.result = .error e) : e.isInternal := by
  cases h with
  | refuse e' he' =>
    cases he
    exact he'
  | stored => cases he
  | created => cases he

end Registry

/-! ### Calls of a relay that stores a registry -/

namespace Relay

open Registry

variable {α : Type} {faults : Faults} {l : Ledger} {m : Registry} {id : SessionId}

/-- The ledger after a call. -/
def Ledger.enter (l : Ledger) (o : Outcome α) : Ledger :=
  ⟨l.config, Registry.archive o.sessions, l.sent ++ o.envelopes, l.events ++ o.events⟩

/-- A call that stops with an error leaves the ledger as it is. -/
lemma Ledger.enter_refuse (hl : l.archive = m.archive) (e : Error) :
    l.enter (m.refuse e : Outcome α) = l := by
  unfold enter Registry.refuse
  rw [← hl, List.append_nil, List.append_nil]

/-- What a call comes to under faults, given what it comes to when nothing is refused. -/
abbrev ComesTo (faults : Faults) (l : Ledger) (o : Outcome α) : Except Error α → Ledger → Prop :=
  Disturbed faults l (l.enter o) o.result

/-- A call that stops with an error. -/
lemma comesTo_refuse (hl : l.archive = m.archive) (e : Error) :
    ComesTo faults l (m.refuse e : Outcome α) (.error e) l := by
  have hdone : ComesTo faults l (m.refuse e : Outcome α) (.error e)
      (l.enter (m.refuse e : Outcome α)) := .done
  rwa [l.enter_refuse hl] at hdone

/-- Carrying out the answer of a session. -/
lemma leads_carryOut (hm : m.Sound) (hl : l.archive = m.archive) (s : Session)
    (input : Session.Input) :
    Leads (do apply id (← answer (s.answer input))) faults l
      (ComesTo faults l (m.carryOut l.config id (s.answer input))) := by
  obtain ⟨update, hanswer, -⟩ := s.answer_step input
  rw [hanswer]
  refine (leads_answer update).then ?_
  have hsettle : l.enter (m.carryOut l.config id (.ok update)) = l.settle id update := by
    unfold Ledger.enter Registry.carryOut Registry.settle Ledger.settle
    dsimp only
    split_ifs
    · rw [archive_erase, hl]
    · rw [archive_insert, hl]
  have hfaithful : l.archive.Faithful := by
    rw [hl]
    exact hm.faithful_archive
  have happly : Leads _ faults l _ := leads_apply hfaithful id update
  rwa [← hsettle] at happly

/-- Looking a session up. -/
lemma tries_session? (hm : m.Sound) (hl : l.archive = m.archive) (id : SessionId) :
    Tries (session? id) faults l (m.get? id) l := by
  have hread : l.archive.read id = .ok ((m.get? id).map Session.toDictionary) := by
    rw [hl, hm.read_archive]
  refine (tries_read hread).bind ?_
  cases m.get? id with
  | none => exact tries_pure none
  | some s =>
    simp only [Option.map_some, Session.ofDictionary_toDictionary]
    exact tries_pure (some s)

/-- Looking sessions up, one after the other. -/
lemma tries_sessionsOf (hm : m.Sound) (hl : l.archive = m.archive) (ids : List SessionId) :
    Tries (sessionsOf ids) faults l (ids.filterMap (m.get? ·)) l := by
  induction ids with
  | nil => exact tries_pure []
  | cons id ids ih =>
    have hcons : (id :: ids).filterMap (m.get? ·) =
        (m.get? id).toList ++ ids.filterMap (m.get? ·) := by
      cases hget : m.get? id <;> simp [hget]
    rw [hcons]
    exact (tries_session? hm hl id).bind (ih.bind (tries_pure _))

/-- Looking every session up. -/
lemma tries_sessions (hm : m.Sound) (hl : l.archive = m.archive) :
    Tries sessions faults l m.values l := by
  have hlist : Tries (onStore (·.list)) faults l l.archive.keys l := tries_list
  rw [hl, keys_archive] at hlist
  have hvalues : Tries _ faults l _ l := tries_sessionsOf hm hl m.keys
  rw [Ascending.filterMap_get?_keys] at hvalues
  exact hlist.bind hvalues

/-- Loading a session that has to be stored. -/
lemma leads_load (hm : m.Sound) (hl : l.archive = m.archive) (id : SessionId) :
    Leads (load id) faults l fun y l₁ => l₁ = l ∧
      ((∃ s, m.get? id = some s ∧ y = .ok s) ∨
        (m.get? id = none ∧ y = .error (.unknownSession id)) ∨
          (faults.HitStore ∧ ∃ e, y = .error (.store e))) := by
  refine (tries_session? hm hl id).then ?_ fun hstore e => ⟨rfl, .inr (.inr ⟨hstore, e, rfl⟩)⟩
  cases hget : m.get? id with
  | none => exact (leads_tell _).then (leads_throw ⟨rfl, .inr (.inl ⟨rfl, rfl⟩)⟩)
  | some s => exact leads_pure ⟨rfl, .inl ⟨s, rfl, rfl⟩⟩

/-- Giving an input to a stored session. -/
lemma leads_give (hm : m.Sound) (hl : l.archive = m.archive) (id : SessionId)
    (input : Session.Input) :
    Leads (give id input) faults l (ComesTo faults l (m.give l.config id input)) := by
  refine (leads_load hm hl id).bind (fun s l₁ hs => ?_) fun e l₁ he => ?_
  · obtain ⟨rfl, ⟨s', hget, hok⟩ | ⟨-, herror⟩ | ⟨-, e, herror⟩⟩ := hs
    · cases hok
      rw [Registry.give, hget]
      exact leads_carryOut hm hl s input
    · cases herror
    · cases herror
  · obtain ⟨rfl, ⟨s', hget, hok⟩ | ⟨hget, herror⟩ | ⟨hstore, e', herror⟩⟩ := he
    · cases hok
    · cases herror
      rw [Registry.give, hget]
      exact comesTo_refuse hl _
    · cases herror
      exact .refused hstore e'

/-- Giving an input to the session that a message names. -/
lemma leads_giveNamed (hm : m.Sound) (hl : l.archive = m.archive) (message : Dictionary)
    (input : Session.Input) :
    Leads (do give (← ofWire (sessionOf message)) input) faults l
      (ComesTo faults l (m.giveNamed l.config message input)) := by
  unfold Registry.giveNamed
  cases sessionOf message with
  | error e => exact leads_throw (comesTo_refuse hl _)
  | ok id => exact leads_give hm hl id input

/-- Creating a session. -/
lemma leads_create (hm : m.Sound) (hl : l.archive = m.archive) (s : Session)
    (action : Session.LocalAction) :
    Leads (create s action) faults l (ComesTo faults l (m.create l.config s action)) := by
  have hread : l.archive.read s.id = .ok ((m.get? s.id).map Session.toDictionary) := by
    rw [hl, hm.read_archive]
  refine (tries_read hread).then ?_ fun hstore e => .refused hstore e
  unfold Registry.create
  cases m.get? s.id with
  | none => exact (leads_tell _).then (leads_carryOut hm hl s (.act action))
  | some t => exact leads_throw (comesTo_refuse hl _)

/-- A call of a relay that stores a registry comes to what it comes to on the registry, unless it is
disturbed. -/
theorem leads_call (hm : m.Sound) (hl : l.archive = m.archive) (c : Call) :
    Leads c.toRelaying faults l (ComesTo faults l (m.serve l.config c)) := by
  cases c with
  | create s action => exact leads_create hm hl s action
  | perform id action => exact leads_give hm hl id (.act action)
  | receive message => exact leads_giveNamed hm hl message (.message message)
  | delivered message => exact leads_giveNamed hm hl message (.delivered message)
  | receiveBytes bytes =>
    refine leads_get fun r hr => ?_
    rw [hr.config_eq]
    unfold Registry.serve
    dsimp only
    cases Dictionary.decode bytes l.config.maxMessageSize with
    | error e => exact leads_throw (comesTo_refuse hl _)
    | ok message => exact leads_giveNamed hm hl message (.message message)

end Relay

end Introduction
