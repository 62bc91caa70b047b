import Introduction.Proofs.Relay.Faults
import Introduction.Proofs.Session.Run
import Introduction.Proofs.Session.Storage

/-!
# Reliable relays

What the calls of a relay do when its store and its transport refuse nothing.  `Yields call l x l'`
says that on every reliable relay with the ledger `l` the call succeeds with `x` and leaves the
ledger `l'`.  A reliable relay is one under no faults (`shows_iff`), so what a call yields follows
from what it comes to under faults.  Calls in sequence compose (`Yields.bind`).

A session that is held by the archive is read back by every call that names it, and answers an input
by a step (`yields_give`).
-/

namespace Introduction

/-! ### Stored sessions -/

/-- A session stays storable over a step. -/
lemma Session.Step.storable {s t : Session} {input : Session.Input} {envelopes : List Envelope}
    {events : List Event} (h : Session.Step s input t envelopes events) (hs : s.Storable) :
    t.Storable := by
  intro side
  rw [h.contact_eq]
  exact hs side

namespace Archive

/-- What is stored for a session is read back if it can be decoded. -/
lemma read_write (a : Archive) {id : SessionId} {d : Dictionary}
    (h : Dictionary.decode d.encode d.encode.length = .ok d) :
    (write a id d).read id = .ok (some d) := by
  unfold read write
  rw [OrderedMap.get?_insert, if_pos rfl]
  simp only [h]
  rfl

/-- An archive holds a session under its identifier. -/
def Holds (a : Archive) (s : Session) : Prop := a.read s.id = .ok (some s.toDictionary)

/-- A session is held once it is stored. -/
theorem holds_write (a : Archive) {s : Session} (h : s.Storable) :
    (write a s.id s.toDictionary).Holds s :=
  a.read_write (Session.decode_encode_toDictionary h)

end Archive

namespace Relay

/-- Nothing is refused to a relay, its answers are carried out as they are, and it has a ledger. -/
structure Shows (r : Relay) (l : Ledger) : Prop where
  store : ∀ operation number, r.store.refuses operation number = false
  ghosts : r.store.ghosts = []
  transport : ∀ number, r.outbox.refuses number = false
  amend : ∀ number update, r.amend number update = update
  config_eq : r.config = l.config
  archive_eq : r.store.archive = l.archive
  sent_eq : r.outbox.sent = l.sent
  events_eq : r.events = l.events

/-- A call succeeds with a value on every reliable relay with a ledger, and leaves another
ledger. -/
def Yields {α : Type} (call : Relaying α) (l : Ledger) (x : α) (l' : Ledger) : Prop :=
  ∀ r : Relay, r.Shows l → ∃ r', call r = .ok x r' ∧ r'.Shows l'

variable {α β : Type} {id : SessionId} {s : Session} {l l' l'' : Ledger}

/-- Calls in sequence yield what they yield one after the other. -/
lemma Yields.bind {call : Relaying α} {f : α → Relaying β} {x : α} {y : β}
    (h : Yields call l x l') (hf : Yields (f x) l' y l'') : Yields (call >>= f) l y l'' := by
  intro r hr
  obtain ⟨r₁, hcall, hr₁⟩ := h r hr
  obtain ⟨r₂, hrest, hr₂⟩ := hf r₁ hr₁
  refine ⟨r₂, ?_, hr₂⟩
  show EStateM.bind call f r = _
  rw [EStateM.bind, hcall]
  exact hrest

/-! ### Where nothing is refused -/

/-- To be refused nothing is to be under no faults. -/
lemma shows_iff {r : Relay} : r.Shows l ↔ r.Bears .none l := by
  constructor
  · intro h
    exact { h with
      store_eq := funext fun operation => funext (h.store operation)
      transport_eq := funext h.transport }
  · intro h
    exact { h with
      store := fun operation number => congrFun (congrFun h.store_eq operation) number
      transport := congrFun h.transport_eq }

/-- A call that always ends in the same way without faults yields what it ends in. -/
lemma Leads.yields {call : Relaying α} {x : α}
    (h : Leads call .none l fun y l₁ => y = .ok x ∧ l₁ = l') : Yields call l x l' := by
  intro r hr
  obtain ⟨l₁, hr', hx, rfl⟩ := h r (shows_iff.mp hr)
  rw [← shows_iff] at hr'
  unfold outcome at hx hr'
  cases hcall : call r with
  | ok y r' =>
    rw [hcall] at hx hr'
    cases hx
    exact ⟨r', rfl, hr'⟩
  | error e r' =>
    rw [hcall] at hx
    cases hx

/-- A call that only the store could refuse yields what it is to do. -/
lemma Tries.yields {call : Relaying α} {x : α} (h : Tries call .none l x l') :
    Yields call l x l' :=
  Leads.yields (h.imp fun _ _ hy => hy.resolve_right fun hrefused =>
    Faults.not_hitStore _ hrefused.1)

/-- A returned value. -/
lemma yields_pure (x : α) : Yields (pure x) l x l := (tries_pure x).yields

/-- Telling the operator something. -/
lemma yields_tell (n : Notice) : Yields (tell n) l () l := (leads_tell n).yields

/-- Reading from the store. -/
lemma yields_read {d : Option Dictionary} (h : l.archive.read id = .ok d) :
    Yields (onStore (·.get id)) l d l :=
  (tries_read h).yields

/-- Listing what is stored. -/
lemma yields_list : Yields (onStore (·.list)) l l.archive.keys l := tries_list.yields

/-- Giving an input to a session. -/
lemma yields_answer (update : Update) : Yields (answer (.ok update)) l update l :=
  (leads_answer update).yields

/-! ### Calls -/

/-- Carrying out an answer. -/
theorem yields_apply {previous : Option Dictionary} (hread : l.archive.read id = .ok previous)
    (update : Update) : Yields (apply id update) l update.session (l.settle id update) := by
  refine Leads.yields ((leads_carried hread update).imp fun x l₁ ⟨a, ha, hallow, hl₁⟩ => ?_)
  subst hl₁
  cases ha with
  | done => exact ⟨rfl, rfl⟩
  | refused operation e =>
    exact absurd (hallow.store operation (Account.failed_fail_self _ _)) (Faults.not_hitStore _)
  | restored => exact absurd (hallow.transport rfl) Faults.not_hitTransport_none
  | stuck => exact absurd (hallow.transport rfl) Faults.not_hitTransport_none

/-- Looking a session up. -/
lemma yields_session? (h : l.archive.Holds s) : Yields (session? s.id) l (some s) l := by
  refine (yields_read h).bind ?_
  simp only [Session.ofDictionary_toDictionary]
  exact yields_pure _

/-- Loading a session. -/
lemma yields_load (h : l.archive.Holds s) : Yields (load s.id) l s l :=
  (yields_session? h).bind (yields_pure s)

/-- Gives an input to the session stored under an identifier. -/
def give (id : SessionId) (input : Session.Input) : Relaying Session := do
  let s ← load id
  apply id (← answer (s.answer input))

/-- A message is given to the session that it names. -/
lemma receive_eq_give {d : Dictionary} (h : d.getId Key.session = .ok id) :
    receive d = give id (.message d) := by
  unfold receive
  rw [sessionOf, h]
  rfl

/-- The news of a delivery is given to the session that the message names. -/
lemma delivered_eq_give {d : Dictionary} (h : d.getId Key.session = .ok id) :
    delivered d = give id (.delivered d) := by
  unfold delivered
  rw [sessionOf, h]
  rfl

/-- Over an input to a stored session the archive holds the session after a step, the messages of
the step are handed over and its events are published. -/
theorem yields_give (hkeep : l.config.retention = .keepAll) (h : l.archive.Holds s)
    (input : Session.Input) :
    ∃ t envelopes events, Session.Step s input t envelopes events ∧
      Yields (give s.id input) l t
        ⟨l.config, l.archive.write t.id t.toDictionary, l.sent ++ envelopes,
          l.events ++ events⟩ := by
  obtain ⟨u, hu, hstep, hstays⟩ := s.answer_step input
  have hdrops : l.config.drops u = false := by
    simp [Config.drops, hstays, hkeep]
  refine ⟨_, _, _, hstep, (yields_load h).bind ?_⟩
  have happly := yields_apply h u
  rw [Ledger.settle, hdrops, ← hstep.id_eq] at happly
  rw [hu]
  rw [← hstep.id_eq]
  exact (yields_answer u).bind happly

/-! ### Starting introductions -/

/-- Where nothing is stored, any two contacts can be introduced. -/
lemma yields_ensureFree (h : l.archive = Archive.empty) (first second : Contact) :
    Yields (ensureFree first second) l () l := by
  have hsessions : Yields sessions l [] l := by
    have hlist := yields_list (l := l)
    rw [h] at hlist
    exact hlist.bind (yields_pure [])
  have hlive : Yields (liveSessionFor first.channel second.channel) l none l :=
    hsessions.bind (yields_pure none)
  exact hlive.bind (yields_pure ())

/-- A session starts under an identifier that nothing is stored for. -/
theorem yields_introduceAs {first second : Contact} (h : l.archive.read id = .ok none)
    (hstart : Session.start id first second = .ok s) (hid : s.id = id)
    (publicKey₁ publicKey₂ : Bytes) (note : Option String) :
    Yields (introduceAs id first second publicKey₁ publicKey₂ note) l id
      (l.settle id (s.sendRequests publicKey₁ publicKey₂ note)) := by
  have hcreate : Yields (create s (.request publicKey₁ publicKey₂ note)) l
      (s.sendRequests publicKey₁ publicKey₂ note).session
      (l.settle id (s.sendRequests publicKey₁ publicKey₂ note)) := by
    subst hid
    exact (yields_read h).bind ((yields_tell _).bind ((yields_answer _).bind (yields_apply h _)))
  refine (yields_tell _).bind ?_
  rw [hstart]
  exact hcreate.bind (yields_pure id)

end Relay

end Introduction
