import Introduction.Proofs.Relay.Accounts

/-!
# Relays under faults

What the calls of a relay come to when operations of its store and attempts of its transport are
refused in an arbitrary pattern (`Faults`).  `Leads call faults l P` says that on every relay with
the ledger `l` under these faults the call ends in a result and a ledger that satisfy `P`.  A ledger
is an account that forgets what was refused, so what a call comes to on an account it comes to under
every pattern of faults that allows what the account says was refused (`Moves.leads`).

The main statement is `leads_apply`: an answer that is carried out can be disturbed at four places
only (`Disturbed`), and a store that held faithful octets holds the very same ones after it got them
back.
-/

namespace Introduction

namespace Relay

/-! ### Faults -/

/-- Which operations of its store and which attempts of its transport a relay is refused. -/
structure Faults where
  /-- Refused operations of the store, by sort and number. -/
  store : Operation → ℕ → Bool
  /-- Refused attempts of the transport, by number. -/
  transport : ℕ → Bool

namespace Faults

/-- Some operation of the store is refused. -/
def HitStore (faults : Faults) : Prop := ∃ operation number, faults.store operation number = true

/-- Some attempt of the transport is refused. -/
def HitTransport (faults : Faults) : Prop := ∃ number, faults.transport number = true

/-- Only attempts of the transport are refused. -/
def ofTransport (refuses : ℕ → Bool) : Faults := ⟨fun _ _ => false, refuses⟩

/-- Nothing is refused. -/
def none : Faults := .ofTransport fun _ => false

lemma not_hitStore (refuses : ℕ → Bool) : ¬ (ofTransport refuses).HitStore := by
  rintro ⟨operation, number, h⟩
  cases h

lemma not_hitTransport_none : ¬ none.HitTransport := by
  rintro ⟨number, h⟩
  cases h

end Faults

/-! ### Ledgers -/

/-- What matters of a relay besides what it is refused. -/
structure Ledger where
  /-- How the relay is set up. -/
  config : Config
  /-- What is stored. -/
  archive : Archive
  /-- The messages that were handed over. -/
  sent : List Envelope
  /-- The events that were published. -/
  events : List Event

/-- The ledger after an answer was carried out. -/
def Ledger.settle (l : Ledger) (id : SessionId) (update : Update) : Ledger where
  config := l.config
  archive :=
    if l.config.drops update then l.archive.delete id
    else l.archive.write id update.session.toDictionary
  sent := l.sent ++ update.envelopes
  events := l.events ++ update.events

/-- A relay is under faults, carries answers out as they are, and has a ledger. -/
structure Bears (r : Relay) (faults : Faults) (l : Ledger) : Prop where
  store_eq : r.store.refuses = faults.store
  transport_eq : r.outbox.refuses = faults.transport
  ghosts : r.store.ghosts = []
  amend : ∀ number update, r.amend number update = update
  config_eq : r.config = l.config
  archive_eq : r.store.archive = l.archive
  sent_eq : r.outbox.sent = l.sent
  events_eq : r.events = l.events

variable {α β : Type} {faults : Faults} {id : SessionId} {l l' : Ledger}

/-- On every relay with a ledger under the faults a call ends in a result and a ledger that satisfy
a condition. -/
def Leads (call : Relaying α) (faults : Faults) (l : Ledger)
    (P : Except Error α → Ledger → Prop) : Prop :=
  ∀ r : Relay, r.Bears faults l →
    ∃ l', (outcome call r).2.Bears faults l' ∧ P (outcome call r).1 l'

/-- The stages of a call are its ledgers, where it leads from one to another. -/
lemma leads_eq_moves {call : Relaying α} {P : Except Error α → Ledger → Prop} :
    Leads call faults l P = Moves (fun l r => r.Bears faults l) call l P :=
  rfl

/-- A condition can be weakened. -/
lemma Leads.imp {call : Relaying α} {P Q : Except Error α → Ledger → Prop}
    (h : Leads call faults l P) (hPQ : ∀ x l', P x l' → Q x l') : Leads call faults l Q := by
  rw [leads_eq_moves] at h
  exact h.imp hPQ

/-- Calls in sequence: the second is made if the first succeeds. -/
lemma Leads.bind {call : Relaying α} {f : α → Relaying β} {P : Except Error α → Ledger → Prop}
    {Q : Except Error β → Ledger → Prop} (h : Leads call faults l P)
    (hok : ∀ x l', P (.ok x) l' → Leads (f x) faults l' Q)
    (herror : ∀ e l', P (.error e) l' → Q (.error e) l') : Leads (call >>= f) faults l Q := by
  rw [leads_eq_moves] at h
  exact h.bind hok herror

/-- A call that always succeeds in the same way is followed by the rest. -/
lemma Leads.then {call : Relaying α} {f : α → Relaying β} {x : α}
    {Q : Except Error β → Ledger → Prop}
    (h : Leads call faults l fun y l₁ => y = .ok x ∧ l₁ = l')
    (hrest : Leads (f x) faults l' Q) : Leads (call >>= f) faults l Q := by
  rw [leads_eq_moves] at h
  exact h.then hrest

/-- A call is carried out, or refused by the store and nothing changes. -/
def Tries (call : Relaying α) (faults : Faults) (l : Ledger) (x : α) (l' : Ledger) : Prop :=
  Leads call faults l fun y l₁ =>
    (y = .ok x ∧ l₁ = l') ∨ (faults.HitStore ∧ l₁ = l ∧ ∃ e, y = .error (.store e))

/-- A call that may be refused by the store is followed by the rest. -/
lemma Tries.then {call : Relaying α} {f : α → Relaying β} {x : α}
    {Q : Except Error β → Ledger → Prop} (h : Tries call faults l x l')
    (hrest : Leads (f x) faults l' Q) (hrefused : faults.HitStore → ∀ e, Q (.error (.store e)) l) :
    Leads (call >>= f) faults l Q := by
  refine h.bind (fun y l₁ hy => ?_) (fun e l₁ he => ?_)
  · rcases hy with ⟨hx, rfl⟩ | ⟨-, -, e, he⟩
    · cases hx
      exact hrest
    · cases he
  · rcases he with ⟨hx, -⟩ | ⟨hhit, rfl, e', he'⟩
    · cases hx
    · cases he'
      exact hrefused hhit e'

/-- Calls that may be refused by the store, in sequence, while nothing changes. -/
lemma Tries.bind {call : Relaying α} {f : α → Relaying β} {x : α} {y : β}
    (h : Tries call faults l x l) (hf : Tries (f x) faults l y l) :
    Tries (call >>= f) faults l y l :=
  h.then hf fun hhit e => .inr ⟨hhit, rfl, e, rfl⟩

/-! ### Accounts under faults -/

/-- The account of a call that was refused nothing so far. -/
def Ledger.account (l : Ledger) : Account where
  archive := l.archive
  sent := l.sent
  events := l.events

/-- What an account says besides what was refused. -/
def Account.ledger (a : Account) (config : Config) : Ledger :=
  ⟨config, a.archive, a.sent, a.events⟩

/-- What an account says was refused is refused by the faults. -/
structure Faults.Allow (faults : Faults) (a : Account) : Prop where
  store : ∀ operation, a.failed operation = true → faults.HitStore
  transport : a.routeFailed = true → faults.HitTransport

/-- A relay with a ledger has its account. -/
lemma Bears.account_eq {r : Relay} (h : r.Bears faults l) : r.account = l.account := by
  rw [account, h.archive_eq, h.sent_eq, h.events_eq]
  rfl

/-- What a relay under faults is refused during a call is refused by the faults. -/
lemma Bears.allow {r r' : Relay} {a : Account} (h : r.Bears faults l) (hstands : r.Stands a r') :
    faults.Allow a where
  store operation hfailed := by
    obtain ⟨number, -, -, hrefused⟩ := (hstands.failed_iff operation).mp hfailed
    rw [h.store_eq] at hrefused
    exact ⟨operation, number, hrefused⟩
  transport hfailed := by
    obtain ⟨number, -, -, hrefused⟩ := hstands.routeFailed_iff.mp hfailed
    rw [h.transport_eq] at hrefused
    exact ⟨number, hrefused⟩

/-- After a call a relay under faults has the ledger of its account. -/
lemma Bears.ledger {r r' : Relay} {a : Account} (h : r.Bears faults l) (hstands : r.Stands a r') :
    r'.Bears faults (a.ledger l.config) where
  store_eq := hstands.refuses_eq.trans h.store_eq
  transport_eq := hstands.transport_eq.trans h.transport_eq
  ghosts := hstands.ghosts_eq.trans h.ghosts
  amend := by
    rw [hstands.amend_eq]
    exact h.amend
  config_eq := hstands.config_eq.trans h.config_eq
  archive_eq := hstands.archive_eq
  sent_eq := hstands.sent_eq
  events_eq := hstands.events_eq

/-- What a call comes to on an account, it comes to under all faults. -/
lemma Moves.leads {call : Relaying α} {P : Except Error α → Account → Prop}
    (h : ∀ r : Relay, r.Bears faults l → Moves r.Stands call l.account P) :
    Leads call faults l fun x l' => ∃ a, P x a ∧ faults.Allow a ∧ l' = a.ledger l.config := by
  intro r hr
  have hstart : r.Stands l.account r := by
    rw [← hr.account_eq]
    exact r.stands_account
  obtain ⟨a, hstands, hP⟩ := h r hr r hstart
  exact ⟨a.ledger l.config, hr.ledger hstands, a, hP, hr.allow hstands, rfl⟩

/-- An operation of the store is carried out, or refused by the store. -/
lemma Performs.tries {call : Store → Except StoreError α × Store} {operation : Operation}
    {archive : Archive} {x : α} (h : Performs call operation [] l.archive x archive) :
    Tries (onStore call) faults l x { l with archive } := by
  have hasks : ∀ r : Relay, r.Bears faults l →
      Asks r (onStore call) l.account operation x { l.account with archive } := by
    intro r hr
    rw [← hr.ghosts] at h
    exact h.asks
  refine (Moves.leads hasks).imp fun y l₁ ⟨a, ha, hallow, hl₁⟩ => ?_
  rcases ha with ⟨hy, rfl⟩ | ⟨⟨e, hy⟩, rfl⟩
  · exact .inl ⟨hy, hl₁⟩
  · exact .inr ⟨hallow.store operation (Account.failed_fail_self _ _), hl₁, e, hy⟩

/-- Reading from the store. -/
lemma tries_read {d : Option Dictionary} (h : l.archive.read id = .ok d) :
    Tries (onStore (·.get id)) faults l d l :=
  (performs_get [] h).tries

/-- Listing what is stored. -/
lemma tries_list : Tries (onStore (·.list)) faults l l.archive.keys l := by
  have hlist : Tries (onStore (·.list)) faults l (l.archive.keys ++ []) l :=
    (performs_list [] l.archive).tries
  rwa [List.append_nil] at hlist

/-! ### Single effects -/

/-- A returned value. -/
lemma leads_pure {x : α} {P : Except Error α → Ledger → Prop} (h : P (.ok x) l) :
    Leads (pure x) faults l P := by
  rw [leads_eq_moves]
  exact moves_pure h

/-- An error that ends the call. -/
lemma leads_throw {e : Error} {P : Except Error α → Ledger → Prop} (h : P (.error e) l) :
    Leads (throw e) faults l P := by
  rw [leads_eq_moves]
  exact moves_throw h

/-- A returned value is not refused. -/
lemma tries_pure (x : α) : Tries (pure x) faults l x l := leads_pure (.inl ⟨rfl, rfl⟩)

/-- Telling the operator something. -/
lemma leads_tell (n : Notice) : Leads (tell n) faults l fun y l₁ => y = .ok () ∧ l₁ = l :=
  fun _ hr => ⟨l, { hr with }, rfl, rfl⟩

/-- Looking at the relay. -/
lemma leads_get {f : Relay → Relaying β} {Q : Except Error β → Ledger → Prop}
    (h : ∀ r : Relay, r.Bears faults l → Leads (f r) faults l Q) :
    Leads (get >>= f) faults l Q := by
  rw [leads_eq_moves]
  exact moves_get h

/-- Giving an input to a session that answers it. -/
lemma leads_answer (update : Update) :
    Leads (answer (.ok update)) faults l fun y l₁ => y = .ok update ∧ l₁ = l := by
  intro r hr
  refine ⟨l, { hr with }, ?_, rfl⟩
  show Except.ok (r.amend (r.answers + 1) update) = _
  rw [hr.amend]

/-! ### Disturbed calls -/

/-- What becomes of a call that turns one ledger into another when nothing is refused. -/
inductive Disturbed (faults : Faults) (l l' : Ledger) (x : Except Error α) :
    Except Error α → Ledger → Prop
  /-- Nothing is refused that the call asks for. -/
  | done : Disturbed faults l l' x x l'
  /-- The store refuses before anything was handed over. -/
  | refused (hstore : faults.HitStore) (e : StoreError) :
      Disturbed faults l l' x (.error (.store e)) l
  /-- The transport refuses a message, and the store gets back what it held. -/
  | restored (htransport : faults.HitTransport) (e : RouteError) {sent rest : List Envelope}
      (hsplit : l'.sent = l.sent ++ (sent ++ rest)) (hrest : rest ≠ []) :
      Disturbed faults l l' x (.error (.route e)) { l with sent := l.sent ++ sent }
  /-- The transport refuses a message, and the store refuses to take back what it held. -/
  | stuck (hstore : faults.HitStore) (htransport : faults.HitTransport) (e : StoreError)
      {sent rest : List Envelope} (hsplit : l'.sent = l.sent ++ (sent ++ rest)) (hrest : rest ≠ []) :
      Disturbed faults l l' x (.error (.store e))
        { l' with sent := l.sent ++ sent, events := l.events }

/-- Carrying out an answer to an input to a session that can be read. -/
lemma leads_carried {previous : Option Dictionary} (hread : l.archive.read id = .ok previous)
    (update : Update) :
    Leads (apply id update) faults l fun x l' => ∃ a,
      Carried l.account (l.account.settle l.config id update)
          ((l.account.settle l.config id update).archive.putBack id previous) update.session x a ∧
        faults.Allow a ∧ l' = a.ledger l.config := by
  refine Moves.leads fun r hr => ?_
  rw [← hr.config_eq]
  exact moves_apply hread update

/-- Carrying out an answer: when nothing is refused, the ledger is settled. -/
theorem leads_apply (hfaithful : l.archive.Faithful) (id : SessionId) (update : Update) :
    Leads (apply id update) faults l
      (Disturbed faults l (l.settle id update) (.ok update.session)) := by
  obtain ⟨previous, hread, hprevious⟩ := hfaithful.exists_read id
  refine (leads_carried hread update).imp fun x l' ⟨a, ha, hallow, hl'⟩ => ?_
  rw [Account.putBack_settle hprevious] at ha
  subst hl'
  cases ha with
  | done => exact .done
  | refused operation e => exact .refused (hallow.store operation (Account.failed_fail_self _ _)) e
  | restored e hsplit hrest => exact .restored (hallow.transport rfl) e hsplit hrest
  | stuck hwrites e hsplit hrest =>
    exact .stuck (hallow.store _ (Account.failed_fail_self _ _)) (hallow.transport rfl) e hsplit hrest

end Relay

end Introduction
