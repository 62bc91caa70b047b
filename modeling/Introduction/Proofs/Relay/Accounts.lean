import Introduction.Proofs.OrderedMap
import Introduction.Relay.Introducer

/-!
# Carrying out an answer

An answer that a relay carries out can be disturbed at three places only, whatever the relay holds
and is refused (`Carried`): the store refuses before anything was handed over, and nothing has
changed; the transport refuses a message, and the store gets back what it held; or the transport
refuses, and the store refuses to take it back.  The main statement is `moves_apply`.

Calls in sequence are followed from stage to stage, whatever is taken for a stage of a relay
(`Moves`).  Here the stages are accounts: what matters of the relay during a call, and what it was
refused since the call was made, which is told by the numbers of the operations and attempts that it
asked for (`Stands`).

That the store holds the very same octets after it got them back rests on their being faithful
(`Archive.Faithful`): what is read from them is written as the same octets again.
-/

namespace Introduction

/-! ### Ends of calls -/

/-- The result of a call and the state after it. -/
def outcome {ε σ α : Type} (call : EStateM ε σ α) (s : σ) : Except ε α × σ :=
  match call s with
  | .ok x s => (.ok x, s)
  | .error e s => (.error e, s)

/-- Calls in sequence end with the second unless the first stops with an error. -/
lemma outcome_bind {ε σ α β : Type} (call : EStateM ε σ α) (f : α → EStateM ε σ β) (s : σ) :
    outcome (call >>= f) s =
      match outcome call s with
      | (.ok x, s) => outcome (f x) s
      | (.error e, s) => (.error e, s) := by
  show outcome (EStateM.bind call f) s = _
  unfold outcome EStateM.bind
  cases call s <;> rfl

/-! ### Archives that can be put back -/

namespace Archive

variable {a a' : Archive} {id : SessionId} {previous : Option Dictionary}

/-- All that is stored can be decoded, and is the encoded form of what is decoded from it. -/
def Faithful (a : Archive) : Prop :=
  ∀ id bytes, a.get? id = some bytes →
    ∃ d, Dictionary.decode bytes bytes.length = .ok d ∧ d.encode = bytes

/-- The archive with what was read for a session put back. -/
def putBack (a : Archive) (id : SessionId) : Option Dictionary → Archive
  | some d => a.write id d
  | none => a.delete id

/-- A faithful archive can be read, and what is read is what is stored. -/
lemma Faithful.exists_read (h : a.Faithful) (id : SessionId) :
    ∃ previous, a.read id = .ok previous ∧ a.get? id = previous.map Dictionary.encode := by
  unfold read
  cases hget : a.get? id with
  | none => exact ⟨none, rfl, rfl⟩
  | some bytes =>
    obtain ⟨d, hdecode, hencode⟩ := h id bytes hget
    refine ⟨some d, ?_, by rw [Option.map_some, hencode]⟩
    simp only [hdecode]
    rfl

/-- An archive that was changed for one session is as before once that session is put back. -/
lemma putBack_eq (hprevious : a.get? id = previous.map Dictionary.encode)
    (hother : ∀ id', id' ≠ id → a'.get? id' = a.get? id') : a'.putBack id previous = a := by
  refine Ascending.ext fun id' => ?_
  cases previous with
  | none =>
    rw [putBack, delete, Ascending.get?_erase]
    split_ifs with hid
    · rw [hid, hprevious]
      rfl
    · exact hother id' hid
  | some d =>
    rw [putBack, write, OrderedMap.get?_insert]
    split_ifs with hid
    · rw [hid, hprevious]
      rfl
    · exact hother id' hid

end Archive

namespace Relay

/-! ### Calls between stages -/

/-- From every relay at a stage a call ends in a result and at a stage that satisfy a condition.
When a relay is at a stage, is left open. -/
def Moves {σ α : Type} (At : σ → Relay → Prop) (call : Relaying α) (x : σ)
    (P : Except Error α → σ → Prop) : Prop :=
  ∀ r : Relay, At x r → ∃ y, At y (outcome call r).2 ∧ P (outcome call r).1 y

section Moves

variable {σ α β : Type} {At : σ → Relay → Prop} {x y : σ}

/-- A condition can be weakened. -/
lemma Moves.imp {call : Relaying α} {P Q : Except Error α → σ → Prop} (h : Moves At call x P)
    (hPQ : ∀ result y, P result y → Q result y) : Moves At call x Q := by
  intro r hr
  obtain ⟨y, hr', hP⟩ := h r hr
  exact ⟨y, hr', hPQ _ _ hP⟩

/-- Calls in sequence: the second is made if the first succeeds. -/
lemma Moves.bind {call : Relaying α} {f : α → Relaying β} {P : Except Error α → σ → Prop}
    {Q : Except Error β → σ → Prop} (h : Moves At call x P)
    (hok : ∀ a y, P (.ok a) y → Moves At (f a) y Q)
    (herror : ∀ e y, P (.error e) y → Q (.error e) y) : Moves At (call >>= f) x Q := by
  intro r hr
  obtain ⟨y, hr', hP⟩ := h r hr
  rw [outcome_bind]
  rcases hrun : outcome call r with ⟨a | a, r'⟩
  · rw [hrun] at hr' hP
    exact ⟨y, hr', herror _ _ hP⟩
  · rw [hrun] at hr' hP
    exact hok a y hP r' hr'

/-- A call that always succeeds in the same way is followed by the rest. -/
lemma Moves.then {call : Relaying α} {f : α → Relaying β} {a : α} {Q : Except Error β → σ → Prop}
    (h : Moves At call x fun result z => result = .ok a ∧ z = y) (hrest : Moves At (f a) y Q) :
    Moves At (call >>= f) x Q := by
  refine h.bind (fun b z hb => ?_) (fun e z he => ?_)
  · obtain ⟨hb, rfl⟩ := hb
    cases hb
    exact hrest
  · cases he.1

/-- A returned value. -/
lemma moves_pure {a : α} {P : Except Error α → σ → Prop} (h : P (.ok a) x) :
    Moves At (pure a) x P :=
  fun _ hr => ⟨x, hr, h⟩

/-- An error that ends the call. -/
lemma moves_throw {e : Error} {P : Except Error α → σ → Prop} (h : P (.error e) x) :
    Moves At (throw e) x P :=
  fun _ hr => ⟨x, hr, h⟩

/-- Looking at the relay. -/
lemma moves_get {f : Relay → Relaying β} {Q : Except Error β → σ → Prop}
    (h : ∀ r : Relay, At x r → Moves At (f r) x Q) : Moves At (get >>= f) x Q :=
  fun r hr => h r hr r hr

end Moves

/-! ### What is refused -/

/-- Some attempt after the one numbered `start`, up to that numbered `stop`, is refused. -/
def RefusesIn (refuses : ℕ → Bool) (start stop : ℕ) : Prop :=
  ∃ number, start < number ∧ number ≤ stop ∧ refuses number = true

lemma not_refusesIn_self (refuses : ℕ → Bool) (n : ℕ) : ¬ RefusesIn refuses n n := by
  rintro ⟨number, hstart, hstop, -⟩
  omega

/-- One attempt more is refused or not. -/
lemma refusesIn_succ {refuses : ℕ → Bool} {m n : ℕ} (h : m ≤ n) :
    RefusesIn refuses m (n + 1) ↔ RefusesIn refuses m n ∨ refuses (n + 1) = true := by
  constructor
  · rintro ⟨number, hstart, hstop, hrefused⟩
    rcases Nat.lt_or_ge n number with hlt | hle
    · obtain rfl : number = n + 1 := by omega
      exact .inr hrefused
    · exact .inl ⟨number, hstart, hle, hrefused⟩
  · rintro (⟨number, hstart, hstop, hrefused⟩ | hrefused)
    · exact ⟨number, hstart, by omega, hrefused⟩
    · exact ⟨n + 1, by omega, Nat.le_refl _, hrefused⟩

/-- An operation is counted among those of its sort. -/
lemma Tally.count_bump (t : Tally) (operation operation' : Operation) :
    (t.bump operation).count operation' =
      t.count operation' + if operation = operation' then 1 else 0 := by
  cases operation <;> cases operation' <;> rfl

/-- One operation more is refused or not among those of its sort. -/
lemma refusesIn_bump {refuses : Operation → ℕ → Bool} {t₀ t : Tally}
    (h : ∀ operation, t₀.count operation ≤ t.count operation) (operation operation' : Operation) :
    RefusesIn (refuses operation') (t₀.count operation') ((t.bump operation).count operation') ↔
      RefusesIn (refuses operation') (t₀.count operation') (t.count operation') ∨
        (operation = operation' ∧ refuses operation (t.count operation + 1) = true) := by
  rw [Tally.count_bump]
  split_ifs with heq
  · subst heq
    rw [refusesIn_succ (h operation), eq_self, true_and]
  · rw [Nat.add_zero, or_iff_left fun hrefused => heq hrefused.1]

/-- Whether an operation changes what is stored. -/
def Operation.writes : Operation → Bool
  | .put => true
  | .delete => true
  | _ => false

/-! ### Accounts -/

/-- What matters of a relay during a call, and what it was refused since the call was made. -/
structure Account where
  /-- What is stored. -/
  archive : Archive
  /-- The messages that were handed over. -/
  sent : List Envelope
  /-- The events that were published. -/
  events : List Event
  /-- Whether a message was refused. -/
  routeFailed : Bool := false
  /-- Whether an operation of a sort was refused. -/
  failed : Operation → Bool := fun _ => false

namespace Account

/-- The account once an operation was refused. -/
def fail (a : Account) (operation : Operation) : Account :=
  { a with failed := fun operation' => a.failed operation' || operation = operation' }

/-- The account once an update was carried out. -/
def settle (a : Account) (config : Config) (id : SessionId) (update : Update) : Account :=
  { a with
    archive :=
      if config.drops update then a.archive.delete id
      else a.archive.write id update.session.toDictionary
    sent := a.sent ++ update.envelopes
    events := a.events ++ update.events }

/-- What was refused stays refused, and an operation that is refused is. -/
lemma failed_fail (a : Account) (operation operation' : Operation) :
    (a.fail operation).failed operation' = true ↔
      a.failed operation' = true ∨ operation = operation' := by
  rw [fail, Bool.or_eq_true, decide_eq_true_iff]

lemma failed_fail_self (a : Account) (operation : Operation) :
    (a.fail operation).failed operation = true :=
  (failed_fail a operation operation).mpr (.inr rfl)

/-- The store holds what it held once it got back what was read for the session. -/
lemma putBack_settle {a : Account} {config : Config} {id : SessionId} {update : Update}
    {previous : Option Dictionary} (h : a.archive.get? id = previous.map Dictionary.encode) :
    (a.settle config id update).archive.putBack id previous = a.archive := by
  refine Archive.putBack_eq h fun id' hid => ?_
  unfold settle
  split_ifs with hdrops
  · rw [Archive.delete, Ascending.get?_erase, if_neg hid]
  · rw [Archive.write, OrderedMap.get?_insert, if_neg hid]

end Account

/-- The account of a relay when a call is made. -/
def account (r : Relay) : Account where
  archive := r.store.archive
  sent := r.outbox.sent
  events := r.events

/-- A relay has an account during a call that was made of the relay `r₀`. -/
structure Stands (r₀ : Relay) (a : Account) (r : Relay) : Prop where
  config_eq : r.config = r₀.config
  amend_eq : r.amend = r₀.amend
  refuses_eq : r.store.refuses = r₀.store.refuses
  ghosts_eq : r.store.ghosts = r₀.store.ghosts
  transport_eq : r.outbox.refuses = r₀.outbox.refuses
  archive_eq : r.store.archive = a.archive
  sent_eq : r.outbox.sent = a.sent
  events_eq : r.events = a.events
  count_le : ∀ operation, r₀.store.tally.count operation ≤ r.store.tally.count operation
  attempts_le : r₀.outbox.attempts ≤ r.outbox.attempts
  routeFailed_iff : a.routeFailed = true ↔
    RefusesIn r₀.outbox.refuses r₀.outbox.attempts r.outbox.attempts
  failed_iff : ∀ operation, a.failed operation = true ↔
    RefusesIn (r₀.store.refuses operation) (r₀.store.tally.count operation)
      (r.store.tally.count operation)

variable {α β : Type} {r₀ r : Relay} {a a' : Account} {id : SessionId}

/-- When a call is made, nothing was refused since. -/
lemma stands_account (r : Relay) : r.Stands r.account r where
  config_eq := rfl
  amend_eq := rfl
  refuses_eq := rfl
  ghosts_eq := rfl
  transport_eq := rfl
  archive_eq := rfl
  sent_eq := rfl
  events_eq := rfl
  count_le _ := Nat.le_refl _
  attempts_le := Nat.le_refl _
  routeFailed_iff := iff_of_false nofun (not_refusesIn_self _ _)
  failed_iff _ := iff_of_false nofun (not_refusesIn_self _ _)

/-- Counting an operation leaves the earlier ones counted. -/
lemma Stands.count_le_bump (h : r₀.Stands a r) (operation operation' : Operation) :
    r₀.store.tally.count operation' ≤ (r.store.tally.bump operation).count operation' := by
  have hle := h.count_le operation'
  rw [Tally.count_bump]
  omega

/-- An operation that is refused is counted and noted. -/
lemma Stands.refused (h : r₀.Stands a r) {operation : Operation}
    (hrefused : r.store.refuses operation (r.store.tally.count operation + 1) = true) :
    r₀.Stands (a.fail operation)
      { r with store := { r.store with tally := r.store.tally.bump operation } } := by
  refine { h with count_le := h.count_le_bump operation, failed_iff := fun operation' => ?_ }
  rw [h.refuses_eq] at hrefused
  rw [Account.failed_fail, h.failed_iff]
  refine Iff.trans ?_ (refusesIn_bump h.count_le operation operation').symm
  rw [and_iff_left hrefused]

/-- An operation that is not refused is counted, and changes the archive. -/
lemma Stands.performed (h : r₀.Stands a r) {operation : Operation}
    (hdone : ¬ r.store.refuses operation (r.store.tally.count operation + 1) = true)
    (archive : Archive) :
    r₀.Stands { a with archive }
      { r with store := { r.store with tally := r.store.tally.bump operation, archive } } := by
  refine { h with
    archive_eq := rfl
    count_le := h.count_le_bump operation
    failed_iff := fun operation' => (h.failed_iff operation').trans ?_ }
  rw [h.refuses_eq] at hdone
  refine Iff.trans ?_ (refusesIn_bump h.count_le operation operation').symm
  rw [or_iff_left fun hrefused => hdone hrefused.2]

/-! ### Single effects -/

/-- Telling the operator something. -/
lemma moves_tell (n : Notice) :
    Moves r₀.Stands (tell n) a fun result a₁ => result = .ok () ∧ a₁ = a :=
  fun _ hr => ⟨a, { hr with }, rfl, rfl⟩

/-- Publishing events. -/
lemma moves_publish (events : List Event) :
    Moves r₀.Stands (modify fun r => { r with events := r.events ++ events }) a
      fun result a₁ => result = .ok () ∧ a₁ = { a with events := a.events ++ events } :=
  fun _ hr => ⟨{ a with events := a.events ++ events },
    { hr with events_eq := congrArg (· ++ events) hr.events_eq }, rfl, rfl⟩

/-- An operation of a store that lists the given ghosts fails if it is refused, and otherwise gives
a value and turns one archive into another. -/
structure Performs (call : Store → Except StoreError α × Store) (operation : Operation)
    (ghosts : List SessionId) (before : Archive) (x : α) (after : Archive) : Prop where
  refused : ∀ s e s', Store.attempt s operation = (.error e, s') → call s = (.error e, s')
  done : ∀ s s', Store.attempt s operation = (.ok (), s') → s'.ghosts = ghosts →
    s'.archive = before → call s = (.ok x, { s' with archive := after })

/-- Reading leaves the archive as it is. -/
lemma performs_get (ghosts : List SessionId) {archive : Archive} {d : Option Dictionary}
    (h : archive.read id = .ok d) : Performs (·.get id) .get ghosts archive d archive where
  refused s e s' hs := by simp only [Store.get, hs]
  done s s' hs _ harchive := by
    simp only [Store.get, hs, harchive, h]
    rw [← harchive]
    rfl

/-- Storing writes to the archive. -/
lemma performs_put (ghosts : List SessionId) (archive : Archive) (d : Dictionary) :
    Performs (·.put id d) .put ghosts archive () (archive.write id d) where
  refused s e s' hs := by simp only [Store.put, hs]
  done s s' hs _ harchive := by simp only [Store.put, hs, harchive]

/-- Deleting deletes from the archive. -/
lemma performs_delete (ghosts : List SessionId) (archive : Archive) :
    Performs (·.delete id) .delete ghosts archive () (archive.delete id) where
  refused s e s' hs := by simp only [Store.delete, hs]
  done s s' hs _ harchive := by simp only [Store.delete, hs, harchive]

/-- Listing gives the ghosts after what is stored. -/
lemma performs_list (ghosts : List SessionId) (archive : Archive) :
    Performs (·.list) .list ghosts archive (archive.keys ++ ghosts) archive where
  refused s e s' hs := by simp only [Store.list, hs]
  done s s' hs hghosts harchive := by
    subst hghosts harchive
    simp only [Store.list, hs]

/-- An operation of the store that is refused is counted and does nothing. -/
lemma Performs.outcome_of_refused {r : Relay} {operation : Operation} {ghosts : List SessionId}
    {before after : Archive} {x : α} {call : Store → Except StoreError α × Store}
    (h : Performs call operation ghosts before x after)
    (hrefused : r.store.refuses operation (r.store.tally.count operation + 1) = true) :
    outcome (onStore call) r =
      (.error (.store (.refused operation (r.store.tally.count operation + 1))),
        { r with store := { r.store with tally := r.store.tally.bump operation } }) := by
  have hattempt : r.store.attempt operation =
      (.error (.refused operation (r.store.tally.count operation + 1)),
        { r.store with tally := r.store.tally.bump operation }) := by
    simp only [Store.attempt, hrefused, if_true]
  simp only [outcome, onStore, h.refused _ _ _ hattempt]

/-- An operation of the store that is not refused is counted and carried out. -/
lemma Performs.outcome_of_not_refused {r : Relay} {operation : Operation} {after : Archive} {x : α}
    {call : Store → Except StoreError α × Store}
    (h : Performs call operation r.store.ghosts r.store.archive x after)
    (hdone : ¬ r.store.refuses operation (r.store.tally.count operation + 1) = true) :
    outcome (onStore call) r =
      (.ok x,
        { r with store :=
          { r.store with tally := r.store.tally.bump operation, archive := after } }) := by
  have hattempt : r.store.attempt operation =
      (.ok (), { r.store with tally := r.store.tally.bump operation }) := by
    simp only [Store.attempt, hdone, if_false, Bool.false_eq_true]
  simp only [outcome, onStore, h.done _ _ hattempt rfl rfl]

/-- A call is carried out, or its operation is refused by the store. -/
def Asks (r₀ : Relay) (call : Relaying α) (a : Account) (operation : Operation) (x : α)
    (a' : Account) : Prop :=
  Moves r₀.Stands call a fun result a₁ =>
    (result = .ok x ∧ a₁ = a') ∨ ((∃ e, result = .error (.store e)) ∧ a₁ = a.fail operation)

/-- An operation of the store is carried out or refused. -/
lemma Performs.asks {call : Store → Except StoreError α × Store} {operation : Operation}
    {archive : Archive} {x : α} (h : Performs call operation r₀.store.ghosts a.archive x archive) :
    Asks r₀ (onStore call) a operation x { a with archive } := by
  intro r hr
  by_cases hfault : r.store.refuses operation (r.store.tally.count operation + 1)
  · rw [h.outcome_of_refused hfault]
    exact ⟨a.fail operation, hr.refused hfault, .inr ⟨⟨_, rfl⟩, rfl⟩⟩
  · rw [← hr.ghosts_eq, ← hr.archive_eq] at h
    rw [h.outcome_of_not_refused hfault]
    exact ⟨{ a with archive }, hr.performed hfault archive, .inl ⟨rfl, rfl⟩⟩

/-- An operation of the store is followed by the rest. -/
lemma Asks.then {call : Relaying α} {f : α → Relaying β} {operation : Operation} {x : α}
    {Q : Except Error β → Account → Prop} (h : Asks r₀ call a operation x a')
    (hrest : Moves r₀.Stands (f x) a' Q) (hrefused : ∀ e, Q (.error (.store e)) (a.fail operation)) :
    Moves r₀.Stands (call >>= f) a Q := by
  refine Moves.bind h (fun y a₁ hy => ?_) fun e a₁ he => ?_
  · rcases hy with ⟨hy, rfl⟩ | ⟨⟨e, he⟩, -⟩
    · cases hy
      exact hrest
    · cases he
  · rcases he with ⟨he, -⟩ | ⟨⟨e', he'⟩, rfl⟩
    · cases he
    · cases he'
      exact hrefused e'

/-- Putting back what the store held. -/
lemma asks_restore (previous : Option Dictionary) :
    ∃ operation : Operation, operation.writes = true ∧
      Asks r₀ (restore id previous) a operation ()
        { a with archive := a.archive.putBack id previous } := by
  cases previous with
  | none => exact ⟨.delete, rfl, (performs_delete _ a.archive).asks⟩
  | some d => exact ⟨.put, rfl, (performs_put _ a.archive d).asks⟩

/-- A message that is refused is not recorded. -/
lemma outcome_route_of_refused {r : Relay} (h : r.outbox.refuses (r.outbox.attempts + 1) = true)
    (envelope : Envelope) :
    outcome (route envelope) r =
      (.ok (some ⟨r.outbox.attempts + 1⟩),
        { r with outbox := { r.outbox with attempts := r.outbox.attempts + 1 } }) := by
  simp only [outcome, route, Outbox.route, h, if_true]

/-- A message that is not refused is recorded. -/
lemma outcome_route_of_not_refused {r : Relay}
    (h : ¬ r.outbox.refuses (r.outbox.attempts + 1) = true) (envelope : Envelope) :
    outcome (route envelope) r =
      (.ok none, { r with outbox := { r.outbox with
        attempts := r.outbox.attempts + 1, sent := r.outbox.sent ++ [envelope] } }) := by
  simp only [outcome, route, Outbox.route, h, if_false, Bool.false_eq_true]

/-- Handing a message over. -/
lemma moves_route (envelope : Envelope) :
    Moves r₀.Stands (route envelope) a fun result a₁ =>
      (result = .ok none ∧ a₁ = { a with sent := a.sent ++ [envelope] }) ∨
        ((∃ refusal, result = .ok (some refusal)) ∧ a₁ = { a with routeFailed := true }) := by
  intro r hr
  have hle := Nat.le_succ_of_le hr.attempts_le
  have hsucc : RefusesIn r₀.outbox.refuses _ _ ↔ _ := refusesIn_succ hr.attempts_le
  by_cases hfault : r.outbox.refuses (r.outbox.attempts + 1)
  · rw [outcome_route_of_refused hfault]
    refine ⟨{ a with routeFailed := true },
      { hr with attempts_le := hle, routeFailed_iff := iff_of_true rfl ?_ }, .inr ⟨⟨_, rfl⟩, rfl⟩⟩
    rw [hr.transport_eq] at hfault
    exact hsucc.mpr (.inr hfault)
  · rw [outcome_route_of_not_refused hfault]
    refine ⟨{ a with sent := a.sent ++ [envelope] },
      { hr with
        sent_eq := congrArg (· ++ [envelope]) hr.sent_eq
        attempts_le := hle
        routeFailed_iff := hr.routeFailed_iff.trans ?_ }, .inl ⟨rfl, rfl⟩⟩
    rw [hr.transport_eq] at hfault
    exact (hsucc.trans (or_iff_left hfault)).symm

/-! ### Carrying out an answer -/

/-- What becomes of messages that are handed over, while the archive would be `back` if the store
got back what it held. -/
inductive Handed (a : Account) (back : Archive) (envelopes : List Envelope) :
    Except Error Unit → Account → Prop
  /-- All are handed over. -/
  | all : Handed a back envelopes (.ok ()) { a with sent := a.sent ++ envelopes }
  /-- One is refused, and the store gets back what it held. -/
  | restored (e : RouteError) {sent rest : List Envelope} (hsplit : envelopes = sent ++ rest)
      (hrest : rest ≠ []) :
      Handed a back envelopes (.error (.route e))
        { a with archive := back, sent := a.sent ++ sent, routeFailed := true }
  /-- One is refused, and the store refuses to take back what it held. -/
  | stuck {operation : Operation} (hwrites : operation.writes = true) (e : StoreError)
      {sent rest : List Envelope} (hsplit : envelopes = sent ++ rest) (hrest : rest ≠ []) :
      Handed a back envelopes (.error (.store e))
        (Account.fail { a with sent := a.sent ++ sent, routeFailed := true } operation)

/-- A message was handed over before the others. -/
lemma Handed.cons {envelope : Envelope} {envelopes : List Envelope} {back : Archive}
    {result : Except Error Unit}
    (h : Handed { a with sent := a.sent ++ [envelope] } back envelopes result a') :
    Handed a back (envelope :: envelopes) result a' := by
  have hsent : ∀ sent, a.sent ++ [envelope] ++ sent = a.sent ++ (envelope :: sent) := fun sent =>
    List.append_assoc _ _ _
  cases h with
  | all =>
    rw [hsent]
    exact .all
  | restored e hsplit hrest =>
    rw [hsent]
    exact .restored e (congrArg (envelope :: ·) hsplit) hrest
  | stuck hwrites e hsplit hrest =>
    rw [hsent]
    exact .stuck hwrites e (congrArg (envelope :: ·) hsplit) hrest

/-- Handing over messages.  The induction is on the messages still to go, and what was handed over
before moves into the account. -/
lemma moves_routeAll (previous : Option Dictionary) (envelopes : List Envelope) :
    Moves r₀.Stands (routeAll id previous envelopes) a
      (Handed a (a.archive.putBack id previous) envelopes) := by
  induction envelopes generalizing a with
  | nil =>
    have hall : Handed a (a.archive.putBack id previous) [] (.ok ())
        { a with sent := a.sent ++ [] } := .all
    rw [List.append_nil] at hall
    exact moves_pure hall
  | cons envelope envelopes ih =>
    unfold routeAll
    refine (moves_route envelope).bind (fun y a₁ hy => ?_) fun e a₁ he => ?_
    · rcases hy with ⟨hy, rfl⟩ | ⟨⟨refusal, hy⟩, rfl⟩
      · cases hy
        exact ih.imp fun _ _ h => h.cons
      · cases hy
        obtain ⟨operation, hwrites, hrestore⟩ : ∃ operation : Operation, operation.writes = true ∧
            Asks r₀ (restore id previous) { a with routeFailed := true } operation ()
              { a with routeFailed := true, archive := a.archive.putBack id previous } :=
          asks_restore previous
        have hsplit : envelope :: envelopes = [] ++ (envelope :: envelopes) := rfl
        have hrest : envelope :: envelopes ≠ [] := List.cons_ne_nil _ _
        have hnothing : a.sent ++ [] = a.sent := List.append_nil _
        refine (moves_tell _).then (hrestore.then (moves_throw ?_) fun e => ?_)
        · have h : Handed a (a.archive.putBack id previous) _ _ _ :=
            .restored refusal hsplit hrest
          rwa [hnothing] at h
        · have h : Handed a (a.archive.putBack id previous) _ _ _ :=
            .stuck hwrites e hsplit hrest
          rwa [hnothing] at h
    · rcases he with ⟨he, -⟩ | ⟨⟨refusal, he⟩, -⟩ <;> cases he

/-- What becomes of an answer that is carried out, where the account is `a'` if nothing is refused
and the archive would then be `back` if the store got back what it held. -/
inductive Carried (a a' : Account) (back : Archive) (x : α) : Except Error α → Account → Prop
  /-- Nothing is refused. -/
  | done : Carried a a' back x (.ok x) a'
  /-- The store refuses before anything was handed over. -/
  | refused (operation : Operation) (e : StoreError) :
      Carried a a' back x (.error (.store e)) (a.fail operation)
  /-- The transport refuses a message, and the store gets back what it held. -/
  | restored (e : RouteError) {sent rest : List Envelope}
      (hsplit : a'.sent = a.sent ++ (sent ++ rest)) (hrest : rest ≠ []) :
      Carried a a' back x (.error (.route e))
        { a with archive := back, sent := a.sent ++ sent, routeFailed := true }
  /-- The transport refuses a message, and the store refuses to take back what it held. -/
  | stuck {operation : Operation} (hwrites : operation.writes = true) (e : StoreError)
      {sent rest : List Envelope} (hsplit : a'.sent = a.sent ++ (sent ++ rest)) (hrest : rest ≠ []) :
      Carried a a' back x (.error (.store e))
        (Account.fail
          { a' with sent := a.sent ++ sent, events := a.events, routeFailed := true } operation)

/-- Carrying out an answer to an input to a session that can be read. -/
theorem moves_apply {previous : Option Dictionary} (hread : a.archive.read id = .ok previous)
    (update : Update) :
    Moves r₀.Stands (apply id update) a
      (Carried a (a.settle r₀.config id update)
        ((a.settle r₀.config id update).archive.putBack id previous) update.session) := by
  -- whatever was done to the entry of the session, the rest ends in one of three ways
  have hrest : ∀ archive : Archive,
      Moves r₀.Stands (do
        tell (notice .trace "applying update" id
          [("messages", .count update.envelopes.length), ("events", .count update.events.length),
            ("delete_message", .flag update.deletesMessage)])
        routeAll id previous update.envelopes
        modify fun r => { r with events := r.events ++ update.events }
        return update.session) { a with archive }
        (Carried a
          { a with archive, sent := a.sent ++ update.envelopes, events := a.events ++ update.events }
          (archive.putBack id previous) update.session) := by
    intro archive
    refine (moves_tell _).then ((moves_routeAll previous update.envelopes).bind
      (fun y a₁ hy => ?_) fun e a₁ he => ?_)
    · cases hy
      exact (moves_publish _).then (moves_pure .done)
    · cases he with
      | restored e hsplit hrest => exact .restored e (congrArg (a.sent ++ ·) hsplit) hrest
      | stuck hwrites e hsplit hrest =>
        exact .stuck hwrites e (congrArg (a.sent ++ ·) hsplit) hrest
  refine (performs_get _ hread).asks.then (moves_get fun r hr => ?_) fun e => .refused _ e
  rw [hr.config_eq]
  unfold Account.settle
  split_ifs with hdrops
  · exact (moves_tell _).then ((performs_delete _ _).asks.then (hrest _) fun e => .refused _ e)
  · exact (performs_put _ _ _).asks.then (hrest _) fun e => .refused _ e

end Relay

end Introduction
