import Introduction.Proofs.Dictionary.Nesting
import Introduction.Proofs.Relay.Runs

/-!
# All or nothing

A call of a relay either carries out what a session answers, or stops with an error and leaves the
store as it was, whatever its store holds and whichever operations of the store and attempts of the
transport are refused (`atomic_call`).  The one exception is that a message is refused and the
operation by which the store gets back what it held is refused as well.

What is refused during a call is told by the numbers of the operations that it asks for
(`RouteFails`, `WriteFails`).  The account of the relay notes what was refused while the call is
made, so an ending of a call says which faults it met (`Ending`).  The store holds the very same
octets after it got them back because they were put there in their encoded form: a dictionary that
can be read at all is read as it was put (`Archive.Legible.faithful`).
-/

namespace Introduction

namespace Archive

/-- All that is stored was put there and can be read.  What is put is a dictionary in its encoded
form, and the length of octets in memory is a number of 64 bits. -/
def Legible (a : Archive) : Prop :=
  ∀ id bytes, a.get? id = some bytes →
    bytes.length < 2 ^ 64 ∧ (∃ d : Dictionary, bytes = d.encode) ∧
      ∃ d, Dictionary.decode bytes bytes.length = .ok d

/-- What was put and can be read is read as it was put. -/
theorem Legible.faithful {a : Archive} (h : a.Legible) : a.Faithful := by
  intro id bytes hget
  obtain ⟨hlength, ⟨d, rfl⟩, d', hdecode⟩ := h id bytes hget
  have hwritable : Value.Writable (.dictionary d) := Value.writable_of_length _ hlength
  by_cases hdepth : Value.depth (.dictionary d) ≤ Dictionary.maxNesting
  · exact ⟨d, Dictionary.decode_encode hwritable hdepth le_rfl, rfl⟩
  · rw [Dictionary.decode, if_neg (lt_irrefl _),
      Dictionary.ofBytes_encode_of_deep hwritable (Nat.lt_of_not_le hdepth)] at hdecode
    cases hdecode

/-- Where nothing is stored, all of it can be read. -/
lemma legible_empty : empty.Legible := nofun

/-- What is put can be read if it is decoded from its encoded form. -/
lemma Legible.write {a : Archive} (h : a.Legible) (id : SessionId) {d : Dictionary}
    (hlength : d.encode.length < 2 ^ 64)
    (hdecode : Dictionary.decode d.encode d.encode.length = .ok d) : (a.write id d).Legible := by
  intro id' bytes hget
  rw [Archive.write, OrderedMap.get?_insert] at hget
  split_ifs at hget with hid
  · cases hget
    exact ⟨hlength, ⟨d, rfl⟩, d, hdecode⟩
  · exact h id' bytes hget

/-- A session is stored under an identifier. -/
def Stores (a : Archive) (id : SessionId) (s : Session) : Prop :=
  ∃ d, a.read id = .ok (some d) ∧ Session.ofDictionary d = .ok s

end Archive

namespace Relay

/-! ### What fails during a call -/

/-- Between two states of a relay a message was refused. -/
def RouteFails (r r' : Relay) : Prop :=
  RefusesIn r.outbox.refuses r.outbox.attempts r'.outbox.attempts

/-- Between two states of a relay the store refused to store or to delete. -/
def WriteFails (r r' : Relay) : Prop :=
  ∃ operation : Operation, operation.writes = true ∧
    RefusesIn (r.store.refuses operation) (r.store.tally.count operation)
      (r'.store.tally.count operation)

variable {α β : Type} {r₀ r : Relay} {a a' : Account} {id : SessionId}

/-- Giving an input to a session that answers it. -/
lemma moves_answer (hamend : ∀ number update, r₀.amend number update = update) (update : Update) :
    Moves r₀.Stands (answer (.ok update)) a fun result a₁ => result = .ok update ∧ a₁ = a := by
  intro r hr
  refine ⟨a, { hr with }, ?_, rfl⟩
  show Except.ok (r.amend (r.answers + 1) update) = _
  rw [hr.amend_eq, hamend]

/-! ### Endings -/

/-- How a call ends whose value and account, if it succeeds, satisfy a condition. -/
inductive Ending (a : Account) (P : α → Account → Prop) : Except Error α → Account → Prop
  /-- It succeeds. -/
  | done {x : α} {a' : Account} (h : P x a') : Ending a P (.ok x) a'
  /-- It stops before any message is handed over. -/
  | stopped (e : Error) (failed : Operation → Bool) : Ending a P (.error e) { a with failed }
  /-- A message is refused, and the store gets back what it held. -/
  | restored (e : Error) (sent : List Envelope) :
      Ending a P (.error e) { a with sent, routeFailed := true }
  /-- A message is refused, and the store refuses to take back what it held. -/
  | stuck {x : α} {a' : Account} (h : P x a') {operation : Operation}
      (hwrites : operation.writes = true) (e : StoreError) (sent : List Envelope) :
      Ending a P (.error (.store e))
        (Account.fail { a' with sent, events := a.events, routeFailed := true } operation)

/-- A condition on success can be weakened. -/
lemma Ending.imp {P Q : α → Account → Prop} {result : Except Error α} (h : Ending a P result a')
    (hPQ : ∀ x a', P x a' → Q x a') : Ending a Q result a' := by
  cases h with
  | done h => exact .done (hPQ _ _ h)
  | stopped e failed => exact .stopped e failed
  | restored e sent => exact .restored e sent
  | stuck h hwrites e sent => exact .stuck (hPQ _ _ h) hwrites e sent

/-- An answer that is carried out ends so, if the store holds what it held once it got it back. -/
lemma Carried.ending {x : α} {result : Except Error α} {settled : Account}
    (h : Carried a settled a.archive x result a') :
    Ending a (fun t a' => t = x ∧ a' = settled) result a' := by
  cases h with
  | done => exact .done ⟨rfl, rfl⟩
  | refused operation e => exact .stopped _ _
  | restored e hsplit hrest => exact .restored _ _
  | stuck hwrites e hsplit hrest => exact .stuck ⟨rfl, rfl⟩ hwrites e _

/-- A call succeeds with a value that satisfies a condition or stops with an error, and changes
nothing. -/
def Reads (r₀ : Relay) (call : Relaying α) (a : Account) (P : α → Prop) : Prop :=
  Moves r₀.Stands call a fun result a₁ =>
    (∃ x, result = .ok x ∧ a₁ = a ∧ P x) ∨ ∃ e failed, result = .error e ∧ a₁ = { a with failed }

/-- A call that changes nothing is followed by the rest. -/
lemma Reads.then {call : Relaying α} {f : α → Relaying β} {P : α → Prop} {Q : β → Account → Prop}
    (h : Reads r₀ call a P) (hrest : ∀ x, P x → Moves r₀.Stands (f x) a (Ending a Q)) :
    Moves r₀.Stands (call >>= f) a (Ending a Q) := by
  refine Moves.bind h (fun x a₁ hx => ?_) fun e a₁ he => ?_
  · obtain ⟨y, hy, rfl, hP⟩ | ⟨e, failed, he, -⟩ := hx
    · cases hy
      exact hrest _ hP
    · cases he
  · obtain ⟨y, hy, -⟩ | ⟨e', failed, -, rfl⟩ := he
    · cases hy
    · exact .stopped e failed

/-- Calls that change nothing, in sequence. -/
lemma Reads.bind {call : Relaying α} {f : α → Relaying β} {P : α → Prop} {Q : β → Prop}
    (h : Reads r₀ call a P) (hrest : ∀ x, P x → Reads r₀ (f x) a Q) :
    Reads r₀ (call >>= f) a Q := by
  refine Moves.bind h (fun x a₁ hx => ?_) fun e a₁ he => ?_
  · obtain ⟨y, hy, rfl, hP⟩ | ⟨e, failed, he, -⟩ := hx
    · cases hy
      exact hrest _ hP
    · cases he
  · obtain ⟨y, hy, -⟩ | ⟨e', failed, -, hfailed⟩ := he
    · cases hy
    · exact .inr ⟨e, failed, rfl, hfailed⟩

lemma reads_pure {P : α → Prop} {x : α} (h : P x) : Reads r₀ (pure x) a P :=
  moves_pure (.inl ⟨x, rfl, rfl, h⟩)

lemma reads_throw {P : α → Prop} (e : Error) : Reads r₀ (throw e : Relaying α) a P :=
  moves_throw (.inr ⟨e, a.failed, rfl, rfl⟩)

/-- Reading from the store. -/
lemma reads_read (hfaithful : a.archive.Faithful) (id : SessionId) :
    Reads r₀ (onStore (·.get id)) a (a.archive.read id = .ok ·) := by
  obtain ⟨previous, hread, -⟩ := hfaithful.exists_read id
  refine (performs_get _ hread).asks.imp fun result a₁ h => ?_
  rcases h with ⟨hresult, rfl⟩ | ⟨⟨e, hresult⟩, rfl⟩
  · exact .inl ⟨previous, hresult, rfl, hread⟩
  · exact .inr ⟨_, _, hresult, rfl⟩

/-- Reading the result of a reading. -/
lemma reads_ofWire (x : Except WireError α) : Reads r₀ (ofWire x) a (x = .ok ·) := by
  cases x with
  | error e => exact reads_throw _
  | ok x => exact reads_pure rfl

/-- Loading a session. -/
lemma reads_load (hfaithful : a.archive.Faithful) (id : SessionId) :
    Reads r₀ (load id) a (a.archive.Stores id) := by
  have hsession : Reads r₀ (session? id) a fun s? => ∀ s, s? = some s → a.archive.Stores id s := by
    refine (reads_read hfaithful id).bind fun d? hread => ?_
    cases d? with
    | none => exact reads_pure nofun
    | some d =>
      dsimp only
      split
      · rename_i s hs
        exact reads_pure fun _ h => Option.some.inj h ▸ ⟨d, hread, hs⟩
      · exact reads_throw _
  refine hsession.bind fun s? hs => ?_
  cases s? with
  | none => exact (moves_tell _).then (reads_throw _)
  | some s => exact reads_pure (hs s rfl)

/-! ### Calls -/

/-- A call gives an input to a session: to the one that it creates, if nothing is stored under its
identifier, or to the one that is stored under the identifier that the call names.  Messages of more
than `limit` bytes are not decoded. -/
inductive Call.Gives (archive : Archive) (limit : ℕ) :
    Call → SessionId → Session → Session.Input → Prop
  /-- To the session that is created. -/
  | create {s : Session} {action : Session.LocalAction} (hnone : archive.get? s.id = none) :
      Gives archive limit (.create s action) s.id s (.act action)
  /-- To the session under the given identifier. -/
  | perform {id : SessionId} {s : Session} {action : Session.LocalAction}
      (hstored : archive.Stores id s) : Gives archive limit (.perform id action) id s (.act action)
  /-- To the session that the message names. -/
  | receive {id : SessionId} {s : Session} {message : Dictionary}
      (hid : sessionOf message = .ok id) (hstored : archive.Stores id s) :
      Gives archive limit (.receive message) id s (.message message)
  /-- To the session that the decoded message names. -/
  | receiveBytes {id : SessionId} {s : Session} {bytes : Bytes} {message : Dictionary}
      (hdecode : Dictionary.decode bytes limit = .ok message) (hid : sessionOf message = .ok id)
      (hstored : archive.Stores id s) :
      Gives archive limit (.receiveBytes bytes) id s (.message message)
  /-- To the session that the delivered message names. -/
  | delivered {id : SessionId} {s : Session} {message : Dictionary}
      (hid : sessionOf message = .ok id) (hstored : archive.Stores id s) :
      Gives archive limit (.delivered message) id s (.delivered message)

/-- The update is what the session to which a call gives an input answers, and the session keeps its
identifier. -/
def Call.AnsweredBy (archive : Archive) (limit : ℕ) (c : Call) (id : SessionId) (u : Update) :
    Prop :=
  ∃ s input, c.Gives archive limit id s input ∧ s.answer input = .ok u ∧ u.session.id = s.id

/-- Giving an input to a session and carrying out its answer. -/
lemma moves_carryOut (hamend : ∀ number update, r₀.amend number update = update)
    (hfaithful : a.archive.Faithful) (id : SessionId) (s : Session) (input : Session.Input) :
    Moves r₀.Stands (do apply id (← answer (s.answer input))) a
      (Ending a fun t a' => ∃ u, (s.answer input = .ok u ∧ u.session.id = s.id) ∧
        t = u.session ∧ a' = a.settle r₀.config id u) := by
  obtain ⟨u, hu, hstep, -⟩ := s.answer_step input
  rw [hu]
  obtain ⟨previous, hread, hprevious⟩ := hfaithful.exists_read id
  refine (moves_answer hamend u).then ((moves_apply hread u).imp fun result a' h => ?_)
  rw [Account.putBack_settle hprevious] at h
  exact h.ending.imp fun t a' ht => ⟨u, ⟨rfl, hstep.id_eq⟩, ht⟩

/-- Giving an input to a stored session. -/
lemma moves_give (hamend : ∀ number update, r₀.amend number update = update)
    (hfaithful : a.archive.Faithful) (id : SessionId) (input : Session.Input) :
    Moves r₀.Stands (give id input) a
      (Ending a fun t a' => ∃ u, (∃ s, a.archive.Stores id s ∧ s.answer input = .ok u ∧
        u.session.id = s.id) ∧ t = u.session ∧ a' = a.settle r₀.config id u) := by
  refine (reads_load hfaithful id).then fun s hs => ?_
  refine (moves_carryOut hamend hfaithful id s input).imp fun result a' h => ?_
  exact h.imp fun t a' ⟨u, hu, ht⟩ => ⟨u, ⟨s, hs, hu⟩, ht⟩

/-- Creating a session. -/
lemma moves_create (hamend : ∀ number update, r₀.amend number update = update)
    (hfaithful : a.archive.Faithful) (s : Session) (action : Session.LocalAction) :
    Moves r₀.Stands (create s action) a
      (Ending a fun t a' => ∃ u, (a.archive.get? s.id = none ∧ s.answer (.act action) = .ok u ∧
        u.session.id = s.id) ∧ t = u.session ∧ a' = a.settle r₀.config s.id u) := by
  refine (reads_read hfaithful s.id).then fun d? hread => ?_
  cases d? with
  | some d => exact moves_throw (.stopped _ a.failed)
  | none =>
    have hnone : a.archive.get? s.id = none := by
      obtain ⟨previous, hread', hget⟩ := hfaithful.exists_read s.id
      cases hread.symm.trans hread'
      exact hget
    refine (moves_tell _).then ((moves_carryOut hamend hfaithful s.id s (.act action)).imp
      fun result a' h => ?_)
    exact h.imp fun t a' ⟨u, hu, ht⟩ => ⟨u, ⟨hnone, hu⟩, ht⟩

/-- Making a call. -/
theorem moves_call (hamend : ∀ number update, r₀.amend number update = update)
    (hfaithful : a.archive.Faithful) (c : Call) :
    Moves r₀.Stands c.toRelaying a
      (Ending a fun t a' => ∃ id u, c.AnsweredBy a.archive r₀.config.maxMessageSize id u ∧
        t = u.session ∧ a' = a.settle r₀.config id u) := by
  have hgive : ∀ id input, (∀ s, a.archive.Stores id s →
      c.Gives a.archive r₀.config.maxMessageSize id s input) →
        Moves r₀.Stands (give id input) a
          (Ending a fun t a' => ∃ id u, c.AnsweredBy a.archive r₀.config.maxMessageSize id u ∧
            t = u.session ∧ a' = a.settle r₀.config id u) := by
    intro id input hgives
    refine (moves_give hamend hfaithful id input).imp fun result a' h => ?_
    exact h.imp fun t a' ⟨u, ⟨s, hs, hu⟩, ht⟩ => ⟨id, u, ⟨s, input, hgives s hs, hu⟩, ht⟩
  cases c with
  | create s action =>
    refine (moves_create hamend hfaithful s action).imp fun result a' h => ?_
    exact h.imp fun t a' ⟨u, ⟨hnone, hu⟩, ht⟩ => ⟨s.id, u, ⟨s, _, .create hnone, hu⟩, ht⟩
  | perform id action => exact hgive id (.act action) fun _ hs => .perform hs
  | receive message =>
    exact (reads_ofWire _).then fun id hid => hgive id (.message message) fun _ hs =>
      .receive hid hs
  | receiveBytes bytes =>
    refine moves_get fun r hr => ?_
    rw [hr.config_eq]
    exact (reads_ofWire _).then fun message hmessage => (reads_ofWire _).then fun id hid =>
      hgive id (.message message) fun _ hs => .receiveBytes hmessage hid hs
  | delivered message =>
    exact (reads_ofWire _).then fun id hid => hgive id (.delivered message) fun _ hs =>
      .delivered hid hs

/-! ### Atomic calls -/

/-- An archive holds what an update leaves of the session under an identifier: nothing if the
session is dropped, and its encoded form otherwise; and all else as another archive does. -/
def Leaves (config : Config) (id : SessionId) (u : Update) (a a' : Archive) : Prop :=
  (a'.get? id = if config.drops u then none else some u.session.toDictionary.encode) ∧
    ∀ id', id' ≠ id → a'.get? id' = a.get? id'

/-- A call of the relay `r` comes to a result and the relay `r'`, and does all of what a session
answers or nothing. -/
structure Atomic (r : Relay) (c : Call) (result : Except Error Session) (r' : Relay) : Prop where
  /-- A call that stops with an error publishes nothing. -/
  events_of_error : ∀ e, result = .error e → r'.events = r.events
  /-- It leaves the store as it was, octet for octet, unless a message is refused and the operation
  by which the store gets back what it held. -/
  archive_of_error : ∀ e, result = .error e → ¬ (r.RouteFails r' ∧ r.WriteFails r') →
    r'.store.archive = r.store.archive
  /-- If both are refused the error is one of the store.  The store then holds what it would hold
  if nothing had been refused, so what is refused is the second of two operations, the one that
  gives it back what it held. -/
  of_failures : ∀ e, result = .error e → r.RouteFails r' → r.WriteFails r' →
    (∃ cause, e = .store cause) ∧
      ∃ id u, c.AnsweredBy r.store.archive r.config.maxMessageSize id u ∧
        Leaves r.config id u r.store.archive r'.store.archive
  /-- It hands nothing over unless a message is refused. -/
  sent_of_error : ∀ e, result = .error e → ¬ r.RouteFails r' → r'.outbox.sent = r.outbox.sent
  /-- A call that succeeds hands over every message of the answer once and in order, publishes every
  event once and in order, and leaves the new session in the store, or nothing if it is dropped. -/
  of_ok : ∀ t, result = .ok t →
    ∃ id u, c.AnsweredBy r.store.archive r.config.maxMessageSize id u ∧ t = u.session ∧
      r'.outbox.sent = r.outbox.sent ++ u.envelopes ∧ r'.events = r.events ++ u.events ∧
        Leaves r.config id u r.store.archive r'.store.archive

/-- What is settled is what the update leaves. -/
lemma leaves_settle (config : Config) (id : SessionId) (u : Update) (a : Account) :
    Leaves config id u a.archive (a.settle config id u).archive := by
  unfold Leaves Account.settle
  split_ifs with hdrops
  · simp only [Archive.delete, Ascending.get?_erase, if_true, true_and]
    exact fun id' hid => if_neg hid
  · simp only [Archive.write, OrderedMap.get?_insert, if_true, true_and]
    exact fun id' hid => if_neg hid

/-- An ending says what an atomic call may come to. -/
lemma Stands.atomic {r' : Relay} {c : Call} {result : Except Error Session}
    (h : r.Stands a r')
    (hending : Ending r.account (fun t a' => ∃ id u,
      c.AnsweredBy r.store.archive r.config.maxMessageSize id u ∧ t = u.session ∧
        a' = r.account.settle r.config id u) result a) :
    r.Atomic c result r' := by
  cases hending with
  | done hdone =>
    obtain ⟨id, u, hanswered, rfl, rfl⟩ := hdone
    refine ⟨nofun, nofun, nofun, nofun, fun t ht => ?_⟩
    cases ht
    refine ⟨id, u, hanswered, rfl, h.sent_eq, h.events_eq, ?_⟩
    rw [h.archive_eq]
    exact leaves_settle r.config id u r.account
  | stopped e failed =>
    have hroute : ¬ r.RouteFails r' := fun hfails =>
      Bool.false_ne_true (h.routeFailed_iff.mpr hfails)
    exact ⟨fun _ _ => h.events_eq, fun _ _ _ => h.archive_eq,
      fun _ _ hfails => absurd hfails hroute, fun _ _ _ => h.sent_eq, nofun⟩
  | restored e sent =>
    have hroute : r.RouteFails r' := h.routeFailed_iff.mp rfl
    have hwrite : ¬ r.WriteFails r' := fun ⟨operation, _, hfails⟩ =>
      Bool.false_ne_true ((h.failed_iff operation).mpr hfails)
    exact ⟨fun _ _ => h.events_eq, fun _ _ _ => h.archive_eq,
      fun _ _ _ hfails => absurd hfails hwrite, fun _ _ hfails => absurd hroute hfails, nofun⟩
  | @stuck _ _ hdone operation hwrites e sent =>
    have hroute : r.RouteFails r' := h.routeFailed_iff.mp rfl
    have hwrite : r.WriteFails r' :=
      ⟨operation, hwrites, (h.failed_iff operation).mp (Account.failed_fail_self _ _)⟩
    obtain ⟨id, u, hanswered, -, rfl⟩ := hdone
    refine ⟨fun _ _ => h.events_eq, fun _ _ hfails => absurd ⟨hroute, hwrite⟩ hfails,
      fun _ he _ _ => ?_, fun _ _ hfails => absurd hroute hfails, nofun⟩
    cases he
    refine ⟨⟨e, rfl⟩, id, u, hanswered, ?_⟩
    rw [h.archive_eq]
    exact leaves_settle r.config id u r.account

/-- A call of a relay whose store holds what was put there and can be read is atomic, whatever is
refused to the relay and however it is set up. -/
theorem atomic_call (hamend : ∀ number update, r.amend number update = update)
    (hlegible : r.store.archive.Legible) (c : Call) : r.Atomic c (r.call c).1 (r.call c).2 := by
  obtain ⟨a, hstands, hending⟩ :=
    moves_call (a := r.account) hamend hlegible.faithful c r r.stands_account
  exact hstands.atomic hending

/-! ### A response that can neither be passed on nor given back -/

/-- A relay that has sent the requests to Alice and Bob, whose transport refuses the first message
and whose store refuses the second time to store a session. -/
def refusing : Relay where
  store :=
    { archive := Archive.empty.write Session.aliceAndBob.id
        (Session.aliceAndBob.enter .awaitResponses).toDictionary
      refuses := fun operation number => operation = .put ∧ number = 2 }
  outbox := { refuses := fun number => number = 1 }

/-- The session of the relay can be read. -/
lemma legible_refusing : refusing.store.archive.Legible := by
  have hstorable : (Session.aliceAndBob.enter .awaitResponses).Storable := by
    intro side
    rw [Session.contact_enter]
    exact storable_aliceAndBob side
  exact Archive.legible_empty.write _ (by decide +kernel)
    (Session.decode_encode_toDictionary hstorable)

/-- The response of Alice is refused, and so is giving the store back what it held. -/
theorem atomic_refusing :
    ((∀ number update, refusing.amend number update = update) ∧ refusing.store.archive.Legible) ∧
      let c : Call := .receive (Session.sampleResponse .first).toDictionary
      (refusing.call c).1 = .error (.store (.refused .put 2)) ∧
        refusing.Atomic c (refusing.call c).1 (refusing.call c).2 :=
  ⟨⟨fun _ _ => rfl, legible_refusing⟩, by decide +kernel,
    atomic_call (fun _ _ => rfl) legible_refusing _⟩

end Relay

end Introduction
