import Introduction.Proofs.Relay.Registry
import Introduction.Proofs.Session.Course

/-!
# Runs of a relay

Sequences of calls of a relay that starts with nothing stored.

If nothing is refused, such a run cannot be told from a run on `Books`, which keep the sessions as
values and never encode anything (`results_eq_books`): it returns the same results, hands over the
same messages, publishes the same events, and the same sessions are read back from it.

If the transport refuses messages, the calls that fail over it might as well not have been made
(`recovers_of_refusals`): the run without them and without refusals returns the same results for the other
calls and leaves the same octets and the same events behind.  What the failed calls leave is a
proper prefix of the messages that they were to send.
-/

namespace Introduction

/-! ### Sequences of calls -/

namespace Calls

variable {σ γ ρ : Type} (step : σ → γ → ρ × σ)

/-- What is left after calls that are made one after the other. -/
def after (s : σ) (calls : List γ) : σ := calls.foldl (fun s c => (step s c).2) s

/-- The results of calls that are made one after the other. -/
def results (s : σ) : List γ → List ρ
  | [] => []
  | c :: calls => (step s c).1 :: results (step s c).2 calls

@[simp] lemma after_cons (s : σ) (c : γ) (calls : List γ) :
    after step s (c :: calls) = after step (step s c).2 calls := rfl

end Calls

/-- A registry, with what was sent and published from it. -/
structure Books where
  /-- The sessions. -/
  sessions : Registry := Registry.empty
  /-- Messages sent, in order. -/
  sent : List Envelope := []
  /-- Events published, in order. -/
  events : List Event := []

/-- Makes a call on books. -/
def Books.call (config : Relay.Config) (b : Books) (c : Relay.Call) :
    Except Relay.Error Session × Books :=
  let o := b.sessions.serve config c
  (o.result, ⟨o.sessions, b.sent ++ o.envelopes, b.events ++ o.events⟩)

namespace Relay

variable {α : Type} {faults : Faults} {l l' : Ledger} {m : Registry} {r : Relay}

/-! ### Where nothing is refused -/

/-- A call is not disturbed where nothing is refused. -/
lemma Disturbed.eq_done {x y : Except Error α} {l₁ : Ledger} (h : Disturbed faults l l' x y l₁)
    (hstore : ¬ faults.HitStore) (htransport : ¬ faults.HitTransport) : y = x ∧ l₁ = l' := by
  cases h with
  | done => exact ⟨rfl, rfl⟩
  | refused hhit => exact absurd hhit hstore
  | restored hhit => exact absurd hhit htransport
  | stuck hhit => exact absurd hhit hstore

/-- A call that only the store could refuse succeeds where nothing is refused. -/
lemma Tries.outcome_eq {call : Relaying α} {x : α} (h : Tries call .none l x l')
    (hr : r.Bears .none l) : (outcome call r).1 = .ok x := by
  obtain ⟨l₁, -, ⟨hx, -⟩ | ⟨hstore, -⟩⟩ := h r hr
  · exact hx
  · exact absurd hstore (Faults.not_hitStore _)

/-- A call of a relay that stores a registry, where nothing is refused. -/
lemma Bears.call_of_none (hr : r.Bears .none l) (hm : m.Sound) (hl : l.archive = m.archive)
    (c : Call) :
    (r.call c).1 = (m.serve l.config c).result ∧
      (r.call c).2.Bears .none (l.enter (m.serve l.config c)) := by
  obtain ⟨l', hr', hcomes⟩ := leads_call hm hl c r hr
  obtain ⟨hresult, rfl⟩ :=
    hcomes.eq_done (Faults.not_hitStore _) Faults.not_hitTransport_none
  exact ⟨hresult, hr'⟩

/-- A relay shows what is in books. -/
structure ReadsAs (r : Relay) (b : Books) : Prop where
  /-- The same messages were handed over. -/
  sent_eq : r.outbox.sent = b.sent
  /-- The same events were published. -/
  events_eq : r.events = b.events
  /-- The same session is found under every identifier. -/
  session?_eq : ∀ id, (outcome (session? id) r).1 = .ok (b.sessions.get? id)
  /-- The same sessions are listed. -/
  sessions_eq : (outcome sessions r).1 = .ok b.sessions.values

/-- A relay that is refused nothing stores the registry in books, and has sent and published what is
in them. -/
structure Follows (r : Relay) (config : Config) (b : Books) : Prop where
  sound : b.sessions.Sound
  bears : r.Bears .none ⟨config, b.sessions.archive, b.sent, b.events⟩

/-- A relay shows what is in the books that it follows. -/
lemma Follows.readsAs {config : Config} {b : Books} (h : r.Follows config b) : r.ReadsAs b :=
  ⟨h.bears.sent_eq, h.bears.events_eq,
    fun id => (tries_session? h.sound rfl id).outcome_eq h.bears,
    (tries_sessions h.sound rfl).outcome_eq h.bears⟩

/-- A relay follows books over a call, which has the same result on both. -/
lemma Follows.call {config : Config} {b : Books} (h : r.Follows config b) {c : Call}
    (hc : c.Storable) :
    (r.call c).1 = (b.call config c).1 ∧ (r.call c).2.Follows config (b.call config c).2 := by
  obtain ⟨hresult, hbears⟩ := h.bears.call_of_none h.sound rfl c
  exact ⟨hresult, (h.sound.serves c).sound h.sound fun _ _ _ => hc.of_creates, hbears⟩

/-- A relay with nothing stored follows empty books. -/
lemma follows_empty (config : Config) : ({ config } : Relay).Follows config {} :=
  ⟨Registry.sound_empty, rfl, rfl, rfl, fun _ _ => rfl, rfl, rfl, rfl, rfl⟩

/-- A relay follows books over a sequence of calls. -/
lemma Follows.calls {config : Config} {b : Books} (h : r.Follows config b) {calls : List Call}
    (hcalls : ∀ c ∈ calls, c.Storable) :
    Calls.results Relay.call r calls = Calls.results (Books.call config) b calls ∧
      (Calls.after Relay.call r calls).Follows config
        (Calls.after (Books.call config) b calls) := by
  induction calls generalizing r b with
  | nil => exact ⟨rfl, h⟩
  | cons c calls ih =>
    obtain ⟨hresult, hnext⟩ := h.call (hcalls c List.mem_cons_self)
    obtain ⟨hresults, hafter⟩ := ih hnext fun c' hc' => hcalls c' (List.mem_cons_of_mem c hc')
    refine ⟨?_, hafter⟩
    rw [Calls.results, Calls.results, hresult, hresults]

/-- A relay that is refused nothing cannot be told from one that keeps sessions as values: whatever
it is asked for, it returns the same results, sends and publishes the same, and gives the same
sessions back. -/
theorem results_eq_books (config : Config) {calls : List Call}
    (hcalls : ∀ c ∈ calls, c.Storable) :
    Calls.results Relay.call { config } calls = Calls.results (Books.call config) {} calls ∧
      (Calls.after Relay.call { config } calls).ReadsAs
        (Calls.after (Books.call config) {} calls) := by
  obtain ⟨hresults, hafter⟩ := (follows_empty config).calls hcalls
  exact ⟨hresults, hafter.readsAs⟩

/-- The contacts of the sample session can be stored. -/
lemma storable_aliceAndBob : Session.aliceAndBob.Storable := by
  intro side
  cases side <;> unfold Contact.Storable Value.WritableText <;> decide

/-- The sample session is created, given a response twice and given up. -/
def sampleCalls : List Call :=
  [.create Session.aliceAndBob (.request [1] [2] (some "hi")),
    .receive (Session.sampleResponse .first).toDictionary,
    .receive (Session.sampleResponse .first).toDictionary,
    .perform Session.aliceAndBob.id .abort]

/-- The sample calls create a storable session only. -/
lemma storable_sampleCalls : ∀ c ∈ sampleCalls, c.Storable := by
  intro c hc
  simp only [sampleCalls, List.mem_cons, List.not_mem_nil, or_false] at hc
  rcases hc with rfl | rfl | rfl | rfl
  · exact storable_aliceAndBob
  all_goals exact trivial

/-- The sample calls on a relay and on books. -/
theorem results_sampleCalls :
    (∀ c ∈ sampleCalls, c.Storable) ∧
      Calls.results Relay.call {} sampleCalls = Calls.results (Books.call {}) {} sampleCalls ∧
        (Calls.after Relay.call {} sampleCalls).ReadsAs
          (Calls.after (Books.call {}) {} sampleCalls) :=
  ⟨storable_sampleCalls, results_eq_books {} storable_sampleCalls⟩

/-! ### Where the transport refuses messages -/

/-- A call of a run, with what came of it. -/
structure Entry where
  /-- The call. -/
  call : Call
  /-- Its result. -/
  result : Except Error Session
  /-- The messages that were handed over in the call. -/
  sent : List Envelope
  /-- The messages that the call was to send: those handed over if the transport refuses none. -/
  meant : List Envelope

/-- Whether a call failed over a message that was refused. -/
def Entry.isRefused (e : Entry) : Bool :=
  match e.result with
  | .error (.route _) => true
  | _ => false

/-- The messages that are handed over in a call. -/
def sentOver (r : Relay) (c : Call) : List Envelope :=
  (r.call c).2.outbox.sent.drop r.outbox.sent.length

/-- The relay with a transport that refuses nothing from now on. -/
def unrefused (r : Relay) : Relay := { r with outbox := { r.outbox with refuses := fun _ => false } }

/-- Makes a call, and says what came of it. -/
def record (r : Relay) (c : Call) : Entry × Relay :=
  (⟨c, (r.call c).1, r.sentOver c, r.unrefused.sentOver c⟩, (r.call c).2)

/-- What came of calls that are made one after the other. -/
abbrev log (r : Relay) (calls : List Call) : List Entry := Calls.results record r calls

/-- The relay after calls that are made one after the other. -/
abbrev afterAll (r : Relay) (calls : List Call) : Relay := Calls.after record r calls

/-- What is handed over in a call is what it adds to the ledger. -/
lemma Bears.sentOver_eq {c : Call} {sent : List Envelope} (hr : r.Bears faults l)
    (hr' : (r.call c).2.Bears faults l') (hsent : l'.sent = l.sent ++ sent) :
    r.sentOver c = sent := by
  rw [sentOver, hr'.sent_eq, hsent, hr.sent_eq, List.drop_left]

/-- The relay with a transport that refuses nothing has the same ledger. -/
lemma Bears.unrefused (hr : r.Bears faults l) :
    r.unrefused.Bears ⟨faults.store, fun _ => false⟩ l :=
  { hr with transport_eq := rfl }

/-- A call is to send what it comes to send when nothing is refused. -/
lemma Bears.meant_eq (hr : r.Bears faults l) (hstore : ¬ faults.HitStore) (hm : m.Sound)
    (hl : l.archive = m.archive) (c : Call) :
    r.unrefused.sentOver c = (m.serve l.config c).envelopes := by
  obtain ⟨l', hr', hcomes⟩ := leads_call hm hl c _ hr.unrefused
  have htransport : ¬ Faults.HitTransport ⟨faults.store, fun _ => false⟩ := by
    rintro ⟨number, h⟩
    cases h
  obtain ⟨-, rfl⟩ := hcomes.eq_done hstore htransport
  exact hr.unrefused.sentOver_eq hr' rfl

/-- A call on a store that refuses nothing comes to what it comes to on the registry, or fails over
a refused message, and then all that it leaves is a proper prefix of what it was to send. -/
theorem Bears.record_cases (hr : r.Bears faults l) (hstore : ¬ faults.HitStore) (hm : m.Sound)
    (hl : l.archive = m.archive) (c : Call) :
    ((r.record c).1 = ⟨c, (m.serve l.config c).result, (m.serve l.config c).envelopes,
        (m.serve l.config c).envelopes⟩ ∧
      (r.record c).2.Bears faults (l.enter (m.serve l.config c))) ∨
    ∃ e sent rest, faults.HitTransport ∧ rest ≠ [] ∧
      (m.serve l.config c).envelopes = sent ++ rest ∧ (r.record c).1 =
        ⟨c, .error (.route e), sent, sent ++ rest⟩ ∧
      (r.record c).2.Bears faults { l with sent := l.sent ++ sent } := by
  have hmeant := hr.meant_eq hstore hm hl c
  obtain ⟨l', hr', hcomes⟩ := leads_call hm hl c r hr
  change (r.call c).2.Bears faults l' at hr'
  have hresult : (outcome c.toRelaying r).1 = (r.call c).1 := rfl
  generalize hx : (outcome c.toRelaying r).1 = x at hcomes
  unfold record
  rw [hmeant, ← hresult, hx]
  cases hcomes with
  | done => exact .inl ⟨by rw [hr.sentOver_eq hr' rfl], hr'⟩
  | refused hhit => exact absurd hhit hstore
  | stuck hhit => exact absurd hhit hstore
  | @restored htransport e sent rest hsplit hrest =>
    have henvelopes : (m.serve l.config c).envelopes = sent ++ rest :=
      List.append_cancel_left hsplit
    refine .inr ⟨e, sent, rest, htransport, hrest, henvelopes, ?_, hr'⟩
    rw [hr.sentOver_eq hr' rfl, henvelopes]

/-- A call where nothing is refused comes to what it comes to on the registry. -/
lemma Bears.record_of_none (hr : r.Bears .none l) (hm : m.Sound) (hl : l.archive = m.archive)
    (c : Call) :
    (r.record c).1 = ⟨c, (m.serve l.config c).result, (m.serve l.config c).envelopes,
        (m.serve l.config c).envelopes⟩ ∧
      (r.record c).2.Bears .none (l.enter (m.serve l.config c)) := by
  rcases hr.record_cases (Faults.not_hitStore _) hm hl c with h | ⟨e, sent, rest, htransport, -⟩
  · exact h
  · exact absurd htransport Faults.not_hitTransport_none

/-- A call that comes to what it comes to on a registry has not failed over a refused message. -/
lemma isRefused_eq_of_serves {config : Config} {fresh : Session → Session.Input → Session → Prop}
    {o : Outcome Session} (h : m.Serves config fresh o) (c : Call) (sent meant : List Envelope) :
    (Entry.mk c o.result sent meant).isRefused = false := by
  unfold Entry.isRefused
  dsimp only
  split
  · rename_i e he
    exact absurd (h.isInternal he) Bool.false_ne_true
  · rfl

/-- The entries of the calls that did not fail over a refused message. -/
def kept (log : List Entry) : List Entry := log.filter fun e => !e.isRefused

/-- A run can be told from the run of the calls that did not fail over a refused message, on another
relay, by the messages of the failed calls only. -/
structure Recovers (r r₀ : Relay) (calls : List Call) : Prop where
  /-- The other calls return the same and send the same. -/
  log_eq : r₀.log ((kept (r.log calls)).map (·.call)) = kept (r.log calls)
  /-- The same octets are stored. -/
  archive_eq : (r₀.afterAll ((kept (r.log calls)).map (·.call))).store.archive =
    (r.afterAll calls).store.archive
  /-- The same events are published. -/
  events_eq : (r₀.afterAll ((kept (r.log calls)).map (·.call))).events =
    (r.afterAll calls).events
  /-- What is handed over in the run is what is handed over in its calls, one after the other. -/
  sent_eq : (r.afterAll calls).outbox.sent = r.outbox.sent ++ (r.log calls).flatMap (·.sent)
  /-- And so it is in the other run. -/
  sent_kept_eq : (r₀.afterAll ((kept (r.log calls)).map (·.call))).outbox.sent =
    r₀.outbox.sent ++ (kept (r.log calls)).flatMap (·.sent)
  /-- What a failed call leaves is a proper prefix of what it was to send. -/
  prefix_of_isRefused : ∀ e ∈ r.log calls, e.isRefused → e.sent <+: e.meant ∧ e.sent ≠ e.meant

/-- A run recovers if it does after its first call, which does not fail and comes to the same on both
relays. -/
lemma Recovers.keep {r₀ : Relay} {c : Call} {calls : List Call}
    (h : (r.record c).2.Recovers (r₀.record c).2 calls) (heq : (r₀.record c).1 = (r.record c).1)
    (hrefused : (r.record c).1.isRefused = false)
    (hsent : (r.record c).2.outbox.sent = r.outbox.sent ++ (r.record c).1.sent)
    (hsent₀ : (r₀.record c).2.outbox.sent = r₀.outbox.sent ++ (r₀.record c).1.sent) :
    r.Recovers r₀ (c :: calls) := by
  have hkept : kept (r.log (c :: calls)) = (r.record c).1 :: kept ((r.record c).2.log calls) :=
    List.filter_cons_of_pos (by rw [hrefused]; rfl)
  have hcalls : (kept (r.log (c :: calls))).map (·.call) =
      c :: (kept ((r.record c).2.log calls)).map (·.call) := by
    rw [hkept]
    rfl
  refine ⟨?_, ?_, ?_, ?_, ?_, fun e he => ?_⟩
  · rw [hcalls, hkept, log, Calls.results, heq]
    exact congrArg _ h.log_eq
  · rw [hcalls]
    exact h.archive_eq
  · rw [hcalls]
    exact h.events_eq
  · rw [log, Calls.results, List.flatMap_cons, ← List.append_assoc, ← hsent]
    exact h.sent_eq
  · rw [hcalls, hkept, List.flatMap_cons, ← List.append_assoc, ← heq, ← hsent₀]
    exact h.sent_kept_eq
  · rcases List.mem_cons.mp he with rfl | he
    · rw [hrefused]
      exact fun h => by cases h
    · exact h.prefix_of_isRefused e he

/-- A run recovers if it does after its first call, which fails over a refused message. -/
lemma Recovers.skip {r₀ : Relay} {c : Call} {calls : List Call}
    (h : (r.record c).2.Recovers r₀ calls) (hrefused : (r.record c).1.isRefused = true)
    (hsent : (r.record c).2.outbox.sent = r.outbox.sent ++ (r.record c).1.sent)
    (hproper : (r.record c).1.sent <+: (r.record c).1.meant ∧
      (r.record c).1.sent ≠ (r.record c).1.meant) :
    r.Recovers r₀ (c :: calls) := by
  have hkept : kept (r.log (c :: calls)) = kept ((r.record c).2.log calls) :=
    List.filter_cons_of_neg (by rw [hrefused]; exact Bool.false_ne_true)
  refine ⟨?_, ?_, ?_, ?_, ?_, fun e he => ?_⟩
  · rw [hkept]
    exact h.log_eq
  · rw [hkept]
    exact h.archive_eq
  · rw [hkept]
    exact h.events_eq
  · rw [log, Calls.results, List.flatMap_cons, ← List.append_assoc, ← hsent]
    exact h.sent_eq
  · rw [hkept]
    exact h.sent_kept_eq
  · rcases List.mem_cons.mp he with rfl | he
    · exact fun _ => hproper
    · exact h.prefix_of_isRefused e he

/-- Two relays store the same registry and have published the same events.  Neither store refuses
anything, and the second transport does not either. -/
structure Parallel (faults : Faults) (config : Config) (r r₀ : Relay) (m : Registry)
    (events : List Event) : Prop where
  sound : m.Sound
  bears : r.Bears faults ⟨config, m.archive, r.outbox.sent, events⟩
  bears₀ : r₀.Bears .none ⟨config, m.archive, r₀.outbox.sent, events⟩

/-- The run over a transport that refuses messages recovers from them: by induction on the calls,
where a failed call leaves the two relays parallel as they were. -/
lemma Parallel.recovers {config : Config} {r₀ : Relay} {events : List Event}
    (h : Parallel faults config r r₀ m events) (hstore : ¬ faults.HitStore) {calls : List Call}
    (hcalls : ∀ c ∈ calls, c.Storable) : r.Recovers r₀ calls := by
  induction calls generalizing r r₀ m events with
  | nil =>
    exact ⟨rfl, h.bears₀.archive_eq.trans h.bears.archive_eq.symm,
      h.bears₀.events_eq.trans h.bears.events_eq.symm, (List.append_nil _).symm,
      (List.append_nil _).symm, fun e he => by cases he⟩
  | cons c calls ih =>
    have hserves : m.Serves config _ _ := h.sound.serves c
    have hsound := hserves.sound h.sound fun _ _ _ => (hcalls c List.mem_cons_self).of_creates
    have hcalls' : ∀ c' ∈ calls, c'.Storable := fun c' hc' => hcalls c' (List.mem_cons_of_mem c hc')
    rcases h.bears.record_cases hstore h.sound rfl c with
      ⟨hentry, hbears⟩ | ⟨e, sent, rest, -, hrest, -, hentry, hbears⟩
    · obtain ⟨hentry₀, hbears₀⟩ := h.bears₀.record_of_none h.sound rfl c
      have hparallel : Parallel faults config (r.record c).2 (r₀.record c).2
          (m.serve config c).sessions (events ++ (m.serve config c).events) :=
        ⟨hsound, by rw [hbears.sent_eq]; exact hbears, by rw [hbears₀.sent_eq]; exact hbears₀⟩
      refine Recovers.keep (ih hparallel hcalls') (hentry₀.trans hentry.symm) ?_ ?_ ?_
      · rw [hentry]
        exact isRefused_eq_of_serves hserves c _ _
      · rw [hbears.sent_eq, hentry]
        rfl
      · rw [hbears₀.sent_eq, hentry₀]
        rfl
    · have hparallel : Parallel faults config (r.record c).2 r₀ m events :=
        ⟨h.sound, by rw [hbears.sent_eq]; exact hbears, h.bears₀⟩
      refine Recovers.skip (ih hparallel hcalls') ?_ ?_ ?_
      · rw [hentry]
        rfl
      · rw [hbears.sent_eq, hentry]
      · rw [hentry]
        exact ⟨List.prefix_append sent rest, fun h => hrest (List.self_eq_append_right.mp h)⟩

/-- A relay whose transport refuses messages, and whose store does not refuse anything, recovers
from every call that fails: the other calls come to the same as if it had not been made. -/
theorem recovers_of_refusals (config : Config) (refuses : ℕ → Bool) {calls : List Call}
    (hcalls : ∀ c ∈ calls, c.Storable) :
    ({ config, outbox := { refuses } } : Relay).Recovers { config } calls := by
  have hparallel : Parallel (.ofTransport refuses) config
      { config, outbox := { refuses } } { config } Registry.empty [] :=
    ⟨Registry.sound_empty, ⟨rfl, rfl, rfl, fun _ _ => rfl, rfl, rfl, rfl, rfl⟩,
      ⟨rfl, rfl, rfl, fun _ _ => rfl, rfl, rfl, rfl, rfl⟩⟩
  exact hparallel.recovers (Faults.not_hitStore refuses) hcalls

/-- The sample calls, where the first response is refused when it is passed on and then given
again. -/
theorem recovers_sampleCalls :
    (∀ c ∈ sampleCalls, c.Storable) ∧
      ({ outbox := { refuses := fun number => number = 3 } } : Relay).Recovers {} sampleCalls :=
  ⟨storable_sampleCalls, recovers_of_refusals {} (fun number => number = 3) storable_sampleCalls⟩

end Relay

end Introduction
