import Introduction.Proofs.Relay.Introducing
import Introduction.Proofs.Session.Outgoing

/-!
# Introductions that are given up

What holds of a session once an abort of it has been handed over, on a store that refuses nothing.

The abort to the second contact may be refused after the abort to the first was handed over.  The
store then gets the session back as it was before, and if it was live it goes on, and messages of it
are passed on, although one contact was told that it is given up.  Nor does an identifier say for
ever that a session is over: where sessions that are given up are deleted, an introduction may be
started under the same identifier again (`live_after_abort`).

Otherwise an introduction that is given up stays so (`lasts_of_abort_sent`): if the call that hands
an abort over succeeds, the session is aborted or deleted from then on, and neither a response nor
an ack of it is handed over any more, until an introduction is started under its identifier.  If the
call fails, the store is as it was before.
-/

namespace Introduction

/-! ### What messages belong to -/

/-- Whether the message in an envelope reads as a message of a session and of a kind. -/
def Envelope.carries (e : Envelope) (id : SessionId) (kind : Message.Kind) : Bool :=
  match Message.ofDictionary e.message with
  | .ok m => m.session = id && m.kind = kind
  | .error _ => false

variable {e : Envelope} {id : SessionId} {kind : Message.Kind}

/-- An envelope carries the message that it reads as. -/
lemma carries_iff {m : Message} (h : Message.ofDictionary e.message = .ok m) :
    e.carries id kind ↔ m.session = id ∧ m.kind = kind := by
  unfold Envelope.carries
  rw [h]
  simp

/-- No response and no ack of a session is among envelopes. -/
def Quiet (id : SessionId) (envelopes : List Envelope) : Prop :=
  ∀ e ∈ envelopes, ¬ e.carries id .response ∧ ¬ e.carries id .ack

/-- Quiet envelopes after quiet envelopes. -/
lemma Quiet.append {es es' : List Envelope} (h : Quiet id es) (h' : Quiet id es') :
    Quiet id (es ++ es') := by
  intro e he
  rcases List.mem_append.mp he with he | he
  · exact h e he
  · exact h' e he

namespace Session

variable {s t : Session} {input : Input} {envelopes : List Envelope} {events : List Event}

/-- An envelope with the wire form of a message carries the message. -/
lemma carries_envelopeTo_iff (s : Session) (side : Side) (m : Message) :
    (s.envelopeTo side m.toDictionary).carries id kind ↔ m.session = id ∧ m.kind = kind := by
  have hread : Message.ofDictionary (s.envelopeTo side m.toDictionary).message = .ok m.clamped :=
    m.ofDictionary_toDictionary
  rw [carries_iff hread, Message.session_clamped, Message.kind_clamped]

/-- A message that is passed on carries what it is. -/
lemma Hears.carries_forward_iff {side : Side} {d : Dictionary} {m : Message}
    (h : s.Hears side d m) : (s.forward side d).carries id kind ↔ s.id = id ∧ m.kind = kind := by
  rw [carries_iff h.reads_forward, Message.session_onChannel, Message.kind_onChannel, h.session_eq]

/-- What a message that is sent says about the step that sends it: it is a message of the session; a
request is sent over a local action and an abort if the introduction is given up; other messages are
passed on while the introduction goes on. -/
lemma Step.carries_cases (h : Step s input t envelopes events) (he : e ∈ envelopes)
    (hcarries : e.carries id kind) :
    s.id = id ∧ (kind = .request ∨ (kind = .abort ∧ t.state = .aborted) ∨
      ((kind = .response ∨ kind = .ack) ∧ s.isLive ∧ t.state ≠ .aborted ∧
        ∃ d, input = .message d)) := by
  cases h with
  | @start k₁ k₂ note hstate =>
    have hrequest : ∃ side r, r.session = s.id ∧
        e = s.envelopeTo side (Message.request r).toDictionary := by
      rcases List.mem_cons.mp he with rfl | he
      · exact ⟨.first, _, rfl, rfl⟩
      · rw [List.mem_singleton.mp he]
        exact ⟨.second, _, rfl, rfl⟩
    obtain ⟨side, r, hsession, rfl⟩ := hrequest
    obtain ⟨hid, hkind⟩ := (s.carries_envelopeTo_iff side _).mp hcarries
    exact ⟨hsession.symm.trans hid, .inl hkind.symm⟩
  | ignore _ => cases he
  | giveUp _ =>
    have habort : ∃ side, e = s.envelopeTo side (Message.abort (s.abortTo side)).toDictionary := by
      rcases List.mem_cons.mp he with rfl | he
      · exact ⟨.first, rfl⟩
      · rw [List.mem_singleton.mp he]
        exact ⟨.second, rfl⟩
    obtain ⟨side, rfl⟩ := habort
    obtain ⟨hid, hkind⟩ := (s.carries_envelopeTo_iff side _).mp hcarries
    exact ⟨hid, .inr (.inl ⟨hkind.symm, rfl⟩)⟩
  | @response side d r haccepts hstate =>
    rw [List.mem_singleton.mp he, haccepts.hears.carries_forward_iff] at hcarries
    obtain ⟨hid, hkind⟩ := hcarries
    refine ⟨hid, .inr (.inr ⟨.inl hkind.symm, haccepts.isLive fun _ => hstate, ?_, d, rfl⟩)⟩
    rw [state_record, state_enter, State.next_answer _ _ _ true]
    exact haccepts.next_ne_aborted
  | @ack side d a haccepts =>
    rw [List.mem_singleton.mp he, haccepts.hears.carries_forward_iff] at hcarries
    obtain ⟨hid, hkind⟩ := hcarries
    have hlive : s.isLive := haccepts.isLive fun hresponse => by cases hresponse
    exact ⟨hid, .inr (.inr ⟨.inr hkind.symm, hlive, haccepts.next_ne_aborted, d, rfl⟩)⟩
  | late _ _ => cases he

/-- A step sends a response or an ack of a session only if it is one of this session, which goes on,
over a message. -/
lemma Step.quiet (h : Step s input t envelopes events)
    (hno : s.isLive → t.state ≠ .aborted → (∃ d, input = .message d) → s.id ≠ id) :
    Quiet id envelopes := by
  have hkind : ∀ e ∈ envelopes, ∀ kind, e.carries id kind → kind = .request ∨ kind = .abort := by
    intro e he kind hcarries
    obtain ⟨hid, hrequest | ⟨habort, -⟩ | ⟨-, hlive, ht, hinput⟩⟩ := h.carries_cases he hcarries
    · exact .inl hrequest
    · exact .inr habort
    · exact absurd hid (hno hlive ht hinput)
  refine fun e he => ⟨fun hcarries => ?_, fun hcarries => ?_⟩
  · rcases hkind e he _ hcarries with h | h <;> cases h
  · rcases hkind e he _ hcarries with h | h <;> cases h

/-- A step that sends an abort of a session gives it up. -/
lemma Step.aborted_of_abort (h : Step s input t envelopes events) (he : e ∈ envelopes)
    (habort : e.carries id .abort) : id = t.id ∧ t.state = .aborted := by
  obtain ⟨hid, hrequest | ⟨-, ht⟩ | ⟨hkind, -⟩⟩ := h.carries_cases he habort
  · cases hrequest
  · exact ⟨by rw [h.id_eq, hid], ht⟩
  · rcases hkind with hkind | hkind <;> cases hkind

/-- A property of sessions that are over, which every step keeps. -/
structure Final (Q : Session → Prop) : Prop where
  not_isLive : ∀ s, Q s → ¬ s.isLive
  step : ∀ s input t envelopes events, Step s input t envelopes events → Q s → Q t

/-- A session that is over stays over. -/
lemma final_not_isLive : Final fun s => ¬ s.isLive :=
  ⟨fun _ h => h, fun _ _ _ _ _ hstep h ht => h (hstep.isLive_of_isLive ht)⟩

/-- A session that is given up stays given up. -/
lemma final_aborted : Final fun s => s.state = .aborted := by
  refine ⟨fun s h => ?_, fun s input t envelopes events hstep h => ?_⟩
  · exact fun hlive => (s.isLive_iff.mp hlive).2 h
  · rw [(hstep.eq_of_aborted h).1]
    exact h

end Session

/-! ### Calls on a registry -/

namespace Registry

variable {m : Registry} {config : Relay.Config} {next : SessionId} {t : Session}
  {o : Outcome Introducer.Reply} {Q : Session → Prop}

/-- Whatever is stored under an identifier has a property. -/
def Only (m : Registry) (id : SessionId) (Q : Session → Prop) : Prop :=
  ∀ s, m.get? id = some s → Q s

/-- Whatever is stored under an identifier keeps a property when a session is kept or dropped. -/
lemma only_keep (hm : id ≠ t.id → m.Only id Q) (ht : id = t.id → Q t) :
    (m.keep config t).Only id Q := by
  intro s hget
  rcases get?_keep_cases hget with ⟨hid, rfl⟩ | ⟨hid, hget⟩
  · exact ht hid
  · exact hm hid s hget

/-- A session that is over stays over in a call that does not start it again. -/
lemma Serves.only (h : m.Serves config (m.Introducible next) o) (hQ : Session.Final Q)
    (hm : m.Only id Q) (hnew : o.result ≠ .ok (.started id)) : o.sessions.Only id Q := by
  cases h with
  | refuse e he => exact hm
  | stored hget hstep =>
    refine only_keep (fun _ => hm) fun hid => hQ.step _ _ _ _ _ hstep (hm _ ?_)
    rw [hid, hstep.id_eq]
    exact hget
  | created hget hfresh hstep =>
    refine only_keep (fun _ => hm) fun hid => absurd ?_ hnew
    rw [hid, hstep.id_eq, hfresh.reply_eq]

/-- What a call sends of a session that is over is neither a response nor an ack. -/
lemma Serves.quiet (h : m.Serves config (m.Introducible next) o) (hQ : Session.Final Q)
    (hm : m.Only id Q) : Quiet id o.envelopes := by
  cases h with
  | refuse e he => exact fun e he => by cases he
  | stored hget hstep =>
    refine hstep.quiet fun hlive _ _ hid => hQ.not_isLive _ (hm _ ?_) hlive
    rw [← hid]
    exact hget
  | created hget hfresh hstep =>
    refine hstep.quiet fun _ _ hinput _ => ?_
    obtain ⟨d, hd⟩ := hinput
    obtain ⟨publicKey₁, publicKey₂, note, hrequest⟩ := hfresh.input_eq
    cases hd.symm.trans hrequest

/-- A call that sends an abort of a session gives it up, and sends no response and no ack of it. -/
lemma Serves.of_abort (h : m.Serves config (m.Introducible next) o) (he : e ∈ o.envelopes)
    (habort : e.carries id .abort) :
    (∃ x, o.result = .ok x) ∧ o.sessions.Only id (fun s => s.state = .aborted) ∧
      Quiet id o.envelopes := by
  cases h with
  | refuse e he' => cases he
  | stored hget hstep =>
    obtain ⟨hid, ht⟩ := hstep.aborted_of_abort he habort
    exact ⟨⟨_, rfl⟩, only_keep (fun hne => absurd hid hne) fun _ => ht,
      hstep.quiet fun _ hne => absurd ht hne⟩
  | created hget hfresh hstep =>
    obtain ⟨hid, ht⟩ := hstep.aborted_of_abort he habort
    exact ⟨⟨_, rfl⟩, only_keep (fun hne => absurd hid hne) fun _ => ht,
      hstep.quiet fun _ hne => absurd ht hne⟩

end Registry

/-! ### Runs -/

namespace Introducer

variable {i : Introducer} {config : Relay.Config} {faults : Relay.Faults} {m : Registry}
  {Q : Session → Prop}

/-- Nothing is stored under an identifier, or a session with a property. -/
def StoresOnly (i : Introducer) (id : SessionId) (Q : Session → Prop) : Prop :=
  i.relay.store.archive.get? id = none ∨ ∃ s, i.stored id = some s ∧ Q s

/-- From now on a session is over, unless an introduction is started under its identifier: whatever
calls are made, it is deleted or has a property, and no response and no ack of it is handed over. -/
def Lasts (i : Introducer) (id : SessionId) (Q : Session → Prop) : Prop :=
  ∀ later : List Call, (∀ c ∈ later, c.Storable) →
    .ok (.started id) ∉ Calls.results call i later →
      (Calls.after call i later).StoresOnly id Q ∧
        Quiet id ((Calls.after call i later).relay.outbox.sent.drop i.relay.outbox.sent.length)

/-- What is stored is what is in the registry. -/
lemma Keeps.storesOnly_iff (h : i.Keeps config faults m) : i.StoresOnly id Q ↔ m.Only id Q := by
  unfold StoresOnly Registry.Only
  rw [h.stored_eq, h.bears.archive_eq, Registry.archive, Ascending.get?_map]
  cases m.get? id <;> simp

/-- What is over when it is stored stays so: by induction on the calls, where a call that fails
leaves the registry as it is, and what was handed over in it is a beginning of what it was to
send. -/
lemma Keeps.lasts (h : i.Keeps config faults m) (hstore : ¬ faults.HitStore)
    (hQ : Session.Final Q) (hm : m.Only id Q) : i.Lasts id Q := by
  intro later hlater hnew
  suffices hrun : (Calls.after Introducer.call i later).StoresOnly id Q ∧
      ∃ sent, (Calls.after Introducer.call i later).relay.outbox.sent =
        i.relay.outbox.sent ++ sent ∧ Quiet id sent by
    obtain ⟨hstored, sent, hsent, hquiet⟩ := hrun
    rw [hsent, List.drop_left]
    exact ⟨hstored, hquiet⟩
  induction later generalizing i m with
  | nil =>
    exact ⟨h.storesOnly_iff.mpr hm, [], (List.append_nil _).symm, fun e he => by cases he⟩
  | cons c later ih =>
    have hc := hlater c List.mem_cons_self
    obtain ⟨hnew₁, hnew₂⟩ := not_or.mp fun h => hnew (List.mem_cons.mpr h)
    have hserves : m.Serves config (m.Introducible (i.ids i.drawn)) _ := h.sound.serves_respond hc
    have hquiet := hserves.quiet hQ hm
    obtain ⟨m', hkeeps, hsent, hends⟩ := h.call hc
    obtain ⟨hm', hover⟩ : m'.Only id Q ∧ Quiet id (i.sentOver c) := by
      rcases hends.cases_of_not_hitStore hstore with ⟨hx, rfl, heq⟩ | ⟨cause, -, rfl, hbegin⟩
      · rw [heq]
        refine ⟨hserves.only hQ hm fun hstarted => hnew₁ ?_, hquiet⟩
        rw [hx, hstarted]
      · exact ⟨hm, fun e he => hquiet e (hbegin.subset he)⟩
    obtain ⟨hstored, sent, hrest, hquiet'⟩ :=
      ih hkeeps hm' (fun c' hc' => hlater c' (List.mem_cons_of_mem c hc')) hnew₂
    refine ⟨hstored, i.sentOver c ++ sent, ?_, hover.append hquiet'⟩
    rw [Calls.after_cons, hrest, hsent, List.append_assoc]

/-- Once an introducer, whose store refuses nothing, has handed an abort of a session over, no
response and no ack of it is handed over in the same call.  If the call succeeds, the session is
aborted or deleted from then on and no response and no ack of it is handed over, until an
introduction is started under its identifier.  If the call fails, the transport refused a message,
and what is stored is what was stored before; a session that was over then stays over. -/
theorem lasts_of_abort_sent (config : Relay.Config) (refuses : ℕ → Bool) (ids : ℕ → SessionId)
    {before : List Call} {c : Call} (hbefore : ∀ c ∈ before, c.Storable) (hc : c.Storable) :
    let i := Calls.after call (vacant config (.ofTransport refuses) ids) before
    (∃ e ∈ i.sentOver c, e.carries id .abort) →
      Quiet id (i.sentOver c) ∧
        ((∃ x, (i.call c).1 = .ok x ∧ (i.call c).2.Lasts id fun s => s.state = .aborted) ∨
          ∃ cause, (i.call c).1 = .error (.route cause) ∧
            (i.call c).2.relay.store.archive = i.relay.store.archive ∧
              (i.StoresOnly id (fun s => ¬ s.isLive) →
                (i.call c).2.Lasts id fun s => ¬ s.isLive)) := by
  rintro i ⟨e, he, habort⟩
  have hstore := Relay.Faults.not_hitStore refuses
  obtain ⟨m, h, -⟩ : ∃ m, i.Keeps config _ m ∧ True :=
    (keeps_vacant config (.ofTransport refuses) ids).after (fun _ _ _ _ _ _ => trivial) trivial
      hbefore
  have hserves : m.Serves config (m.Introducible (i.ids i.drawn)) _ := h.sound.serves_respond hc
  obtain ⟨m', hkeeps, -, hends⟩ := h.call hc
  rcases hends.cases_of_not_hitStore hstore with ⟨hx, rfl, heq⟩ | ⟨cause, hx, rfl, hbegin⟩
  · rw [heq] at he ⊢
    obtain ⟨⟨x, hok⟩, haborted, hquiet⟩ := hserves.of_abort he habort
    exact ⟨hquiet, .inl ⟨x, hx.trans hok, hkeeps.lasts hstore Session.final_aborted haborted⟩⟩
  · obtain ⟨-, -, hquiet⟩ := hserves.of_abort (hbegin.subset he) habort
    refine ⟨fun e he => hquiet e (hbegin.subset he), .inr ⟨cause, hx, ?_, fun hover => ?_⟩⟩
    · rw [hkeeps.bears.archive_eq, h.bears.archive_eq]
    · exact hkeeps.lasts hstore Session.final_not_isLive (h.storesOnly_iff.mp hover)

/-- An introducer that was asked to introduce Alice and Bob. -/
def introducing (config : Relay.Config) (refuses : ℕ → Bool) : Introducer :=
  Calls.after call (vacant config (.ofTransport refuses) fun _ => .replicate 7)
    [introduceAliceAndBob]

/-- The introduction of Alice and Bob is given up. -/
def giveUp : Call := .abort (.replicate 7)

/-- To give the introduction of Alice and Bob up succeeds, and the session is aborted from then
on. -/
theorem lasts_of_abort_alice_bob :
    (∀ c ∈ [introduceAliceAndBob], c.Storable) ∧ giveUp.Storable ∧
      let i := introducing {} fun _ => false;
      (∃ e ∈ i.sentOver giveUp, e.carries (.replicate 7) .abort) ∧
        Quiet (.replicate 7) (i.sentOver giveUp) ∧
          (∃ x, (i.call giveUp).1 = .ok x) ∧
            (i.call giveUp).2.Lasts (.replicate 7) fun s => s.state = .aborted := by
  have hbefore : ∀ c ∈ [introduceAliceAndBob], c.Storable :=
    List.forall_mem_singleton.mpr storable_introduceAliceAndBob
  have hgiveUp : giveUp.Storable := trivial
  have habort : ∃ e ∈ (introducing {} fun _ => false).sentOver giveUp,
      e.carries (.replicate 7) .abort := by
    decide +kernel
  have hok : ((introducing {} fun _ => false).call giveUp).1.isOk = true := by decide +kernel
  unfold introducing at habort hok ⊢
  obtain ⟨hquiet, ⟨x, hx, hlasts⟩ | ⟨cause, hrefused, -⟩⟩ :=
    lasts_of_abort_sent {} (fun _ => false) (fun _ => .replicate 7) hbefore hgiveUp habort
  · exact ⟨hbefore, hgiveUp, habort, hquiet, ⟨x, hx⟩, hlasts⟩
  · rw [hrefused] at hok
    cases hok

/-- A session may be live after an abort of it was handed over: if the abort to Bob is refused, the
session is stored as it was before; and if sessions that are given up are deleted, the next
introduction may get the same identifier. -/
theorem live_after_abort :
    (let i := introducing {} fun number => number = 4;
      (∃ e ∈ i.sentOver giveUp, e.carries (.replicate 7) .abort) ∧
        ∃ s, (i.call giveUp).2.stored (.replicate 7) = some s ∧ s.isLive) ∧
      let i := introducing { retention := .dropAborted } fun _ => false;
      (∃ e ∈ i.sentOver giveUp, e.carries (.replicate 7) .abort) ∧
        ∃ s, (Calls.after call i [giveUp, introduceAliceAndBob]).stored (.replicate 7) = some s ∧
          s.isLive := by
  refine ⟨⟨by decide +kernel, Session.aliceAndBob.enter .awaitResponses, ?_, rfl⟩,
    by decide +kernel, Session.aliceAndBob.enter .awaitResponses, ?_, rfl⟩
  · decide +kernel
  · decide +kernel

end Introducer

end Introduction
