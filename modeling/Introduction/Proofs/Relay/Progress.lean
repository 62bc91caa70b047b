import Introduction.Proofs.Relay.Rivals
import Introduction.Proofs.Session.Record
import Mathlib.Data.List.Infix

/-!
# Progress of stored sessions

What is stored stays sound, and a session that stays stored never goes back, whatever an introducer
is asked for, calls and readings alike, and whatever its store and its transport refuse
(`progress_of_requests`).

A session is only stored once its first step has sent the requests, and every step after it keeps
the record of responses in agreement with the state (`Session.Proper`) and leads on in the order of
the states (`Session.State.Precedes`).  A request leaves the registry as it was or takes one such
step (`Registry.Advances`): where a message is refused and the store gets back what it held, the
session has not gone back but never moved.  Since what is stored can always be read and every
session has a rule for what its state allows, no request stops with an error that says otherwise.
-/

namespace Introduction

/-! ### The order of the states -/

namespace Session

/-- How far an introduction has come. -/
def State.progress : State → ℕ
  | .prepareRequests => 0
  | .awaitResponses => 1
  | .awaitResponse _ => 2
  | .awaitAcks => 3
  | .awaitAck _ => 4
  | .finished => 5
  | .aborted => 6

/-- A state is another or comes before it.  Of two states that are equally far, such as those in
which one response is still awaited, neither comes before the other. -/
def State.Precedes (a b : State) : Prop := a = b ∨ a.progress < b.progress

lemma State.Precedes.refl (a : State) : a.Precedes a := .inl rfl

lemma State.Precedes.trans {a b c : State} (hab : a.Precedes b) (hbc : b.Precedes c) :
    a.Precedes c := by
  rcases hab with rfl | hab
  · exact hbc
  · rcases hbc with rfl | hbc
    · exact .inr hab
    · exact .inr (hab.trans hbc)

/-- Every state comes before that of an introduction that is given up. -/
lemma State.precedes_aborted (a : State) : a.Precedes .aborted := by
  cases a with
  | aborted => exact .refl _
  | _ => exact .inr (by simp [progress])

variable {s t : Session} {input : Input} {envelopes : List Envelope} {events : List Event}

/-- A message that is accepted before the introduction is finished leads on. -/
lemma Accepts.progress_lt {side : Side} {d : Dictionary} {m : Message} (h : s.Accepts side d m)
    (hstate : s.state ≠ .finished) :
    s.state.progress < (s.state.next (.ofMessage m.kind side)).progress := by
  have hexpected := h.expected
  cases hkind : m.kind <;> rw [hkind] at hexpected
  · exact hexpected.elim
  · rcases hexpected with h | h | h
    · rw [h]
      exact Nat.lt_succ_self 1
    · rw [h, Action.ofMessage, State.next, if_pos rfl]
      exact Nat.lt_succ_self 2
    · exact absurd h hstate
  · rcases hexpected with h | h
    · rw [h]
      exact Nat.lt_succ_self 3
    · rw [h, Action.ofMessage, State.next, if_pos rfl]
      exact Nat.lt_succ_self 4
  · exact hexpected.elim

/-- A step does not lead back. -/
theorem Step.precedes (h : Step s input t envelopes events) : s.state.Precedes t.state := by
  cases h with
  | start hstate =>
    rw [hstate]
    exact .inr Nat.zero_lt_one
  | ignore _ => exact .refl _
  | giveUp _ => exact s.state.precedes_aborted
  | response haccepts hstate =>
    rw [state_record, state_enter, State.next_answer _ _ _ true]
    exact .inr (haccepts.progress_lt hstate)
  | ack haccepts => exact .inr (haccepts.progress_lt haccepts.state_ne_finished)
  | late _ _ =>
    rw [state_recordFirst]
    exact .refl _

/-! ### Sessions that are stored -/

/-- A session has sent its requests, and has recorded the responses that its state implies. -/
structure Proper (s : Session) : Prop where
  state_ne : s.state ≠ .prepareRequests
  consistent : s.Consistent

/-- A step of a proper session leaves a proper one. -/
lemma Step.proper (h : Step s input t envelopes events) (hs : s.Proper) : t.Proper :=
  ⟨h.state_ne_prepareRequests hs.state_ne, h.consistent hs.consistent⟩

/-- The first request to a session that was just made leaves a proper one. -/
lemma Step.proper_of_start {id : SessionId} {first second : Contact} {publicKey₁ publicKey₂ : Bytes}
    {note : Option String} (hs : Session.start id first second = .ok s)
    (h : Step s (.act (.request publicKey₁ publicKey₂ note)) t envelopes events) : t.Proper := by
  have hstate : t.state = .awaitResponses := h.state_of_prepareRequests (state_of_start hs) rfl
  exact ⟨by rw [hstate]; simp, h.consistent (consistent_of_start hs).1⟩

end Session

/-! ### Requests on a registry -/

namespace Registry

variable {m m' : Registry} {config : Relay.Config} {next id : SessionId}
  {o : Outcome Introducer.Reply}

/-- Every session of a registry is proper. -/
def Proper (m : Registry) : Prop := ∀ id s, m.get? id = some s → s.Proper

/-- A proper session can be kept or dropped. -/
lemma Proper.keep (hm : m.Proper) {t : Session} (ht : t.Proper) : (m.keep config t).Proper := by
  intro id s hget
  rcases get?_keep_cases hget with ⟨-, rfl⟩ | ⟨-, hget⟩
  · exact ht
  · exact hm id s hget

/-- A call leaves proper sessions only. -/
theorem Serves.proper (h : m.Serves config (m.Introducible next) o) (hm : m.Proper) :
    o.sessions.Proper := by
  cases h with
  | refuse e he => exact hm
  | stored hget hstep => exact hm.keep (hstep.proper (hm _ _ hget))
  | created hget hfresh hstep =>
    obtain ⟨first, second, hstart⟩ := hfresh.start_eq
    obtain ⟨publicKey₁, publicKey₂, note, rfl⟩ := hfresh.input_eq
    exact hm.keep (hstep.proper_of_start hstart)

/-- A session that is stored before and after a call has not gone back.  A session that the call
creates was not stored before. -/
theorem Serves.precedes (h : m.Serves config (m.Introducible next) o) {s t : Session}
    (hs : m.get? id = some s) (ht : o.sessions.get? id = some t) : s.state.Precedes t.state := by
  have hunchanged : m.get? id = some t → s.state.Precedes t.state := by
    intro hget
    cases hs.symm.trans hget
    exact .refl _
  cases h with
  | refuse e he => exact hunchanged ht
  | stored hget hstep =>
    rcases get?_keep_cases ht with ⟨hid, rfl⟩ | ⟨-, hget'⟩
    · rw [hid, hstep.id_eq, hget] at hs
      cases hs
      exact hstep.precedes
    · exact hunchanged hget'
  | created hget hfresh hstep =>
    rcases get?_keep_cases ht with ⟨hid, rfl⟩ | ⟨-, hget'⟩
    · rw [hid, hstep.id_eq, hget] at hs
      cases hs
    · exact hunchanged hget'

/-- What a request can make of a registry. -/
inductive Advances (m : Registry) (config : Relay.Config) : Registry → Prop
  /-- It leaves the registry as it was. -/
  | stay : Advances m config m
  /-- It comes to what a call comes to. -/
  | serve {next : SessionId} {o : Outcome Introducer.Reply}
      (hserves : m.Serves config (m.Introducible next) o) : Advances m config o.sessions

/-- A request leaves proper sessions only. -/
lemma Advances.proper (h : m.Advances config m') (hm : m.Proper) : m'.Proper := by
  cases h with
  | stay => exact hm
  | serve hserves => exact hserves.proper hm

/-- A session that is stored before and after a request has not gone back. -/
lemma Advances.precedes (h : m.Advances config m') {s t : Session} (hs : m.get? id = some s)
    (ht : m'.get? id = some t) : s.state.Precedes t.state := by
  cases h with
  | stay =>
    cases hs.symm.trans ht
    exact .refl _
  | serve hserves => exact hserves.precedes hs ht

end Registry

/-! ### Requests of an introducer -/

namespace Introducer

open Relay (Config Faults)

/-- What an introducer is asked for: a call, or to look at what is stored. -/
inductive Request where
  /-- A call. -/
  | call (c : Call)
  /-- The session stored under an identifier. -/
  | session (id : SessionId)
  /-- Every stored session. -/
  | sessions
  /-- Whether the contacts on two channels can be introduced now. -/
  | canIntroduce (a b : ChannelId)

/-- What an introducer answers. -/
inductive Answer where
  /-- What a call returns. -/
  | reply (x : Reply)
  /-- The session that was looked up, if there is one. -/
  | session (s : Option Session)
  /-- The sessions that are stored. -/
  | sessions (ss : List Session)
  /-- Whether the contacts can be introduced. -/
  | canIntroduce (free : Bool)

/-- The contacts that are to be introduced can be stored. -/
def Request.Storable : Request → Prop
  | .call c => c.Storable
  | _ => True

/-- The call of the introducer that a request is answered by. -/
def Request.toIntroducing : Request → Introducing Answer
  | .call c => do return .reply (← c.toIntroducing)
  | .session id => do return .session (← Introducer.session? id)
  | .sessions => do return .sessions (← onRelay Relay.sessions)
  | .canIntroduce a b => do return .canIntroduce (← Introducer.canIntroduce a b)

/-- Answers a request. -/
def ask (i : Introducer) (q : Request) : Except Relay.Error Answer × Introducer :=
  outcome q.toIntroducing i

variable {i : Introducer} {config : Config} {faults : Faults} {m : Registry}

/-- A request for a call is answered by what the call returns. -/
lemma ask_call (i : Introducer) (c : Call) :
    i.ask (.call c) = ((i.call c).1.map .reply, (i.call c).2) := by
  unfold ask Request.toIntroducing
  rw [outcome_bind]
  unfold call
  rcases outcome c.toIntroducing i with ⟨e | x, i'⟩ <;> rfl

/-- The error of a call does not say that a session is not sound. -/
lemma Ends.isUnsound_eq {o : Outcome Reply} {x : Except Relay.Error Reply} {m' : Registry}
    {sent : List Envelope} (h : Ends faults m o x m' sent) {next : SessionId}
    (hserves : m.Serves config (m.Introducible next) o) {e : Relay.Error} (he : x = .error e) :
    e.isUnsound = false := by
  cases h with
  | done => exact Relay.Error.isUnsound_of_isInternal (hserves.isInternal he)
  | restored =>
    cases he
    rfl
  | failed =>
    cases he
    rfl

/-- Looking at what is stored leaves the registry as it was, and only stops if the store refuses
something. -/
lemma Keeps.look (h : i.Keeps config faults m) {α : Type} {relaying : Relaying α} {x : α}
    (hlook : ∀ l : Relay.Ledger, l.archive = m.archive → Relay.Tries relaying faults l x l)
    (f : α → Answer) :
    (∃ m', (outcome (do return f (← onRelay relaying)) i).2.Keeps config faults m' ∧
      m.Advances config m') ∧
      ∀ e, (outcome (do return f (← onRelay relaying)) i).1 = .error e → e.isUnsound = false := by
  obtain ⟨drawn, hrun⟩ := (relays_onRelay (i := i) relaying).return f
  have hreturn : ∀ l : Relay.Ledger, l.archive = m.archive →
      Relay.Tries (do return f (← relaying)) faults l (f x) l :=
    fun l hl => (hlook l hl).bind (Relay.tries_pure (f x))
  obtain ⟨l, hbears, hend⟩ := hreturn _ rfl i.relay h.bears
  obtain rfl : l = _ := hend.elim (·.2) (·.2.1)
  rw [hrun]
  refine ⟨⟨m, ⟨h.sound, ?_⟩, .stay⟩, fun e he => ?_⟩
  · rw [hbears.sent_eq, hbears.events_eq]
    exact hbears
  · rcases hend with ⟨hx, -⟩ | ⟨-, -, cause, hx⟩
    · cases hx.symm.trans he
    · cases hx.symm.trans he
      rfl

/-- What a request can do under faults. -/
theorem Keeps.ask (h : i.Keeps config faults m) {q : Request} (hq : q.Storable) :
    (∃ m', (i.ask q).2.Keeps config faults m' ∧ m.Advances config m') ∧
      ∀ e, (i.ask q).1 = .error e → e.isUnsound = false := by
  cases q with
  | call c =>
    have hserves : m.Serves config (m.Introducible (i.ids i.drawn)) _ := h.sound.serves_respond hq
    obtain ⟨m', hkeeps, -, hends⟩ := h.call hq
    rw [ask_call]
    refine ⟨⟨m', hkeeps, ?_⟩, fun e he => hends.isUnsound_eq hserves (e := e) ?_⟩
    · rcases hends.sessions_eq with rfl | rfl
      · exact .stay
      · exact .serve hserves
    · cases hresult : (i.call c).1 with
      | error e' =>
        rw [hresult] at he
        cases he
        rfl
      | ok x =>
        rw [hresult] at he
        cases he
  | session id => exact h.look (fun _ hl => Relay.tries_session? h.sound hl id) Answer.session
  | sessions => exact h.look (fun _ hl => Relay.tries_sessions h.sound hl) Answer.sessions
  | canIntroduce a b =>
    have hfree : ∀ l : Relay.Ledger, l.archive = m.archive →
        Relay.Tries (Relay.canIntroduce a b) faults l (m.liveSessionFor a b).isNone l :=
      fun _ hl => (Relay.tries_liveSessionFor h.sound hl a b).bind (Relay.tries_pure _)
    exact h.look hfree Answer.canIntroduce

/-! ### Runs -/

/-- After any requests the introducer keeps proper sessions if it did before, and no answer was an
error that says that a session is not sound. -/
lemma Keeps.afterAsking (h : i.Keeps config faults m) (hm : m.Proper) {requests : List Request}
    (hrequests : ∀ q ∈ requests, q.Storable) :
    (∃ m', (Calls.after Introducer.ask i requests).Keeps config faults m' ∧ m'.Proper) ∧
      ∀ e, .error e ∈ Calls.results Introducer.ask i requests → e.isUnsound = false := by
  induction requests generalizing i m with
  | nil => exact ⟨⟨m, h, hm⟩, fun e he => absurd he List.not_mem_nil⟩
  | cons q requests ih =>
    obtain ⟨⟨m', hkeeps, hadvances⟩, hsound⟩ := h.ask (hrequests q List.mem_cons_self)
    obtain ⟨hafter, hresults⟩ :=
      ih hkeeps (hadvances.proper hm) fun q' hq' => hrequests q' (List.mem_cons_of_mem q hq')
    refine ⟨hafter, fun e he => ?_⟩
    rcases List.mem_cons.mp he with he | he
    · exact hsound e he.symm
    · exact hresults e he

/-- Something is stored under an identifier, now and after each of some requests. -/
def StaysStored (i : Introducer) (id : SessionId) (requests : List Request) : Prop :=
  ∀ before, before <+: requests →
    ((Calls.after ask i before).relay.store.archive.get? id).isSome

/-- A session that stays stored does not go back: by induction on the requests, since it is stored
after the first of them as well. -/
lemma Keeps.precedes (h : i.Keeps config faults m) {requests : List Request}
    (hrequests : ∀ q ∈ requests, q.Storable) {id : SessionId}
    (hstays : i.StaysStored id requests) {s t : Session} (hs : i.stored id = some s)
    (ht : (Calls.after Introducer.ask i requests).stored id = some t) :
    s.state.Precedes t.state := by
  induction requests generalizing i m s with
  | nil =>
    cases hs.symm.trans ht
    exact .refl _
  | cons q requests ih =>
    obtain ⟨⟨m', hkeeps, hadvances⟩, -⟩ := h.ask (hrequests q List.mem_cons_self)
    have hstays' : (i.ask q).2.StaysStored id requests :=
      fun before hbefore => hstays (q :: before) (List.cons_prefix_cons.mpr ⟨rfl, hbefore⟩)
    obtain ⟨u, hu, -⟩ := hkeeps.exists_stored id (hstays' [] List.nil_prefix)
    have hfirst : s.state.Precedes u.state :=
      hadvances.precedes ((h.stored_eq id).symm.trans hs) ((hkeeps.stored_eq id).symm.trans hu)
    exact hfirst.trans
      (ih hkeeps (fun q' hq' => hrequests q' (List.mem_cons_of_mem q hq')) hstays' hu ht)

/-- Whatever an introducer that starts with nothing stored is asked for, and whatever its store and
its transport refuse: every entry that is stored is a session with the identifier of the entry and
two different channels, which has sent its requests and recorded the responses that its state
implies.  From then on, whatever else is asked for, a session does not go back while it stays
stored.  No answer was an error that says that a session cannot be read back or has no rule for what
its state allows. -/
theorem progress_of_requests (config : Config) (faults : Faults) (ids : ℕ → SessionId)
    {requests : List Request} (hrequests : ∀ q ∈ requests, q.Storable) :
    let i := Calls.after ask (vacant config faults ids) requests
    (∀ id, (i.relay.store.archive.get? id).isSome →
        ∃ s, i.stored id = some s ∧ s.id = id ∧ s.first.channel ≠ s.second.channel ∧ s.Proper) ∧
      (∀ later : List Request, (∀ q ∈ later, q.Storable) → ∀ id, i.StaysStored id later →
        ∀ s t, i.stored id = some s → (Calls.after ask i later).stored id = some t →
          s.state.Precedes t.state) ∧
        ∀ e, .error e ∈ Calls.results ask (vacant config faults ids) requests →
          e.isUnsound = false := by
  intro i
  have hempty : Registry.empty.Proper := by
    intro id s hget
    cases hget
  obtain ⟨⟨m, hkeeps, hm⟩, hresults⟩ :=
    (keeps_vacant config faults ids).afterAsking hempty hrequests
  refine ⟨fun id hid => ?_, fun later hlater id hstays s t => hkeeps.precedes hlater hstays,
    hresults⟩
  obtain ⟨s, hs, hsid⟩ := hkeeps.exists_stored id hid
  exact ⟨s, hs, hsid, s.channels_ne, hm id s ((hkeeps.stored_eq id).symm.trans hs)⟩

/-- Alice answers. -/
def aliceAnswers : Request := .call (.receive (Session.sampleResponse .first).toDictionary)

/-- Alice and Bob are introduced, and are then not to be introduced again, and Alice answers. -/
def sampleRequests : List Request :=
  [.call introduceAliceAndBob, .canIntroduce Session.alice.channel Session.bob.channel,
    aliceAnswers]

/-- The session is looked up, and Alice answers again. -/
def sampleLater : List Request := [.session (.replicate 7), aliceAnswers]

/-- The contacts of the sample requests can be stored. -/
lemma storable_sampleRequests :
    (∀ q ∈ sampleRequests, q.Storable) ∧ ∀ q ∈ sampleLater, q.Storable := by
  refine ⟨List.forall_mem_cons.mpr ⟨storable_introduceAliceAndBob, ?_⟩, ?_⟩
  · exact List.forall_mem_cons.mpr ⟨trivial, List.forall_mem_singleton.mpr trivial⟩
  · exact List.forall_mem_cons.mpr ⟨trivial, List.forall_mem_singleton.mpr trivial⟩

/-- An introducer with nothing stored, whose transport refuses the third message. -/
def refusingThird : Introducer :=
  vacant {} (.ofTransport fun number => number = 3) fun _ => .replicate 7

/-- The first attempt to pass Alice's response on is refused, with an error that is sound.  The
session stays as it was, and moves on over the second attempt. -/
theorem progress_sampleRequests :
    (∀ q ∈ sampleRequests, q.Storable) ∧
      let i := Calls.after ask refusingThird sampleRequests
      (∃ s t, i.stored (.replicate 7) = some s ∧ s.first.channel ≠ s.second.channel ∧ s.Proper ∧
        (Calls.after ask i sampleLater).stored (.replicate 7) = some t ∧
          s.state.Precedes t.state ∧ s.state = .awaitResponses ∧
            t.state = .awaitResponse .second) ∧
        ∃ e, .error e ∈ Calls.results ask refusingThird sampleRequests ∧ e.isUnsound = false := by
  obtain ⟨hstorable, hlater⟩ := storable_sampleRequests
  obtain ⟨hentries, hprecedes, hsound⟩ := progress_of_requests {}
    (.ofTransport fun number => number = 3) (fun _ => .replicate 7) hstorable
  have hinits : ∀ before ∈ sampleLater.inits, ((Calls.after ask (Calls.after ask refusingThird
      sampleRequests) before).relay.store.archive.get? (.replicate 7)).isSome := by
    decide +kernel
  have hbefore : ((Calls.after ask refusingThird sampleRequests).stored (.replicate 7)).map
      (·.state) = some .awaitResponses := by
    decide +kernel
  have hafter : ((Calls.after ask (Calls.after ask refusingThird sampleRequests)
      sampleLater).stored (.replicate 7)).map (·.state) = some (.awaitResponse .second) := by
    decide +kernel
  have hrefused : (Calls.results ask refusingThird sampleRequests).any (!·.isOk) = true := by
    decide +kernel
  rw [← refusingThird] at hentries hprecedes hsound
  generalize Calls.after ask refusingThird sampleRequests = i
    at hentries hprecedes hinits hbefore hafter ⊢
  obtain ⟨s, hs, hsstate⟩ := Option.map_eq_some_iff.mp hbefore
  obtain ⟨t, ht, htstate⟩ := Option.map_eq_some_iff.mp hafter
  have hstays : i.StaysStored (.replicate 7) sampleLater := fun requests hprefix =>
    hinits requests ((List.mem_inits _ _).mpr hprefix)
  obtain ⟨s', hs', -, hapart, hproper⟩ := hentries (.replicate 7) (hstays [] List.nil_prefix)
  cases hs.symm.trans hs'
  obtain ⟨x, hx, herror⟩ := List.any_eq_true.mp hrefused
  cases x with
  | ok _ => cases herror
  | error e =>
    exact ⟨hstorable, ⟨s, t, hs, hapart, hproper, ht,
      hprecedes sampleLater hlater (.replicate 7) hstays s t hs ht, hsstate, htstate⟩,
      e, hx, hsound e hx⟩

end Introducer

end Introduction
