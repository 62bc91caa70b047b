import Introduction.Proofs.Relay.GivenUp
import Introduction.Proofs.Relay.Isolation
import Mathlib.Order.Interval.Set.Defs
import Mathlib.Data.Set.Function
import Mathlib.Tactic.IntervalCases

/-!
# Whether sessions that were given up are kept

Two introducers are asked for the same, and nothing is refused to either.  One keeps every session,
and the other deletes those that were given up.  The second then stores what the first stores
without the sessions that were given up (`Registry.unaborted`), and it sends and publishes the same:
a session that was given up does nothing any more (`Session.Step.eq_of_aborted`) and does not stand
in the way of an introduction (`Registry.liveSessionFor_unaborted`), and a new session does not get
its identifier, if no identifier is drawn twice.

The introducers answer alike, except over a session that was given up.  The first returns it as it
is, and the second does not know it (`retention_of_calls`).  A local action that cannot be read is
refused before a session is looked up, so it is refused by both (`unread_action_of_aborted`).
-/

namespace Introduction

/-! ### Registries without sessions that were given up -/

namespace Registry

variable {m : Registry} {limit : ℕ} {s : Session}

/-- The sessions that were not given up. -/
def unaborted (m : Registry) : Registry := m.filter fun s => !s.isAborted

@[simp] lemma get?_unaborted (m : Registry) (id : SessionId) :
    m.unaborted.get? id = (m.get? id).filter fun s => !s.isAborted :=
  Ascending.get?_filter _ m id

/-- Deleting a session that was given up, and keeping it, come to the same up to such sessions. -/
lemma unaborted_keep (m : Registry) (limit : ℕ) (s : Session) :
    m.unaborted.keep ⟨.dropAborted, limit⟩ s = unaborted (m.keep ⟨.keepAll, limit⟩ s) := by
  refine Ascending.ext fun id => ?_
  rw [get?_keep, get?_unaborted, get?_unaborted, get?_keep]
  split_ifs with hid hdrops hkeeps hkeeps
  · cases hkeeps.1
  · rw [Option.filter_some, hdrops.2]
    rfl
  · cases hkeeps.1
  · have haborted : s.isAborted = false := by simpa using hdrops
    rw [Option.filter_some, haborted]
    rfl
  · rfl

/-- Keeping a session that is stored changes nothing. -/
lemma keep_self (hget : m.get? s.id = some s) : m.keep ⟨.keepAll, limit⟩ s = m := by
  refine Ascending.ext fun id => ?_
  rw [get?_keep]
  by_cases hid : id = s.id
  · simp [hid, hget]
  · simp [hid]

/-- A session that goes on was not given up. -/
lemma not_isAborted_and_isLive (s : Session) : (!s.isAborted && s.isLive) = s.isLive := by
  unfold Session.isAborted Session.isLive Session.State.isTerminal
  cases s.state <;> rfl

/-- Sessions that were given up do not stand in the way of an introduction. -/
lemma liveSessionFor_unaborted (m : Registry) (a b : ChannelId) :
    m.unaborted.liveSessionFor a b = m.liveSessionFor a b := by
  have hvalues : m.unaborted.values = m.values.filter fun s => !s.isAborted := by
    rw [values, values, unaborted, Ascending.toList_filter, List.filter_map]
    rfl
  unfold liveSessionFor
  rw [hvalues, List.find?_filter]
  simp only [Bool.decide_and, Bool.decide_eq_true, ← Bool.and_assoc, not_isAborted_and_isLive]

end Registry

/-! ### Single calls -/

namespace Outcome

variable {α β : Type} {o o' : Outcome α}

/-- An outcome comes to another where sessions that were given up are deleted: the same is sent and
published, and the sessions are the same but for those that were given up. -/
structure Sheds (o o' : Outcome α) : Prop where
  sessions_eq : o'.sessions = o.sessions.unaborted
  envelopes_eq : o'.envelopes = o.envelopes
  events_eq : o'.events = o.events

/-- The result is the same as well. -/
structure Mirrors (o o' : Outcome α) : Prop extends Sheds o o' where
  result_eq : o'.result = o.result

/-- The results can be returned in another form. -/
lemma Mirrors.map (h : o.Mirrors o') (f : α → β) : (o.map f).Mirrors (o'.map f) :=
  ⟨⟨h.sessions_eq, h.envelopes_eq, h.events_eq⟩, congrArg (Except.map f) h.result_eq⟩

end Outcome

namespace Registry

variable {α : Type} {m : Registry} {limit : ℕ} {next id : SessionId} {s : Session}

/-- A call that stops with an error. -/
lemma mirrors_refuse (e : Relay.Error) :
    (m.refuse e : Outcome α).Mirrors (m.unaborted.refuse e) :=
  ⟨⟨rfl, rfl, rfl⟩, rfl⟩

/-- Carrying out the answer of a session. -/
lemma mirrors_carryOut (m : Registry) (limit : ℕ) (s : Session) (input : Session.Input) :
    (m.carryOut ⟨.keepAll, limit⟩ s.id (s.answer input)).Mirrors
      (m.unaborted.carryOut ⟨.dropAborted, limit⟩ s.id (s.answer input)) := by
  obtain ⟨update, hanswer, hcarries⟩ := s.answer_step input
  rw [hanswer, carryOut_ok hcarries, carryOut_ok hcarries]
  exact ⟨⟨m.unaborted_keep limit _, rfl, rfl⟩, rfl⟩

/-- Giving an input to a session that was given up. -/
lemma Sound.give_of_isAborted (hm : m.Sound) (hget : m.get? id = some s) (haborted : s.isAborted)
    (limit : ℕ) (input : Session.Input) :
    m.give ⟨.keepAll, limit⟩ id input = ⟨.ok s, m, [], []⟩ ∧
      m.unaborted.give ⟨.dropAborted, limit⟩ id input =
        m.unaborted.refuse (.unknownSession id) := by
  obtain ⟨rfl, -⟩ := hm id s hget
  obtain ⟨update, hanswer, hcarries⟩ := s.answer_step input
  have hstate : s.state = .aborted := of_decide_eq_true haborted
  obtain ⟨hsession, henvelopes, hevents⟩ := hcarries.step.eq_of_aborted hstate
  unfold Registry.give
  constructor
  · rw [hget]
    dsimp only
    rw [hanswer, carryOut_ok hcarries, hsession, henvelopes, hevents, keep_self hget]
  · rw [get?_unaborted, hget, Option.filter_some, haborted]
    rfl

/-- Giving an input to a session that was not given up, or to none. -/
lemma Sound.mirrors_give (hm : m.Sound) (hlive : ∀ s, m.get? id = some s → ¬ s.isAborted)
    (limit : ℕ) (input : Session.Input) :
    (m.give ⟨.keepAll, limit⟩ id input).Mirrors
      (m.unaborted.give ⟨.dropAborted, limit⟩ id input) := by
  unfold Registry.give
  rw [get?_unaborted]
  cases hget : m.get? id with
  | none => exact mirrors_refuse _
  | some s =>
    obtain ⟨rfl, -⟩ := hm id s hget
    rw [Option.filter_some, Bool.eq_false_iff.mpr (hlive s hget)]
    exact mirrors_carryOut m limit s input

/-- Introducing two contacts, under an identifier that nothing is stored for if they can be
introduced. -/
lemma mirrors_introduce {first second : Contact}
    (hnext : m.liveSessionFor first.channel second.channel = none → m.get? next = none)
    (publicKey₁ publicKey₂ : Bytes) (note : Option String) :
    (m.introduce ⟨.keepAll, limit⟩ next first second publicKey₁ publicKey₂ note).Mirrors
      (m.unaborted.introduce ⟨.dropAborted, limit⟩ next first second publicKey₁ publicKey₂
        note) := by
  unfold Registry.introduce
  rw [liveSessionFor_unaborted]
  cases hlive : m.liveSessionFor first.channel second.channel with
  | some existing => exact mirrors_refuse _
  | none =>
    cases hstart : Session.start next first second with
    | error e => exact mirrors_refuse _
    | ok s =>
      obtain ⟨rfl, -, -⟩ := Session.eq_of_start hstart
      refine Outcome.Mirrors.map ?_ _
      unfold Registry.create
      rw [get?_unaborted, hnext hlive]
      exact mirrors_carryOut m limit s (.act (.request publicKey₁ publicKey₂ note))

end Registry

/-- The session that a call is given to, if it is given to one.  An action that cannot be read is
given to none, nor is a message that names none. -/
def Introducer.Call.recipient (limit : ℕ) : Introducer.Call → Option SessionId
  | .introduce .. => none
  | .abort id => some id
  | .perform id action =>
    match Session.LocalAction.ofDictionary action with
    | .error _ => none
    | .ok _ => some id
  | .receive message => (Relay.Call.receive message).addressee limit
  | .receiveBytes bytes => (Relay.Call.receiveBytes bytes).addressee limit
  | .delivered message => (Relay.Call.delivered message).addressee limit

namespace Registry

open Introducer (Reply)

variable {m : Registry} {limit : ℕ} {next id : SessionId} {s : Session}

/-- A call is to introduce two contacts, or it gives an input to its recipient, or it stops with an
error: how, does not depend on what is stored. -/
lemma respond_cases (limit : ℕ) (c : Introducer.Call) :
    (∃ first second publicKey₁ publicKey₂ note,
      c = .introduce first second publicKey₁ publicKey₂ note) ∨
    (∃ id input, c.recipient limit = some id ∧ ∀ (m : Registry) retention next,
      m.respond ⟨retention, limit⟩ next c = (m.give ⟨retention, limit⟩ id input).map .session) ∨
    ∃ e, c.recipient limit = none ∧ ∀ (m : Registry) retention next,
      m.respond ⟨retention, limit⟩ next c = m.refuse e := by
  -- a call of the relay that creates no session; it does not look at the next identifier
  have hserve : ∀ c : Relay.Call, (∀ s action, c ≠ .create s action) →
      (∃ id input, c.addressee limit = some id ∧ ∀ (m : Registry) retention (_ : SessionId),
        (m.serve ⟨retention, limit⟩ c).map Reply.session =
          (m.give ⟨retention, limit⟩ id input).map .session) ∨
      ∃ e, c.addressee limit = none ∧ ∀ (m : Registry) retention (_ : SessionId),
        (m.serve ⟨retention, limit⟩ c).map Reply.session = m.refuse e := by
    intro c hno
    rcases serve_cases limit c with ⟨s, action, rfl⟩ | ⟨id, input, hid, hserve⟩ | ⟨e, hnone, hserve⟩
    · exact absurd rfl (hno s action)
    · exact .inl ⟨id, input, hid, fun m retention _ => by rw [hserve]⟩
    · exact .inr ⟨e, hnone, fun m retention _ => by rw [hserve]; rfl⟩
  cases c with
  | introduce first second publicKey₁ publicKey₂ note => exact .inl ⟨_, _, _, _, _, rfl⟩
  | abort id => exact .inr (hserve (.perform id .abort) (by rintro _ _ ⟨⟩))
  | receive message => exact .inr (hserve (.receive message) (by rintro _ _ ⟨⟩))
  | receiveBytes bytes => exact .inr (hserve (.receiveBytes bytes) (by rintro _ _ ⟨⟩))
  | delivered message => exact .inr (hserve (.delivered message) (by rintro _ _ ⟨⟩))
  | perform id action =>
    simp only [Introducer.Call.recipient, respond]
    cases Session.LocalAction.ofDictionary action with
    | error e => exact .inr (.inr ⟨_, rfl, fun _ _ _ => rfl⟩)
    | ok action => exact .inr (hserve (.perform id action) (by rintro _ _ ⟨⟩))

/-- How many identifiers a call draws: one if it is to introduce two contacts who can be
introduced. -/
def draws (m : Registry) : Introducer.Call → ℕ
  | .introduce first second .. =>
    if (m.liveSessionFor first.channel second.channel).isNone then 1 else 0
  | _ => 0

@[simp] lemma draws_unaborted (m : Registry) (c : Introducer.Call) :
    m.unaborted.draws c = m.draws c := by
  cases c with
  | introduce => rw [draws, draws, liveSessionFor_unaborted]
  | _ => rfl

/-- What is stored once an answer is carried out is the session or was stored. -/
lemma get?_carryOut {config : Relay.Config} (s : Session) (input : Session.Input) {t : Session}
    (hget : (m.carryOut config s.id (s.answer input)).sessions.get? id = some t) :
    id = s.id ∨ m.get? id = some t := by
  obtain ⟨update, hanswer, hcarries⟩ := s.answer_step input
  rw [hanswer, carryOut_ok hcarries] at hget
  rcases get?_keep_cases hget with ⟨hid, -⟩ | ⟨-, hget⟩
  · exact .inl (hid.trans hcarries.step.id_eq)
  · exact .inr hget

/-- A session that is stored after an introduction was stored under its identifier before, or it has
the new identifier. -/
lemma get?_introduce {config : Relay.Config} {first second : Contact}
    {publicKey₁ publicKey₂ : Bytes} {note : Option String} {t : Session}
    (hget : (m.introduce config next first second publicKey₁ publicKey₂ note).sessions.get? id =
      some t) :
    m.get? id = some t ∨ (id = next ∧ m.liveSessionFor first.channel second.channel = none) := by
  unfold Registry.introduce at hget
  cases hlive : m.liveSessionFor first.channel second.channel with
  | some existing =>
    rw [hlive] at hget
    exact .inl hget
  | none =>
    rw [hlive] at hget
    cases hstart : Session.start next first second with
    | error e =>
      rw [hstart] at hget
      exact .inl hget
    | ok s =>
      obtain ⟨rfl, -, -⟩ := Session.eq_of_start hstart
      rw [hstart] at hget
      dsimp only [Registry.create, Outcome.map] at hget
      cases hs : m.get? s.id with
      | some s' =>
        rw [hs] at hget
        exact .inl hget
      | none =>
        rw [hs] at hget
        have hcases := get?_carryOut s (.act (.request publicKey₁ publicKey₂ note)) hget
        exact hcases.symm.imp_right fun h => ⟨h, rfl⟩

/-- A session that is stored after a call was stored under its identifier before, or it has the
identifier that the call draws. -/
lemma Sound.get?_respond (hm : m.Sound) {config : Relay.Config} {c : Introducer.Call} {t : Session}
    (hget : (m.respond config next c).sessions.get? id = some t) :
    (∃ s, m.get? id = some s) ∨ (id = next ∧ m.draws c = 1) := by
  obtain ⟨retention, limit⟩ := config
  rcases respond_cases limit c with
    ⟨first, second, publicKey₁, publicKey₂, note, rfl⟩ | ⟨id', input, -, hrespond⟩ |
      ⟨e, -, hrespond⟩
  · rcases get?_introduce hget with h | ⟨hid, hlive⟩
    · exact .inl ⟨t, h⟩
    · refine .inr ⟨hid, ?_⟩
      rw [draws, hlive]
      rfl
  · rw [hrespond] at hget
    dsimp only [Registry.give, Outcome.map] at hget
    cases hs : m.get? id' with
    | none =>
      rw [hs] at hget
      exact .inl ⟨t, hget⟩
    | some s =>
      obtain ⟨rfl, -⟩ := hm id' s hs
      rw [hs] at hget
      rcases get?_carryOut s input hget with rfl | hget
      · exact .inl ⟨s, hs⟩
      · exact .inl ⟨t, hget⟩
  · rw [hrespond] at hget
    exact .inl ⟨t, hget⟩

/-- What a call comes to where sessions that were given up are deleted: over such a session it is an
error, and otherwise what it comes to where they are kept. -/
theorem Sound.respond_unaborted (hm : m.Sound) (limit : ℕ) {c : Introducer.Call}
    (hnext : m.draws c = 1 → m.get? next = none) :
    let o := m.respond ⟨.keepAll, limit⟩ next c
    let o' := m.unaborted.respond ⟨.dropAborted, limit⟩ next c
    (∀ id s, c.recipient limit = some id → m.get? id = some s → s.isAborted →
      o = ⟨.ok (.session s), m, [], []⟩ ∧ o' = m.unaborted.refuse (.unknownSession id)) ∧
    ((∀ id s, c.recipient limit = some id → m.get? id = some s → ¬ s.isAborted) →
      o.Mirrors o') := by
  intro o o'
  unfold o o'
  rcases respond_cases limit c with
    ⟨first, second, publicKey₁, publicKey₂, note, rfl⟩ | ⟨id, input, hid, hrespond⟩ |
      ⟨e, hnone, hrespond⟩
  · refine ⟨fun _ _ h => (nomatch h), fun _ => ?_⟩
    refine (mirrors_introduce (fun hlive => hnext ?_) publicKey₁ publicKey₂ note).map _
    rw [draws, hlive]
    rfl
  · rw [hrespond, hrespond, hid]
    refine ⟨fun id' s h hget haborted => ?_, fun hlive => ?_⟩
    · cases h
      obtain ⟨hkept, hdropped⟩ := hm.give_of_isAborted hget haborted limit input
      rw [hkept, hdropped]
      exact ⟨rfl, rfl⟩
    · exact (hm.mirrors_give (fun s => hlive id s rfl) limit input).map _
  · rw [hrespond, hrespond, hnone]
    exact ⟨fun _ _ h => (nomatch h), fun _ => mirrors_refuse e⟩

/-- In either case the sessions that were given up are missing and nothing else. -/
lemma Sound.sheds_respond (hm : m.Sound) (limit : ℕ) {c : Introducer.Call}
    (hnext : m.draws c = 1 → m.get? next = none) :
    (m.respond ⟨.keepAll, limit⟩ next c).Sheds
      (m.unaborted.respond ⟨.dropAborted, limit⟩ next c) := by
  obtain ⟨haborted, hother⟩ := hm.respond_unaborted limit hnext
  by_cases hlive : ∀ id s, c.recipient limit = some id → m.get? id = some s → ¬ s.isAborted
  · exact (hother hlive).toSheds
  · push Not at hlive
    obtain ⟨id, s, hid, hget, hs⟩ := hlive
    obtain ⟨hkept, hdropped⟩ := haborted id s hid hget hs
    rw [hkept, hdropped]
    exact ⟨rfl, rfl, rfl⟩

end Registry

/-! ### Identifiers that are drawn -/

namespace Introducer

open Relay (Config Faults)

variable {i j : Introducer} {m : Registry} {limit : ℕ}

/-- The sequence of identifiers stays the same. -/
lemma ids_call (i : Introducer) (c : Call) : (i.call c).2.ids = i.ids := by
  obtain ⟨drawn, hcall⟩ := i.relays_call c
  exact congrArg (·.2.ids) hcall

/-- So it does over a run. -/
lemma ids_after (i : Introducer) (calls : List Call) : (Calls.after call i calls).ids = i.ids := by
  induction calls generalizing i with
  | nil => rfl
  | cons c calls ih => exact (ih _).trans (i.ids_call c)

/-- A call of the relay draws nothing. -/
lemma drawn_onRelay {α β : Type} (call : Relaying α) (f : α → β) (i : Introducer) :
    (outcome (do return f (← onRelay call)) i).2.drawn = i.drawn := by
  rw [outcome_bind, outcome_onRelay]
  rcases outcome call i.relay with ⟨e | x, r⟩ <;> rfl

/-- An identifier is drawn for an introduction unless the relay refuses it. -/
lemma drawn_introduce (first second : Contact) (publicKey₁ publicKey₂ : Bytes)
    (note : Option String) (i : Introducer) :
    (outcome (introduce first second publicKey₁ publicKey₂ note) i).2.drawn = i.drawn +
      match (outcome (Relay.ensureFree first second) i.relay).1 with
      | .ok _ => 1
      | .error _ => 0 := by
  unfold introduce
  rw [outcome_bind, outcome_onRelay]
  rcases outcome (Relay.ensureFree first second) i.relay with ⟨e | x, r⟩
  · rfl
  · dsimp only
    have hdraw : outcome draw { i with relay := r } =
        (.ok (i.ids i.drawn), { i with relay := r, drawn := i.drawn + 1 }) := rfl
    rw [outcome_bind, hdraw]
    dsimp only
    rw [outcome_onRelay]

/-- Where nothing is refused, a call draws the identifiers that it draws on the registry. -/
lemma Keeps.drawn_call {config : Config} (h : i.Keeps config .none m) (c : Call) :
    (i.call c).2.drawn = i.drawn + m.draws c := by
  cases c with
  | introduce first second publicKey₁ publicKey₂ note =>
    obtain ⟨l', -, -, hfree⟩ := Relay.leads_ensureFree h.sound rfl first second i.relay h.bears
    have hdrawn := drawn_introduce first second publicKey₁ publicKey₂ note i
    have hcall : (i.call (.introduce first second publicKey₁ publicKey₂ note)).2.drawn =
        (outcome (introduce first second publicKey₁ publicKey₂ note) i).2.drawn := by
      unfold Introducer.call Call.toIntroducing
      dsimp only
      rw [outcome_bind]
      rcases outcome (introduce first second publicKey₁ publicKey₂ note) i with ⟨e | x, i'⟩ <;> rfl
    rw [hcall, hdrawn, Registry.draws]
    rcases hfree with ⟨hlive, hok⟩ | ⟨existing, hlive, herror⟩ | ⟨hstore, -⟩
    · rw [hlive, hok]
      rfl
    · rw [hlive, herror]
      rfl
    · exact absurd hstore (Faults.not_hitStore _)
  | abort id => exact drawn_onRelay _ Reply.session i
  | receive message => exact drawn_onRelay _ Reply.session i
  | receiveBytes bytes => exact drawn_onRelay _ Reply.session i
  | delivered message => exact drawn_onRelay _ Reply.session i
  | perform id action =>
    unfold Introducer.call Call.toIntroducing Introducer.perform
    dsimp only
    cases Session.LocalAction.ofDictionary action with
    | error e => rfl
    | ok action => exact drawn_onRelay _ Reply.session i

/-- Identifiers that were drawn are not drawn back. -/
lemma Keeps.drawn_le_after {config : Config} (h : i.Keeps config .none m) {calls : List Call}
    (hcalls : ∀ c ∈ calls, c.Storable) :
    i.drawn ≤ (Calls.after Introducer.call i calls).drawn := by
  induction calls generalizing i m with
  | nil => exact Nat.le_refl _
  | cons c calls ih =>
    obtain ⟨-, hkeeps, -⟩ := h.call_of_none (hcalls c List.mem_cons_self)
    have hle := ih hkeeps fun c' hc' => hcalls c' (List.mem_cons_of_mem c hc')
    rw [h.drawn_call] at hle
    exact (Nat.le_add_right _ _).trans hle

/-! ### Runs -/

/-- Two introducers are refused nothing and have sent and published the same.  The first stores a
registry, and the second what it holds without the sessions that were given up.  The next
identifiers are the same, and what is stored has identifiers that were drawn. -/
structure Twins (limit : ℕ) (i j : Introducer) (m : Registry) : Prop where
  keeps : i.Keeps ⟨.keepAll, limit⟩ .none m
  drops : j.Keeps ⟨.dropAborted, limit⟩ .none m.unaborted
  sent_eq : j.relay.outbox.sent = i.relay.outbox.sent
  events_eq : j.relay.events = i.relay.events
  ids_eq : j.ids = i.ids
  drawn_eq : j.drawn = i.drawn
  stored_drawn : ∀ id s, m.get? id = some s → ∃ n < i.drawn, i.ids n = id

/-- The identifier that a call draws is not that of a stored session if no identifier is drawn
twice. -/
lemma Twins.get?_next (h : Twins limit i j m) {c : Call}
    (hids : Set.InjOn i.ids (Set.Iio (i.call c).2.drawn)) (hdraws : m.draws c = 1) :
    m.get? (i.ids i.drawn) = none := by
  rw [h.keeps.drawn_call, hdraws] at hids
  refine Option.eq_none_iff_forall_ne_some.mpr fun s hget => ?_
  obtain ⟨n, hn, heq⟩ := h.stored_drawn _ s hget
  have hsame : n = i.drawn := hids (Nat.lt_succ_of_lt hn) (Nat.lt_succ_self _) heq
  exact absurd hsame hn.ne

/-- The introducers stay twins over a call. -/
lemma Twins.call (h : Twins limit i j m) {c : Call} (hc : c.Storable)
    (hids : Set.InjOn i.ids (Set.Iio (i.call c).2.drawn)) :
    Twins limit (i.call c).2 (j.call c).2
      (m.respond ⟨.keepAll, limit⟩ (i.ids i.drawn) c).sessions := by
  obtain ⟨-, hkeeps, hsent, hevents⟩ := h.keeps.call_of_none hc
  obtain ⟨-, hdrops, hsent', hevents'⟩ := h.drops.call_of_none hc
  have hsheds := h.keeps.sound.sheds_respond limit (h.get?_next hids)
  rw [h.ids_eq, h.drawn_eq] at hdrops hsent' hevents'
  rw [hsheds.sessions_eq] at hdrops
  refine ⟨hkeeps, hdrops, ?_, ?_, ?_, ?_, fun id s hget => ?_⟩
  · rw [hsent', hsent, h.sent_eq, hsheds.envelopes_eq]
  · rw [hevents', hevents, h.events_eq, hsheds.events_eq]
  · rw [ids_call, ids_call, h.ids_eq]
  · rw [h.drops.drawn_call, h.keeps.drawn_call, h.drawn_eq, Registry.draws_unaborted]
  · rw [ids_call, h.keeps.drawn_call]
    rcases h.keeps.sound.get?_respond hget with ⟨t, ht⟩ | ⟨rfl, hdraws⟩
    · obtain ⟨n, hn, heq⟩ := h.stored_drawn id t ht
      exact ⟨n, Nat.lt_add_right _ hn, heq⟩
    · exact ⟨i.drawn, by rw [hdraws]; exact Nat.lt_succ_self _, rfl⟩

/-- The introducers stay twins over a run: by induction on the calls. -/
lemma Twins.after (h : Twins limit i j m) {calls : List Call} (hcalls : ∀ c ∈ calls, c.Storable)
    (hids : Set.InjOn i.ids (Set.Iio (Calls.after Introducer.call i calls).drawn)) :
    ∃ m', Twins limit (Calls.after Introducer.call i calls) (Calls.after Introducer.call j calls)
      m' := by
  induction calls generalizing i j m with
  | nil => exact ⟨m, h⟩
  | cons c calls ih =>
    have hc := hcalls c List.mem_cons_self
    have hcalls' : ∀ c' ∈ calls, c'.Storable := fun c' hc' => hcalls c' (List.mem_cons_of_mem c hc')
    obtain ⟨-, hkeeps, -⟩ := h.keeps.call_of_none hc
    have hle := hkeeps.drawn_le_after hcalls'
    refine ih (h.call hc (hids.mono fun n hn => Nat.lt_of_lt_of_le hn hle)) hcalls' ?_
    rw [ids_call]
    exact hids

/-- An introducer has sent and published what another has, and stores what the other stores but for
the sessions that were given up. -/
structure Sheds (i j : Introducer) : Prop where
  sent_eq : j.relay.outbox.sent = i.relay.outbox.sent
  events_eq : j.relay.events = i.relay.events
  archive_eq : ∀ id, j.relay.store.archive.get? id =
    if (i.stored id).any (·.isAborted) then none else i.relay.store.archive.get? id

/-- Twins store the same but for the sessions that were given up. -/
lemma Twins.sheds (h : Twins limit i j m) : i.Sheds j := by
  refine ⟨h.sent_eq, h.events_eq, fun id => ?_⟩
  rw [h.keeps.stored_eq, h.keeps.bears.archive_eq, h.drops.bears.archive_eq]
  change (Ascending.map _ m.unaborted).get? id = if _ then none else (Ascending.map _ m).get? id
  rw [Ascending.get?_map, Ascending.get?_map, Registry.get?_unaborted]
  cases m.get? id with
  | none => rfl
  | some s => cases haborted : s.isAborted <;> simp [Option.filter_some, haborted]

/-- Twins answer a call alike, unless it is given to a session that was given up: this is returned
as it is by the first, and unknown to the second. -/
lemma Twins.result_eq (h : Twins limit i j m) {c : Call} (hc : c.Storable)
    (hids : Set.InjOn i.ids (Set.Iio (i.call c).2.drawn)) :
    (∀ id s, c.recipient limit = some id → i.stored id = some s → s.isAborted →
      (i.call c).1 = .ok (.session s) ∧
        (i.call c).2.relay.store.archive = i.relay.store.archive ∧
          (j.call c).1 = .error (.unknownSession id)) ∧
    ((∀ id s, c.recipient limit = some id → i.stored id = some s → ¬ s.isAborted) →
      (j.call c).1 = (i.call c).1) := by
  obtain ⟨hresult, hkeeps, -⟩ := h.keeps.call_of_none hc
  obtain ⟨hresult', -⟩ := h.drops.call_of_none hc
  rw [h.ids_eq, h.drawn_eq] at hresult'
  obtain ⟨haborted, hother⟩ := h.keeps.sound.respond_unaborted limit (h.get?_next hids)
  simp only [h.keeps.stored_eq]
  refine ⟨fun id s hid hget hs => ?_, fun hlive => ?_⟩
  · obtain ⟨hkept, hdropped⟩ := haborted id s hid hget hs
    rw [hkept] at hresult hkeeps
    rw [hdropped] at hresult'
    exact ⟨hresult, hkeeps.bears.archive_eq.trans h.keeps.bears.archive_eq.symm, hresult'⟩
  · rw [hresult, hresult', (hother hlive).result_eq]

/-- Two introducers start with nothing stored, are refused nothing and are asked for the same, where
one keeps all sessions, the other deletes those that were given up, and no identifier is drawn
twice.  Then they send and publish the same, and the second stores what the first stores but for
the sessions that were given up.  They answer every call alike, unless it is given to a session that
was given up, which the first returns as it is and the second does not know. -/
theorem retention_of_calls (limit : ℕ) {ids : ℕ → SessionId} {calls : List Call} {c : Call}
    (hcalls : ∀ c ∈ calls, c.Storable) (hc : c.Storable)
    (hids : Set.InjOn ids (Set.Iio
      (Calls.after call (vacant ⟨.keepAll, limit⟩ .none ids) (calls ++ [c])).drawn)) :
    let i := Calls.after call (vacant ⟨.keepAll, limit⟩ .none ids) calls
    let j := Calls.after call (vacant ⟨.dropAborted, limit⟩ .none ids) calls
    i.Sheds j ∧
      (∀ id s, c.recipient limit = some id → i.stored id = some s → s.isAborted →
        (i.call c).1 = .ok (.session s) ∧
          (i.call c).2.relay.store.archive = i.relay.store.archive ∧
            (j.call c).1 = .error (.unknownSession id)) ∧
      ((∀ id s, c.recipient limit = some id → i.stored id = some s → ¬ s.isAborted) →
        (j.call c).1 = (i.call c).1) := by
  intro i j
  have hstart : Twins limit (vacant ⟨.keepAll, limit⟩ .none ids)
      (vacant ⟨.dropAborted, limit⟩ .none ids) Registry.empty :=
    ⟨keeps_vacant _ _ _, keeps_vacant _ _ _, rfl, rfl, rfl, rfl, fun _ _ hget => nomatch hget⟩
  have happend : (Calls.after call (vacant ⟨.keepAll, limit⟩ .none ids) (calls ++ [c])).drawn =
      (i.call c).2.drawn := by
    rw [Calls.after, List.foldl_append]
    rfl
  rw [happend] at hids
  have hi : i.ids = ids := ids_after _ _
  have hle : i.drawn ≤ (i.call c).2.drawn := by
    obtain ⟨m, hkeeps, -⟩ : ∃ m, i.Keeps ⟨.keepAll, limit⟩ .none m ∧ True :=
      hstart.keeps.after (fun _ _ _ _ _ _ => trivial) trivial hcalls
    rw [hkeeps.drawn_call]
    exact Nat.le_add_right _ _
  obtain ⟨m, htwins⟩ := hstart.after hcalls (hids.mono fun n hn => Nat.lt_of_lt_of_le hn hle)
  rw [← hi] at hids
  exact ⟨htwins.sheds, htwins.result_eq hc hids⟩

/-- Identifiers that differ from one another for the first 256 introductions. -/
def sampleIds (n : ℕ) : SessionId := .replicate (UInt8.ofNat (n + 7))

/-- Alice and Bob are introduced, the introduction is given up, and they are introduced again. -/
def reintroduce : List Call := [introduceAliceAndBob, giveUp, introduceAliceAndBob]

/-- The contacts of the sample calls can be stored. -/
lemma storable_reintroduce : ∀ c ∈ reintroduce, c.Storable := by
  intro c hc
  simp only [reintroduce, List.mem_cons, List.not_mem_nil, or_false] at hc
  rcases hc with rfl | rfl | rfl
  · exact storable_introduceAliceAndBob
  · exact trivial
  · exact storable_introduceAliceAndBob

/-- An introducer that has introduced Alice and Bob again. -/
def reintroducing (retention : Relay.Retention) : Introducer :=
  Calls.after call (vacant ⟨retention, 65536⟩ .none sampleIds) reintroduce

/-- The second introduction is given up. -/
def giveUpAgain : Call := .abort (.replicate 8)

/-- The sample identifiers of all introductions are different, also with another call. -/
lemma injOn_reintroduce : ∀ c ∈ [giveUp, giveUpAgain], Set.InjOn sampleIds (Set.Iio
    (Calls.after call (vacant ⟨.keepAll, 65536⟩ .none sampleIds) (reintroduce ++ [c])).drawn) := by
  have hdrawn : ∀ c ∈ [giveUp, giveUpAgain], (Calls.after call
      (vacant ⟨.keepAll, 65536⟩ .none sampleIds) (reintroduce ++ [c])).drawn = 2 := by
    decide +kernel
  intro c hc
  rw [hdrawn c hc]
  rintro a (ha : a < 2) b (hb : b < 2)
  interval_cases a <;> interval_cases b <;> decide

/-- Two introducers are asked to introduce Alice and Bob again, after the first introduction was
given up.  If it is then given up once more, the first returns the session and the second does not
know it; if the second introduction is given up, they answer alike. -/
theorem retention_reintroduce :
    ((∀ c ∈ reintroduce, c.Storable) ∧ (giveUp.Storable ∧ giveUpAgain.Storable) ∧
      ∀ c ∈ [giveUp, giveUpAgain], Set.InjOn sampleIds (Set.Iio (Calls.after call
        (vacant ⟨.keepAll, 65536⟩ .none sampleIds) (reintroduce ++ [c])).drawn)) ∧
    let i := reintroducing .keepAll
    let j := reintroducing .dropAborted
    i.Sheds j ∧
      (∃ s, i.stored (.replicate 7) = some s ∧ s.isAborted ∧
        (i.call giveUp).1 = .ok (.session s) ∧
          (i.call giveUp).2.relay.store.archive = i.relay.store.archive ∧
            (j.call giveUp).1 = .error (.unknownSession (.replicate 7))) ∧
        (j.call giveUpAgain).1 = (i.call giveUpAgain).1 := by
  have hgiveUp : giveUp.Storable := trivial
  have hgiveUpAgain : giveUpAgain.Storable := trivial
  obtain ⟨hsheds, hgivenUp, -⟩ := retention_of_calls 65536 storable_reintroduce hgiveUp
    (injOn_reintroduce giveUp (by simp))
  obtain ⟨-, -, halike⟩ := retention_of_calls 65536 storable_reintroduce hgiveUpAgain
    (injOn_reintroduce giveUpAgain (by simp))
  have hstored : ((reintroducing .keepAll).stored (.replicate 7)).any (·.isAborted) = true ∧
      ((reintroducing .keepAll).stored (.replicate 8)).all (!·.isAborted) = true := by
    decide +kernel
  rw [← reintroducing, ← reintroducing] at hsheds hgivenUp halike
  generalize reintroducing .keepAll = i at hsheds hgivenUp halike hstored ⊢
  generalize reintroducing .dropAborted = j at hsheds hgivenUp halike ⊢
  obtain ⟨hgiven, hgoing⟩ := hstored
  obtain ⟨s, hs, haborted⟩ := (Option.any_eq_true _ _).mp hgiven
  refine ⟨⟨storable_reintroduce, ⟨hgiveUp, hgiveUpAgain⟩, injOn_reintroduce⟩, hsheds,
    ⟨s, hs, haborted, hgivenUp _ s rfl hs haborted⟩, halike fun id t hid ht => ?_⟩
  obtain rfl : .replicate 8 = id := Option.some.inj hid
  simpa [ht] using hgoing

/-- An action that cannot be read is refused alike, whether or not the session that it is meant for
was given up and is kept. -/
theorem unread_action_of_aborted :
    let i := Calls.after call (vacant ⟨.keepAll, 65536⟩ .none sampleIds)
      [introduceAliceAndBob, giveUp]
    let j := Calls.after call (vacant ⟨.dropAborted, 65536⟩ .none sampleIds)
      [introduceAliceAndBob, giveUp]
    let c := Call.perform (.replicate 7) Dictionary.empty
    let e := Relay.Error.session (.malformedLocalAction (.missingKey Key.type))
    (i.stored (.replicate 7)).any (·.isAborted) ∧ j.stored (.replicate 7) = none ∧
      (i.call c).1 = .error e ∧ (j.call c).1 = .error e :=
  ⟨by decide +kernel, by decide +kernel, rfl, rfl⟩

end Introducer

end Introduction
