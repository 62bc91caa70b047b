import Introduction.Proofs.Relay.Retention
import Introduction.Proofs.Relay.Runs
import Introduction.Proofs.Simulation.Enacting

/-!
# Worlds that keep what others forget

Two worlds run the same scenario with the same choices.  In the first the introducer keeps sessions
that were given up, in the second it deletes them.  The worlds stay *twins*: all that can be seen of
them is the same, but for the errors and notices of the introducer, and the second stores what the
first stores without the sessions that were given up.

A session that was given up sends and publishes nothing, so a delivery leaves twins twins
(`Twins.step`), and so does a run (`Twins.run`).  The one difference that matters is made when the
introduction is given up by the introducer itself: where it was given up before, the second does not
know it any more (`Twins.abort_of_aborted`).
-/

namespace Introduction

namespace Registry

variable {m : Registry} {limit : ℕ} {id : SessionId}

/-- Sessions are sound without those that were given up. -/
lemma Sound.unaborted (hm : m.Sound) : m.unaborted.Sound := by
  intro id s hget
  rw [get?_unaborted, Option.filter_eq_some_iff] at hget
  exact hm id s hget.1

/-- Giving an input to a session leaves the same sessions, but for those that were given up. -/
lemma Sound.sheds_give (hm : m.Sound) (limit : ℕ) (id : SessionId) (input : Session.Input) :
    (m.give ⟨.keepAll, limit⟩ id input).Sheds
      (m.unaborted.give ⟨.dropAborted, limit⟩ id input) := by
  by_cases hlive : ∀ s, m.get? id = some s → ¬ s.isAborted
  · exact (hm.mirrors_give hlive limit input).toSheds
  · push Not at hlive
    obtain ⟨s, hget, hs⟩ := hlive
    obtain ⟨hkept, hdropped⟩ := hm.give_of_isAborted hget hs limit input
    rw [hkept, hdropped]
    exact ⟨rfl, rfl, rfl⟩

/-- So does giving an input to the session that a message names. -/
lemma Sound.sheds_giveNamed (hm : m.Sound) (limit : ℕ) (message : Dictionary)
    (input : Session.Input) :
    (m.giveNamed ⟨.keepAll, limit⟩ message input).Sheds
      (m.unaborted.giveNamed ⟨.dropAborted, limit⟩ message input) := by
  unfold Registry.giveNamed
  cases Relay.sessionOf message with
  | error e => exact (mirrors_refuse _).toSheds
  | ok id => exact hm.sheds_give limit id input

/-- Where nothing is deleted, what is stored stays stored. -/
lemma Serves.isSome {α : Type} {fresh : Session → Session.Input → α → Prop} {o : Outcome α}
    (h : m.Serves ⟨.keepAll, limit⟩ fresh o) (hid : (m.get? id).isSome) :
    (o.sessions.get? id).isSome := by
  have hkeep : ∀ t, ((m.keep ⟨.keepAll, limit⟩ t).get? id).isSome := by
    intro t
    rw [get?_keep]
    split_ifs with h₁ h₂
    · cases h₂.1
    · rfl
    · exact hid
  cases h with
  | refuse e he => exact hid
  | stored hget hstep => exact hkeep _
  | created hget hfresh hstep => exact hkeep _

end Registry

/-- Contacts who are not being introduced are not refused. -/
lemma Relay.leads_ensureFree_of_free {faults : Relay.Faults} {l : Relay.Ledger} {m : Registry}
    (hm : m.Sound) (hl : l.archive = m.archive) (first second : Contact)
    (hfree : m.liveSessionFor first.channel second.channel = none) :
    Relay.Leads (Relay.ensureFree first second) faults l
      (Relay.ComesTo faults l ⟨.ok (), m, [], []⟩) := by
  have hdone : Relay.ComesTo faults l (⟨.ok (), m, [], []⟩ : Outcome Unit) (.ok ()) l := by
    have henter : l.enter (⟨.ok (), m, [], []⟩ : Outcome Unit) = l := by
      unfold Relay.Ledger.enter
      rw [← hl, List.append_nil, List.append_nil]
    have hdone : Relay.ComesTo faults l (⟨.ok (), m, [], []⟩ : Outcome Unit) _ _ := .done
    rwa [henter] at hdone
  refine (Relay.leads_ensureFree hm hl first second).imp fun y l₁ hy => ?_
  obtain ⟨rfl, ⟨-, rfl⟩ | ⟨existing, hlive, -⟩ | ⟨hstore, e, rfl⟩⟩ := hy
  · exact hdone
  · cases hfree.symm.trans hlive
  · exact .refused hstore e

namespace Registry

/-- What is started where nothing is stored is stored. -/
lemma isSome_introduce_empty {limit : ℕ} {next id : SessionId} {first second : Contact}
    {publicKey₁ publicKey₂ : Bytes} {note : Option String}
    (h : (empty.introduce ⟨.keepAll, limit⟩ next first second publicKey₁ publicKey₂ note).result =
      .ok id) :
    ((empty.introduce ⟨.keepAll, limit⟩ next first second publicKey₁ publicKey₂
      note).sessions.get? id).isSome := by
  have hfree : empty.liveSessionFor first.channel second.channel = none := rfl
  unfold introduce at h ⊢
  rw [hfree] at h ⊢
  cases hstart : Session.start next first second with
  | error e =>
    rw [hstart] at h
    cases h
  | ok s =>
    obtain ⟨rfl, -, -⟩ := Session.eq_of_start hstart
    obtain ⟨update, hanswer, hcarries⟩ := s.answer_step (.act (.request publicKey₁ publicKey₂ note))
    have hcreate : empty.create ⟨.keepAll, limit⟩ s (.request publicKey₁ publicKey₂ note) =
        empty.carryOut ⟨.keepAll, limit⟩ s.id (.ok update) :=
      congrArg (empty.carryOut ⟨.keepAll, limit⟩ s.id) hanswer
    rw [hstart] at h
    dsimp only at h ⊢
    rw [hcreate, carryOut_ok hcarries] at h ⊢
    cases h
    show ((empty.keep ⟨.keepAll, limit⟩ update.session).get? s.id).isSome
    rw [get?_keep, if_pos hcarries.step.id_eq.symm, if_neg fun h => nomatch h.1]
    rfl

end Registry

namespace Simulation.World

open Relay (Config Faults Leads ComesTo)

variable {σ α : Type} {limit : ℕ} {m : Registry} {w v w' v' : World σ}

/-- What can be seen of a world besides its relay: all but what went wrong and what was told. -/
def bare (w : World σ) : World σ := { w with relay := {}, errors := [], notices := [] }

/-- Whatever is seen of one world is seen of another that looks the same. -/
lemma congr_bare {β : Type} (f : World σ → β) (h : v.bare = w.bare) : f v.bare = f w.bare :=
  congrArg f h

/-- Two worlds look the same and their introducers are refused nothing.  The first keeps the
sessions in a registry, and the second those that were not given up.  The introduction that was
started is among them. -/
structure Twins (limit : ℕ) (m : Registry) (w v : World σ) : Prop where
  keeps : w.relay.Follows ⟨.keepAll, limit⟩ ⟨m, [], w.relay.events⟩
  drops : v.relay.Follows ⟨.dropAborted, limit⟩ ⟨m.unaborted, [], w.relay.events⟩
  bare_eq : v.bare = w.bare
  stored : ∀ id, w.introduction = some id → (m.get? id).isSome

namespace Twins

/-- Worlds are twins by their relays and looks. -/
lemma congr (h : Twins limit m w v) (hw : w'.relay = w.relay) (hv : v'.relay = v.relay)
    (hbare : v'.bare = w'.bare) (hintroduction : w'.introduction = w.introduction) :
    Twins limit m w' v' := by
  refine ⟨?_, ?_, hbare, ?_⟩
  · rw [hw]
    exact h.keeps
  · rw [hv, hw]
    exact h.drops
  · rw [hintroduction]
    exact h.stored

/-- Twins stay twins when both are changed alike in what can be seen of them. -/
lemma update (h : Twins limit m w v) (f : World σ → World σ) (hf : ∀ x, (f x).relay = x.relay ∧
    (f x).bare = (f x.bare).bare ∧ (f x).introduction = x.introduction) :
    Twins limit m (f w) (f v) := by
  refine h.congr (hf w).1 (hf v).1 ?_ (hf w).2.2
  rw [(hf v).2.1, (hf w).2.1, h.bare_eq]

/-- The introduction that twins have started last is the same. -/
lemma introduction_eq (h : Twins limit m w v) : v.introduction = w.introduction :=
  congr_bare World.introduction h.bare_eq

/-- Nothing else of twins differs in what is delivered and to whom. -/
lemma network_eq (h : Twins limit m w v) : v.network = w.network :=
  congr_bare World.network h.bare_eq

end Twins

/-! ### Calls of the introducer -/

/-- A call carries out the action on the relay. -/
lemma call_eq_outcome (w : World σ) (action : Relaying α) :
    w.call action = ((outcome action w.relay).1, w.absorb (outcome action w.relay).2) := by
  unfold call outcome
  cases action w.relay <;> rfl

/-- What is left of a call of an introducer that follows a registry. -/
lemma call_of_leads {action : Relaying α} {config : Config} {o : Outcome α} {events : List Event}
    (hw : w.relay.Follows config ⟨m, [], events⟩) (hsound : o.sessions.Sound)
    (h : Leads action .none ⟨config, m.archive, [], events⟩
      (ComesTo .none ⟨config, m.archive, [], events⟩ o)) :
    (w.call action).1 = o.result ∧
      (w.call action).2.relay.Follows config ⟨o.sessions, [], events ++ o.events⟩ ∧
        (w.call action).2.bare =
          { w.bare with network := o.envelopes.foldl Network.route w.network } := by
  obtain ⟨l, hbears, hcomes⟩ := h w.relay hw.bears
  obtain ⟨hresult, rfl⟩ :=
    hcomes.eq_done (Faults.not_hitStore _) Faults.not_hitTransport_none
  have hsent : (outcome action w.relay).2.outbox.sent = o.envelopes := hbears.sent_eq
  rw [call_eq_outcome]
  refine ⟨hresult, ⟨hsound, { hbears with sent_eq := rfl }⟩, ?_⟩
  rw [← hsent]
  rfl

namespace Twins

/-- Twins stay twins over a call that sends and publishes the same and leaves the same sessions, but
for those that were given up. -/
lemma call {action : Relaying α} {o o' : Outcome α} (h : Twins limit m w v)
    (hkeep : Leads action .none ⟨⟨.keepAll, limit⟩, m.archive, [], w.relay.events⟩
      (ComesTo .none ⟨⟨.keepAll, limit⟩, m.archive, [], w.relay.events⟩ o))
    (hdrop : Leads action .none ⟨⟨.dropAborted, limit⟩, m.unaborted.archive, [], w.relay.events⟩
      (ComesTo .none ⟨⟨.dropAborted, limit⟩, m.unaborted.archive, [], w.relay.events⟩ o'))
    (hsheds : o.Sheds o') (hsound : o.sessions.Sound)
    (hstored : ∀ id, (m.get? id).isSome → (o.sessions.get? id).isSome) :
    (w.call action).1 = o.result ∧ (v.call action).1 = o'.result ∧
      Twins limit o.sessions (w.call action).2 (v.call action).2 := by
  have hsound' : o'.sessions.Sound := by
    rw [hsheds.sessions_eq]
    exact hsound.unaborted
  obtain ⟨hresult, hkeeps, hbare⟩ := call_of_leads h.keeps hsound hkeep
  obtain ⟨hresult', hdrops, hbare'⟩ := call_of_leads h.drops hsound' hdrop
  have hevents : (w.call action).2.relay.events = w.relay.events ++ o.events :=
    hkeeps.bears.events_eq
  have hintroduction : (w.call action).2.introduction = w.introduction := by
    rw [call_eq_outcome]
    rfl
  refine ⟨hresult, hresult', ?_, ?_, ?_, fun id hid => ?_⟩
  · rw [hevents]
    exact hkeeps
  · rw [hevents, ← hsheds.sessions_eq, ← hsheds.events_eq]
    exact hdrops
  · rw [hbare, hbare', h.bare_eq, h.network_eq, hsheds.envelopes_eq]
  · exact hstored id (h.stored id (hintroduction.symm.trans hid))

/-- An input that is given to a session leaves twins twins. -/
lemma give (h : Twins limit m w v) (id : SessionId) (input : Session.Input) :
    (w.call (Relay.give id input)).1 = (m.give ⟨.keepAll, limit⟩ id input).result ∧
      (v.call (Relay.give id input)).1 = (m.unaborted.give ⟨.dropAborted, limit⟩ id input).result ∧
        Twins limit (m.give ⟨.keepAll, limit⟩ id input).sessions
          (w.call (Relay.give id input)).2 (v.call (Relay.give id input)).2 := by
  have hm : m.Sound := h.keeps.sound
  have hserves : m.Serves ⟨.keepAll, limit⟩ (fun _ _ (_ : Session) => False) _ :=
    hm.serves_give id input
  exact h.call (Relay.leads_give hm rfl id input) (Relay.leads_give hm.unaborted rfl id input)
    (hm.sheds_give limit id input) (hserves.sound hm fun _ _ _ hno => hno.elim)
    fun _ => hserves.isSome

/-- An input that is given to the session that a message names, if it names one, leaves twins
twins. -/
lemma giveNamed (h : Twins limit m w v) (message : Dictionary) (input : Session.Input) :
    let action := do Relay.give (← Relay.ofWire (Relay.sessionOf message)) input
    ∃ m', Twins limit m' (w.call action).2 (v.call action).2 := by
  have hm : m.Sound := h.keeps.sound
  have hserves : m.Serves ⟨.keepAll, limit⟩ (fun _ _ (_ : Session) => False) _ :=
    hm.serves_giveNamed message input
  obtain ⟨-, -, htwins⟩ := h.call (Relay.leads_giveNamed hm rfl message input)
    (Relay.leads_giveNamed hm.unaborted rfl message input) (hm.sheds_giveNamed limit message input)
    (hserves.sound hm fun _ _ _ hno => hno.elim) fun _ => hserves.isSome
  exact ⟨_, htwins⟩

/-! ### Deliveries -/

/-- Twins stay twins when the introducer takes note of a delivery. -/
lemma noteDelivery (h : Twins limit m w v) (d : Delivery) :
    ∃ m', Twins limit m' (w.noteDelivery d) (v.noteDelivery d) := by
  have hnote : ∀ x : World σ,
      (x.noteDelivery d).relay = (x.call (Relay.delivered d.message)).2.relay ∧
        (x.noteDelivery d).bare = (x.call (Relay.delivered d.message)).2.bare := by
    intro x
    unfold World.noteDelivery
    rcases x.call (Relay.delivered d.message) with ⟨_ | _, x'⟩ <;> exact ⟨rfl, rfl⟩
  obtain ⟨m', htwins⟩ := h.giveNamed d.message (.delivered d.message)
  obtain ⟨hw, hbw⟩ := hnote w
  obtain ⟨hv, hbv⟩ := hnote v
  exact ⟨m', htwins.congr hw hv (hbv.trans (htwins.bare_eq.trans hbw.symm))
    (congr_bare World.introduction hbw)⟩

/-- Twins stay twins when a message is delivered to the introducer. -/
lemma deliverToIntroducer (h : Twins limit m w v) (d : Delivery) :
    ∃ m', Twins limit m' (w.deliverToIntroducer d) (v.deliverToIntroducer d) := by
  have hdeliver : ∀ x : World σ,
      let called : World σ :=
        (World.call { x with toIntroducer := x.toIntroducer + 1 } (Relay.receive d.message)).2
      (x.deliverToIntroducer d).relay = called.relay ∧
        (x.deliverToIntroducer d).bare = called.bare := by
    intro x
    unfold World.deliverToIntroducer
    rcases World.call { x with toIntroducer := x.toIntroducer + 1 } (Relay.receive d.message) with
      ⟨_ | _, x'⟩ <;> exact ⟨rfl, rfl⟩
  have hcounted := h.update (fun x => { x with toIntroducer := x.toIntroducer + 1 }) fun _ =>
    ⟨rfl, rfl, rfl⟩
  obtain ⟨m', htwins⟩ := hcounted.giveNamed d.message (.message d.message)
  obtain ⟨hw, hbw⟩ := hdeliver w
  obtain ⟨hv, hbv⟩ := hdeliver v
  exact ⟨m', htwins.congr hw hv (hbv.trans (htwins.bare_eq.trans hbw.symm))
    (congr_bare World.introduction hbw)⟩

variable [Choice σ]

/-- Twins stay twins when a message is delivered to a contact. -/
lemma deliverToContact (h : Twins limit m w v) (d : Delivery) :
    ∃ m', Twins limit m' (w.deliverToContact d) (v.deliverToContact d) := by
  obtain ⟨m', htwins⟩ := h.noteDelivery d
  refine ⟨m', ?_⟩
  unfold World.deliverToContact
  generalize w.noteDelivery d = x at htwins ⊢
  generalize v.noteDelivery d = y at htwins ⊢
  have hbare := htwins.bare_eq
  have hside : y.sideOn d.channel = x.sideOn d.channel :=
    congr_bare (fun b : World σ => b.sideOn d.channel) hbare
  dsimp only
  rw [hside]
  cases x.sideOn d.channel with
  | none => exact htwins.update (·.tell _) fun _ => ⟨rfl, rfl, rfl⟩
  | some side =>
    have hparticipant : y.participant side = x.participant side := by
      cases side
      · exact congr_bare World.first hbare
      · exact congr_bare World.second hbare
    have hreaction : (y.participant side).handle y.now d.message y.source =
        (x.participant side).handle x.now d.message x.source := by
      rw [hparticipant, show y.now = x.now from congr_bare World.now hbare,
        show y.source = x.source from congr_bare World.source hbare]
    dsimp only
    rw [hreaction, hparticipant]
    generalize (x.participant side).handle x.now d.message x.source = reaction
    refine htwins.update (fun b => { b with
      source := reaction.source
      toContacts := b.toContacts + 1
      network := reaction.replies.foldl (·.send (x.participant side).contact.channel ·) b.network
      notices := b.notices ++ reaction.notices }.setParticipant reaction.participant side)
      fun b => ?_
    cases side <;> exact ⟨rfl, rfl, rfl⟩

/-- Twins stay twins when a message is delivered. -/
lemma deliver (h : Twins limit m w v) (d : Delivery) :
    ∃ m', Twins limit m' (w.deliver d) (v.deliver d) := by
  have hadvanced := h.update
    (fun x => { x with now := advance x.now stepTime }.tell [Network.notice d]) fun _ =>
      ⟨rfl, rfl, rfl⟩
  unfold World.deliver
  cases d.direction with
  | toContact => exact hadvanced.deliverToContact d
  | toIntroducer => exact hadvanced.deliverToIntroducer d

/-- Twins deliver at the same time, and stay twins. -/
theorem step (h : Twins limit m w v) :
    v.step.1 = w.step.1 ∧ ∃ m', Twins limit m' w.step.2 v.step.2 := by
  have hsource : v.source = w.source := congr_bare World.source h.bare_eq
  unfold World.step
  rw [h.network_eq, hsource]
  rcases w.network.step w.source with ⟨_ | d, network, source⟩
  · exact ⟨rfl, m, h.update (fun x => { x with network, source }) fun _ => ⟨rfl, rfl, rfl⟩⟩
  · exact ⟨rfl, (h.update (fun x => { x with network, source }) fun _ => ⟨rfl, rfl, rfl⟩).deliver d⟩

/-- Twins make the same deliveries in a run, and stay twins: by induction on its limit. -/
theorem run (h : Twins limit m w v) (deliveries : ℕ) :
    (v.run deliveries).1 = (w.run deliveries).1 ∧
      ∃ m', Twins limit m' (w.run deliveries).2 (v.run deliveries).2 := by
  induction deliveries generalizing m w v with
  | zero => exact ⟨rfl, m, h⟩
  | succ deliveries ih =>
    obtain ⟨hmoved, m', hnext⟩ := h.step
    obtain ⟨hcount, hend⟩ := ih hnext
    rw [run_succ_fst, run_succ_fst, run_succ, run_succ, hmoved, hcount]
    refine ⟨rfl, ?_⟩
    split_ifs
    · exact hend
    · exact ⟨m', hnext⟩

/-! ### Starting the introduction -/

omit [Choice σ] in
/-- Nothing stands in the way of an introduction where nothing is stored. -/
lemma ensureFree (h : Twins limit Registry.empty w v) (first second : Contact) :
    ∃ x y, w.call (Relay.ensureFree first second) = (.ok (), x) ∧
      v.call (Relay.ensureFree first second) = (.ok (), y) ∧ Twins limit Registry.empty x y := by
  obtain ⟨hfree, hfree', htwins⟩ := h.call
    (Relay.leads_ensureFree_of_free Registry.sound_empty rfl first second rfl)
    (Relay.leads_ensureFree_of_free Registry.sound_empty.unaborted rfl first second rfl)
    ⟨rfl, rfl, rfl⟩ Registry.sound_empty fun _ => id
  exact ⟨_, _, Prod.ext hfree rfl, Prod.ext hfree' rfl, htwins⟩

omit [Choice σ] in
/-- An introduction is started with the same result where nothing is stored, and is stored then. -/
lemma introduceAs (h : Twins limit Registry.empty w v) (id : SessionId) {first second : Contact}
    (hfirst : first.Storable) (hsecond : second.Storable) (publicKey₁ publicKey₂ : Bytes)
    (note : Option String) :
    ∃ result x y m',
      w.call (Relay.introduceAs id first second publicKey₁ publicKey₂ note) = (result, x) ∧
        v.call (Relay.introduceAs id first second publicKey₁ publicKey₂ note) = (result, y) ∧
        Twins limit m' x y ∧ ∀ id', result = .ok id' → (m'.get? id').isSome := by
  have hmirrors : (Registry.empty.introduce ⟨.keepAll, limit⟩ id first second publicKey₁ publicKey₂
      note).Mirrors (Registry.empty.unaborted.introduce ⟨.dropAborted, limit⟩ id first second
        publicKey₁ publicKey₂ note) :=
    Registry.mirrors_introduce (fun _ => rfl) publicKey₁ publicKey₂ note
  have hserves : Registry.empty.Serves ⟨.keepAll, limit⟩ (Registry.empty.Introducible id)
      ((Registry.empty.introduce ⟨.keepAll, limit⟩ id first second publicKey₁ publicKey₂ note).map
        .started) :=
    Registry.serves_introduce hfirst hsecond publicKey₁ publicKey₂ note
  obtain ⟨hresult, hresult', htwins⟩ := h.call
    (Relay.leads_introduceAs Registry.sound_empty rfl id rfl publicKey₁ publicKey₂ note)
    (Relay.leads_introduceAs Registry.sound_empty.unaborted rfl id rfl publicKey₁ publicKey₂ note)
    hmirrors.toSheds (hserves.sound Registry.sound_empty fun _ _ _ hfresh => hfresh.storable)
    fun _ hid => nomatch hid
  exact ⟨_, _, _, _, Prod.ext hresult rfl, Prod.ext (hresult'.trans hmirrors.result_eq) rfl, htwins,
    fun _ hok => Registry.isSome_introduce_empty hok⟩

/-- Twins that have stored nothing start the introduction of two contacts with the same result, and
stay twins. -/
theorem introduce (h : Twins limit Registry.empty w v) (hfirst : w.first.contact.Storable)
    (hsecond : w.second.contact.Storable) (note : Option String) :
    (v.introduce note).1 = (w.introduce note).1 ∧
      ∃ m', Twins limit m' (w.introduce note).2 (v.introduce note).2 := by
  have hsource : v.source = w.source := congr_bare World.source h.bare_eq
  have hv₁ : v.first = w.first := congr_bare World.first h.bare_eq
  have hv₂ : v.second = w.second := congr_bare World.second h.bare_eq
  -- a world with another source of choices, on either side
  have hdraw : ∀ {x y : World σ} (source : σ), Twins limit Registry.empty x y →
      Twins limit Registry.empty { x with source } { y with source } := fun source hxy =>
    hxy.update (fun b => { b with source }) fun _ => ⟨rfl, rfl, rfl⟩
  unfold World.introduce
  rw [hsource, hv₁, hv₂]
  dsimp only
  obtain ⟨x, y, hw, hv, hfree⟩ :=
    (hdraw (Choice.publicKey (Choice.publicKey w.source).2).2 h).ensureFree w.first.contact
      w.second.contact
  rw [hv₁, hv₂] at hv
  rw [hw, hv]
  dsimp only
  have hsource' : y.source = x.source := congr_bare World.source hfree.bare_eq
  rw [hsource']
  obtain ⟨result, x', y', m', hw', hv', hstarted, hstored⟩ :=
    (hdraw (Choice.identifier x.source : SessionId × σ).2 hfree).introduceAs
      (Choice.identifier x.source).1 hfirst hsecond (Choice.publicKey w.source).1
      (Choice.publicKey (Choice.publicKey w.source).2).1 note
  rw [hw', hv']
  cases result with
  | error e => exact ⟨rfl, m', hstarted⟩
  | ok id =>
    refine ⟨rfl, m', hstarted.keeps, hstarted.drops,
      congr_bare (fun b : World σ => ({ b with introduction := some id } : World σ))
        hstarted.bare_eq, fun id' hid => ?_⟩
    cases hid
    exact hstored id rfl

omit [Choice σ]

/-! ### Where a session was given up -/

/-- The introduction of a world whose introducer follows a registry. -/
lemma session?_of_follows {config : Config} {events : List Event}
    (h : w.relay.Follows config ⟨m, [], events⟩) :
    w.session? = w.introduction.bind (m.get? ·) := by
  unfold session?
  cases w.introduction with
  | none => rfl
  | some id =>
    have hread := h.readsAs.session?_eq id
    unfold outcome at hread
    dsimp only at hread ⊢
    revert hread
    cases Relay.session? id w.relay with
    | ok s r => exact Except.ok.inj
    | error e r => nofun

/-- Twins agree on where the introduction stands, unless it was given up; then the first says so,
and the second stores nothing. -/
theorem state?_cases (h : Twins limit m w v) :
    (w.state? = some .aborted ∧ v.state? = none) ∨
      (w.state? ≠ some .aborted ∧ v.state? = w.state?) := by
  unfold state?
  rw [session?_of_follows h.keeps, session?_of_follows h.drops, h.introduction_eq]
  cases w.introduction with
  | none => exact .inr ⟨nofun, rfl⟩
  | some id =>
    simp only [Option.bind_some, Registry.get?_unaborted]
    cases hget : m.get? id with
    | none => exact .inr ⟨nofun, rfl⟩
    | some s =>
      rw [Option.filter_some]
      unfold Session.isAborted
      by_cases hs : s.state = .aborted
      · exact .inl (by simp [hs])
      · exact .inr (by simp [hs])

/-- What giving the introduction up comes to. -/
lemma abort_eq (w : World σ) (id : SessionId) (h : w.introduction = some id) :
    w.abort = ((w.call (Relay.give id (.act .abort))).1.map fun _ => (),
      (w.call (Relay.give id (.act .abort))).2) := by
  have hperform : Relay.perform id .abort = Relay.give id (.act .abort) := rfl
  unfold abort
  rw [h]
  dsimp only
  rw [hperform]
  rcases w.call (Relay.give id (.act .abort)) with ⟨_ | _, x⟩ <;> rfl

/-- Twins give the introduction up with the same result, unless it was given up before, and stay
twins. -/
theorem abort (h : Twins limit m w v) (hstate : w.state? ≠ some .aborted) :
    v.abort.1 = w.abort.1 ∧ ∃ m', Twins limit m' w.abort.2 v.abort.2 := by
  cases hid : w.introduction with
  | none =>
    have hnothing : ∀ x : World σ, x.introduction = none → x.abort = (.ok (), x) := by
      intro x hx
      unfold World.abort
      rw [hx]
    rw [hnothing w hid, hnothing v (h.introduction_eq.trans hid)]
    exact ⟨rfl, m, h⟩
  | some id =>
    rw [abort_eq w id hid, abort_eq v id (h.introduction_eq.trans hid)]
    obtain ⟨hresult, hresult', htwins⟩ := h.give id (.act .abort)
    have hm : m.Sound := h.keeps.sound
    have hlive : ∀ s, m.get? id = some s → ¬ s.isAborted := by
      intro s hget hs
      refine hstate ?_
      have hs' : s.state = .aborted := of_decide_eq_true hs
      rw [state?, session?_of_follows h.keeps, hid, Option.bind_some, hget, Option.map_some, hs']
    rw [hresult, hresult', (hm.mirrors_give hlive limit _).result_eq]
    exact ⟨rfl, _, htwins⟩

/-- The second of two twins does not know an introduction that was given up before. -/
theorem abort_of_aborted (h : Twins limit m w v) (hstate : w.state? = some .aborted) :
    ∃ id, v.abort.2.introduction = some id ∧ v.abort.1 = .error (.unknownSession id) := by
  rw [state?, session?_of_follows h.keeps, Option.map_eq_some_iff] at hstate
  obtain ⟨s, hs, haborted⟩ := hstate
  obtain ⟨id, hid, hget⟩ := Option.bind_eq_some_iff.mp hs
  have hm : m.Sound := h.keeps.sound
  obtain ⟨-, hresult', htwins⟩ := h.give id (.act .abort)
  obtain ⟨-, hdropped⟩ := hm.give_of_isAborted hget (decide_eq_true haborted) limit (.act .abort)
  rw [abort_eq v id (h.introduction_eq.trans hid)]
  rw [hdropped] at hresult'
  refine ⟨id, ?_, by rw [hresult']; rfl⟩
  rw [call_eq_outcome]
  exact h.introduction_eq.trans hid

end Twins

end Simulation.World

end Introduction
