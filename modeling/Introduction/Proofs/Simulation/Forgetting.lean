import Introduction.Proofs.Simulation.Twins

/-!
# Scenarios under either retention

A scenario is run twice with the same choices, where sessions that were given up are kept and where
they are deleted.  The worlds are twins all the way, so the runs differ in two things only: in
giving up an introduction that was given up before, which stops the second run with an error, and in
what the oracles make of a session that is not stored.  The oracles that come with the simulation
take it for one that was given up (`Stock.accepts_iff`), with one reservation: the events are set
beside the answers of the contacts unless the session is stored as aborted, so the oracle that does
so is considered only where this makes no difference (it does in the run of `matched_apart`).

The main statement is `enact_retaining`.
-/

namespace Introduction.Simulation

open Relay (Retention)

variable {σ : Type}

/-! ### Oracles -/

namespace Oracle

/-- The oracles of the simulation and their conjunctions.  The one that sets the events beside the
answers is among them on a condition. -/
inductive Stock (condition : Prop) : Oracle σ → Prop
  | finished : Stock condition finished
  | aborted : Stock condition aborted
  | settled : Stock condition settled
  | eventsMatchResponses (h : condition) : Stock condition eventsMatchResponses
  | allOf {oracles : List (Oracle σ)} (h : ∀ o ∈ oracles, Stock condition o) :
      Stock condition (allOf oracles)

/-- Every contact that answered is reported by some event. -/
def ReportsAll (w : World σ) : Prop := ∀ side, reported w (w.participant side) = .ok ()

variable {limit : ℕ} {m : Registry} {w v : World σ}

/-- Twins make the same of an event. -/
lemma eventMatches_eq (h : World.Twins limit m w v) (e : Event) :
    eventMatches v e = eventMatches w e :=
  World.congr_bare (fun b => eventMatches b e) h.bare_eq

/-- Twins have published the same. -/
lemma events_eq (h : World.Twins limit m w v) : v.events = w.events := h.drops.bears.events_eq

/-- The contacts of twins are the same. -/
lemma participant_eq (h : World.Twins limit m w v) (side : Side) :
    v.participant side = w.participant side :=
  World.congr_bare (fun b => b.participant side) h.bare_eq

/-- Twins report the same contacts. -/
lemma reported_eq (h : World.Twins limit m w v) (side : Side) :
    reported v (v.participant side) = reported w (w.participant side) := by
  unfold reported
  rw [participant_eq h, events_eq h]

/-- The oracles accept twins alike.  The induction is on how the oracle is put together; where the
introduction was given up, the second twin stores nothing. -/
theorem Stock.accepts_iff {o : Oracle σ} (h : World.Twins limit m w v)
    (ho : Stock (w.state? = some .aborted → ReportsAll w) o) : o v = .ok () ↔ o w = .ok () := by
  have haborted : Oracle.aborted v = Oracle.aborted w := by
    unfold Oracle.aborted
    simp only [participant_eq h]
    rcases h.state?_cases with ⟨hw, hv⟩ | ⟨-, hv⟩
    · rw [hw, hv]
    · rw [hv]
  induction ho with
  | finished =>
    unfold Oracle.finished stalledIn
    simp only [participant_eq h]
    rcases h.state?_cases with ⟨hw, hv⟩ | ⟨-, hv⟩
    · rw [hw, hv]
      exact iff_of_false nofun nofun
    · rw [hv]
  | aborted => rw [haborted]
  | settled =>
    unfold Oracle.settled
    rw [haborted]
    rcases h.state?_cases with ⟨hw, hv⟩ | ⟨-, hv⟩
    · rw [hw, hv]
    · rw [hv]
  | eventsMatchResponses hcondition =>
    have hmatches : eventMatches v = eventMatches w := funext (eventMatches_eq h)
    unfold Oracle.eventsMatchResponses
    simp only [reported_eq h, events_eq h, hmatches]
    rcases h.state?_cases with ⟨hw, hv⟩ | ⟨-, hv⟩
    · have hreported := World.onBothSides_eq (hcondition hw)
      rw [hw, hv, if_pos (by simp), if_neg (by simp), hreported]
      rfl
    · rw [hv]
  | allOf _ ih =>
    unfold Oracle.allOf
    rw [Except.forM_eq_ok_iff, Except.forM_eq_ok_iff]
    exact forall₂_congr ih

end Oracle

/-! ### Runs -/

namespace Scenario

variable [Choice σ] {limit : ℕ} {m : Registry} {w v : World σ} {s : Scenario}

/-- The scenario with another rule for sessions that were given up. -/
def retaining (s : Scenario) (retention : Retention) : Scenario := { s with retention }

/-- The introduction is to be given up at a time when it was given up already. -/
def AbortsLate (s : Scenario) (w : World σ) : Prop :=
  ∃ n id x, s.abortAfter = some n ∧ n ≤ s.maxSteps ∧ w.introduce s.note = (.ok id, x) ∧
    (x.run n).1 = n ∧ (x.run n).2.state? = some .aborted

/-- The worlds at the start are twins. -/
lemma twins_start (s : Scenario) (source : σ) :
    World.Twins Dictionary.defaultLimit Registry.empty ((s.retaining .keepAll).start source)
      ((s.retaining .dropAborted).start source) :=
  ⟨⟨Registry.sound_empty, rfl, rfl, rfl, fun _ _ => rfl, rfl, rfl, rfl, rfl⟩,
    ⟨Registry.sound_empty, rfl, rfl, rfl, fun _ _ => rfl, rfl, rfl, rfl, rfl⟩, rfl, nofun⟩

/-- The deliveries of a scenario under either rule. -/
lemma deliverFrom_retaining (s : Scenario) (retention : Retention) (w : World σ) :
    (s.retaining retention).deliverFrom 0 s.maxSteps w =
      match s.abortAfter with
      | none => (.ok (), (w.run s.maxSteps).2)
      | some n =>
        if n ≤ s.maxSteps ∧ (w.run n).1 = n then
          match (w.run n).2.abort with
          | (.error e, v) => (.error (.abort e), v)
          | (.ok (), v) => (.ok (), (v.run (s.maxSteps - n)).2)
        else (.ok (), (w.run s.maxSteps).2) :=
  deliverFrom_eq (s.retaining retention) w

/-- The deliveries of twins, if the introduction is not to be given up at a time when it was given
up already. -/
lemma deliverFrom_twins (h : World.Twins limit m w v)
    (hlate : ∀ n, s.abortAfter = some n → n ≤ s.maxSteps → (w.run n).1 = n →
      (w.run n).2.state? ≠ some .aborted) :
    ((s.retaining .dropAborted).deliverFrom 0 s.maxSteps v).1 =
        ((s.retaining .keepAll).deliverFrom 0 s.maxSteps w).1 ∧
      ∃ m', World.Twins limit m' ((s.retaining .keepAll).deliverFrom 0 s.maxSteps w).2
        ((s.retaining .dropAborted).deliverFrom 0 s.maxSteps v).2 := by
  have hrun : ∃ m', World.Twins limit m' (w.run s.maxSteps).2 (v.run s.maxSteps).2 :=
    (h.run s.maxSteps).2
  rw [deliverFrom_retaining, deliverFrom_retaining]
  cases hafter : s.abortAfter with
  | none => exact ⟨rfl, hrun⟩
  | some n =>
    obtain ⟨hcount, m', hn⟩ := h.run n
    dsimp only
    rw [hcount]
    by_cases hdue : n ≤ s.maxSteps ∧ (w.run n).1 = n
    · rw [if_pos hdue, if_pos hdue]
      obtain ⟨hresult, m'', hgiven⟩ := hn.abort (hlate n hafter hdue.1 hdue.2)
      generalize (w.run n).2.abort = given at hresult hgiven ⊢
      generalize (v.run n).2.abort = given' at hresult hgiven ⊢
      obtain ⟨result, x⟩ := given
      obtain ⟨result', y⟩ := given'
      dsimp only at hresult hgiven
      subst hresult
      cases result' with
      | error e => exact ⟨rfl, m'', hgiven⟩
      | ok _ => exact ⟨rfl, (hgiven.run _).2⟩
    · rw [if_neg hdue, if_neg hdue]
      exact ⟨rfl, hrun⟩

/-- The deliveries of the second of two twins stop where the introduction is to be given up at a
time when it was given up already. -/
lemma deliverFrom_of_late (h : World.Twins limit m w v) {n : ℕ} (hafter : s.abortAfter = some n)
    (hdue : n ≤ s.maxSteps ∧ (w.run n).1 = n) (hstate : (w.run n).2.state? = some .aborted) :
    ∃ id x, x.introduction = some id ∧ (s.retaining .dropAborted).deliverFrom 0 s.maxSteps v =
      (.error (.abort (.unknownSession id)), x) := by
  obtain ⟨hcount, m', hn⟩ := h.run n
  obtain ⟨id, hid, hresult⟩ := hn.abort_of_aborted hstate
  rw [deliverFrom_retaining, hafter]
  dsimp only
  rw [hcount, if_pos hdue]
  generalize (v.run n).2.abort = given at hid hresult ⊢
  obtain ⟨result, x⟩ := given
  dsimp only at hid hresult
  rw [hresult]
  exact ⟨id, x, hid, rfl⟩

/-- A run whose introduction is refused fails. -/
lemma enact_of_introduce_error {o : Oracle σ} {e : Relay.Error}
    (h : (w.introduce s.note).1 = .error e) : (s.enact o w).1 = .error (.introduce e) := by
  unfold enact
  rw [show w.introduce s.note = (.error e, (w.introduce s.note).2) from Prod.ext h rfl]

omit [Choice σ] in
/-- A judgement is favourable if the oracle accepts. -/
lemma mapError_eq_ok_iff {x : Except Oracle.Failure Unit} :
    x.mapError Cause.rejected = .ok () ↔ x = .ok () := by
  cases x with
  | error e => exact iff_of_false nofun nofun
  | ok _ => exact iff_of_true rfl rfl

omit [Choice σ] in
/-- Deliveries with the same result that leave twins are judged alike. -/
lemma judge_twins {o : Oracle σ} {delivered delivered' : Except Cause Unit × World σ}
    (hsame : delivered'.1 = delivered.1) (h : World.Twins limit m delivered.2 delivered'.2)
    (ho : Oracle.Stock (delivered.2.state? = some .aborted → Oracle.ReportsAll delivered.2) o) :
    (s.retaining .dropAborted).judge o delivered' = .ok () ↔
      (s.retaining .keepAll).judge o delivered = .ok () := by
  obtain ⟨result, x⟩ := delivered
  obtain ⟨result', y⟩ := delivered'
  dsimp only at hsame h ho
  subst hsame
  have hidle : y.isIdle = x.isIdle := congrArg Network.isIdle h.network_eq
  unfold judge
  cases result' with
  | error e => exact iff_of_false nofun nofun
  | ok _ =>
    dsimp only
    rw [hidle]
    split_ifs
    · rw [mapError_eq_ok_iff, mapError_eq_ok_iff]
      exact ho.accepts_iff h
    · exact iff_of_false nofun nofun

/-- A scenario is enacted with the same choices where sessions that were given up are kept and where
they are deleted.  If the introduction is to be given up at a time when it was given up already, the
second run fails, since the session is not known any more.  Otherwise either run is accepted by an
oracle of the simulation exactly if the other is, where the events are set beside the answers only
if the introduction was not given up or every contact that answered is reported. -/
theorem enact_retaining (s : Scenario) (source : σ) (hfirst : Value.WritableText s.firstName)
    (hsecond : Value.WritableText s.secondName) (o : Oracle σ) :
    let kept := (s.retaining .keepAll).enact o ((s.retaining .keepAll).start source)
    let dropped := (s.retaining .dropAborted).enact o ((s.retaining .dropAborted).start source)
    (s.AbortsLate ((s.retaining .keepAll).start source) →
      ∃ id, dropped.2.introduction = some id ∧
        dropped.1 = .error (.abort (.unknownSession id))) ∧
    (¬ s.AbortsLate ((s.retaining .keepAll).start source) →
      Oracle.Stock (kept.2.state? = some .aborted → Oracle.ReportsAll kept.2) o →
        (dropped.1 = .ok () ↔ kept.1 = .ok ())) := by
  intro kept dropped
  obtain ⟨hresult, m, htwins⟩ := (s.twins_start source).introduce hfirst hsecond s.note
  unfold kept dropped
  generalize (s.retaining .keepAll).start source = w at hresult htwins ⊢
  generalize (s.retaining .dropAborted).start source = v at hresult htwins ⊢
  constructor
  · rintro ⟨n, id, x, hafter, hmax, hintroduce, hcount, hstate⟩
    rw [hintroduce] at hresult htwins
    have hv : v.introduce (s.retaining .dropAborted).note = (.ok id, (v.introduce s.note).2) :=
      Prod.ext hresult rfl
    obtain ⟨id', y, hid, hdeliver⟩ := deliverFrom_of_late htwins hafter ⟨hmax, hcount⟩ hstate
    change deliverFrom _ 0 (s.retaining .dropAborted).maxSteps _ = _ at hdeliver
    rw [enact_of_introduce hv, hdeliver]
    exact ⟨id', hid, rfl⟩
  · intro hlate ho
    cases hintroduce : (w.introduce s.note).1 with
    | error e =>
      rw [enact_of_introduce_error (s := s.retaining .dropAborted) (hresult.trans hintroduce),
        enact_of_introduce_error (s := s.retaining .keepAll) hintroduce]
    | ok id =>
      have hw : w.introduce s.note = (.ok id, (w.introduce s.note).2) := Prod.ext hintroduce rfl
      have hv : v.introduce s.note = (.ok id, (v.introduce s.note).2) :=
        Prod.ext (hresult.trans hintroduce) rfl
      obtain ⟨hsame, m', hend⟩ := deliverFrom_twins (s := s) htwins
        fun n hafter hmax hcount hstate => hlate ⟨n, id, _, hafter, hmax, hw, hcount, hstate⟩
      rw [enact_of_introduce (s := s.retaining .keepAll) hw] at ho ⊢
      rw [enact_of_introduce (s := s.retaining .dropAborted) hv]
      exact judge_twins hsame hend ho

/-- The world in which the scenario starts with the choices of the seed 0. -/
def seeded (s : Scenario) (retention : Retention) : World Generator :=
  (s.retaining retention).start (Generator.ofSeed 0)

/-- The scenario enacted with the choices of the seed 0. -/
def enactSeeded (s : Scenario) (retention : Retention) (o : Oracle Generator) :
    Except Cause Unit × World Generator :=
  (s.retaining retention).enact o (s.seeded retention)

/-- Two contacts accept, and everything is copied. -/
def copied (abortAfter : Option ℕ) : Scenario :=
  { name := "copied", duplication := .always, abortAfter }

/-- The copied scenario enacted, where the introduction is to come to its end. -/
def enactCopied (abortAfter : Option ℕ) (retention : Retention) :
    Except Cause Unit × World Generator :=
  (copied abortAfter).enactSeeded retention Oracle.settled

/-- Where everything is copied the introduction is given up within six deliveries. -/
lemma abortsLate_copied : (copied (some 6)).AbortsLate ((copied (some 6)).seeded .keepAll) := by
  have hend : (((copied (some 6)).seeded .keepAll).introduce none).1.isOk = true ∧
      ((((copied (some 6)).seeded .keepAll).introduce none).2.run 6).1 = 6 ∧
      ((((copied (some 6)).seeded .keepAll).introduce none).2.run 6).2.state? = some .aborted := by
    decide +kernel
  have hmax : 6 ≤ 10000 := by decide
  unfold AbortsLate
  generalize (copied (some 6)).seeded .keepAll = w at hend ⊢
  obtain ⟨hok, hcount, hstate⟩ := hend
  cases hintroduce : (w.introduce none).1 with
  | error e =>
    rw [hintroduce] at hok
    cases hok
  | ok id => exact ⟨6, id, (w.introduce none).2, rfl, hmax, Prod.ext hintroduce rfl, hcount, hstate⟩

/-- The introduction is to be given up after six deliveries, and is unknown then; or it is not to be
given up, and either run is accepted. -/
theorem enact_retaining_copied :
    (Value.WritableText "alice" ∧ Value.WritableText "bob") ∧
    (∃ id, (enactCopied (some 6) .dropAborted).2.introduction = some id ∧
      (enactCopied (some 6) .dropAborted).1 = .error (.abort (.unknownSession id))) ∧
    (enactCopied none .keepAll).1 = .ok () ∧ (enactCopied none .dropAborted).1 = .ok () := by
  have halice : Value.WritableText "alice" := by unfold Value.WritableText; decide
  have hbob : Value.WritableText "bob" := by unfold Value.WritableText; decide
  have hnever : ¬ (copied none).AbortsLate ((copied none).seeded .keepAll) := by
    rintro ⟨n, id, x, hafter, -⟩
    cases hafter
  obtain ⟨hlate, -⟩ := enact_retaining (copied (some 6)) (Generator.ofSeed 0) halice hbob
    Oracle.settled
  obtain ⟨-, halike⟩ := enact_retaining (copied none) (Generator.ofSeed 0) halice hbob
    Oracle.settled
  have habortsLate := abortsLate_copied
  have hkept : (enactCopied none .keepAll).1 = .ok () := by decide +kernel
  unfold seeded at habortsLate hnever
  unfold enactCopied enactSeeded seeded at hkept ⊢
  exact ⟨⟨halice, hbob⟩, hlate habortsLate, hkept, (halike hnever .settled).mpr hkept⟩

/-- After six deliveries the introduction was given up over a copy.  To give it up then changes
nothing where the session is kept, and the run is accepted; it fails where the session was
deleted. -/
theorem accepted_apart :
    ((copied (some 6)).seeded .keepAll).first.contact.channel ≠
        ((copied (some 6)).seeded .keepAll).second.contact.channel ∧
      (enactCopied (some 6) .keepAll).1 = .ok () ∧
      (enactCopied (some 6) .dropAborted).1 ≠ .ok () := by
  refine ⟨?_, ?_, ?_⟩
  · decide +kernel
  · decide +kernel
  · decide +kernel

/-- The introduction is given up after two deliveries. -/
def cutShort : Scenario := { name := "cut short", abortAfter := some 2 }

/-- The introduction is given up before an answer has arrived, so that no event reports the contact
who gave it.  The oracle that sets the events beside the answers passes over this where the session
is stored as aborted, and not where it was deleted: hence the condition on it in `Stock`. -/
theorem matched_apart :
    (cutShort.seeded .keepAll).first.contact.channel ≠
        (cutShort.seeded .keepAll).second.contact.channel ∧
      ¬ cutShort.AbortsLate (cutShort.seeded .keepAll) ∧
      (cutShort.enactSeeded .keepAll Oracle.eventsMatchResponses).1 = .ok () ∧
      (cutShort.enactSeeded .dropAborted Oracle.eventsMatchResponses).1 ≠ .ok () := by
  have hstate : (((cutShort.seeded .keepAll).introduce none).2.run 2).2.state? ≠
      some .aborted := by
    decide +kernel
  have hlate : ¬ cutShort.AbortsLate (cutShort.seeded .keepAll) := by
    generalize cutShort.seeded .keepAll = w at hstate
    rintro ⟨n, id, x, hafter, -, hintroduce, -, haborted⟩
    obtain rfl : 2 = n := Option.some.inj hafter
    rw [show w.introduce none = (.ok id, x) from hintroduce] at hstate
    exact hstate haborted
  refine ⟨?_, hlate, ?_, ?_⟩
  · decide +kernel
  · decide +kernel
  · decide +kernel

end Scenario

end Introduction.Simulation
