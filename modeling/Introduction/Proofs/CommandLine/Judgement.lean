import Introduction.CommandLine.Report
import Introduction.Proofs.Simulation.Enacting

/-!
# How the runs of the simulator are judged

The oracle of a run is fixed by the arguments, before anything is delivered.  Whatever is chosen on
the way, the run comes to rest, and where it can come to rest is known: at the state that the
scripts decide on, or at the aborted one if something was copied.  Set beside the oracles this gives
all judgements (`judged_of_arguments`): a run is accepted, with one exception.  If the second
contact never answers, the oracle wants the introduction to wait for it, also where deliveries are
copied.  A copy of the first contact's answer is out of turn, the introduction is given up over it,
and the run is not accepted (`misjudged_silent`).
-/

namespace Introduction.CommandLine

open Simulation

namespace Arguments

variable {σ : Type} [Choice σ]

/-- The two contacts that a run draws use different channels. -/
def DrawsApart (a : Arguments) (run : ℕ) (source : σ) : Prop :=
  ((a.scenario run).start source).first.contact.channel ≠
    ((a.scenario run).start source).second.contact.channel

/-- The scripts of the contacts of a run. -/
def scripts (a : Arguments) : Side → Script := Side.select a.firstScript a.secondScript

/-- How a run is judged that ends in a world. -/
inductive Judged (a : Arguments) (w : World σ) : Except Scenario.Cause Unit → Prop
  /-- It is accepted. -/
  | accepted (h : a.silentSecond = true → w.state? ≠ some .aborted) : Judged a w (.ok ())
  /-- It is not, although the introducer did what it has to do: the second contact never answers,
  and the introduction was given up over a copy. -/
  | misjudged (hsilent : a.silentSecond = true) (hcopies : a.duplication ≠ .never)
      (haborted : w.state? = some .aborted) :
      Judged a w (.error (.rejected (.state (.awaitResponse .second) (some .aborted))))

/-! ### Where runs come to rest -/

/-- The first contact answers. -/
@[simp] lemma silent_scripts_first (a : Arguments) : (a.scripts .first).silent = false := by
  unfold scripts Side.select firstScript answering
  split_ifs <;> rfl

/-- The second contact is silent if the arguments say so. -/
@[simp] lemma silent_scripts_second (a : Arguments) :
    (a.scripts .second).silent = a.silentSecond := by
  unfold scripts Side.select secondScript answering
  cases a.silentSecond
  · rw [if_neg (by simp)]
    split_ifs <;> rfl
  · rfl

/-- Where a run comes to rest that is not given up. -/
lemma atRest_scripts (a : Arguments) :
    Session.State.atRest a.scripts =
      if a.silentSecond then .awaitResponse .second else .finished := by
  unfold Session.State.atRest
  rw [silent_scripts_first, silent_scripts_second]
  cases a.silentSecond <;> rfl

/-- Every run comes to rest at a stage of the introduction, and has given it up only if something
was copied. -/
lemma rests (a : Arguments) (run : ℕ) (source : σ) (hapart : a.DrawsApart run source) :
    ∃ (plan : Plan) (w v : World σ) (id : SessionId) (s : Session) (reached : Session.State)
      (seen : Side → List Message.Kind) (record : Record),
      plan.script = a.scripts ∧
        ((a.scenario run).start source).introduce (a.scenario run).note = (.ok id, w) ∧
        (a.scenario run).deliverFrom 0 (a.scenario run).maxSteps w = (.ok (), v) ∧ v.isIdle ∧
        v.Stage plan s reached seen record ∧ (s.state = .aborted → a.duplication ≠ .never) := by
  have halice : Value.WritableText "alice" := by unfold Value.WritableText; decide
  have hbob : Value.WritableText "bob" := by unfold Value.WritableText; decide
  have hdistinct := (a.scenario run).distinct_start source halice hbob hapart
  have hopening := World.start_eq_opening (a.scenario run) source rfl
  obtain ⟨w, hintroduce, hstage, hdelivered, hrate⟩ := World.introduce_stage hdistinct
    ((a.scenario run).start source).source a.scripts a.duplication true none
  have hw : ((a.scenario run).start source).introduce (a.scenario run).note =
      (.ok (World.drawId ((a.scenario run).start source).source).1, w) := by
    rw [hopening]
    exact hintroduce
  have hrun : (a.scenario run).deliverFrom 0 (a.scenario run).maxSteps w =
      (.ok (), (w.run (a.scenario run).maxSteps).2) :=
    (a.scenario run).deliverFrom_eq w
  have hmax : 24 ≤ (a.scenario run).maxSteps := show 24 ≤ 10000 by decide
  generalize (a.scenario run).maxSteps = left at hrun hmax ⊢
  have hunderWay : w.UnderWay _ := ⟨_, _, _, _, hstage⟩
  obtain ⟨hidle, s, reached, seen, record, hend⟩ := World.run_of_bounded
    (fun _ => World.UnderWay.delivered_le) (fun _ => World.UnderWay.step) hunderWay
    (show 24 ≤ w.network.delivered + left by omega)
  refine ⟨_, w, _, _, s, reached, seen, record, ?_, hw, hrun, hidle, hend,
    fun haborted hnever => ?_⟩
  · rfl
  · have hundisturbed : w.Undisturbed _ := ⟨hrate.trans hnever, _, _, _, _, hstage, by simp⟩
    obtain ⟨-, -, s', _, _, _, hend', hs'⟩ := World.run_of_bounded
      (fun _ => World.Undisturbed.delivered_le) (fun _ => World.Undisturbed.step) hundisturbed
      (show 10 ≤ w.network.delivered + left by omega)
    -- both describe the session that is stored at the end
    have hsame := hend.state?_eq.symm.trans hend'.state?_eq
    exact hs' ((Option.some.inj hsame).symm.trans haborted)

/-! ### What the oracles say there -/

section Rest

variable {plan : Plan} {w : World σ} {s : Session} {reached : Session.State}
  {seen : Side → List Message.Kind} {record : Record}

omit [Choice σ]

/-- An oracle accepts if its parts do. -/
lemma allOf_pair {o o' : Oracle σ} (h : o w = .ok ()) (h' : o' w = .ok ()) :
    Oracle.allOf [o, o'] w = .ok () :=
  Except.forM_eq_ok_iff.mpr fun oracle horacle => by
    rcases List.mem_cons.mp horacle with rfl | horacle
    · exact h
    · rw [List.mem_singleton.mp horacle]
      exact h'

/-- A finished introduction is accepted as one. -/
lemma finished_of_stage (h : w.Stage plan s reached seen record) (hidle : w.isIdle)
    (hs : s.state = .finished) : Oracle.finished w = .ok () := by
  have hinformed : Oracle.onBothSides (fun side => Oracle.informed (w.participant side)) =
      .ok () := by
    refine World.onBothSides_eq fun side => ?_
    obtain ⟨-, hanswer, hacks, -⟩ := h.participant_of_finished hidle hs side
    rw [Oracle.informed, hanswer, if_neg (by simp), if_neg (by omega)]
  unfold Oracle.finished Oracle.stalledIn
  rw [h.state?_eq, hs]
  exact hinformed

/-- How the oracle of the arguments judges a world at rest. -/
lemma judged_of_stage (a : Arguments) (hscript : plan.script = a.scripts)
    (h : w.Stage plan s reached seen record) (hidle : w.isIdle)
    (hcopies : s.state = .aborted → a.duplication ≠ .never) :
    a.Judged w ((a.oracle w).mapError .rejected) := by
  have hstate := h.state?_eq
  have hevents := h.eventsMatchResponses hidle
  have hrest : s.state ≠ .aborted →
      s.state = if a.silentSecond then .awaitResponse .second else .finished := by
    intro hs
    rw [h.state_eq_atRest hidle hs, hscript, atRest_scripts]
  unfold oracle
  cases hsilent : a.silentSecond with
  | true =>
    rw [if_pos rfl, Oracle.stalledIn, hstate]
    by_cases hs : s.state = .aborted
    · rw [hs] at hstate ⊢
      exact .misjudged hsilent (hcopies hs) hstate
    · rw [hrest hs, hsilent, if_pos rfl] at hstate ⊢
      exact .accepted fun _ => by simp [hstate]
  | false =>
    have haccepted : a.Judged w (.ok ()) := .accepted fun h => absurd h (by simp [hsilent])
    have hanswer : ∀ side, (plan.script side).silent = false := by
      intro side
      rw [hscript]
      cases side
      · exact a.silent_scripts_first
      · exact a.silent_scripts_second.trans hsilent
    rw [if_neg (by simp)]
    split_ifs with hrate
    · rw [allOf_pair (h.settled hidle hanswer).settled hevents]
      exact haccepted
    · have hs : s.state ≠ .aborted := fun hs => hrate (hcopies hs)
      have hfinished : s.state = .finished := by
        rw [hrest hs, hsilent]
        rfl
      rw [allOf_pair (finished_of_stage h hidle hfinished) hevents]
      exact haccepted

end Rest

/-! ### Runs and their reports -/

/-- How a run is judged. -/
lemma judged_enact (a : Arguments) (run : ℕ) (source : σ) (hapart : a.DrawsApart run source) :
    a.Judged ((a.scenario run).enact a.oracle ((a.scenario run).start source)).2
      ((a.scenario run).enact a.oracle ((a.scenario run).start source)).1 := by
  obtain ⟨plan, w, v, id, s, reached, seen, record, hscript, hintroduce, hdeliver, hidle, hstage,
    hcopies⟩ := a.rests run source hapart
  have henact : (a.scenario run).enact a.oracle ((a.scenario run).start source) =
      ((a.oracle v).mapError .rejected, v) :=
    Scenario.enact_of_rest hintroduce hdeliver hidle
  rw [henact]
  exact judged_of_stage a hscript hstage hidle hcopies

omit [Choice σ]

/-- A run that is accepted is reported as accepted. -/
lemma accepted_ofRun {a : Arguments} {run : ℕ}
    (h : ((a.scenario run).run a.oracle).1 = .ok ()) : (RunReport.ofRun a run).accepted = true := by
  unfold RunReport.ofRun
  generalize (a.scenario run).run a.oracle = outcome at h ⊢
  obtain ⟨_ | _, w⟩ := outcome
  · cases h
  · rfl

/-- Where every run is accepted no failure is counted. -/
lemma failures_foldl {reports : List RunReport} (h : ∀ r ∈ reports, r.accepted = true)
    (t : Totals) : (reports.foldl Totals.add t).failures = t.failures := by
  induction reports generalizing t with
  | nil => rfl
  | cons r reports ih =>
    rw [List.foldl_cons, ih fun r' hr' => h r' (List.mem_cons_of_mem r hr'), Totals.add,
      if_pos (h r List.mem_cons_self)]

/-- Whatever the arguments are and whatever is chosen, a run with two contacts on different channels
is accepted, unless the second contact never answers, deliveries are copied and the introduction was
given up over a copy.  So the simulator succeeds, unless it is asked for a second contact who never
answers and for copies. -/
theorem judged_of_arguments (a : Arguments) :
    (∀ (σ : Type) [Choice σ] (source : σ) (run : ℕ), a.DrawsApart run source →
      a.Judged ((a.scenario run).enact a.oracle ((a.scenario run).start source)).2
        ((a.scenario run).enact a.oracle ((a.scenario run).start source)).1) ∧
    ((a.silentSecond = true → a.duplication = .never) →
      (∀ run < a.runs.toNat, a.DrawsApart run (Generator.ofSeed (a.scenario run).seed)) →
        (Report.ofArguments a).exitCode = 0) := by
  refine ⟨fun σ _ source run hapart => a.judged_enact run source hapart, fun hcopies hapart => ?_⟩
  have haccepted : ∀ r ∈ (List.range a.runs.toNat).map (RunReport.ofRun a), r.accepted = true := by
    intro r hr
    obtain ⟨run, hrun, rfl⟩ := List.mem_map.mp hr
    have hjudged := a.judged_enact run _ (hapart run (List.mem_range.mp hrun))
    refine accepted_ofRun ?_
    unfold Scenario.run
    generalize (a.scenario run).enact a.oracle ((a.scenario run).start
      (Generator.ofSeed (a.scenario run).seed)) = result at hjudged ⊢
    obtain ⟨judgement, w⟩ := result
    cases hjudged with
    | accepted => rfl
    | misjudged hsilent hrate => exact absurd (hcopies hsilent) hrate
  have hfailures := failures_foldl haccepted {}
  exact if_pos hfailures

/-- Both contacts answer, and everything is copied. -/
def copying : Arguments := { duplication := .always }

/-- A run in which everything is copied and both contacts answer. -/
theorem judged_copying :
    (copying.DrawsApart 0 (Generator.ofSeed 0) ∧
      ∀ run < 1, copying.DrawsApart run (Generator.ofSeed (copying.scenario run).seed)) ∧
    copying.Judged ((copying.scenario 0).run copying.oracle).2
      ((copying.scenario 0).run copying.oracle).1 ∧
    (Report.ofArguments copying).exitCode = 0 := by
  have hapart : copying.DrawsApart 0 (Generator.ofSeed 0) := by
    unfold DrawsApart
    decide +kernel
  have hruns : ∀ run < 1, copying.DrawsApart run
      (Generator.ofSeed (copying.scenario run).seed) := by
    intro run hrun
    obtain rfl : run = 0 := by omega
    exact hapart
  obtain ⟨hjudged, hexit⟩ := judged_of_arguments copying
  exact ⟨⟨hapart, hruns⟩, hjudged Generator (Generator.ofSeed 0) 0 hapart,
    hexit (fun h => by cases h) hruns⟩

/-- The second contact never answers, and everything is copied. -/
def silentCopying : Arguments := { silentSecond := true, duplication := .always }

/-- The second contact never answers and everything is copied.  Then the run is not accepted,
although the contacts use different channels. -/
theorem misjudged_silent :
    silentCopying.DrawsApart 0 (Generator.ofSeed 0) ∧
      (RunReport.ofRun silentCopying 0).accepted = false ∧
      (Report.ofArguments silentCopying).exitCode = 1 := by
  refine ⟨?_, by decide +kernel, by decide +kernel⟩
  unfold DrawsApart
  decide +kernel

end Arguments

end Introduction.CommandLine
