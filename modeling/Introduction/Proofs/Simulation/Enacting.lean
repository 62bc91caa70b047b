import Introduction.Proofs.Simulation.Schedule
import Introduction.Simulation.Scenario

/-!
# How a scenario is enacted

The deliveries of a scenario are a run of the world.  If the scenario has the introduction given up
after a number of deliveries, and the run gets that far, it is given up there and the rest of the
deliveries is a run again (`deliverFrom_eq`).

A scenario starts with two contacts whose numbers in the address book differ.  Whether the
introducer can tell them apart is left to what is drawn for their channels (`distinct_start`).
-/

namespace Introduction.Simulation

variable {σ : Type} [Choice σ]

namespace World

/-- A run counts its deliveries. -/
lemma run_succ_fst (w : World σ) (limit : ℕ) :
    (w.run (limit + 1)).1 = if w.step.1 then (w.step.2.run limit).1 + 1 else 0 := by
  rw [run]
  rcases w.step with ⟨_ | _, w'⟩ <;> rfl

end World

namespace Scenario

variable {s : Scenario} {steps : ℕ}

/-- Where the introduction is not to be given up at once, the next message is delivered. -/
lemma deliverFrom_of_ne (h : s.abortAfter ≠ some steps) (left : ℕ) (w : World σ) :
    s.deliverFrom steps (left + 1) w =
      if w.step.1 then s.deliverFrom (steps + 1) left w.step.2 else (.ok (), w.step.2) := by
  rw [deliverFrom, if_neg h]
  dsimp only
  rcases w.step with ⟨_ | _, w'⟩ <;> rfl

/-- Where nothing is left to deliver, and the introduction is not to be given up, nothing is
done. -/
lemma deliverFrom_zero_of_ne (h : s.abortAfter ≠ some steps) (w : World σ) :
    s.deliverFrom steps 0 w = (.ok (), w) := by
  rw [deliverFrom, if_neg h]

/-- Once the time to give the introduction up has passed, the deliveries are a run. -/
lemma deliverFrom_of_past (h : ∀ n, s.abortAfter = some n → n < steps) (left : ℕ) (w : World σ) :
    s.deliverFrom steps left w = (.ok (), (w.run left).2) := by
  have hne : s.abortAfter ≠ some steps := fun heq => Nat.lt_irrefl _ (h steps heq)
  induction left generalizing steps w with
  | zero => exact deliverFrom_zero_of_ne hne w
  | succ left ih =>
    have hpast : ∀ n, s.abortAfter = some n → n < steps + 1 := fun n hn =>
      Nat.lt_succ_of_lt (h n hn)
    rw [deliverFrom_of_ne hne, World.run_succ,
      ih hpast _ fun heq => Nat.lt_irrefl _ (hpast _ heq)]
    split_ifs <;> rfl

/-- When the time has come the introduction is given up, and the deliveries after it are a run. -/
lemma deliverFrom_of_eq (h : s.abortAfter = some steps) (left : ℕ) (w : World σ) :
    s.deliverFrom steps left w =
      match w.abort with
      | (.error e, v) => (.error (.abort e), v)
      | (.ok (), v) => (.ok (), (v.run left).2) := by
  have hpast : ∀ n, s.abortAfter = some n → n < steps + 1 := by
    intro n hn
    cases h.symm.trans hn
    exact Nat.lt_succ_self _
  unfold deliverFrom
  rw [if_pos h]
  rcases w.abort with ⟨e | _, v⟩
  · rfl
  · cases left with
    | zero => rfl
    | succ left =>
      dsimp only
      rw [World.run_succ]
      rcases v.step with ⟨_ | _, v'⟩
      · rfl
      · exact deliverFrom_of_past hpast left v'

/-- The deliveries up to the time when the introduction is given up, and what comes after it. -/
lemma deliverFrom_of_ahead {k : ℕ} (h : s.abortAfter = some (steps + k)) (left : ℕ) (w : World σ) :
    s.deliverFrom steps left w =
      if k ≤ left ∧ (w.run k).1 = k then
        match (w.run k).2.abort with
        | (.error e, v) => (.error (.abort e), v)
        | (.ok (), v) => (.ok (), (v.run (left - k)).2)
      else (.ok (), (w.run left).2) := by
  induction k generalizing steps left w with
  | zero => exact (deliverFrom_of_eq h left w).trans (if_pos ⟨Nat.zero_le _, rfl⟩).symm
  | succ k ih =>
    have hne : s.abortAfter ≠ some steps := by
      rw [h]
      simp
    cases left with
    | zero => exact (deliverFrom_zero_of_ne hne w).trans (if_neg (by simp)).symm
    | succ left =>
      rw [deliverFrom_of_ne hne, World.run_succ_fst, World.run_succ, World.run_succ]
      cases w.step.1 with
      | false =>
        rw [if_neg (by simp), if_neg (by simp), if_neg (by simp)]
      | true =>
        rw [if_pos rfl, if_pos rfl, if_pos rfl, if_pos rfl,
          ih (by rw [h, Nat.add_assoc, Nat.add_comm 1])]
        simp only [Nat.add_le_add_iff_right, Nat.add_right_cancel_iff, Nat.add_sub_add_right]

/-- The deliveries of a scenario. -/
theorem deliverFrom_eq (s : Scenario) (w : World σ) :
    s.deliverFrom 0 s.maxSteps w =
      match s.abortAfter with
      | none => (.ok (), (w.run s.maxSteps).2)
      | some n =>
        if n ≤ s.maxSteps ∧ (w.run n).1 = n then
          match (w.run n).2.abort with
          | (.error e, v) => (.error (.abort e), v)
          | (.ok (), v) => (.ok (), (v.run (s.maxSteps - n)).2)
        else (.ok (), (w.run s.maxSteps).2) := by
  cases h : s.abortAfter with
  | none => exact deliverFrom_of_past (by simp [h]) _ w
  | some n => exact deliverFrom_of_ahead (by rw [h, Nat.zero_add]) _ w

/-- What is made of the deliveries of a run: the oracle judges the world if it is at rest. -/
def judge (s : Scenario) (o : Oracle σ) (delivered : Except Cause Unit × World σ) :
    Except Cause Unit :=
  match delivered with
  | (.error e, _) => .error e
  | (.ok (), x) => if x.isIdle then (o x).mapError .rejected else .error (.busy s.maxSteps)

/-- A run whose introduction was started is judged by its deliveries. -/
lemma enact_of_introduce {o : Oracle σ} {id : SessionId} {x : World σ}
    (h : w.introduce s.note = (.ok id, x)) :
    s.enact o w =
      (s.judge o (s.deliverFrom 0 s.maxSteps x), (s.deliverFrom 0 s.maxSteps x).2) := by
  unfold enact judge
  rw [h]
  dsimp only
  rcases s.deliverFrom 0 s.maxSteps x with ⟨_ | _, y⟩
  · rfl
  · dsimp only
    cases y.isIdle <;> rfl

/-- A run that comes to rest is judged by the oracle. -/
lemma enact_of_rest {o : Oracle σ} {id : SessionId} {w x y : World σ}
    (h : w.introduce s.note = (.ok id, x))
    (hdeliver : s.deliverFrom 0 s.maxSteps x = (.ok (), y)) (hidle : y.isIdle) :
    s.enact o w = ((o y).mapError .rejected, y) := by
  rw [enact_of_introduce h, hdeliver]
  exact Prod.ext (if_pos hidle) rfl

/-- The contacts of a scenario, whose names are in memory and whose channels differ, are told apart
by the introducer. -/
lemma distinct_start (s : Scenario) (source : σ)
    (hfirst : Value.WritableText s.firstName) (hsecond : Value.WritableText s.secondName)
    (hchannels : (s.start source).first.contact.channel ≠
      (s.start source).second.contact.channel) :
    World.Distinct fun side => ((s.start source).participant side).contact := by
  have hids : (⟨1⟩ : ContactId) ≠ ⟨2⟩ := by decide
  refine ⟨hids, hchannels, fun side => ?_⟩
  cases side
  · exact hfirst
  · exact hsecond

end Scenario

end Introduction.Simulation
