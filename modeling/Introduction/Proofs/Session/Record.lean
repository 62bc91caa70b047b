import Introduction.Proofs.Session.Outgoing

/-!
# The record of responses

Which responses a session has recorded, over runs of any length and whatever it is given.

The state of a session says of which contacts a response is recorded (`Session.Consistent`).  A
contact whose response is still to be passed on has none recorded, and after both acks both
contacts have one.  So nothing that is recorded is ever replaced, although a response that is passed
on is recorded whatever was there, and a step records exactly the response that it passes on
(`Step.record_cases`).  What is recorded after a run is therefore the first response of either
contact that the run passed on (`Run.response_eq`).
-/

namespace Introduction.Session

/-! ### What a state says about the record -/

/-- Whether the response of the contact on a side has been passed on, in a state that is not
aborted. -/
def State.hasAnswered : State → Side → Bool
  | .awaitResponse waiting, side => side ≠ waiting
  | .awaitAcks, _ => true
  | .awaitAck _, _ => true
  | .finished, _ => true
  | _, _ => false

/-- The responses that are recorded are those that the state implies.  The aborted state implies
nothing. -/
def Consistent (s : Session) : Prop :=
  s.state ≠ .aborted → ∀ side, (s.response side).isSome = s.state.hasAnswered side

/-- What is recorded of one session is also recorded of another. -/
def Retains (s t : Session) : Prop := ∀ side m, s.response side = some m → t.response side = some m

/-- The identifier of the response that the contact on a side gives with an input, if a response is
sent to the other contact over it. -/
def passedOn (s : Session) (side : Side) (input : Input) (envelopes : List Envelope) :
    Option MessageId :=
  match input with
  | .message d =>
    match Message.ofDictionary d with
    | .ok (.response r) =>
      if r.session = s.id ∧ r.channel = (s.contact side).channel ∧
          some .response ∈ s.kindsTo side.other envelopes then some r.message
      else none
    | _ => none
  | _ => none

/-- The identifiers of the responses of the contact on a side that a run passes on, in order. -/
def passedOnOver (s : Session) (side : Side) (inputs : List Input) (us : List Update) :
    List MessageId :=
  (inputs.zip us).filterMap fun step => s.passedOn side step.1 step.2.envelopes

variable {s t : Session} {input : Input} {envelopes : List Envelope} {events : List Event}

/-- What a response that is passed on consists of. -/
theorem passedOn_eq_some_iff {side : Side} {m : MessageId} :
    s.passedOn side input envelopes = some m ↔
      ∃ d r, input = .message d ∧ s.Hears side d (.response r) ∧
        some .response ∈ s.kindsTo side.other envelopes ∧ r.message = m := by
  constructor
  · intro h
    unfold passedOn at h
    split at h
    · rename_i d
      split at h
      · rename_i r hread
        split_ifs at h with hr
        cases h
        exact ⟨d, r, rfl, ⟨hread, hr.1, hr.2.1⟩, hr.2.2, rfl⟩
      · cases h
    · cases h
  · rintro ⟨d, r, rfl, ⟨hread, hsession, hchannel⟩, hsent, rfl⟩
    unfold passedOn
    simp only [hread]
    rw [if_pos ⟨hsession, hchannel, hsent⟩]

/-- Nothing is passed on where the other contact is sent no response. -/
lemma passedOn_eq_none {side : Side}
    (h : some .response ∉ s.kindsTo side.other envelopes) :
    s.passedOn side input envelopes = none := by
  rw [Option.eq_none_iff_forall_ne_some]
  intro m hm
  obtain ⟨_, _, -, -, hsent, -⟩ := passedOn_eq_some_iff.mp hm
  exact h hsent

/-- What is passed on does not depend on how far the session has come. -/
lemma SameIntroduction.passedOn_eq (h : s.SameIntroduction t) (side : Side) :
    t.passedOn side input envelopes = s.passedOn side input envelopes := by
  unfold passedOn kindsTo
  rw [h.id_eq, h.contact_eq, h.contact_eq]

/-! ### What a step records -/

@[simp] lemma response_record (s : Session) (message : MessageId) (side side' : Side) :
    (s.record message side).response side' =
      if side' = side then some message else s.response side' := by
  cases side <;> cases side' <;> rfl

/-- A contact whose response is awaited has none recorded. -/
lemma Accepts.response_eq_none {side : Side} {d : Dictionary} {r : Message.Response}
    (h : s.Accepts side d (.response r)) (hs : s.Consistent) (hstate : s.state ≠ .finished) :
    s.response side = none := by
  have hsome := hs h.state_ne.2 side
  rw [← Option.not_isSome_iff_eq_none, hsome, Bool.not_eq_true]
  rcases h.expected with h | h | h
  · rw [h]
    rfl
  · rw [h]
    simp [State.hasAnswered]
  · exact absurd h hstate

/-- After both acks there is nothing left to record. -/
lemma Consistent.recordFirst_eq (hs : s.Consistent) (hstate : s.state = .finished)
    (message : MessageId) (side : Side) : s.recordFirst message side = s := by
  have hsome := hs (by rw [hstate]; simp) side
  rw [hstate] at hsome
  unfold recordFirst
  rw [if_neg]
  rw [Option.isNone_iff_eq_none]
  intro hnone
  rw [hnone] at hsome
  cases hsome

/-- An introduction is given up only if it was not before. -/
lemma GivesUpAt.state_ne (h : s.GivesUpAt input) : s.state ≠ .aborted := by
  rcases input with (_ | _) | _ | _
  · exact h.elim
  · exact h
  · exact h.1
  · exact h.elim

/-- A step leads from a consistent session to a consistent one. -/
theorem Step.consistent (h : Step s input t envelopes events) (hs : s.Consistent) :
    t.Consistent := by
  cases h with
  | start hstate =>
    intro _ side
    rw [response_enter, hs (by rw [hstate]; simp), hstate]
    rfl
  | ignore _ => exact hs
  | giveUp _ => exact fun h => absurd rfl h
  | @response sender d r haccepts hstate =>
    intro _ side
    have hold := hs haccepts.state_ne.2 side
    rw [response_record, response_enter, state_record, state_enter]
    rcases haccepts.expected with h | h | h
    · rw [h] at hold ⊢
      cases sender <;> cases side <;> simp_all [State.hasAnswered, State.next, Side.other]
    · rw [h] at hold ⊢
      cases sender <;> cases side <;> simp_all [State.hasAnswered, State.next]
    · exact absurd h hstate
  | @ack sender d a haccepts =>
    intro _ side
    have hold := hs haccepts.state_ne.2 side
    rw [response_enter, state_enter, hold]
    rcases haccepts.expected with h | h
    · rw [h]
      rfl
    · rw [h]
      simp [State.hasAnswered, State.next]
  | late _ hstate =>
    rw [hs.recordFirst_eq hstate]
    exact hs

/-- Over a step nothing is passed on and recorded from a contact, or a response is passed on,
recorded, and the first one of its contact. -/
theorem Step.record_cases (h : Step s input t envelopes events) (hs : s.Consistent) (side : Side) :
    (s.passedOn side input envelopes = none ∧ t.response side = s.response side) ∨
      ∃ m, s.passedOn side input envelopes = some m ∧ s.response side = none ∧
        t.response side = some m := by
  cases h with
  | start _ => exact .inl ⟨rfl, response_enter _ _ _⟩
  | ignore _ => exact .inl ⟨passedOn_eq_none (by simp [kindsTo]), rfl⟩
  | giveUp hgivesUp =>
    have hkinds := (Step.giveUp hgivesUp).kindsTo_of_aborted hgivesUp.state_ne rfl side.other
    exact .inl ⟨passedOn_eq_none (by rw [hkinds]; decide), response_enter _ _ _⟩
  | @response sender d r haccepts hstate =>
    rw [response_record, response_enter]
    by_cases hside : side = sender
    · subst hside
      refine .inr ⟨r.message, passedOn_eq_some_iff.mpr ⟨d, r, rfl, haccepts.hears, ?_, rfl⟩,
        haccepts.response_eq_none hs hstate, if_pos rfl⟩
      rw [haccepts.hears.kindsTo_forward, if_pos rfl]
      exact List.mem_singleton_self _
    · refine .inl ⟨passedOn_eq_none ?_, if_neg hside⟩
      rw [haccepts.hears.kindsTo_forward, if_neg fun h => hside ?_]
      · exact List.not_mem_nil
      · rw [← side.other_other, ← h, Side.other_other]
  | ack haccepts =>
    refine .inl ⟨passedOn_eq_none ?_, response_enter _ _ _⟩
    rw [haccepts.hears.kindsTo_forward]
    split_ifs <;> simp [Message.kind]
  | late _ hstate =>
    rw [hs.recordFirst_eq hstate]
    exact .inl ⟨passedOn_eq_none (by simp [kindsTo]), rfl⟩

/-- A step records the response that it passes on, and nothing else. -/
lemma Step.response_eq (h : Step s input t envelopes events) (hs : s.Consistent) (side : Side) :
    t.response side = (s.response side).or (s.passedOn side input envelopes) := by
  rcases h.record_cases hs side with ⟨hnone, heq⟩ | ⟨m, hsome, hnone, heq⟩
  · rw [hnone, heq, Option.or_none]
  · rw [hsome, hnone, heq]
    rfl

/-- A step records a response exactly if it passes it on. -/
lemma Step.recorded_iff (h : Step s input t envelopes events) (hs : s.Consistent) {side : Side}
    {m : MessageId} :
    (s.response side = none ∧ t.response side = some m) ↔
      s.passedOn side input envelopes = some m := by
  constructor
  · rintro ⟨hnone, hsome⟩
    rw [← hsome, h.response_eq hs, hnone]
    rfl
  · intro hpassed
    rcases h.record_cases hs side with ⟨hnone, -⟩ | ⟨m', hsome, hnone, heq⟩
    · cases hpassed.symm.trans hnone
    · rw [heq, ← hsome]
      exact ⟨hnone, hpassed⟩

/-- A step keeps what is recorded. -/
lemma Step.retains (h : Step s input t envelopes events) (hs : s.Consistent) : s.Retains t := by
  intro side m hm
  rw [h.response_eq hs, hm]
  rfl

/-- A step over a response after both acks does not change the session. -/
lemma Step.eq_of_late (h : Step s input t envelopes events) (hs : s.Consistent)
    (hstate : s.state = .finished) {side : Side} (hinput : s.IsMessage .response side input) :
    t = s := by
  obtain ⟨d, m, rfl, hhears, hkind⟩ := hinput
  cases h with
  | ignore _ => rfl
  | giveUp hgivesUp =>
    refine absurd ⟨hhears, ?_⟩ (hgivesUp.2 side m)
    rw [hkind]
    exact .inr (.inr hstate)
  | response _ hne => exact absurd hstate hne
  | ack haccepts => exact absurd hstate haccepts.state_ne_finished
  | late _ _ => exact hs.recordFirst_eq hstate _ _

/-! ### What a run records -/

variable {inputs : List Input} {us : List Update}

/-- A run leads from a consistent session to a consistent one. -/
lemma Run.consistent (h : Run s inputs us) (hs : s.Consistent) : (s.after us).Consistent := by
  induction h with
  | nil => exact hs
  | cons hstep _ ih => exact ih (hstep.consistent hs)

/-- What is recorded stays recorded over a run. -/
lemma Run.retains (h : Run s inputs us) (hs : s.Consistent) : ∀ u ∈ us, s.Retains u.session := by
  induction h with
  | nil => exact fun u hu => absurd hu List.not_mem_nil
  | @cons s input u inputs us hstep _ ih =>
    have hretains := hstep.retains hs
    refine List.forall_mem_cons.mpr ⟨hretains, fun v hv side m hm => ?_⟩
    exact ih (hstep.consistent hs) v hv side m (hretains side m hm)

/-- What any step of a run has recorded stays recorded. -/
theorem Run.pairwise_retains (h : Run s inputs us) (hs : s.Consistent) :
    us.Pairwise fun u v => u.session.Retains v.session := by
  induction h with
  | nil => exact .nil
  | cons hstep hrun ih =>
    have hu := hstep.consistent hs
    exact List.pairwise_cons.mpr ⟨hrun.retains hu, ih hu⟩

/-- A run keeps the identifier and the contacts of the session. -/
lemma Run.sameIntroduction (h : Run s inputs us) : s.SameIntroduction (s.after us) := by
  induction h with
  | nil => exact ⟨rfl, fun _ => rfl⟩
  | cons hstep _ ih =>
    exact ⟨ih.id_eq.trans hstep.id_eq, fun side => (ih.contact_eq side).trans (hstep.contact_eq side)⟩

/-- What is recorded after a run is what was recorded before it, or else the first response that it
passed on. -/
theorem Run.response_eq (h : Run s inputs us) (hs : s.Consistent) (side : Side) :
    (s.after us).response side = (s.response side).or (s.passedOnOver side inputs us).head? := by
  induction h with
  | nil => exact Option.or_none.symm
  | @cons s input u inputs us hstep _ ih =>
    have hsame : s.SameIntroduction u.session := ⟨hstep.id_eq, hstep.contact_eq⟩
    have hrest : u.session.passedOnOver side inputs us = s.passedOnOver side inputs us :=
      congrArg (List.filterMap · _) (funext fun _ => hsame.passedOn_eq side)
    rw [after, ih (hstep.consistent hs), hrest, hstep.response_eq hs, Option.or_assoc]
    congr 1
    unfold passedOnOver
    rw [List.zip_cons_cons, List.filterMap_cons]
    cases s.passedOn side input u.envelopes <;> rfl

/-- A session that was just made has recorded nothing, as its state says. -/
lemma consistent_of_start {id : SessionId} {first second : Contact}
    (h : start id first second = .ok s) : s.Consistent ∧ ∀ side, s.response side = none := by
  have hnone : ∀ side, s.response side = none := by
    unfold start at h
    split_ifs at h
    cases h
    intro side
    cases side <;> rfl
  refine ⟨fun _ side => ?_, hnone⟩
  rw [hnone, state_of_start h]
  rfl

/-- Over any run of a session that was just made, the identifier and the contacts stay as they are,
the recorded responses are those that the state implies, and what is recorded stays recorded.  What
is recorded of a contact is the first of its responses that was passed on; it is recorded in the
step that passes it on, and a response after both acks changes nothing. -/
theorem recorded_of_start {id : SessionId} {first second : Contact}
    (h : start id first second = .ok s) (inputs : List Input) :
    ∃ us, s.answers inputs = .ok us ∧
      s.SameIntroduction (s.after us) ∧ (s.after us).Consistent ∧
        us.Pairwise (fun u v => u.session.Retains v.session) ∧
          (∀ side, (s.after us).response side = (s.passedOnOver side inputs us).head?) ∧
            ∀ input, ∃ u, (s.after us).answer input = .ok u ∧
              (∀ side m, (s.after us).response side = none ∧ u.session.response side = some m ↔
                s.passedOn side input u.envelopes = some m) ∧
                ((s.after us).state = .finished → ∀ side, s.IsMessage .response side input →
                  u.session = s.after us) := by
  obtain ⟨us, hus, hrun⟩ := s.answers_run inputs
  obtain ⟨hs, hnone⟩ := consistent_of_start h
  have hsame := hrun.sameIntroduction
  have hafter := hrun.consistent hs
  refine ⟨us, hus, hsame, hafter, hrun.pairwise_retains hs, fun side => ?_, fun input => ?_⟩
  · rw [hrun.response_eq hs, hnone]
    rfl
  · obtain ⟨u, hu, hstep, -⟩ := (s.after us).answer_step input
    refine ⟨u, hu, fun side m => ?_, fun hstate side hinput => ?_⟩
    · rw [hstep.recorded_iff hafter, hsame.passedOn_eq]
    · obtain ⟨d, m, hd, hhears, hkind⟩ := hinput
      exact hstep.eq_of_late hafter hstate
        ⟨d, m, hd, hhears.congr hsame.id_eq hsame.contact_eq, hkind⟩

/-- On the sample inputs the sample session records the response of either contact, and it is not
changed by another response. -/
theorem recorded_sampleInputs :
    start (.replicate 7) alice bob = .ok aliceAndBob ∧
      ∃ us, aliceAndBob.answers sampleInputs = .ok us ∧
        (∀ side, (aliceAndBob.after us).response side = some (.replicate 5)) ∧
          ∀ side, ∃ u, (aliceAndBob.after us).answer
            (.message (sampleResponse side).toDictionary) = .ok u ∧
              u.session = aliceAndBob.after us := by
  obtain ⟨us, hus, -, -, -, hresponse, hnext⟩ := recorded_of_start start_alice_bob sampleInputs
  have hstate : (aliceAndBob.answers sampleInputs).map
      (fun us => (aliceAndBob.after us).state) = .ok .finished := by
    decide +kernel
  have hfirst : ∀ side, (aliceAndBob.answers sampleInputs).map
      (fun us => (aliceAndBob.passedOnOver side sampleInputs us).head?) =
        .ok (some (.replicate 5)) := by
    rintro (_ | _) <;> decide +kernel
  rw [hus] at hstate hfirst
  refine ⟨start_alice_bob, us, hus, fun side => ?_, fun side => ?_⟩
  · rw [hresponse]
    exact Except.ok.inj (hfirst side)
  · obtain ⟨u, hu, -, hlate⟩ := hnext (.message (sampleResponse side).toDictionary)
    exact ⟨u, hu, hlate (Except.ok.inj hstate) side (isMessage_sample side).1⟩

end Introduction.Session
