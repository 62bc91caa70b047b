import Introduction.Proofs.Relay.Introducing

/-!
# One introduction of a pair at a time

No two stored sessions that go on introduce the same two contacts, whatever an introducer is asked
for and whatever its store and its transport refuse (`unrivalled_of_calls`).

An introduction is only started where no session that goes on introduces its contacts, and nothing
else adds a session.  A step keeps the contacts of its session and does not bring it back to life,
so no call on a registry makes rivals.  A disturbed call leaves the registry before it or the one
after it.
-/

namespace Introduction

/-- Two sessions that are found, go on and introduce the same contacts are the same. -/
def Unrivalled (find : SessionId → Option Session) : Prop :=
  ∀ id₁ id₂ s₁ s₂, find id₁ = some s₁ → find id₂ = some s₂ →
    s₁.isLive → s₂.isLive → s₁.SamePair s₂ → id₁ = id₂

namespace Registry

variable {m : Registry} {config : Relay.Config} {next : SessionId} {t : Session}

/-- A session can be kept if no other session is its rival. -/
lemma unrivalled_keep (hm : Unrivalled (m.get? ·))
    (ht : t.isLive → ∀ id s, id ≠ t.id → m.get? id = some s → s.isLive → ¬ s.SamePair t) :
    Unrivalled ((m.keep config t).get? ·) := by
  intro id₁ id₂ s₁ s₂ h₁ h₂ hlive₁ hlive₂ hpair
  rcases get?_keep_cases h₁ with ⟨hid₁, rfl⟩ | ⟨hne₁, hget₁⟩ <;>
    rcases get?_keep_cases h₂ with ⟨hid₂, heq₂⟩ | ⟨hne₂, hget₂⟩
  · rw [hid₁, hid₂]
  · exact absurd hpair.symm (ht hlive₁ id₂ s₂ hne₂ hget₂ hlive₂)
  · rw [heq₂] at hpair hlive₂
    exact absurd hpair (ht hlive₂ id₁ s₁ hne₁ hget₁ hlive₁)
  · exact hm id₁ id₂ s₁ s₂ hget₁ hget₂ hlive₁ hlive₂ hpair

/-- A call does not make rivals. -/
theorem Serves.unrivalled {o : Outcome Introducer.Reply}
    (h : m.Serves config (m.Introducible next) o) (hm : Unrivalled (m.get? ·)) :
    Unrivalled (o.sessions.get? ·) := by
  cases h with
  | refuse e he => exact hm
  | @stored s t input envelopes events x hget hstep =>
    refine unrivalled_keep hm fun hlive id s' hid hget' hlive' hpair => hid ?_
    rw [hstep.id_eq]
    rw [hstep.samePair_iff] at hpair
    exact hm id s.id s' s hget' hget hlive' (hstep.isLive_of_isLive hlive) hpair
  | @created s t input envelopes events x hget hfresh hstep =>
    refine unrivalled_keep hm fun _ id s' _ hget' hlive' => ?_
    rw [hstep.samePair_iff]
    exact hfresh.free id s' hget' hlive'

end Registry

namespace Introducer

/-- Every entry that is stored is read as a session with its identifier. -/
lemma Keeps.exists_stored {i : Introducer} {config : Relay.Config} {faults : Relay.Faults}
    {m : Registry} (h : i.Keeps config faults m) (id : SessionId)
    (hid : (i.relay.store.archive.get? id).isSome) : ∃ s, i.stored id = some s ∧ s.id = id := by
  rw [h.bears.archive_eq, Registry.archive, Ascending.get?_map, Option.isSome_map,
    Option.isSome_iff_exists] at hid
  obtain ⟨s, hs⟩ := hid
  exact ⟨s, (h.stored_eq id).trans hs, (h.sound id s hs).1⟩

/-- Whatever an introducer that starts with nothing stored is asked for, and whatever its store and
its transport refuse, every entry that is stored is a session, and no two sessions that go on
introduce the same contacts. -/
theorem unrivalled_of_calls (config : Relay.Config) (faults : Relay.Faults) (ids : ℕ → SessionId)
    {calls : List Call} (hcalls : ∀ c ∈ calls, c.Storable) :
    let i := Calls.after call (vacant config faults ids) calls
    (∀ id, (i.relay.store.archive.get? id).isSome → ∃ s, i.stored id = some s ∧ s.id = id) ∧
      Unrivalled i.stored := by
  intro i
  have hempty : Unrivalled (Registry.empty.get? ·) := by
    intro id₁ id₂ s₁ s₂ hget
    cases hget
  obtain ⟨m, hkeeps, hm⟩ : ∃ m, i.Keeps config faults m ∧ Unrivalled (m.get? ·) :=
    (keeps_vacant config faults ids).after (fun _ _ _ _ hm hserves => hserves.unrivalled hm) hempty
      hcalls
  refine ⟨hkeeps.exists_stored, ?_⟩
  rw [show i.stored = (m.get? ·) from funext hkeeps.stored_eq]
  exact hm

/-- Alice and Bob are introduced three times, the second time in the other order, and the first
introduction is given up in between. -/
def rivalCalls : List Call :=
  [introduceAliceAndBob, .introduce Session.bob Session.alice [2] [1] none,
    .abort (.replicate 7), introduceAliceAndBob]

/-- The contacts of the sample calls can be stored. -/
lemma storable_rivalCalls : ∀ c ∈ rivalCalls, c.Storable := by
  intro c hc
  simp only [rivalCalls, List.mem_cons, List.not_mem_nil, or_false] at hc
  rcases hc with rfl | rfl | rfl | rfl
  · exact storable_introduceAliceAndBob
  · exact storable_introduceAliceAndBob.symm
  · exact trivial
  · exact storable_introduceAliceAndBob

/-- An introducer with nothing stored, whose transport refuses the second message and whose store
deletes nothing. -/
def refusingDeletion : Introducer :=
  vacant {} ⟨fun operation _ => operation = .delete, fun number => number = 2⟩
    fun n => .replicate (UInt8.ofNat (n + 7))

/-- The first request to Bob is refused, and then the deletion of the session as well.  The session
stays stored and is in the way of the second introduction; the third one is started once it was
given up, and has no rival. -/
theorem unrivalled_rivalCalls :
    (∀ c ∈ rivalCalls, c.Storable) ∧
      let i := Calls.after call refusingDeletion rivalCalls
      (∃ s, i.stored (.replicate 7) = some s ∧ s.id = .replicate 7 ∧ s.isLive = false) ∧
        (∃ s, i.stored (.replicate 8) = some s ∧ s.id = .replicate 8 ∧ s.isLive = true) ∧
          Unrivalled i.stored := by
  obtain ⟨hentries, hunrivalled⟩ := unrivalled_of_calls {}
    ⟨fun operation _ => operation = .delete, fun number => number = 2⟩
      (fun n => .replicate (UInt8.ofNat (n + 7))) storable_rivalCalls
  have hstored : ((Calls.after call refusingDeletion rivalCalls).relay.store.archive.get?
      (.replicate 7)).isSome ∧ ((Calls.after call refusingDeletion
        rivalCalls).relay.store.archive.get? (.replicate 8)).isSome := by
    decide +kernel
  have hlive : ((Calls.after call refusingDeletion rivalCalls).stored (.replicate 7)).any
      (·.isLive) = false ∧ ((Calls.after call refusingDeletion rivalCalls).stored
        (.replicate 8)).any (·.isLive) = true := by
    decide +kernel
  rw [← refusingDeletion] at hentries hunrivalled
  generalize Calls.after call refusingDeletion rivalCalls = i
    at hentries hunrivalled hstored hlive ⊢
  obtain ⟨s, hs, hsid⟩ := hentries _ hstored.1
  obtain ⟨t, ht, htid⟩ := hentries _ hstored.2
  rw [hs, ht] at hlive
  exact ⟨storable_rivalCalls, ⟨s, hs, hsid, hlive.1⟩, ⟨t, ht, htid, hlive.2⟩, hunrivalled⟩

end Introducer

end Introduction
