import Introduction.Proofs.Relay.GivenUp

/-!
# Deleting sessions that were given up

Where sessions that were given up are not kept, a session should be deleted after both contacts were
told.  The relay deletes it first, and puts it back if an abort is refused.  So whenever a session
disappears from the store in a call, the call succeeds and both aborts were handed over, or else it
fails over the store, and an abort at least was not handed over (`aborts_of_deleted`).  The latter
takes a transport and a store that both refuse something: an abort, and then to take the session
back (`deleted_before_aborts`).
-/

namespace Introduction

namespace Session

variable {s t : Session} {input : Input} {envelopes : List Envelope} {events : List Event}

/-- A step that gives a session up sends both aborts and nothing else. -/
lemma Step.eq_aborts (h : Step s input t envelopes events) (hs : s.state ≠ .aborted)
    (ht : t.state = .aborted) : envelopes = s.aborts := by
  cases h with
  | start _ => cases ht
  | ignore _ => exact absurd ht hs
  | giveUp _ => rfl
  | response haccepts _ =>
    rw [state_record, state_enter, State.next_answer _ _ _ true] at ht
    exact absurd ht haccepts.next_ne_aborted
  | ack haccepts => exact absurd ht haccepts.next_ne_aborted
  | late _ hstate =>
    rw [state_recordFirst, hstate] at ht
    cases ht

end Session

/-! ### Calls on a registry -/

namespace Registry

variable {α : Type} {m : Registry} {config : Relay.Config} {id : SessionId} {s : Session}
  {fresh : Session → Session.Input → α → Prop} {o : Outcome α}

/-- No session is kept that was given up. -/
def Unaborted (m : Registry) : Prop := ∀ id s, m.get? id = some s → s.state ≠ .aborted

/-- Where sessions that were given up are deleted, no call leaves one. -/
lemma Serves.unaborted (h : m.Serves config fresh o) (hconfig : config.retention = .dropAborted)
    (hm : m.Unaborted) : o.sessions.Unaborted := by
  have hkeep : ∀ t : Session, Unaborted (m.keep config t) := by
    intro t id s hget
    rw [get?_keep] at hget
    split_ifs at hget with hid hdrops
    · cases hget
      exact fun haborted => hdrops ⟨hconfig, decide_eq_true haborted⟩
    · exact hm id s hget
  cases h with
  | refuse e he => exact hm
  | stored _ _ => exact hkeep _
  | created _ _ _ => exact hkeep _

/-- If a session is no longer kept after a call, the call gives it up. -/
lemma Serves.aborts_of_erased (h : m.Serves config fresh o) (hm : m.Unaborted)
    (hget : m.get? id = some s) (hnone : o.sessions.get? id = none) :
    (∃ x, o.result = .ok x) ∧ o.envelopes = s.aborts := by
  -- a session that is no longer there after another was kept or dropped was dropped
  have hdropped : ∀ t : Session, (m.keep config t).get? id = none → id = t.id ∧ t.isAborted := by
    intro t hnone
    rw [get?_keep] at hnone
    split_ifs at hnone with hid hdrops
    · exact ⟨hid, hdrops.2⟩
    · cases hget.symm.trans hnone
  cases h with
  | refuse e he => cases hget.symm.trans hnone
  | @stored s' t input envelopes events x hs hstep =>
    obtain ⟨hid, haborted⟩ := hdropped t hnone
    rw [hid, hstep.id_eq, hs] at hget
    cases hget
    exact ⟨⟨_, rfl⟩, hstep.eq_aborts (hm _ _ hs) (of_decide_eq_true haborted)⟩
  | @created s' t input envelopes events x hs _ hstep =>
    obtain ⟨hid, -⟩ := hdropped t hnone
    rw [hid, hstep.id_eq, hs] at hget
    cases hget

end Registry

/-! ### Runs -/

namespace Introducer

open Relay (Faults)

variable {i : Introducer} {limit : ℕ} {faults : Faults} {m : Registry} {id : SessionId}
  {s : Session}

/-- A session was deleted in a call after both aborts were handed over, or before: then the call
fails over the store, where the transport and the store both refuse something. -/
inductive Deleted (faults : Faults) (i : Introducer) (c : Call) (s : Session) : Prop
  /-- The call succeeds, and both aborts were handed over in it. -/
  | after (hresult : ∃ x, (i.call c).1 = .ok x) (hsent : i.sentOver c = s.aborts)
  /-- The call fails over the store, and only some of the aborts were handed over in it, if any. -/
  | before (htransport : faults.HitTransport) (hstore : faults.HitStore)
      (hresult : ∃ e, (i.call c).1 = .error (.store e))
      (hsent : i.sentOver c <+: s.aborts ∧ i.sentOver c ≠ s.aborts)

/-- If a session is no longer stored after a call, it was deleted in one of the two ways. -/
lemma Keeps.deleted (h : i.Keeps ⟨.dropAborted, limit⟩ faults m) (hm : m.Unaborted) {c : Call}
    (hc : c.Storable) (hstored : i.stored id = some s)
    (hnone : (i.call c).2.relay.store.archive.get? id = none) : Deleted faults i c s := by
  have hget : m.get? id = some s := (h.stored_eq id).symm.trans hstored
  have hserves : m.Serves ⟨.dropAborted, limit⟩ (m.Introducible (i.ids i.drawn))
      (m.respond ⟨.dropAborted, limit⟩ (i.ids i.drawn) c) := h.sound.serves_respond hc
  -- the session is not stored if the archive is that of a registry without it
  have harchive : ∀ m' : Registry, (Registry.archive m').get? id = none → m'.get? id = none := by
    intro m' hnone'
    rwa [Registry.archive, Ascending.get?_map, Option.map_eq_none_iff] at hnone'
  obtain ⟨l', hbears, hcomes⟩ := h.comesTo c
  rw [hbears.archive_eq] at hnone
  have hsent := hbears.sent_eq
  generalize hx : (i.call c).1 = x at hcomes
  cases hcomes with
  | done =>
    obtain ⟨⟨y, hy⟩, haborts⟩ := hserves.aborts_of_erased hm hget (harchive _ hnone)
    exact .after ⟨y, hx.trans hy⟩ ((sentOver_eq hsent).trans haborts)
  | refused => cases hget.symm.trans (harchive _ hnone)
  | restored => cases hget.symm.trans (harchive _ hnone)
  | @stuck hstore htransport e sent rest hsplit hrest =>
    obtain ⟨-, haborts⟩ := hserves.aborts_of_erased hm hget (harchive _ hnone)
    have hsplit' : s.aborts = sent ++ rest := haborts ▸ List.append_cancel_left hsplit
    refine .before htransport hstore ⟨e, hx⟩ ?_
    rw [sentOver_eq hsent, hsplit']
    exact ⟨List.prefix_append sent rest, fun heq => hrest (List.self_eq_append_right.mp heq)⟩

/-- Whatever an introducer that starts with nothing stored is asked for, and whatever its store and
its transport refuse: if sessions that were given up are deleted and a session that was stored
before a call is not stored after it, the call hands over both its aborts and succeeds, or it hands
over some of them at most and fails over the store.  The latter needs a transport and a store that
both refuse something. -/
theorem aborts_of_deleted (limit : ℕ) (faults : Faults) (ids : ℕ → SessionId) {before : List Call}
    {c : Call} (hbefore : ∀ c ∈ before, c.Storable) (hc : c.Storable) {id : SessionId}
    {s : Session} :
    let i := Calls.after call (vacant ⟨.dropAborted, limit⟩ faults ids) before
    i.stored id = some s → (i.call c).2.relay.store.archive.get? id = none →
      Deleted faults i c s := by
  intro i hstored hnone
  obtain ⟨m, hkeeps, hm⟩ : ∃ m, i.Keeps ⟨.dropAborted, limit⟩ faults m ∧ m.Unaborted :=
    (keeps_vacant _ faults ids).after (fun _ _ _ _ hm hserves => hserves.unaborted rfl hm)
      (fun _ _ hget => nomatch hget) hbefore
  exact hkeeps.deleted hm hc hstored hnone

/-- An introducer that deletes sessions that were given up was asked to introduce Alice and Bob. -/
def deleting (faults : Faults) : Introducer :=
  Calls.after call (vacant ⟨.dropAborted, 65536⟩ faults fun _ => .replicate 7)
    [introduceAliceAndBob]

/-- If nothing is refused, the introduction of Alice and Bob is deleted after both aborts were
handed over, when it is given up. -/
theorem aborts_alice_bob :
    ((∀ c ∈ [introduceAliceAndBob], c.Storable) ∧ giveUp.Storable ∧
      (deleting .none).stored (.replicate 7) =
        some (Session.aliceAndBob.enter .awaitResponses) ∧
      ((deleting .none).call giveUp).2.relay.store.archive.get? (.replicate 7) = none) ∧
    Deleted .none (deleting .none) giveUp (Session.aliceAndBob.enter .awaitResponses) := by
  have hbefore : ∀ c ∈ [introduceAliceAndBob], c.Storable :=
    List.forall_mem_singleton.mpr storable_introduceAliceAndBob
  have hc : giveUp.Storable := trivial
  have hstored : (deleting .none).stored (.replicate 7) =
      some (Session.aliceAndBob.enter .awaitResponses) := by
    decide +kernel
  have hnone : ((deleting .none).call giveUp).2.relay.store.archive.get? (.replicate 7) = none := by
    decide +kernel
  unfold deleting at hstored hnone ⊢
  exact ⟨⟨hbefore, hc, hstored, hnone⟩,
    aborts_of_deleted 65536 .none (fun _ => .replicate 7) hbefore hc hstored hnone⟩

/-- The transport refuses the third message, and the store the second session that it is to take. -/
def refusedAbort : Faults :=
  ⟨fun operation number => operation = .put && number = 2, fun number => number = 3⟩

/-- The introduction of Alice and Bob is deleted although no abort was handed over: the one to Alice
is refused, and then the store refuses to take the session back. -/
theorem deleted_before_aborts :
    (deleting refusedAbort).stored (.replicate 7) =
        some (Session.aliceAndBob.enter .awaitResponses) ∧
      ((deleting refusedAbort).call giveUp).2.relay.store.archive.get? (.replicate 7) = none ∧
        (deleting refusedAbort).sentOver giveUp = [] :=
  ⟨by decide +kernel, by decide +kernel, List.length_eq_zero_iff.mp (by decide +kernel)⟩

end Introducer

end Introduction
