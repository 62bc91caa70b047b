import Introduction.Proofs.Simulation.Stage
import Introduction.Simulation.Scenario

/-!
# The opening of an introduction

A world with two contacts who follow their scripts, before anything has happened, and the stage at
which it is once the introduction was started: the session waits for both responses, and the two
requests are on the network.
-/

namespace Introduction.Simulation

/-! ### The plan when the requests are on their way -/

namespace Plan

variable (plan : Plan)

/-- What is recorded of an introduction once it was started. -/
def openingRecord : Record :=
  Record.route (fun _ _ => {})
    (plan.session.requests (plan.publicKey .first) (plan.publicKey .second) plan.note)

/-- All that was sent to a contact is the request. -/
lemma sent_openingRecord (side : Side) :
    (plan.openingRecord (plan.channel side) .toContact).sent =
      [(plan.request side).toDictionary] := by
  have hrequest := plan.session.messagesOn_requests side (plan.publicKey .first)
    (plan.publicKey .second) plan.note
  rw [openingRecord, Record.sent_route, if_pos rfl, channel, hrequest, List.nil_append]
  cases side <;> rfl

/-- The request to a contact reads as it is planned. -/
lemma tells_request (side : Side) :
    plan.Tells side (plan.request side).toDictionary (.request (plan.request side)) := by
  refine ⟨Session.hears_toDictionary (m := .request _) rfl rfl, fun r hr => ?_, fun r hr => ?_⟩
  · cases hr
    rfl
  · cases hr

/-- The session that sent the requests waits for both responses. -/
lemma conducts_opening :
    plan.Conducts (plan.session.enter .awaitResponses) .awaitResponses plan.openingRecord [] := by
  refine ⟨⟨rfl, fun _ => rfl⟩, .inl rfl, by simp, by simp, fun side => ?_, fun side d hd => ?_,
    fun _ side => ?_, fun e he => ?_, fun side => Nat.zero_le _, fun side => Nat.zero_le _⟩
  · rw [sent_openingRecord, kinds, List.map_singleton, (plan.tells_request side).kindOf_eq]
    rfl
  · rw [sent_openingRecord, List.mem_singleton] at hd
    rw [hd]
    exact ⟨_, plan.tells_request side⟩
  · rw [openingRecord, Record.arrived_route]
    rfl
  · cases he

/-- Neither contact has seen anything. -/
lemma follows_opening (side : Side) :
    plan.Follows side plan.openingRecord []
      { contact := plan.session.contact side, script := plan.script side } := by
  have hnothing : (plan.openingRecord (plan.channel side) .toIntroducer).sent = [] := by
    rw [openingRecord, Record.sent_route]
    rfl
  refine ⟨?_, ⟨⟨rfl, rfl, rfl, ?_, rfl, ?_⟩, ?_⟩, ?_, fun d hd => ?_, Nat.zero_le _, Nat.zero_le _⟩
  · rw [openingRecord, Record.arrived_route]
    rfl
  · simp
  · simp
  · simp
  · rw [hnothing, Script.replies, if_neg (by simp)]
    rfl
  · rw [hnothing] at hd
    cases hd

/-- The requests are on a network that was not used before. -/
lemma wires_opening (net : Network) (hlanes : net.lanes = OrderedMap.empty)
    (hdelivered : net.delivered = 0) :
    plan.Wires ((plan.session.requests (plan.publicKey .first) (plan.publicKey .second)
      plan.note).foldl Network.route net) 0 0 plan.openingRecord := by
  have hunused : plan.Wires net 0 0 fun _ _ => {} :=
    ⟨Network.accounts_of_unused hlanes, fun _ _ _ => rfl, rfl, rfl, hdelivered,
      fun _ => Network.plain_of_unused hlanes⟩
  refine hunused.route fun e he => ?_
  rcases List.mem_cons.mp he with rfl | he
  · exact ⟨.first, rfl⟩
  · rw [List.mem_singleton.mp he]
    exact ⟨.second, rfl⟩

end Plan

namespace World

variable {σ : Type}

/-- A world with two contacts before anything has happened. -/
def opening (source : σ) (contact : Side → Contact) (script : Side → Script) (duplication : Rate)
    (reorders : Bool) : World σ where
  source
  network := { duplication, reorders }
  first := { contact := contact .first, script := script .first }
  second := { contact := contact .second, script := script .second }

/-- The introducer tells two contacts apart, by channel and in its address book, and can store their
names, which it can if they are texts in memory. -/
structure Distinct (contact : Side → Contact) : Prop where
  ids_ne : (contact .first).id ≠ (contact .second).id
  channels_ne : (contact .first).channel ≠ (contact .second).channel
  storable : ∀ side, (contact side).Storable

variable [Choice σ]

/-- The keys that an introduction draws, that of the first contact first. -/
def drawKeys (source : σ) : (Side → Bytes) × σ :=
  let (publicKey₁, source) := Choice.publicKey source
  let (publicKey₂, source) := Choice.publicKey source
  (Side.select publicKey₁ publicKey₂, source)

/-- The identifier that an introduction draws after the keys. -/
def drawId (source : σ) : SessionId × σ := Choice.identifier (drawKeys source).2

/-- A scenario that keeps sessions starts in such a world. -/
theorem start_eq_opening (s : Scenario) (source : σ) (h : s.retention = .keepAll) :
    s.start source = opening (s.start source).source
      (fun side => ((s.start source).participant side).contact)
      (Side.select s.firstScript s.secondScript) s.duplication s.reorders := by
  unfold Scenario.start
  rw [h]
  rfl

/-- The introduction of two contacts that a world is about to start. -/
def plan {contact : Side → Contact} (h : Distinct contact) (source : σ) (script : Side → Script)
    (note : Option String) : Plan where
  session :=
    { id := (drawId source).1
      state := .prepareRequests
      first := contact .first
      second := contact .second
      response₁ := none
      response₂ := none
      channels_ne := h.channels_ne }
  script
  publicKey := (drawKeys source).1
  note
  ids_ne := h.ids_ne
  storable := fun side => by cases side <;> exact h.storable _

variable {contact : Side → Contact} (hdistinct : Distinct contact) (source : σ)
  (script : Side → Script) (duplication : Rate) (reorders : Bool) (note : Option String)

/-- An introduction succeeds if its two calls of the relay do. -/
lemma introduce_of_calls (w : World σ) {w₁ w₂ : World σ} {note : Option String} {id : SessionId}
    (hfree : World.call { w with source := (Choice.publicKey (Choice.publicKey w.source).2).2 }
      (Relay.ensureFree w.first.contact w.second.contact) = (.ok (), w₁))
    (hintroduce : World.call { w₁ with source := (Choice.identifier w₁.source : SessionId × σ).2 }
      (Relay.introduceAs (Choice.identifier w₁.source).1 w.first.contact w.second.contact
        (Choice.publicKey w.source).1 (Choice.publicKey (Choice.publicKey w.source).2).1 note) =
          (.ok id, w₂)) :
    w.introduce note = (.ok id, { w₂ with introduction := some id }) := by
  unfold introduce
  dsimp only
  rw [hfree]
  dsimp only
  rw [hintroduce]

/-- The introduction of two contacts starts and succeeds, and its requests are on the network. -/
lemma introduce_eq :
    ∃ source' relay notices,
      (opening source contact script duplication reorders).introduce note =
        (.ok (drawId source).1, { opening source contact script duplication reorders with
          source := source', relay, notices
          introduction := some (drawId source).1
          network := ((plan hdistinct source script note).session.requests
            ((drawKeys source).1 .first) ((drawKeys source).1 .second) note).foldl Network.route
              { duplication, reorders } }) ∧
      relay.Keeps ((plan hdistinct source script note).session.enter .awaitResponses) ∧
      relay.events = [] := by
  have hshows : ({} : Relay).Shows ⟨{}, Archive.empty, [], []⟩ :=
    ⟨fun _ _ => rfl, rfl, fun _ => rfl, fun _ _ => rfl, rfl, rfl, rfl, rfl⟩
  obtain ⟨relay, notices, hfree, hrelay⟩ := call_of_yields
    (w := { opening source contact script duplication reorders with source := (drawKeys source).2 })
    (Relay.yields_ensureFree rfl (contact .first) (contact .second)) hshows
  have hstart : Session.start (drawId source).1 (contact .first) (contact .second) =
      .ok (plan hdistinct source script note).session := by
    unfold Session.start
    rw [dif_neg hdistinct.channels_ne]
    rfl
  obtain ⟨told, hsend⟩ : ∃ told, (plan hdistinct source script note).session.sendRequests
      ((drawKeys source).1 .first) ((drawKeys source).1 .second) note = {
        session := (plan hdistinct source script note).session.enter .awaitResponses
        envelopes := (plan hdistinct source script note).session.requests
          ((drawKeys source).1 .first) ((drawKeys source).1 .second) note
        notices := told } := ⟨_, rfl⟩
  obtain ⟨relay', notices', hintroduce, hrelay'⟩ := call_of_yields
    (w := { opening source contact script duplication reorders with
      source := (drawId source).2, relay, notices })
    (Relay.yields_introduceAs (by rfl) hstart rfl ((drawKeys source).1 .first)
      ((drawKeys source).1 .second) note) hrelay
  refine ⟨(drawId source).2, relay', notices', ?_, ?_, ?_⟩
  · exact introduce_of_calls (opening source contact script duplication reorders) hfree hintroduce
  · have hevents := hrelay'.events_eq
    rw [hsend] at hrelay'
    exact ⟨_, _, rfl, Archive.holds_write _ (plan hdistinct source script note).storable,
      by rw [hevents]; exact hrelay'⟩
  · exact hrelay'.events_eq

/-- An introduction that was started is at a stage: the session waits for both responses, and
neither contact has seen anything. -/
theorem introduce_stage :
    ∃ w, (opening source contact script duplication reorders).introduce note =
        (.ok (drawId source).1, w) ∧
      w.Stage (plan hdistinct source script note)
        ((plan hdistinct source script note).session.enter .awaitResponses) .awaitResponses
        (fun _ => []) (plan hdistinct source script note).openingRecord ∧
      w.network.delivered = 0 ∧ w.network.duplication = duplication := by
  obtain ⟨source', relay, notices, hintroduce, hkeeps, hevents⟩ :=
    introduce_eq hdistinct source script duplication reorders note
  obtain ⟨lanes, hnetwork⟩ := Network.foldl_route_eq { duplication, reorders }
    ((plan hdistinct source script note).session.requests ((drawKeys source).1 .first)
      ((drawKeys source).1 .second) note)
  have hwires := (plan hdistinct source script note).wires_opening
    { duplication, reorders } rfl rfl
  refine ⟨_, hintroduce, ⟨hkeeps, rfl, hwires, ?_, fun side => ?_, rfl⟩, ?_, ?_⟩
  · rw [hevents]
    exact Plan.conducts_opening _
  · have hfollows := (plan hdistinct source script note).follows_opening side
    cases side <;> exact hfollows
  · rw [hnetwork]
  · rw [hnetwork]

end World

end Introduction.Simulation
