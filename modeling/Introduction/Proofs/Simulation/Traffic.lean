import Introduction.Proofs.OrderedMap
import Introduction.Proofs.Session.Outgoing
import Introduction.Simulation.Network
import Mathlib.Data.List.Perm.Subperm

/-!
# Traffic on the simulated network

What the network does with the messages that are sent over it.  A delivery takes the first message
of some queue and may put a copy of it back, unless it is a copy itself (`Step`, `step_step`).

For every queue a `Traffic` records the messages sent so far, those that arrived as originals and
those that came back as copies.  The invariant `Accounts` ties these records to the queues: what has
arrived and what still waits make up what was sent, in order, and every copy is one of a message
that has arrived before, at most one of each.  The number of deliveries is bounded by it: twice the
number of messages that were sent.
-/

namespace Introduction.Simulation

namespace Network

variable {net net' : Network} {channel : ChannelId} {direction : Direction}

/-! ### Queues -/

@[simp] lemma queue_setQueue (net : Network) (c c' : ChannelId) (dir dir' : Direction)
    (queue : List Transit) :
    (net.setQueue c dir queue).queue c' dir' =
      if c' = c ∧ dir' = dir then queue else net.queue c' dir' := by
  unfold Network.queue setQueue lane
  simp only [OrderedMap.get?_insert]
  by_cases h : c' = c
  · subst h
    cases dir <;> cases dir' <;> simp [Lane.queue, Lane.setQueue]
  · simp [h]

/-- A message that is sent waits behind those that were sent before. -/
lemma queue_enqueue (net : Network) (c c' : ChannelId) (dir dir' : Direction) (t : Transit) :
    (net.enqueue c dir t).queue c' dir' =
      net.queue c' dir' ++ if c' = c ∧ dir' = dir then [t] else [] := by
  rw [enqueue, queue_setQueue]
  split_ifs with h
  · rw [h.1, h.2]
  · rw [List.append_nil]

/-- A queue is ready exactly if a message waits in it. -/
theorem mem_ready_iff : (channel, direction) ∈ net.ready ↔ net.queue channel direction ≠ [] := by
  have hready : ∀ lane : Lane, direction ∈ lane.ready ↔ lane.queue direction ≠ [] := by
    intro lane
    cases direction <;> simp [Lane.ready]
  unfold ready Network.queue lane
  rw [List.mem_flatMap]
  constructor
  · rintro ⟨⟨c, lane⟩, hmem, hdir⟩
    obtain ⟨dir, hlane, heq⟩ := List.mem_map.mp hdir
    cases heq
    rw [net.lanes.mem_toList_iff.mp hmem]
    exact (hready lane).mp hlane
  · intro h
    cases hlane : net.lanes.get? channel with
    | none =>
      rw [hlane] at h
      cases direction <;> exact absurd rfl h
    | some lane =>
      rw [hlane] at h
      exact ⟨(channel, lane), net.lanes.mem_toList_iff.mpr hlane,
        List.mem_map_of_mem ((hready lane).mpr h)⟩

/-- The network is idle exactly if no message waits in any queue. -/
theorem isIdle_iff : net.isIdle ↔ ∀ channel direction, net.queue channel direction = [] := by
  unfold isIdle
  rw [List.isEmpty_iff, List.eq_nil_iff_forall_not_mem]
  constructor
  · intro h channel direction
    exact not_not.mp fun hqueue => h _ (mem_ready_iff.mpr hqueue)
  · rintro h ⟨channel, direction⟩ hmem
    exact mem_ready_iff.mp hmem (h channel direction)

/-! ### Deliveries -/

/-- What the network does when a message is to be delivered. -/
inductive Step (net : Network) : Option Delivery → Network → Prop
  /-- No message is waiting. -/
  | idle (hidle : net.isIdle) : Step net none net
  /-- The first message of a queue is delivered. -/
  | once {d : Delivery} {rest : List Transit}
      (hqueue : net.queue d.channel d.direction = ⟨d.message, d.isCopy⟩ :: rest) :
      Step net (some d)
        { net.setQueue d.channel d.direction rest with delivered := net.delivered + 1 }
  /-- The first message of a queue is delivered, and a copy of it put back. -/
  | copied {d : Delivery} {rest : List Transit}
      (hqueue : net.queue d.channel d.direction = ⟨d.message, d.isCopy⟩ :: rest)
      (hcopy : d.isCopy = false) (hrate : net.duplication ≠ .never) :
      Step net (some d) (putBack
        { net.setQueue d.channel d.direction rest with delivered := net.delivered + 1 } d)

variable {σ : Type} [Choice σ]

/-- The queue that is chosen is one in which a message waits, if there is one. -/
lemma chooseQueue_spec (net : Network) (source : σ) :
    (∃ source', net.chooseQueue source = (none, source') ∧ net.isIdle) ∨
      ∃ queue source', net.chooseQueue source = (some queue, source') ∧ queue ∈ net.ready := by
  unfold chooseQueue
  by_cases h : 0 < net.ready.length
  · rw [dif_pos h]
    right
    split_ifs
    · exact ⟨_, _, rfl, List.getElem_mem _⟩
    · exact ⟨_, _, rfl, List.getElem_mem _⟩
  · rw [dif_neg h]
    left
    refine ⟨source, rfl, ?_⟩
    rw [isIdle, List.isEmpty_iff, ← List.length_eq_zero_iff]
    omega

/-- A copy is made of a message that is none, and only if the network makes copies. -/
lemma chooseCopy_spec {net : Network} {d : Delivery} {source : σ}
    (h : (net.chooseCopy d source).1 = true) : d.isCopy = false ∧ net.duplication ≠ .never := by
  unfold chooseCopy at h
  split_ifs at h with hcopy
  refine ⟨Bool.eq_false_iff.mpr hcopy, fun hrate => ?_⟩
  rw [hrate] at h
  cases h

/-- Every choice of the network makes one of the steps. -/
theorem step_step (net : Network) (source : σ) :
    Step net (net.step source).1 (net.step source).2.1 := by
  unfold Network.step
  rcases net.chooseQueue_spec source with ⟨source', hchoice, hidle⟩ |
    ⟨⟨channel, direction⟩, source', hchoice, hready⟩
  · rw [hchoice]
    exact .idle hidle
  · rw [hchoice]
    dsimp only
    unfold take
    have hwaiting := mem_ready_iff.mp hready
    cases hqueue : net.queue channel direction with
    | nil => exact absurd hqueue hwaiting
    | cons transit rest =>
      dsimp only
      split_ifs with hcopied
      · obtain ⟨hcopy, hrate⟩ := chooseCopy_spec hcopied
        exact .copied hqueue hcopy hrate
      · exact .once hqueue

end Network

/-! ### Records of a queue -/

/-- What travelled through a queue. -/
structure Traffic where
  /-- The messages that were sent, in order. -/
  sent : List Dictionary := []
  /-- The messages that were delivered as originals, in order. -/
  arrived : List Dictionary := []
  /-- The messages that were delivered as copies, in order. -/
  returned : List Dictionary := []

/-- The messages that wait in a queue as originals. -/
def originals (queue : List Transit) : List Dictionary :=
  (queue.filter (!·.isCopy)).map (·.message)

/-- The messages that wait in a queue as copies. -/
def copies (queue : List Transit) : List Dictionary := (queue.filter (·.isCopy)).map (·.message)

@[simp] lemma originals_append (queue queue' : List Transit) :
    originals (queue ++ queue') = originals queue ++ originals queue' := by
  simp [originals]

@[simp] lemma copies_append (queue queue' : List Transit) :
    copies (queue ++ queue') = copies queue ++ copies queue' := by
  simp [copies]

@[simp] lemma originals_map_original (messages : List Dictionary) :
    originals (messages.map (⟨·, false⟩)) = messages := by
  simp [originals, List.filter_map, Function.comp_def]

@[simp] lemma copies_map_original (messages : List Dictionary) :
    copies (messages.map (⟨·, false⟩)) = [] := by
  simp [copies]

namespace Traffic

/-- The record after messages were sent. -/
def send (t : Traffic) (messages : List Dictionary) : Traffic :=
  { t with sent := t.sent ++ messages }

/-- The record after a message was delivered. -/
def deliver (t : Traffic) (message : Dictionary) (isCopy : Bool) : Traffic :=
  if isCopy then { t with returned := t.returned ++ [message] }
  else { t with arrived := t.arrived ++ [message] }

/-- How many messages were delivered. -/
def delivered (t : Traffic) : ℕ := t.arrived.length + t.returned.length

/-- A record accounts for what waits in a queue: what has arrived and what still waits was sent, in
this order, and every copy is one of a message that has arrived, and the only one of it. -/
structure Matches (t : Traffic) (queue : List Transit) : Prop where
  sent_eq : t.sent = t.arrived ++ originals queue
  copies_subperm : (t.returned ++ copies queue).Subperm t.arrived

variable {t : Traffic} {queue rest : List Transit} {message : Dictionary} {isCopy : Bool}

@[simp] lemma delivered_deliver (t : Traffic) (message : Dictionary) (isCopy : Bool) :
    (t.deliver message isCopy).delivered = t.delivered + 1 := by
  unfold deliver delivered
  split_ifs
  · simp [Nat.add_assoc]
  · simp [Nat.add_right_comm]

@[simp] lemma sent_deliver (t : Traffic) (message : Dictionary) (isCopy : Bool) :
    (t.deliver message isCopy).sent = t.sent := by
  unfold deliver
  split_ifs <;> rfl

/-- Messages that are sent wait behind the others. -/
lemma Matches.send (h : t.Matches queue) (messages : List Dictionary) :
    (t.send messages).Matches (queue ++ messages.map (⟨·, false⟩)) := by
  constructor
  · show t.sent ++ messages = t.arrived ++ originals _
    rw [originals_append, originals_map_original, h.sent_eq, List.append_assoc]
  · show (t.returned ++ copies _).Subperm t.arrived
    rw [copies_append, copies_map_original, List.append_nil]
    exact h.copies_subperm

/-- A delivered message has arrived, or come back if it is a copy. -/
lemma Matches.deliver (h : t.Matches (⟨message, isCopy⟩ :: rest)) :
    (t.deliver message isCopy).Matches rest := by
  obtain ⟨hsent, hcopies⟩ := h
  cases isCopy with
  | true =>
    refine ⟨hsent, ?_⟩
    show ((t.returned ++ [message]) ++ copies rest).Subperm t.arrived
    rw [List.append_assoc]
    exact hcopies
  | false =>
    constructor
    · show t.sent = (t.arrived ++ [message]) ++ originals rest
      rw [List.append_assoc]
      exact hsent
    · show (t.returned ++ copies rest).Subperm (t.arrived ++ [message])
      exact hcopies.trans (List.sublist_append_left _ _).subperm

/-- A message that has arrived may be put back as a copy. -/
lemma Matches.putBack (h : t.Matches (⟨message, false⟩ :: rest)) :
    (t.deliver message false).Matches (rest ++ [⟨message, true⟩]) := by
  obtain ⟨hsent, hcopies⟩ := h
  have horiginals : originals (rest ++ [⟨message, true⟩]) = originals rest := by
    simp [originals]
  have hcopies' : copies (rest ++ [⟨message, true⟩]) = copies rest ++ [message] := by
    simp [copies]
  constructor
  · show t.sent = (t.arrived ++ [message]) ++ originals _
    rw [horiginals, List.append_assoc]
    exact hsent
  · show (t.returned ++ copies _).Subperm (t.arrived ++ [message])
    rw [hcopies', ← List.append_assoc]
    exact (List.subperm_append_right [message]).mpr hcopies

/-- What arrived was sent, in this order. -/
lemma Matches.isPrefix_arrived (h : t.Matches queue) : t.arrived <+: t.sent :=
  ⟨_, h.sent_eq.symm⟩

/-- What came back has arrived before. -/
lemma Matches.returned_subperm (h : t.Matches queue) : t.returned.Subperm t.arrived :=
  (List.sublist_append_left _ _).subperm.trans h.copies_subperm

/-- No more is delivered than twice what was sent. -/
theorem Matches.delivered_le (h : t.Matches queue) : t.delivered ≤ 2 * t.sent.length := by
  have harrived := h.isPrefix_arrived.length_le
  have hreturned := h.returned_subperm.length_le
  unfold delivered
  omega

/-- Once nothing waits any more, everything that was sent has arrived. -/
lemma Matches.arrived_eq (h : t.Matches []) : t.arrived = t.sent := by
  rw [h.sent_eq]
  exact (List.append_nil _).symm

/-- A copy that waits is one of a message that has arrived. -/
lemma Matches.mem_arrived (h : t.Matches (⟨message, true⟩ :: rest)) : message ∈ t.arrived :=
  h.copies_subperm.subset (List.mem_append_right _ List.mem_cons_self)

/-- What waits was sent. -/
lemma Matches.mem_sent (h : t.Matches (⟨message, isCopy⟩ :: rest)) : message ∈ t.sent := by
  cases isCopy with
  | true => exact h.isPrefix_arrived.subset h.mem_arrived
  | false =>
    rw [h.sent_eq]
    exact List.mem_append_right _ List.mem_cons_self

end Traffic

/-! ### Records of a network -/

/-- What travelled through every queue. -/
abbrev Record : Type := ChannelId → Direction → Traffic

namespace Record

/-- The record after a message was delivered. -/
def deliver (record : Record) (d : Delivery) : Record := fun channel direction =>
  if channel = d.channel ∧ direction = d.direction then
    (record channel direction).deliver d.message d.isCopy
  else record channel direction

/-- The record after messages were sent over a channel to the introducer. -/
def send (record : Record) (channel : ChannelId) (messages : List Dictionary) : Record :=
  fun channel' direction =>
    if channel' = channel ∧ direction = .toIntroducer then
      (record channel' direction).send messages
    else record channel' direction

/-- The record after messages were sent to the contacts. -/
def route (record : Record) (envelopes : List Envelope) : Record := fun channel direction =>
  if direction = .toContact then (record channel direction).send (messagesOn channel envelopes)
  else record channel direction

variable (record : Record) (channel : ChannelId) (direction : Direction)

@[simp] lemma sent_deliver (d : Delivery) :
    (record.deliver d channel direction).sent = (record channel direction).sent := by
  unfold deliver
  split_ifs <;> simp

lemma deliver_of_ne {d : Delivery} (h : ¬ (channel = d.channel ∧ direction = d.direction)) :
    record.deliver d channel direction = record channel direction :=
  if_neg h

@[simp] lemma sent_send (c : ChannelId) (messages : List Dictionary) :
    (record.send c messages channel direction).sent =
      (record channel direction).sent ++
        if channel = c ∧ direction = .toIntroducer then messages else [] := by
  unfold send
  split_ifs
  · rfl
  · rw [List.append_nil]

@[simp] lemma arrived_send (c : ChannelId) (messages : List Dictionary) :
    (record.send c messages channel direction).arrived = (record channel direction).arrived := by
  unfold send
  split_ifs <;> rfl

@[simp] lemma returned_send (c : ChannelId) (messages : List Dictionary) :
    (record.send c messages channel direction).returned = (record channel direction).returned := by
  unfold send
  split_ifs <;> rfl

@[simp] lemma sent_route (envelopes : List Envelope) :
    (record.route envelopes channel direction).sent =
      (record channel direction).sent ++
        if direction = .toContact then messagesOn channel envelopes else [] := by
  unfold route
  split_ifs
  · rfl
  · rw [List.append_nil]

@[simp] lemma arrived_route (envelopes : List Envelope) :
    (record.route envelopes channel direction).arrived = (record channel direction).arrived := by
  unfold route
  split_ifs <;> rfl

@[simp] lemma returned_route (envelopes : List Envelope) :
    (record.route envelopes channel direction).returned = (record channel direction).returned := by
  unfold route
  split_ifs <;> rfl

@[simp] lemma delivered_send (c : ChannelId) (messages : List Dictionary) :
    (record.send c messages channel direction).delivered =
      (record channel direction).delivered := by
  simp [Traffic.delivered]

@[simp] lemma delivered_route (envelopes : List Envelope) :
    (record.route envelopes channel direction).delivered =
      (record channel direction).delivered := by
  simp [Traffic.delivered]

end Record

namespace Network

variable {net net' : Network} {record : Record}

/-- A record accounts for what waits in every queue of a network. -/
def Accounts (net : Network) (record : Record) : Prop :=
  ∀ channel direction, (record channel direction).Matches (net.queue channel direction)

/-- Messages routed to the contacts wait in the queues to them. -/
lemma queue_foldl_route (net : Network) (envelopes : List Envelope) (channel : ChannelId)
    (direction : Direction) :
    (envelopes.foldl Network.route net).queue channel direction =
      net.queue channel direction ++
        if direction = .toContact then (messagesOn channel envelopes).map (⟨·, false⟩) else [] := by
  induction envelopes generalizing net with
  | nil => simp
  | cons e envelopes ih =>
    have hsplit : messagesOn channel (e :: envelopes) =
        (if channel = e.channel then [e.message] else []) ++ messagesOn channel envelopes := by
      by_cases h : channel = e.channel
      · simp [messagesOn, h]
      · simp [messagesOn, h, Ne.symm h]
    rw [List.foldl_cons, ih, Network.route, queue_enqueue, hsplit, List.append_assoc]
    by_cases hdir : direction = .toContact <;> by_cases h : channel = e.channel <;> simp [hdir, h]

/-- Messages sent to the introducer wait in the queue of their channel. -/
lemma queue_foldl_send (net : Network) (c channel : ChannelId) (messages : List Dictionary)
    (direction : Direction) :
    (messages.foldl (·.send c ·) net).queue channel direction =
      net.queue channel direction ++
        if channel = c ∧ direction = .toIntroducer then messages.map (⟨·, false⟩) else [] := by
  induction messages generalizing net with
  | nil => simp
  | cons message messages ih =>
    rw [List.foldl_cons, ih, Network.send, queue_enqueue, List.append_assoc]
    split_ifs <;> simp

/-- Routing changes nothing but the queues. -/
lemma foldl_route_eq (net : Network) (envelopes : List Envelope) :
    ∃ lanes, envelopes.foldl Network.route net = { net with lanes } := by
  induction envelopes generalizing net with
  | nil => exact ⟨net.lanes, rfl⟩
  | cons e envelopes ih =>
    obtain ⟨lanes, h⟩ := ih (net.route e)
    exact ⟨lanes, h⟩

/-- Sending changes nothing but the queues. -/
lemma foldl_send_eq (net : Network) (c : ChannelId) (messages : List Dictionary) :
    ∃ lanes, messages.foldl (·.send c ·) net = { net with lanes } := by
  induction messages generalizing net with
  | nil => exact ⟨net.lanes, rfl⟩
  | cons message messages ih =>
    obtain ⟨lanes, h⟩ := ih (net.send c message)
    exact ⟨lanes, h⟩

/-- Nothing waits on a network that was not used. -/
lemma queue_of_unused (h : net.lanes = OrderedMap.empty) (channel : ChannelId)
    (direction : Direction) : net.queue channel direction = [] := by
  unfold Network.queue lane
  rw [h]
  cases direction <;> rfl

/-- Nothing is recorded of a network that was not used. -/
lemma accounts_of_unused (h : net.lanes = OrderedMap.empty) : net.Accounts fun _ _ => {} := by
  intro channel direction
  rw [queue_of_unused h]
  exact ⟨rfl, .refl _⟩

/-- A record stays accurate when messages are routed. -/
lemma Accounts.route (h : net.Accounts record) (envelopes : List Envelope) :
    (envelopes.foldl Network.route net).Accounts (record.route envelopes) := by
  intro channel direction
  rw [queue_foldl_route, Record.route]
  split_ifs
  · exact (h channel direction).send _
  · rw [List.append_nil]
    exact h channel direction

/-- A record stays accurate when messages are sent to the introducer. -/
lemma Accounts.send (h : net.Accounts record) (c : ChannelId) (messages : List Dictionary) :
    (messages.foldl (·.send c ·) net).Accounts (record.send c messages) := by
  intro channel direction
  rw [queue_foldl_send, Record.send]
  split_ifs
  · exact (h channel direction).send _
  · rw [List.append_nil]
    exact h channel direction

/-- A record stays accurate when a message is delivered. -/
theorem Accounts.step (h : net.Accounts record) {d : Delivery} (hstep : net.Step (some d) net') :
    net'.Accounts (record.deliver d) := by
  intro channel direction
  have hat := h channel direction
  cases hstep with
  | @once _ rest hqueue =>
    show (record.deliver d channel direction).Matches
      ((net.setQueue d.channel d.direction rest).queue channel direction)
    rw [queue_setQueue, Record.deliver]
    split_ifs with heq
    · rw [heq.1, heq.2, hqueue] at hat
      rw [heq.1, heq.2]
      exact hat.deliver
    · exact hat
  | @copied _ rest hqueue hcopy _ =>
    show (record.deliver d channel direction).Matches
      (((net.setQueue d.channel d.direction rest).enqueue d.channel d.direction
        ⟨d.message, true⟩).queue channel direction)
    rw [queue_enqueue, queue_setQueue, Record.deliver]
    split_ifs with heq
    · rw [heq.1, heq.2, hqueue, hcopy] at hat
      rw [heq.1, heq.2, hcopy]
      exact hat.putBack
    · rw [List.append_nil]
      exact hat

/-- A delivered message was waiting. -/
lemma Step.exists_queue_eq {d : Delivery} (hstep : net.Step (some d) net') :
    ∃ rest, net.queue d.channel d.direction = ⟨d.message, d.isCopy⟩ :: rest := by
  cases hstep with
  | once hqueue => exact ⟨_, hqueue⟩
  | copied hqueue _ _ => exact ⟨_, hqueue⟩

/-- A delivery is counted, and the network goes on as it is set up. -/
lemma Step.delivered_eq {d : Delivery} (hstep : net.Step (some d) net') :
    net'.delivered = net.delivered + 1 ∧ net'.duplication = net.duplication := by
  cases hstep <;> exact ⟨rfl, rfl⟩

/-! ### Networks that copy nothing -/

/-- No copy waits in a network, and none was ever delivered. -/
def Plain (net : Network) (record : Record) : Prop :=
  ∀ channel direction,
    (record channel direction).returned = [] ∧ copies (net.queue channel direction) = []

/-- There are no copies in a network that was not used. -/
lemma plain_of_unused (h : net.lanes = OrderedMap.empty) : net.Plain fun _ _ => {} := by
  intro channel direction
  rw [queue_of_unused h]
  exact ⟨rfl, rfl⟩

/-- Routing makes no copies. -/
lemma Plain.route (h : net.Plain record) (envelopes : List Envelope) :
    (envelopes.foldl Network.route net).Plain (record.route envelopes) := by
  intro channel direction
  obtain ⟨hreturned, hcopies⟩ := h channel direction
  rw [Record.returned_route, queue_foldl_route]
  refine ⟨hreturned, ?_⟩
  split_ifs <;> simp [hcopies]

/-- Sending makes no copies. -/
lemma Plain.send (h : net.Plain record) (c : ChannelId) (messages : List Dictionary) :
    (messages.foldl (·.send c ·) net).Plain (record.send c messages) := by
  intro channel direction
  obtain ⟨hreturned, hcopies⟩ := h channel direction
  rw [Record.returned_send, queue_foldl_send]
  refine ⟨hreturned, ?_⟩
  split_ifs <;> simp [hcopies]

/-- What waits in a network without copies is an original. -/
lemma Plain.isCopy_eq (h : net.Plain record) {channel : ChannelId} {direction : Direction}
    {t : Transit} {rest : List Transit} (hqueue : net.queue channel direction = t :: rest) :
    t.isCopy = false := by
  have hcopies := (h channel direction).2
  rw [hqueue, copies, List.map_eq_nil_iff, List.filter_eq_nil_iff] at hcopies
  exact Bool.eq_false_iff.mpr (hcopies t List.mem_cons_self)

/-- A network that never copies goes on without copies. -/
lemma Plain.step (h : net.Plain record) (hrate : net.duplication = .never) {d : Delivery}
    (hstep : net.Step (some d) net') : net'.Plain (record.deliver d) := by
  intro channel direction
  obtain ⟨hreturned, hcopies⟩ := h channel direction
  cases hstep with
  | @once _ rest hqueue =>
    show (record.deliver d channel direction).returned = [] ∧
      copies ((net.setQueue d.channel d.direction rest).queue channel direction) = []
    rw [queue_setQueue, Record.deliver]
    split_ifs with heq
    · obtain ⟨rfl, rfl⟩ := heq
      have hno : d.isCopy = false := h.isCopy_eq hqueue
      rw [hqueue, hno] at hcopies
      rw [hno]
      exact ⟨hreturned, hcopies⟩
    · exact ⟨hreturned, hcopies⟩
  | copied _ _ hcopy => exact absurd hrate hcopy

end Network

end Introduction.Simulation
