import Introduction.Proofs.Simulation.Traffic
import Mathlib.Data.List.Nodup
import Mathlib.Data.List.ReduceOption

/-!
# What the network delivers

What comes off a network over any sequence of sends and deliveries, whichever queues are served and
whatever is copied.

What enters a queue leaves it in the order in which it entered.  So what was delivered from a queue,
followed by what still waits in it, is all that ever entered it, and this only grows at its end: by
the messages that are sent and by the copies that are made.  Every `Entry` is named by the place of
its message among those that were sent; only an original that has left the queue is copied, so that
no entry occurs twice and a copy stands behind its original.  The invariant `Trail` says this of a
queue, and `Traced` is what it leaves for the deliveries of the queue.

The number of messages that wait is counted over all queues.  A delivery takes twice the originals
and once the copies that wait down by at least one (`Step.outstanding_lt`), which bounds the
deliveries that are to come.  The main statement is `carried_of_operations`.
-/

namespace Introduction.Simulation

/-! ### Operations -/

/-- A message that is sent. -/
structure Posting where
  /-- The channel it is sent on. -/
  channel : ChannelId
  /-- The direction it is sent in. -/
  direction : Direction
  /-- The message. -/
  message : Dictionary

/-- What a network can be asked to do. -/
inductive Operation where
  /-- Send a message to a contact. -/
  | route (envelope : Envelope)
  /-- Send a message to the introducer. -/
  | send (channel : ChannelId) (message : Dictionary)
  /-- Deliver a message. -/
  | step

/-- The message that an operation sends. -/
def Operation.posting? : Operation → Option Posting
  | .route envelope => some ⟨envelope.channel, .toContact, envelope.message⟩
  | .send channel message => some ⟨channel, .toIntroducer, message⟩
  | .step => none

/-- The messages that are sent over operations, in order. -/
def postings (operations : List Operation) : List Posting :=
  operations.filterMap Operation.posting?

/-- The messages among postings that are sent on a channel in a direction. -/
def postedOn (channel : ChannelId) (direction : Direction) (posted : List Posting) :
    List Dictionary :=
  (posted.filter fun p => channel = p.channel ∧ direction = p.direction).map (·.message)

/-- The deliveries on a channel in a direction. -/
def deliveredOn (channel : ChannelId) (direction : Direction) (delivered : List Delivery) :
    List Transit :=
  (delivered.filter fun d => channel = d.channel ∧ direction = d.direction).map
    fun d => ⟨d.message, d.isCopy⟩

/-- The results of the deliveries that operations ask for, in order, and the network and the source
of choices after them. -/
def Network.operate {σ : Type} [Choice σ] (net : Network) (source : σ) :
    List Operation → List (Option Delivery) × Network × σ
  | [] => ([], net, source)
  | .route envelope :: operations => (net.route envelope).operate source operations
  | .send channel message :: operations => (net.send channel message).operate source operations
  | .step :: operations =>
    let (result, net, source) := net.step source
    let (results, net, source) := net.operate source operations
    (result :: results, net, source)

section Projections

variable (channel c : ChannelId) (direction dir : Direction) (posted : List Posting)
  (delivered : List Delivery)

/-- What is selected from a list at whose end one more stands. -/
lemma map_filter_append_singleton {α β : Type} (p : α → Prop) [DecidablePred p] (f : α → β)
    (as : List α) (a : α) :
    ((as ++ [a]).filter p).map f = (as.filter p).map f ++ if p a then [f a] else [] := by
  rw [List.filter_append, List.map_append]
  by_cases h : p a <;> simp [h]

/-- One more message is sent. -/
lemma postedOn_append (message : Dictionary) :
    postedOn c dir (posted ++ [⟨channel, direction, message⟩]) =
      postedOn c dir posted ++ if c = channel ∧ dir = direction then [message] else [] :=
  map_filter_append_singleton _ _ posted _

/-- One more message is delivered. -/
lemma deliveredOn_append (d : Delivery) :
    deliveredOn c dir (delivered ++ [d]) =
      deliveredOn c dir delivered ++
        if c = d.channel ∧ dir = d.direction then [⟨d.message, d.isCopy⟩] else [] :=
  map_filter_append_singleton _ _ delivered d

end Projections

/-! ### Entries of a queue -/

/-- What enters a queue. -/
structure Entry where
  /-- The place of the message among those that were sent. -/
  place : ℕ
  /-- Whether it enters as a copy. -/
  isCopy : Bool
  deriving DecidableEq

namespace Entry

/-- The entry of the message as an original. -/
def original (e : Entry) : Entry := ⟨e.place, false⟩

/-- The entry of the message as a copy. -/
def copy (e : Entry) : Entry := ⟨e.place, true⟩

/-- What travels under an entry, if these messages were sent. -/
def Names (sent : List Dictionary) (e : Entry) (t : Transit) : Prop :=
  sent[e.place]? = some t.message ∧ e.isCopy = t.isCopy

/-- An entry names the same when more was sent. -/
lemma Names.append {sent : List Dictionary} {e : Entry} {t : Transit} (h : e.Names sent t)
    (more : List Dictionary) : e.Names (sent ++ more) t := by
  obtain ⟨hplace, _⟩ := List.getElem?_eq_some_iff.mp h.1
  exact ⟨by rw [List.getElem?_append_left hplace, h.1], h.2⟩

/-- The places of the originals among entries. -/
def places (entries : List Entry) : List ℕ := (entries.filter (!·.isCopy)).map (·.place)

@[simp] lemma places_append (entries entries' : List Entry) :
    places (entries ++ entries') = places entries ++ places entries' := by
  simp [places]

/-- The originals that travel are found at the places of the originals among their entries. -/
lemma map_places {sent : List Dictionary} {entries : List Entry} {queue : List Transit}
    (h : List.Forall₂ (Names sent) entries queue) :
    (places entries).map (sent[·]?) = (originals queue).map some := by
  induction h with
  | nil => rfl
  | @cons e t entries queue hnames _ ih =>
    unfold places originals at ih ⊢
    rw [List.filter_cons, List.filter_cons, hnames.2]
    split_ifs
    · rw [List.map_cons, List.map_cons, List.map_cons, List.map_cons, hnames.1, ih]
    · exact ih

end Entry

/-- The deliveries of a queue are traced to the messages that were sent: the originals are the first
of them, in order, none is delivered twice as an original or twice as a copy, and a copy comes after
its original. -/
structure Traced (sent : List Dictionary) (delivered : List Transit) (entries : List Entry) :
    Prop where
  names : List.Forall₂ (Entry.Names sent) entries delivered
  places_eq : Entry.places entries = List.range (Entry.places entries).length
  nodup : entries.Nodup
  original_mem : ∀ n e, entries[n]? = some e → e.isCopy = true → e.original ∈ entries.take n

/-- What has left a queue and what is left in it. -/
structure Trail (sent : List Dictionary) (gone : List Entry) (delivered : List Transit)
    (left : List Entry) (queue : List Transit) : Prop where
  gone_names : List.Forall₂ (Entry.Names sent) gone delivered
  left_names : List.Forall₂ (Entry.Names sent) left queue
  places_eq : Entry.places (gone ++ left) = List.range sent.length
  nodup : (gone ++ left).Nodup
  original_mem : ∀ n e, gone[n]? = some e → e.isCopy = true → e.original ∈ gone.take n
  /-- Only what has left the queue was copied. -/
  original_gone : ∀ e ∈ gone ++ left, e.isCopy = true → e.original ∈ gone

namespace Trail

variable {sent : List Dictionary} {gone left : List Entry} {delivered queue rest : List Transit}
  {t : Transit}

/-- Nothing has entered a queue that was not used. -/
lemma unused : Trail [] [] [] [] [] := by
  refine ⟨.nil, .nil, rfl, List.nodup_nil, fun n e h => ?_, fun e he => ?_⟩
  · cases h
  · cases he

/-- The originals that were delivered and those that wait are the messages that were sent. -/
lemma originals_append_eq (h : Trail sent gone delivered left queue) :
    originals delivered ++ originals queue = sent := by
  have hnames := Entry.map_places (List.rel_append h.gone_names h.left_names)
  rw [h.places_eq, originals_append] at hnames
  refine (List.map_inj_right fun _ _ => Option.some.inj).mp (hnames.symm.trans ?_)
  refine List.ext_getElem (by simp) fun n _ hn => ?_
  simp only [List.getElem_map, List.getElem_range]
  exact List.getElem?_eq_getElem (by simpa using hn)

/-- The deliveries of a queue are traced. -/
lemma traced (h : Trail sent gone delivered left queue) : Traced sent delivered gone := by
  refine ⟨h.gone_names, ?_, h.nodup.of_append_left, h.original_mem⟩
  have hprefix : Entry.places gone <+: List.range sent.length :=
    ⟨Entry.places left, by rw [← Entry.places_append, h.places_eq]⟩
  have htake := List.prefix_iff_eq_take.mp hprefix
  have hlength := hprefix.length_le
  rw [List.length_range] at hlength
  rwa [List.take_range, Nat.min_eq_left hlength] at htake

/-- The place of an original is one of a message that was sent. -/
lemma place_lt (h : Trail sent gone delivered left queue) {e : Entry} (he : e ∈ gone ++ left)
    (horiginal : e.isCopy = false) : e.place < sent.length := by
  have hmem : e.place ∈ Entry.places (gone ++ left) :=
    List.mem_map_of_mem (List.mem_filter.mpr ⟨he, by simp [horiginal]⟩)
  rw [h.places_eq] at hmem
  exact List.mem_range.mp hmem

/-- A message that is sent enters the queue as an original. -/
lemma post (h : Trail sent gone delivered left queue) (message : Dictionary) :
    Trail (sent ++ [message]) gone delivered (left ++ [⟨sent.length, false⟩])
      (queue ++ [⟨message, false⟩]) := by
  have hgrows : ∀ e t, Entry.Names sent e t → Entry.Names (sent ++ [message]) e t :=
    fun _ _ hnames => hnames.append [message]
  refine ⟨h.gone_names.imp hgrows, List.rel_append (h.left_names.imp hgrows) (.cons ?_ .nil), ?_,
    ?_, h.original_mem, fun e he hcopy => ?_⟩
  · exact ⟨by simp, rfl⟩
  · rw [← List.append_assoc, Entry.places_append, h.places_eq, List.length_append,
      List.length_singleton, List.range_succ]
    rfl
  · rw [← List.append_assoc, ← List.concat_eq_append]
    exact h.nodup.concat fun hmem => Nat.lt_irrefl _ (h.place_lt hmem rfl)
  · rw [← List.append_assoc] at he
    rcases List.mem_append.mp he with he | he
    · exact h.original_gone e he hcopy
    · rw [List.mem_singleton.mp he] at hcopy
      cases hcopy

/-- The first message of a queue leaves it. -/
lemma deliver (h : Trail sent gone delivered left (t :: rest)) :
    ∃ e left', left = e :: left' ∧ e.Names sent t ∧
      Trail sent (gone ++ [e]) (delivered ++ [t]) left' rest := by
  obtain ⟨hgone, hleft, hplaces, hnodup, horiginal, hcopied⟩ := h
  cases hleft with
  | @cons e _ left' _ he hrest =>
    have hsplit : gone ++ e :: left' = gone ++ [e] ++ left' := by simp
    rw [hsplit] at hplaces hnodup hcopied
    refine ⟨e, left', rfl, he, List.rel_append hgone (.cons he .nil), hrest, hplaces, hnodup,
      fun n x hx hcopy => ?_, fun x hx hcopy => List.mem_append_left _ (hcopied x hx hcopy)⟩
    rcases Nat.lt_or_ge n gone.length with hn | hn
    · rw [List.getElem?_append_left hn] at hx
      rw [List.take_append_of_le_length (Nat.le_of_lt hn)]
      exact horiginal n x hx hcopy
    · -- the entry that leaves now stands behind all that has left before
      obtain ⟨hn', rfl⟩ := List.getElem?_eq_some_iff.mp hx
      have hmem : (gone ++ [e])[n] ∈ gone ++ [e] ++ left' :=
        List.mem_append_left _ (List.getElem_mem hn')
      rw [List.take_append, List.take_of_length_le hn]
      exact List.mem_append_left _ (hcopied _ hmem hcopy)

/-- The first message of a queue leaves it, and enters it again as a copy. -/
lemma putBack {message : Dictionary}
    (h : Trail sent gone delivered left (⟨message, false⟩ :: rest)) :
    ∃ e left', Trail sent (gone ++ [e]) (delivered ++ [⟨message, false⟩]) (left' ++ [e.copy])
      (rest ++ [⟨message, true⟩]) := by
  obtain ⟨e, left', rfl, ⟨hplace, horiginal⟩, hnext⟩ := h.deliver
  have heq : e.copy.original = e := by
    cases e
    cases horiginal
    rfl
  -- the original is still in the queue, so that it was not copied before
  have hnew : e.copy ∉ gone ++ [e] ++ left' := by
    intro hmem
    have hgone := h.original_gone e.copy (by simpa using hmem) rfl
    rw [heq] at hgone
    exact (List.nodup_append.mp h.nodup).2.2 e hgone e List.mem_cons_self rfl
  refine ⟨e, left', hnext.gone_names, List.rel_append hnext.left_names (.cons ⟨hplace, rfl⟩ .nil),
    ?_, ?_, hnext.original_mem, fun x hx hcopy => ?_⟩
  · rw [← List.append_assoc, Entry.places_append, hnext.places_eq]
    exact List.append_nil _
  · rw [← List.append_assoc, ← List.concat_eq_append]
    exact hnext.nodup.concat hnew
  · rw [← List.append_assoc] at hx
    rcases List.mem_append.mp hx with hx | hx
    · exact hnext.original_gone x hx hcopy
    · rw [List.mem_singleton.mp hx, heq]
      exact List.mem_append_right _ List.mem_cons_self

end Trail

/-! ### What waits -/

/-- How many deliveries a message that waits may lead to: an original may be copied. -/
def Transit.weight (t : Transit) : ℕ := if t.isCopy then 1 else 2

/-- A message that waits is delivered at least once. -/
lemma Transit.weight_pos (t : Transit) : 0 < t.weight := by
  unfold weight
  split_ifs <;> omega

/-- An original counts twice and a copy once. -/
lemma Transit.weight_eq (t : Transit) :
    t.weight = 2 * [t].countP (!·.isCopy) + [t].countP (·.isCopy) := by
  obtain ⟨message, isCopy⟩ := t
  cases isCopy <;> simp [weight]

/-- All that waits on a channel. -/
def Lane.waiting (lane : Lane) : List Transit := lane.toContact ++ lane.toIntroducer

namespace Network

variable {net net' : Network} {d : Delivery}

/-- All that waits on a network. -/
def waiting (net : Network) : List Transit := net.lanes.toList.flatMap (·.2.waiting)

/-- When a queue is written, what waits changes by the new queue against the one before. -/
lemma countP_waiting_setQueue (p : Transit → Bool) (net : Network) (c : ChannelId)
    (dir : Direction) (ts : List Transit) :
    (net.setQueue c dir ts).waiting.countP p + (net.queue c dir).countP p =
      net.waiting.countP p + ts.countP p := by
  have hlane : ∀ lane : Lane,
      (lane.setQueue ts dir).waiting.countP p + (lane.queue dir).countP p =
        lane.waiting.countP p + ts.countP p := by
    intro lane
    cases dir <;> simp only [Lane.waiting, Lane.setQueue, Lane.queue, List.countP_append] <;> omega
  have hsum := OrderedMap.sum_toList_insert (fun e : ChannelId × Lane => e.2.waiting.countP p)
    net.lanes c ((net.lane c).setQueue ts dir)
  have hold : (net.lanes.get? c).elim 0 (fun lane => lane.waiting.countP p) =
      (net.lane c).waiting.countP p := by
    unfold lane
    cases net.lanes.get? c <;> rfl
  have hwaiting : ∀ m : Network,
      m.waiting.countP p = (m.lanes.toList.map fun e => e.2.waiting.countP p).sum :=
    fun m => List.countP_flatMap
  have hchange := hlane (net.lane c)
  rw [hold, ← hwaiting net] at hsum
  have hwritten : (net.setQueue c dir ts).waiting.countP p + (net.lane c).waiting.countP p =
      net.waiting.countP p + ((net.lane c).setQueue ts dir).waiting.countP p :=
    (congrArg (· + _) (hwaiting _)).trans hsum
  unfold queue
  omega

/-- A message that enters a queue waits. -/
lemma countP_waiting_enqueue (p : Transit → Bool) (net : Network) (c : ChannelId)
    (dir : Direction) (t : Transit) :
    (net.enqueue c dir t).waiting.countP p = net.waiting.countP p + [t].countP p := by
  have h := countP_waiting_setQueue p net c dir (net.queue c dir ++ [t])
  rw [List.countP_append] at h
  unfold enqueue
  omega

/-- The first message of a queue does not wait any more once it has left. -/
lemma countP_waiting_of_queue_eq (p : Transit → Bool) {c : ChannelId} {dir : Direction}
    {t : Transit} {rest : List Transit} (h : net.queue c dir = t :: rest) :
    (net.setQueue c dir rest).waiting.countP p + [t].countP p = net.waiting.countP p := by
  have hset := countP_waiting_setQueue p net c dir rest
  rw [h, ← List.singleton_append, List.countP_append] at hset
  omega

/-- The network is idle exactly if nothing waits. -/
lemma isIdle_iff_waiting : net.isIdle ↔ net.waiting = [] := by
  have hlane : ∀ lane : Lane, lane.ready = [] ↔ lane.waiting = [] := by
    rintro ⟨toContact, toIntroducer⟩
    cases toContact <;> cases toIntroducer <;> simp [Lane.ready, Lane.waiting, Lane.queue]
  unfold isIdle ready waiting
  rw [List.isEmpty_iff, List.flatMap_eq_nil_iff, List.flatMap_eq_nil_iff]
  simp only [List.map_eq_nil_iff, hlane]

/-- How many deliveries may be to come, as every original that waits may be copied. -/
def outstanding (net : Network) : ℕ :=
  2 * (originals net.waiting).length + (copies net.waiting).length

/-- The deliveries to come, counted over the messages that wait. -/
lemma outstanding_eq (net : Network) :
    net.outstanding = 2 * net.waiting.countP (!·.isCopy) + net.waiting.countP (·.isCopy) := by
  unfold outstanding originals copies
  rw [List.length_map, List.length_map, List.countP_eq_length_filter,
    List.countP_eq_length_filter]

/-- Every message that waits is to be delivered. -/
lemma length_waiting_le (net : Network) : net.waiting.length ≤ net.outstanding := by
  have hlength := List.length_eq_length_filter_add (l := net.waiting) (·.isCopy)
  unfold outstanding originals copies
  rw [List.length_map, List.length_map]
  omega

/-- A message that enters a queue adds its weight to the deliveries to come. -/
lemma outstanding_enqueue (net : Network) (c : ChannelId) (dir : Direction) (t : Transit) :
    (net.enqueue c dir t).outstanding = net.outstanding + t.weight := by
  rw [outstanding_eq, outstanding_eq, t.weight_eq, countP_waiting_enqueue, countP_waiting_enqueue]
  omega

/-- The first message of a queue takes its weight off the deliveries to come when it leaves. -/
lemma outstanding_of_queue_eq {c : ChannelId} {dir : Direction} {t : Transit}
    {rest : List Transit} (h : net.queue c dir = t :: rest) :
    (net.setQueue c dir rest).outstanding + t.weight = net.outstanding := by
  have horiginals := countP_waiting_of_queue_eq (!·.isCopy) h
  have hcopies := countP_waiting_of_queue_eq (·.isCopy) h
  rw [outstanding_eq, outstanding_eq, t.weight_eq]
  omega

/-- A delivery takes the deliveries to come down, also if a copy is put back. -/
theorem Step.outstanding_lt (h : net.Step (some d) net') : net'.outstanding < net.outstanding := by
  cases h with
  | @once _ rest hqueue =>
    have hleft := outstanding_of_queue_eq hqueue
    have hpos := Transit.weight_pos ⟨d.message, d.isCopy⟩
    show (net.setQueue d.channel d.direction rest).outstanding < _
    omega
  | @copied _ rest hqueue hcopy _ =>
    have hleft := outstanding_of_queue_eq hqueue
    have hback := outstanding_enqueue (net.setQueue d.channel d.direction rest) d.channel
      d.direction ⟨d.message, true⟩
    have htwo : Transit.weight ⟨d.message, d.isCopy⟩ = 2 := by
      rw [hcopy]
      rfl
    have hone : Transit.weight ⟨d.message, true⟩ = 1 := rfl
    show ((net.setQueue d.channel d.direction rest).enqueue d.channel d.direction
      ⟨d.message, true⟩).outstanding < _
    omega

variable {σ : Type} [Choice σ]

/-- A step leaves an idle network as it is, and delivers a message otherwise. -/
lemma step_cases (net : Network) (source : σ) :
    ((net.step source).1 = none ∧ (net.step source).2.1 = net ∧ net.isIdle) ∨
      ∃ d, (net.step source).1 = some d ∧ net.Step (some d) (net.step source).2.1 := by
  have hstep := net.step_step source
  generalize (net.step source).1 = result, (net.step source).2.1 = net' at hstep ⊢
  cases result with
  | none =>
    cases hstep with
    | idle hidle => exact .inl ⟨rfl, rfl, hidle⟩
  | some d => exact .inr ⟨d, rfl, hstep⟩

/-- Nothing is delivered exactly if the network is idle. -/
theorem step_eq_none_iff (net : Network) (source : σ) :
    (net.step source).1 = none ↔ net.isIdle := by
  rcases net.step_cases source with ⟨hnone, -, hidle⟩ | ⟨d, hsome, hstep⟩
  · exact ⟨fun _ => hidle, fun _ => hnone⟩
  · obtain ⟨rest, hqueue⟩ := hstep.exists_queue_eq
    rw [hsome]
    constructor
    · intro hnone
      cases hnone
    · intro hidle
      rw [isIdle_iff.mp hidle] at hqueue
      cases hqueue

/-- If nothing more is sent, the network is idle once as many deliveries were asked for as may be to
come. -/
theorem isIdle_of_outstanding_le {n : ℕ} (h : net.outstanding ≤ n) (source : σ) :
    (net.operate source (.replicate n .step)).2.1.isIdle := by
  induction n generalizing net source with
  | zero =>
    show net.isIdle
    have hlength := net.length_waiting_le
    exact isIdle_iff_waiting.mpr (List.length_eq_zero_iff.mp (by omega))
  | succ n ih =>
    show ((net.step source).2.1.operate (net.step source).2.2 (.replicate n .step)).2.1.isIdle
    refine ih ?_ _
    rcases net.step_cases source with ⟨-, hsame, hidle⟩ | ⟨d, -, hstep⟩
    · rw [hsame, outstanding, isIdle_iff_waiting.mp hidle]
      exact Nat.zero_le n
    · have hlt := hstep.outstanding_lt
      omega

/-! ### What operations come to -/

/-- What was sent over a network and what it has delivered. -/
structure Carries (net : Network) (posted : List Posting) (delivered : List Delivery) : Prop where
  trail : ∀ channel direction, ∃ gone left, Trail (postedOn channel direction posted) gone
    (deliveredOn channel direction delivered) left (net.queue channel direction)
  balance : posted.length + net.duplicated = net.delivered + net.waiting.length
  delivered_eq : net.delivered = delivered.length

variable {posted : List Posting} {delivered : List Delivery}

/-- Nothing was sent over a network that was not used. -/
lemma carries_unused (duplication : Rate) (reorders : Bool) :
    Carries { duplication, reorders } [] [] :=
  ⟨fun _ _ => ⟨[], [], by rw [queue_of_unused rfl]; exact .unused⟩, rfl, rfl⟩

/-- One more message waits when one has entered a queue. -/
lemma length_waiting_enqueue (net : Network) (c : ChannelId) (dir : Direction) (t : Transit) :
    (net.enqueue c dir t).waiting.length = net.waiting.length + 1 := by
  have h := countP_waiting_enqueue (fun _ => true) net c dir t
  rwa [List.countP_true] at h

/-- One message fewer waits when one has left a queue. -/
lemma length_waiting_of_queue_eq {c : ChannelId} {dir : Direction} {t : Transit}
    {rest : List Transit} (h : net.queue c dir = t :: rest) :
    (net.setQueue c dir rest).waiting.length + 1 = net.waiting.length := by
  have hleft := countP_waiting_of_queue_eq (fun _ => true) h
  rwa [List.countP_true] at hleft

/-- A message is sent. -/
lemma Carries.enqueue (h : net.Carries posted delivered) (c : ChannelId) (dir : Direction)
    (message : Dictionary) :
    (net.enqueue c dir ⟨message, false⟩).Carries (posted ++ [⟨c, dir, message⟩]) delivered := by
  refine ⟨fun channel direction => ?_, ?_, h.delivered_eq⟩
  · obtain ⟨gone, left, htrail⟩ := h.trail channel direction
    rw [postedOn_append, queue_enqueue]
    split_ifs
    · exact ⟨_, _, htrail.post message⟩
    · rw [List.append_nil, List.append_nil]
      exact ⟨_, _, htrail⟩
  · have hbalance := h.balance
    show (posted ++ [_]).length + net.duplicated = net.delivered + _
    rw [List.length_append, List.length_singleton, length_waiting_enqueue]
    omega

/-- A delivery leaves a trail behind it in its own queue, and the trails of the others alone. -/
lemma Step.exists_trail (hstep : net.Step (some d) net') {channel : ChannelId}
    {direction : Direction} {sent : List Dictionary} {gone left : List Entry}
    {transits : List Transit}
    (h : Trail sent gone transits left (net.queue channel direction)) :
    ∃ gone left, Trail sent gone
      (transits ++ if channel = d.channel ∧ direction = d.direction then
        [⟨d.message, d.isCopy⟩] else []) left (net'.queue channel direction) := by
  cases hstep with
  | @once _ rest hqueue =>
    show ∃ gone left, Trail _ gone _ left
      ((net.setQueue d.channel d.direction rest).queue channel direction)
    rw [queue_setQueue]
    split_ifs with hat
    · rw [hat.1, hat.2, hqueue] at h
      obtain ⟨e, left', -, -, hnext⟩ := h.deliver
      exact ⟨_, _, hnext⟩
    · rw [List.append_nil]
      exact ⟨_, _, h⟩
  | @copied _ rest hqueue hcopy _ =>
    show ∃ gone left, Trail _ gone _ left
      (((net.setQueue d.channel d.direction rest).enqueue d.channel d.direction
        ⟨d.message, true⟩).queue channel direction)
    rw [queue_enqueue, queue_setQueue]
    split_ifs with hat
    · rw [hat.1, hat.2, hqueue, hcopy] at h
      obtain ⟨e, left', hnext⟩ := h.putBack
      rw [hcopy]
      exact ⟨_, _, hnext⟩
    · rw [List.append_nil, List.append_nil]
      exact ⟨_, _, h⟩

/-- A delivery moves one message from those that wait to those delivered, and counts the copy that
it makes. -/
lemma Step.balance (hstep : net.Step (some d) net') :
    net'.delivered + net'.waiting.length + net.duplicated =
      net.delivered + net.waiting.length + net'.duplicated := by
  cases hstep with
  | @once _ rest hqueue =>
    have hleft := length_waiting_of_queue_eq hqueue
    show net.delivered + 1 + (net.setQueue d.channel d.direction rest).waiting.length +
      net.duplicated = net.delivered + net.waiting.length + net.duplicated
    omega
  | @copied _ rest hqueue _ _ =>
    have hleft := length_waiting_of_queue_eq hqueue
    have hback := length_waiting_enqueue (net.setQueue d.channel d.direction rest) d.channel
      d.direction ⟨d.message, true⟩
    show net.delivered + 1 + ((net.setQueue d.channel d.direction rest).enqueue d.channel
      d.direction ⟨d.message, true⟩).waiting.length + net.duplicated =
        net.delivered + net.waiting.length + (net.duplicated + 1)
    omega

/-- A message is delivered. -/
theorem Carries.step (h : net.Carries posted delivered) (hstep : net.Step (some d) net') :
    net'.Carries posted (delivered ++ [d]) := by
  refine ⟨fun channel direction => ?_, ?_, ?_⟩
  · obtain ⟨gone, left, htrail⟩ := h.trail channel direction
    rw [deliveredOn_append]
    exact hstep.exists_trail htrail
  · have hbefore := h.balance
    have hchange := hstep.balance
    omega
  · rw [hstep.delivered_eq.1, h.delivered_eq, List.length_append, List.length_singleton]

/-- Operations are carried out. -/
theorem Carries.operate (h : net.Carries posted delivered) (source : σ)
    (operations : List Operation) :
    (net.operate source operations).2.1.Carries (posted ++ postings operations)
      (delivered ++ (net.operate source operations).1.reduceOption) := by
  induction operations generalizing net posted delivered source with
  | nil =>
    rw [postings, List.filterMap_nil, List.append_nil]
    exact (List.append_nil delivered).symm ▸ h
  | cons operation operations ih =>
    cases operation with
    | route envelope =>
      have hnext := ih (h.enqueue envelope.channel .toContact envelope.message) source
      rwa [List.append_assoc] at hnext
    | send channel message =>
      have hnext := ih (h.enqueue channel .toIntroducer message) source
      rwa [List.append_assoc] at hnext
    | step =>
      show Carries ((net.step source).2.1.operate (net.step source).2.2 operations).2.1
        (posted ++ postings operations) (delivered ++ List.reduceOption ((net.step source).1 ::
          ((net.step source).2.1.operate (net.step source).2.2 operations).1))
      rcases net.step_cases source with ⟨hnone, hsame, -⟩ | ⟨d, hsome, hstep⟩
      · rw [hnone, hsame, List.reduceOption_cons_of_none]
        exact ih h _
      · have hnext := ih (h.step hstep) (net.step source).2.2
        rw [hsome, List.reduceOption_cons_of_some]
        rwa [List.append_assoc] at hnext

/-- Over any messages that are sent and any deliveries that are asked for, whatever is chosen, the
originals that a channel delivers in a direction are the first messages that were sent there, in
order; no message is delivered more than once as an original or more than once as a copy, and a copy
only after its original.  Together with the copies that were made, the messages that were sent are
those that were delivered and those that wait.  A delivery fails exactly if the network is idle, and
if nothing more is sent it is idle after twice as many deliveries as originals wait and once as many
as copies. -/
theorem carried_of_operations (duplication : Rate) (reorders : Bool) (source : σ)
    (operations : List Operation) :
    ∃ results net source',
      Network.operate { duplication, reorders } source operations = (results, net, source') ∧
        (∀ channel direction,
          originals (deliveredOn channel direction results.reduceOption) <+:
              postedOn channel direction (postings operations) ∧
            ∃ entries, Traced (postedOn channel direction (postings operations))
              (deliveredOn channel direction results.reduceOption) entries) ∧
          (net.delivered = results.reduceOption.length ∧
            (postings operations).length + net.duplicated = net.delivered + net.waiting.length) ∧
            ∀ chance : σ, ((net.step chance).1 = none ↔ net.isIdle) ∧
              ∀ n, (net.operate chance (.replicate (2 * (originals net.waiting).length +
                (copies net.waiting).length + n) .step)).2.1.isIdle := by
  have hcarries := (carries_unused duplication reorders).operate source operations
  rw [List.nil_append, List.nil_append] at hcarries
  refine ⟨_, _, _, rfl, fun channel direction => ?_, ⟨hcarries.delivered_eq, hcarries.balance⟩,
    fun chance => ⟨step_eq_none_iff _ chance, fun n => ?_⟩⟩
  · obtain ⟨gone, left, htrail⟩ := hcarries.trail channel direction
    exact ⟨⟨_, htrail.originals_append_eq⟩, gone, htrail.traced⟩
  · exact isIdle_of_outstanding_le (Nat.le_add_right _ n) chance

/-- A message that is copied comes off the network twice, and then the network is idle. -/
example (source : σ) (message : Dictionary) :
    (operate { duplication := .always, reorders := false } source
      [.route ⟨.replicate 1, message⟩, .step, .step, .step]).1 =
      [some ⟨.replicate 1, .toContact, message, false⟩,
        some ⟨.replicate 1, .toContact, message, true⟩, none] :=
  rfl

end Network

end Introduction.Simulation
