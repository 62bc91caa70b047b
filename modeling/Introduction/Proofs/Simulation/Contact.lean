import Introduction.Proofs.Session.Outgoing
import Introduction.Proofs.Session.Storage
import Introduction.Simulation.Participant

/-!
# What a contact makes of what it is told

A contact of a planned introduction is told what the plan says: a request that names the other
contact, the other contact's scripted answer, acks, and that the introduction is given up.  How far
it has come then depends only on which kinds of message it has seen before it was told to stop
(`Attends`), and so does what it has replied (`Script.replies`).

A message of a kind not seen before brings it further, with the replies that are missing
(`Attends.handle_new`).  A message of a kind seen already, or after the contact was told to stop,
gets no reply and changes nothing but counts (`Attends.handle_repeated`).
-/

namespace Introduction.Simulation

/-! ### Planned introductions -/

/-- An introduction as it is planned. -/
structure Plan where
  /-- The introduction before it starts. -/
  session : Session
  /-- How the contacts behave. -/
  script : Side → Script
  /-- The keys of the contacts. -/
  publicKey : Side → Bytes
  /-- A note sent with the requests. -/
  note : Option String
  /-- The introducer tells the contacts apart. -/
  ids_ne : session.first.id ≠ session.second.id
  /-- The session can be stored. -/
  storable : session.Storable

namespace Plan

variable (plan : Plan)

/-- The channel of the contact on a side. -/
def channel (side : Side) : ChannelId := (plan.session.contact side).channel

/-- The request that the contact on a side is sent. -/
def request (side : Side) : Message.Request :=
  plan.session.requestTo side (plan.publicKey side.other) plan.note

/-- A message for the contact on a side says what is planned. -/
structure Tells (side : Side) (d : Dictionary) (m : Message) : Prop where
  hears : plan.session.Hears side d m
  request_eq : ∀ r, m = .request r → r = plan.request side
  accept_eq : ∀ r, m = .response r → r.accept = (plan.script side.other).accept

/-- A message from the contact on a side says what its script says. -/
structure Says (side : Side) (d : Dictionary) (m : Message) : Prop where
  hears : plan.session.Hears side d m
  kind_eq : m.kind = .response ∨ m.kind = .ack
  accept_eq : ∀ r, m = .response r → r.accept = (plan.script side).accept
  speaks : (plan.script side).silent = false

end Plan

/-- The kinds of the replies to what was seen. -/
def Script.replies (script : Script) (seen : List Message.Kind) : List Message.Kind :=
  if script.silent = false ∧ .request ∈ seen then
    .response :: if .response ∈ seen then [.ack] else []
  else []

/-- The kinds of the messages that dictionaries are read as. -/
def kinds (messages : List Dictionary) : List (Option Message.Kind) := messages.map Message.kindOf

@[simp] lemma kinds_append (messages messages' : List Dictionary) :
    kinds (messages ++ messages') = kinds messages ++ kinds messages' :=
  List.map_append

/-- What the contact on a side has taken down over the kinds of message that it has seen. -/
structure Plan.Knows (plan : Plan) (side : Side) (seen : List Message.Kind) (p : Participant) :
    Prop where
  contact_eq : p.contact = plan.session.contact side
  script_eq : p.script = plan.script side
  request_eq : p.request = if .request ∈ seen then some (plan.request side) else none
  response_iff : p.response.isSome ↔ (plan.script side).silent = false ∧ .request ∈ seen
  otherAnswer_eq : p.otherAnswer =
    if .response ∈ seen then some (plan.script side.other).accept else none
  aborted_iff : p.aborted = true ↔ .abort ∈ seen

/-- What the contact on a side has come to over the kinds of message that it has seen: it has
acknowledged once it had answered and seen the other's answer. -/
structure Plan.Attends (plan : Plan) (side : Side) (seen : List Message.Kind) (p : Participant) :
    Prop extends plan.Knows side seen p where
  acked_iff : p.acked = true ↔ p.response.isSome ∧ .response ∈ seen

namespace Participant

variable {σ : Type} [Choice σ] {p : Participant} {now : UInt64} {d : Dictionary} {source : σ}

/-! ### Acknowledging -/

/-- A contact that has answered and seen the other's answer acknowledges once. -/
lemma acknowledge_of_ready (source : σ) {request : Message.Request}
    (hrequest : p.request = some request) (hresponse : p.response.isSome)
    (hother : p.otherAnswer.isSome) (hacked : p.acked = false) :
    ∃ message source', p.acknowledge source =
      { participant := { p with acked := true }
        source := source'
        replies := [Message.Ack.toDictionary ⟨request.session, p.contact.channel, message⟩] } := by
  obtain ⟨response, hresponse⟩ := Option.isSome_iff_exists.mp hresponse
  obtain ⟨other, hother⟩ := Option.isSome_iff_exists.mp hother
  refine ⟨(Choice.identifier source : MessageId × σ).1,
    (Choice.identifier source : MessageId × σ).2, ?_⟩
  unfold acknowledge
  rw [hacked, hresponse, hother, hrequest]

/-- Otherwise a contact does not acknowledge. -/
lemma acknowledge_of_not_ready
    (h : p.request = none ∨ p.response = none ∨ p.otherAnswer = none ∨ p.acked = true) :
    p.acknowledge source = { participant := p, source } := by
  unfold acknowledge
  split
  · rename_i hacked hresponse hother hrequest
    rcases h with h | h | h | h
    · cases h.symm.trans hrequest
    · cases h.symm.trans hresponse
    · cases h.symm.trans hother
    · cases h.symm.trans hacked
  · rfl

/-! ### Handling messages -/

/-- A contact that was told to stop ignores everything. -/
lemma handle_of_aborted {m : Message} (hread : Message.ofDictionary d = .ok m)
    (h : p.aborted = true) : p.handle now d source = { participant := p.ignore, source } := by
  unfold handle
  rw [hread]
  exact if_pos h

/-- A silent contact only takes the first request down. -/
lemma onRequest_of_silent (p : Participant) (now : UInt64) (source : σ)
    (request : Message.Request) (hrequest : p.request = none) (hsilent : p.script.silent = true) :
    p.onRequest now request source =
      { participant := { p with request := some request }
        source
        notices := [notice { p with request := some request } .debug "staying silent" []] } := by
  unfold onRequest
  rw [if_neg (by simp [hrequest])]
  exact if_pos hsilent

/-- An answer to the first request. -/
lemma onRequest_of_answering (p : Participant) (now : UInt64) (source : σ)
    (request : Message.Request) (hrequest : p.request = none)
    (hsilent : p.script.silent = false) :
    ∃ message source', p.onRequest now request source =
      { acknowledge { p with request := some request, response := some message } source' with
        replies := Message.Response.toDictionary
            ⟨request.session, p.contact.channel, message, now, p.script.accept⟩ ::
          (acknowledge { p with request := some request, response := some message }
            source').replies } := by
  refine ⟨(Choice.identifier source : MessageId × σ).1,
    (Choice.identifier source : MessageId × σ).2, ?_⟩
  unfold onRequest
  rw [if_neg (by simp [hrequest])]
  dsimp only
  rw [if_neg (by simp [hsilent])]

end Participant

namespace Plan

variable {plan : Plan} {side : Side} {p : Participant} {seen : List Message.Kind} {d : Dictionary}
  {m : Message} {σ : Type} [Choice σ]

/-- A dictionary that says what a script says has the kind of its message. -/
lemma Says.kindOf_eq (h : plan.Says side d m) : Message.kindOf d = some m.kind :=
  Message.kindOf_of_ofDictionary h.hears.reads

/-- A dictionary that tells what is planned has the kind of its message. -/
lemma Tells.kindOf_eq (h : plan.Tells side d m) : Message.kindOf d = some m.kind :=
  Message.kindOf_of_ofDictionary h.hears.reads

/-- The answer of a contact that is not silent says what its script says. -/
lemma says_response (hsilent : (plan.script side).silent = false) (message : MessageId)
    (now : UInt64) :
    plan.Says side (Message.Response.toDictionary ⟨(plan.request side).session,
      (plan.session.contact side).channel, message, now, (plan.script side).accept⟩)
      (.response (Message.Response.clamped ⟨(plan.request side).session,
        (plan.session.contact side).channel, message, now, (plan.script side).accept⟩)) := by
  refine ⟨Session.hears_toDictionary (m := .response _) rfl rfl, .inl rfl, ?_, hsilent⟩
  intro r hr
  cases hr
  rfl

/-- The ack of a contact that is not silent says what its script says. -/
lemma says_ack (hsilent : (plan.script side).silent = false) (message : MessageId) :
    plan.Says side (Message.Ack.toDictionary ⟨(plan.request side).session,
      (plan.session.contact side).channel, message⟩)
      (.ack ⟨(plan.request side).session, (plan.session.contact side).channel, message⟩) := by
  refine ⟨Session.hears_toDictionary (m := .ack _) rfl rfl, .inr rfl, ?_, hsilent⟩
  intro r hr
  cases hr

/-- A reaction brings a contact from what it had seen to what it has seen then: its replies are
those that were missing, and it has counted so many acks more. -/
structure Goes (plan : Plan) (side : Side) (p : Participant) (seen seen' : List Message.Kind)
    (acks : ℕ) (reaction : Participant.Reaction σ) : Prop where
  attends : plan.Attends side seen' reaction.participant
  replies_eq : ((plan.script side).replies seen).map some ++ kinds reaction.replies =
    ((plan.script side).replies seen').map some
  says_of_mem : ∀ reply ∈ reaction.replies, ∃ m, plan.Says side reply m
  acks_eq : reaction.participant.acksReceived = p.acksReceived + acks

/-- A contact that has not acknowledged does so now, if it has answered and seen the other's
answer. -/
lemma Knows.acknowledge (h : plan.Knows side seen p) (hacked : p.acked = false) (source : σ) :
    plan.Attends side seen (p.acknowledge source).participant ∧
      kinds (p.acknowledge source).replies =
        (if p.response.isSome ∧ .response ∈ seen then [some .ack] else []) ∧
      (∀ reply ∈ (p.acknowledge source).replies, ∃ m, plan.Says side reply m) ∧
      (p.acknowledge source).participant.acksReceived = p.acksReceived := by
  by_cases hready : p.response.isSome ∧ .response ∈ seen
  · obtain ⟨hsilent, hrequested⟩ := h.response_iff.mp hready.1
    have hrequest : p.request = some (plan.request side) := by
      rw [h.request_eq, if_pos hrequested]
    have hother : p.otherAnswer.isSome := by
      rw [h.otherAnswer_eq, if_pos hready.2]
      rfl
    obtain ⟨ack, source', hack⟩ :=
      Participant.acknowledge_of_ready source hrequest hready.1 hother hacked
    have hspoken := says_ack hsilent ack
    rw [← h.contact_eq] at hspoken
    have hkind := hspoken.kindOf_eq
    rw [hack, if_pos hready]
    refine ⟨⟨⟨h.contact_eq, h.script_eq, h.request_eq, h.response_iff, h.otherAnswer_eq,
      h.aborted_iff⟩, by simpa using hready⟩, ?_, fun reply hmem => ?_, rfl⟩
    · rw [kinds, List.map_singleton, hkind]
      rfl
    · rw [List.mem_singleton.mp hmem]
      exact ⟨_, hspoken⟩
  · have hnone : p.request = none ∨ p.response = none ∨ p.otherAnswer = none ∨
        p.acked = true := by
      rw [not_and_or, Option.not_isSome_iff_eq_none] at hready
      refine .inr (hready.imp_right fun hother => .inl ?_)
      rw [h.otherAnswer_eq, if_neg hother]
    rw [Participant.acknowledge_of_not_ready hnone, if_neg hready]
    refine ⟨⟨h, by simpa [hacked] using hready⟩, rfl, fun reply hmem => ?_, rfl⟩
    cases hmem

/-- The first request is answered, and acknowledged as well if the other's answer came before it. -/
lemma Attends.goes_request (h : plan.Attends side seen p) (hnew : .request ∉ seen) (now : UInt64)
    (source : σ) :
    plan.Goes side p seen (seen ++ [.request]) 0 (p.onRequest now (plan.request side) source) := by
  have hrequest : p.request = none := by rw [h.request_eq, if_neg hnew]
  have hresponse : p.response = none := by
    rw [← Option.not_isSome_iff_eq_none, h.response_iff]
    exact fun h => hnew h.2
  have hacked : p.acked = false := by
    rw [← Bool.not_eq_true, h.acked_iff, hresponse]
    simp
  have hreplies : (plan.script side).replies seen = [] := by
    rw [Script.replies, if_neg fun h => hnew h.2]
  by_cases hsilent : (plan.script side).silent = true
  · have hscript : p.script.silent = true := by rw [h.script_eq, hsilent]
    rw [p.onRequest_of_silent now source (plan.request side) hrequest hscript]
    refine ⟨⟨⟨h.contact_eq, h.script_eq, ?_, ?_, ?_, ?_⟩, ?_⟩, ?_, fun reply hmem => ?_, rfl⟩
    · simp
    · simp [hresponse, hsilent]
    · simp [h.otherAnswer_eq]
    · simp [h.aborted_iff]
    · simp [hacked, hresponse]
    · rw [hreplies, Script.replies, if_neg (by simp [hsilent])]
      rfl
    · cases hmem
  · rw [Bool.not_eq_true] at hsilent
    obtain ⟨message, source', hreaction⟩ := p.onRequest_of_answering now source
      (plan.request side) hrequest (by rw [h.script_eq, hsilent])
    have hspoken := says_response hsilent message now
    rw [← h.contact_eq, ← h.script_eq] at hspoken
    have hkind := hspoken.kindOf_eq
    have hknows : plan.Knows side (seen ++ [.request])
        { p with request := some (plan.request side), response := some message } := by
      refine ⟨h.contact_eq, h.script_eq, ?_, ?_, ?_, ?_⟩
      · simp
      · simp [hsilent]
      · simp [h.otherAnswer_eq]
      · simp [h.aborted_iff]
    obtain ⟨hattends, hack, hsays, hacks⟩ := hknows.acknowledge hacked source'
    rw [hreaction]
    refine ⟨hattends, ?_, fun reply hmem => ?_, hacks⟩
    · rw [hreplies, kinds, List.map_cons, hkind, ← kinds, hack]
      by_cases hother : .response ∈ seen <;> simp [Script.replies, hsilent, hother, Message.kind]
    · rcases List.mem_cons.mp hmem with rfl | hmem
      · exact ⟨_, hspoken⟩
      · exact hsays reply hmem

/-- The other contact's first answer is acknowledged if the request was answered. -/
lemma Attends.goes_response (h : plan.Attends side seen p) (hnew : .response ∉ seen)
    {accept : Bool} (haccept : accept = (plan.script side.other).accept) (source : σ) :
    plan.Goes side p seen (seen ++ [.response]) 0
      (Participant.acknowledge { p with otherAnswer := some accept } source) := by
  have hacked : p.acked = false := by
    rw [← Bool.not_eq_true, h.acked_iff]
    exact fun h => hnew h.2
  have hknows : plan.Knows side (seen ++ [.response]) { p with otherAnswer := some accept } := by
    refine ⟨h.contact_eq, h.script_eq, ?_, ?_, ?_, ?_⟩
    · simp [h.request_eq]
    · simp [h.response_iff]
    · simp [haccept]
    · simp [h.aborted_iff]
  obtain ⟨hattends, hack, hsays, hacks⟩ := hknows.acknowledge hacked source
  refine ⟨hattends, ?_, hsays, hacks⟩
  by_cases hanswered : p.response.isSome
  · have hready := h.response_iff.mp hanswered
    rw [hack, if_pos ⟨hanswered, by simp⟩]
    simp [Script.replies, hready, hnew]
  · have hsilent := mt h.response_iff.mpr hanswered
    rw [hack, if_neg fun h => hanswered h.1, Script.replies, if_neg hsilent, Script.replies,
      if_neg (by simpa using hsilent)]
    rfl

/-- A message of a new kind brings a contact further that was not told to stop. -/
theorem Attends.handle_new (h : plan.Attends side seen p) (htells : plan.Tells side d m)
    (hnew : m.kind ∉ seen) (hgoing : .abort ∉ seen) (now : UInt64) (source : σ) :
    plan.Goes side p seen (seen ++ [m.kind]) ([m.kind].count .ack) (p.handle now d source) := by
  have haborted : p.aborted = false := by
    rw [← Bool.not_eq_true, h.aborted_iff]
    exact hgoing
  unfold Participant.handle
  rw [htells.hears.reads]
  dsimp only
  rw [if_neg (by simp [haborted])]
  cases m with
  | request r =>
    rw [htells.request_eq r rfl]
    exact h.goes_request hnew now source
  | response r =>
    have hother : p.otherAnswer = none := by
      rw [h.otherAnswer_eq, if_neg (show .response ∉ seen from hnew)]
    dsimp only
    rw [if_pos (by simp [hother])]
    exact h.goes_response hnew (htells.accept_eq r rfl) source
  | ack a =>
    refine ⟨⟨⟨h.contact_eq, h.script_eq, ?_, ?_, ?_, ?_⟩, ?_⟩, ?_, ?_, rfl⟩
    · simp [h.request_eq, Message.kind]
    · simp [h.response_iff, Message.kind]
    · simp [h.otherAnswer_eq, Message.kind]
    · simp [h.aborted_iff, Message.kind]
    · simp [h.acked_iff, Message.kind]
    · simp [Script.replies, kinds, Message.kind]
    · intro reply hmem
      cases hmem
  | abort a =>
    refine ⟨⟨⟨h.contact_eq, h.script_eq, ?_, ?_, ?_, ?_⟩, ?_⟩, ?_, ?_, rfl⟩
    · simp [h.request_eq, Message.kind]
    · simp [h.response_iff, Message.kind]
    · simp [h.otherAnswer_eq, Message.kind]
    · simp [Message.kind]
    · simp [h.acked_iff, Message.kind]
    · simp [Script.replies, kinds, Message.kind]
    · intro reply hmem
      cases hmem

/-- A participant that differs in what it ignored has come to the same. -/
lemma Attends.ignore (h : plan.Attends side seen p) : plan.Attends side seen p.ignore :=
  ⟨⟨h.contact_eq, h.script_eq, h.request_eq, h.response_iff, h.otherAnswer_eq, h.aborted_iff⟩,
    h.acked_iff⟩

omit [Choice σ] in
/-- A contact that only counts stays where it is. -/
lemma Attends.goes_nowhere {acks : ℕ} {reaction : Participant.Reaction σ}
    (h : plan.Attends side seen reaction.participant) (hreplies : reaction.replies = [])
    (hacks : reaction.participant.acksReceived = p.acksReceived + acks) :
    plan.Goes side p seen seen acks reaction := by
  refine ⟨h, ?_, ?_, hacks⟩
  · rw [hreplies]
    exact List.append_nil _
  · intro reply hmem
    rw [hreplies] at hmem
    cases hmem

/-- A message of a kind seen before, or one after the contact was told to stop, is counted only. -/
theorem Attends.handle_repeated (h : plan.Attends side seen p) (htells : plan.Tells side d m)
    (hseen : m.kind ∈ seen ∨ .abort ∈ seen) (now : UInt64) (source : σ) :
    ∃ acks ≤ [m.kind].count .ack, plan.Goes side p seen seen acks (p.handle now d source) := by
  by_cases haborted : p.aborted = true
  · rw [Participant.handle_of_aborted htells.hears.reads haborted]
    exact ⟨0, Nat.zero_le _, h.ignore.goes_nowhere rfl rfl⟩
  · have hseen' : m.kind ∈ seen := hseen.resolve_right fun h' => haborted (h.aborted_iff.mpr h')
    unfold Participant.handle
    rw [htells.hears.reads]
    dsimp only
    rw [if_neg haborted]
    cases m with
    | request r =>
      have hrequest : p.request.isSome := by
        rw [h.request_eq, if_pos (show .request ∈ seen from hseen')]
        rfl
      dsimp only
      rw [Participant.onRequest, if_pos hrequest]
      exact ⟨0, Nat.zero_le _, h.ignore.goes_nowhere rfl rfl⟩
    | response r =>
      have hother : p.otherAnswer.isNone = false := by
        rw [h.otherAnswer_eq, if_pos (show .response ∈ seen from hseen')]
        rfl
      have hidle : p.ignore.request = none ∨ p.ignore.response = none ∨
          p.ignore.otherAnswer = none ∨ p.ignore.acked = true := by
        cases hresponse : p.response with
        | none => exact .inr (.inl hresponse)
        | some message =>
          exact .inr (.inr (.inr (h.acked_iff.mpr ⟨by rw [hresponse]; rfl, hseen'⟩)))
      dsimp only
      rw [if_neg (by simp [hother]), Participant.acknowledge_of_not_ready hidle]
      exact ⟨0, Nat.zero_le _, h.ignore.goes_nowhere rfl rfl⟩
    | ack a =>
      refine ⟨1, Nat.le_refl _, Attends.goes_nowhere ?_ rfl rfl⟩
      exact ⟨⟨h.contact_eq, h.script_eq, h.request_eq, h.response_iff, h.otherAnswer_eq,
        h.aborted_iff⟩, h.acked_iff⟩
    | abort a => exact absurd (h.aborted_iff.mpr hseen') haborted

end Plan

end Introduction.Simulation
