import Introduction.Proofs.Simulation.Contact
import Mathlib.Data.List.Nodup
import Mathlib.Data.List.TakeWhile

/-!
# What a contact replies

The replies of a contact over any messages that it is handed, malformed, repeated or out of order
as they may be.

A contact keeps in mind what it was told before the introduction was given up: the first request,
whether the other contact has answered, and what it has replied itself (`Recalls`).  Whatever it
replies is put down at once, so that all that it has replied can be read off it
(`Participant.responds_handle`).  By what it recalls this is what the script says of the kinds of
message that it has heard (`Recalls.given_eq`), and what it replies to a message is what the script
says after the message beyond what it says before it (`replies_append_kinds_repliesTo`).  The main
statement is `governs_repliesTo`.
-/

namespace Introduction

/-- The request that a message is. -/
def Message.request? : Message → Option Message.Request
  | .request r => some r
  | _ => none

namespace Simulation

/-! ### What a contact is told -/

/-- The messages that dictionaries are read as, without those that cannot be read. -/
def readable (ds : List Dictionary) : List Message :=
  ds.filterMap fun d => (Message.ofDictionary d).toOption

/-- What is told before the introduction is given up. -/
def told (ds : List Dictionary) : List Message := (readable ds).takeWhile (·.kind ≠ .abort)

/-- The kinds of the messages that are told before the introduction is given up. -/
def heard (ds : List Dictionary) : List Message.Kind := (told ds).map Message.kind

/-- The introduction is given up in one of these messages. -/
def GivenUp (ds : List Dictionary) : Prop := .abort ∈ (readable ds).map Message.kind

/-- The first request among messages. -/
def firstRequest (ms : List Message) : Option Message.Request := ms.findSome? Message.request?

section Told

variable {ds : List Dictionary} {d : Dictionary} {m : Message}

/-- A dictionary that cannot be read adds nothing. -/
lemma readable_append_of_error {e : WireError} (h : Message.ofDictionary d = .error e) :
    readable (ds ++ [d]) = readable ds := by
  simp [readable, h, Except.toOption]

/-- A dictionary that can be read adds its message. -/
lemma readable_append_of_ok (h : Message.ofDictionary d = .ok m) :
    readable (ds ++ [d]) = readable ds ++ [m] := by
  simp [readable, h, Except.toOption]

/-- Nothing is told any more once the introduction was given up. -/
lemma told_append_of_givenUp (h : GivenUp ds) (d : Dictionary) : told (ds ++ [d]) = told ds := by
  have hcut : (told ds).length ≠ (readable ds).length := by
    intro hlength
    have hall := List.takeWhile_eq_self_iff.mp
      ((List.takeWhile_prefix _).eq_of_length hlength)
    obtain ⟨m, hm, hkind⟩ := List.mem_map.mp h
    simpa [hkind] using hall m hm
  cases hread : Message.ofDictionary d with
  | error e => rw [told, readable_append_of_error hread, ← told]
  | ok m => rw [told, readable_append_of_ok hread, List.takeWhile_append, ← told, if_neg hcut]

/-- Before, everything that can be read is told, unless it gives the introduction up. -/
lemma told_append_of_not_givenUp (h : ¬ GivenUp ds) (hread : Message.ofDictionary d = .ok m) :
    told (ds ++ [d]) = told ds ++ if m.kind = .abort then [] else [m] := by
  have hall : ∀ m ∈ readable ds, decide (m.kind ≠ .abort) = true := by
    intro m hm
    exact decide_eq_true fun hkind => h (List.mem_map.mpr ⟨m, hm, hkind⟩)
  rw [told, told, readable_append_of_ok hread, List.takeWhile_append_of_pos hall,
    List.takeWhile_eq_self_iff.mpr hall]
  congr 1
  split_ifs with hkind <;> simp [hkind]

/-- The introduction was given up if it is now or was before. -/
lemma givenUp_append_of_ok (hread : Message.ofDictionary d = .ok m) :
    GivenUp (ds ++ [d]) ↔ GivenUp ds ∨ m.kind = .abort := by
  unfold GivenUp
  rw [readable_append_of_ok hread, List.map_append, List.mem_append, List.map_singleton,
    List.mem_singleton, eq_comm (a := m.kind)]

/-- The message in which the introduction is given up is not told. -/
lemma told_append_eq_of_givenUp (h : GivenUp (ds ++ [d])) : told (ds ++ [d]) = told ds := by
  by_cases hgiven : GivenUp ds
  · exact told_append_of_givenUp hgiven d
  cases hread : Message.ofDictionary d with
  | error e => rw [told, readable_append_of_error hread, ← told]
  | ok m =>
    have hkind := ((givenUp_append_of_ok hread).mp h).resolve_left hgiven
    rw [told_append_of_not_givenUp hgiven hread, if_pos hkind, List.append_nil]

/-- Nothing is heard in the message in which the introduction is given up, nor after it. -/
lemma heard_take_succ_of_givenUp {n : Nat} (h : GivenUp (ds.take (n + 1))) :
    heard (ds.take (n + 1)) = heard (ds.take n) := by
  rw [List.take_add_one] at h ⊢
  cases hd : ds[n]? with
  | none => simp
  | some d =>
    rw [hd] at h
    exact congrArg (List.map Message.kind) (told_append_eq_of_givenUp h)

/-- The first request that is told is the first one that can be read. -/
lemma firstRequest_readable {request : Message.Request} {n : Nat}
    (h : firstRequest (told (ds.take n)) = some request) :
    firstRequest (readable ds) = some request :=
  List.IsPrefix.findSome?_eq_some
    ((List.takeWhile_prefix _).trans ((List.take_prefix n ds).filterMap _)) h

/-- A request was heard exactly if there is a first one. -/
lemma isSome_firstRequest_iff (ms : List Message) :
    (firstRequest ms).isSome ↔ .request ∈ ms.map Message.kind := by
  rw [firstRequest, List.findSome?_isSome_iff, List.mem_map]
  refine exists_congr fun m => and_congr_right fun _ => ?_
  cases m <;> simp [Message.request?, Message.kind]

end Told

/-! ### What a script says -/

namespace Script

variable (script : Script) (seen : List Message.Kind)

/-- A script says to answer and to acknowledge at most. -/
lemma replies_prefix : script.replies seen <+: [.response, .ack] := by
  unfold replies
  split_ifs
  · exact List.prefix_rfl
  · exact ⟨[.ack], rfl⟩
  · exact List.nil_prefix

/-- A script says to answer a request unless it is silent. -/
lemma response_mem_replies_iff :
    .response ∈ script.replies seen ↔ script.silent = false ∧ .request ∈ seen := by
  unfold replies
  split_ifs with h <;> simp [h]

/-- A script says to acknowledge once a request and a response were heard, unless it is silent. -/
lemma ack_mem_replies_iff :
    .ack ∈ script.replies seen ↔ script.silent = false ∧ .request ∈ seen ∧ .response ∈ seen := by
  unfold replies
  split_ifs with h h' <;> simp_all

end Script

/-! ### What a contact replies to a message -/

/-- A reply belongs to the introduction that a request asks for, on the channel of a contact, and
gives the answer of its script. -/
def Speaks (contact : Contact) (script : Script) (request : Message.Request)
    (reply : Dictionary) : Prop :=
  ∃ m, Message.ofDictionary reply = .ok m ∧ m.session = request.session ∧
    m.channel = contact.channel ∧ ∀ r, m = .response r → r.accept = script.accept

/-- The response of a contact to a request. -/
lemma speaks_response (contact : Contact) (script : Script) (request : Message.Request)
    (message : MessageId) (now : UInt64) :
    Speaks contact script request (Message.Response.toDictionary
      ⟨request.session, contact.channel, message, now, script.accept⟩) := by
  refine ⟨_, Message.ofDictionary_toDictionary (.response _), rfl, rfl, fun r hr => ?_⟩
  cases hr
  rfl

/-- The ack of a contact that was sent a request. -/
lemma speaks_ack (contact : Contact) (script : Script) (request : Message.Request)
    (message : MessageId) :
    Speaks contact script request
      (Message.Ack.toDictionary ⟨request.session, contact.channel, message⟩) := by
  refine ⟨_, Message.ofDictionary_toDictionary (.ack _), rfl, rfl, fun r hr => ?_⟩
  cases hr

namespace Participant

variable {σ : Type} [Choice σ] {p : Participant}

/-- The kinds of the replies that a contact has put down. -/
def given (p : Participant) : List Message.Kind :=
  (if p.response.isSome then [.response] else []) ++ if p.acked then [.ack] else []

/-- A reaction puts its replies down, and they speak of the request that was put down. -/
structure Responds (p : Participant) (reaction : Reaction σ) : Prop where
  given_eq : p.given.map some ++ kinds reaction.replies = reaction.participant.given.map some
  speaks : ∀ reply ∈ reaction.replies, ∃ request, reaction.participant.request = some request ∧
    Speaks p.contact p.script request reply

omit [Choice σ] in
/-- A contact that does not reply has nothing to put down. -/
lemma responds_nothing {reaction : Reaction σ} (hreplies : reaction.replies = [])
    (hgiven : reaction.participant.given = p.given) : Responds p reaction := by
  refine ⟨?_, fun reply hmem => ?_⟩
  · rw [hreplies, hgiven]
    exact List.append_nil _
  · rw [hreplies] at hmem
    cases hmem

/-- A contact acknowledges if it has been sent a request, has answered, has seen the other's answer
and has not acknowledged yet. -/
lemma acknowledge_cases (p : Participant) (source : σ) :
    (∃ request message source', p.request = some request ∧ p.response.isSome ∧ p.acked = false ∧
      p.otherAnswer.isSome ∧ p.acknowledge source =
        { participant := { p with acked := true }
          source := source'
          replies := [Message.Ack.toDictionary
            ⟨request.session, p.contact.channel, message⟩] }) ∨
      (p.request = none ∨ p.response = none ∨ p.otherAnswer = none ∨ p.acked = true) ∧
        p.acknowledge source = { participant := p, source } := by
  by_cases hno : p.request = none ∨ p.response = none ∨ p.otherAnswer = none ∨ p.acked = true
  · exact .inr ⟨hno, acknowledge_of_not_ready hno⟩
  · simp only [not_or, ← Option.isSome_iff_ne_none, Bool.not_eq_true] at hno
    obtain ⟨hrequest, hresponse, hother, hacked⟩ := hno
    obtain ⟨request, hrequest⟩ := Option.isSome_iff_exists.mp hrequest
    obtain ⟨message, source', hack⟩ :=
      acknowledge_of_ready source hrequest hresponse hother hacked
    exact .inl ⟨request, message, source', hrequest, hresponse, hacked, hother, hack⟩

/-- An ack is put down. -/
lemma responds_acknowledge (p : Participant) (source : σ) :
    Responds p (p.acknowledge source) := by
  rcases p.acknowledge_cases source with
    ⟨request, message, source', hrequest, hresponse, hacked, -, hack⟩ | ⟨-, hack⟩
  · rw [hack]
    have hkind := Message.kindOf_of_ofDictionary
      (Message.ofDictionary_toDictionary (.ack ⟨request.session, p.contact.channel, message⟩))
    refine ⟨?_, fun reply hmem => ?_⟩
    · simp only [given, hresponse, hacked, kinds, List.map_singleton]
      exact congrArg (some .response :: [·]) hkind
    · rw [List.mem_singleton.mp hmem]
      exact ⟨request, hrequest, speaks_ack _ _ _ _⟩
  · rw [hack]
    exact responds_nothing rfl rfl

/-- Acknowledging changes nothing but whether the contact has acknowledged. -/
lemma participant_acknowledge (p : Participant) (source : σ) :
    ∃ acked, (p.acknowledge source).participant = { p with acked } := by
  rcases p.acknowledge_cases source with ⟨_, _, _, -, -, -, -, hack⟩ | ⟨-, hack⟩
  · exact ⟨true, by rw [hack]⟩
  · exact ⟨p.acked, by rw [hack]⟩

/-- Acknowledging does not stop a contact. -/
lemma aborted_acknowledge (p : Participant) (source : σ) :
    (p.acknowledge source).participant.aborted = p.aborted := by
  obtain ⟨acked, hkept⟩ := p.participant_acknowledge source
  rw [hkept]

/-- A contact ignores a further request, and answers the first one unless it is silent. -/
lemma onRequest_cases (p : Participant) (now : UInt64) (request : Message.Request) (source : σ) :
    (p.request.isSome ∧ p.onRequest now request source = { participant := p.ignore, source }) ∨
      p.request = none ∧ (p.script.silent = true ∧ (∃ notices, p.onRequest now request source =
          { participant := { p with request := some request }, source, notices }) ∨
        p.script.silent = false ∧ ∃ message source', p.onRequest now request source =
          { acknowledge { p with request := some request, response := some message } source' with
            replies := Message.Response.toDictionary
                ⟨request.session, p.contact.channel, message, now, p.script.accept⟩ ::
              (acknowledge { p with request := some request, response := some message }
                source').replies }) := by
  cases hrequest : p.request with
  | some r => exact .inl ⟨rfl, by rw [onRequest, if_pos (by simp [hrequest])]⟩
  | none =>
    refine .inr ⟨rfl, ?_⟩
    cases hsilent : p.script.silent with
    | true => exact .inl ⟨rfl, _, p.onRequest_of_silent now source request hrequest hsilent⟩
    | false => exact .inr ⟨rfl, p.onRequest_of_answering now source request hrequest hsilent⟩

/-- A request does not stop a contact. -/
lemma aborted_onRequest (p : Participant) (now : UInt64) (request : Message.Request)
    (source : σ) : (p.onRequest now request source).participant.aborted = p.aborted := by
  rcases p.onRequest_cases now request source with
    ⟨-, hreaction⟩ | ⟨-, ⟨-, notices, hreaction⟩ | ⟨-, message, source', hreaction⟩⟩
  · rw [hreaction]
    rfl
  · rw [hreaction]
  · rw [hreaction]
    exact aborted_acknowledge _ source'

/-- An answer is put down, by a contact that has not replied before the first request. -/
lemma responds_onRequest (h : p.request = none → p.response = none ∧ p.acked = false)
    (now : UInt64) (request : Message.Request) (source : σ) :
    Responds p (p.onRequest now request source) := by
  rcases p.onRequest_cases now request source with
    ⟨-, hreaction⟩ | ⟨hrequest, ⟨-, notices, hreaction⟩ | ⟨-, message, source', hreaction⟩⟩
  · rw [hreaction]
    exact responds_nothing rfl rfl
  · rw [hreaction]
    exact responds_nothing rfl rfl
  · rw [hreaction]
    obtain ⟨hresponse, hacked⟩ := h hrequest
    obtain ⟨hgiven, hspeaks⟩ := responds_acknowledge
      { p with request := some request, response := some message } source'
    obtain ⟨acked, hkept⟩ := participant_acknowledge
      { p with request := some request, response := some message } source'
    have hkind := Message.kindOf_of_ofDictionary (Message.ofDictionary_toDictionary
      (.response ⟨request.session, p.contact.channel, message, now, p.script.accept⟩))
    refine ⟨?_, fun reply hmem => ?_⟩
    · rw [← hgiven]
      simp only [given, hresponse, hacked, kinds, List.map_cons]
      exact congrArg (· :: _) hkind
    · rcases List.mem_cons.mp hmem with rfl | hmem
      · exact ⟨request, by rw [hkept], speaks_response _ _ _ _ _⟩
      · exact hspeaks reply hmem

/-- The replies to a message are put down. -/
lemma responds_handle (h : p.request = none → p.response = none ∧ p.acked = false)
    (now : UInt64) (d : Dictionary) (source : σ) : Responds p (p.handle now d source) := by
  unfold handle
  cases Message.ofDictionary d with
  | error e => exact responds_nothing rfl rfl
  | ok m =>
    dsimp only
    by_cases haborted : p.aborted = true
    · rw [if_pos haborted]
      exact responds_nothing rfl rfl
    · rw [if_neg haborted]
      cases m with
      | request request => exact responds_onRequest h now request source
      | response response =>
        dsimp only
        split_ifs
        · obtain ⟨hgiven, hspeaks⟩ :=
            responds_acknowledge { p with otherAnswer := some response.accept } source
          exact ⟨hgiven, hspeaks⟩
        · obtain ⟨hgiven, hspeaks⟩ := responds_acknowledge p.ignore source
          exact ⟨hgiven, hspeaks⟩
      | ack ack => exact responds_nothing rfl rfl
      | abort abort => exact responds_nothing rfl rfl

end Participant

/-! ### What a contact keeps in mind -/

/-- What a contact has taken down of the messages that it was told. -/
structure Notes (contact : Contact) (script : Script) (ms : List Message) (p : Participant) :
    Prop where
  contact_eq : p.contact = contact
  script_eq : p.script = script
  request_eq : p.request = firstRequest ms
  response_iff : p.response.isSome ↔ script.silent = false ∧ p.request.isSome
  otherAnswer_iff : p.otherAnswer.isSome ↔ .response ∈ ms.map Message.kind

/-- What a contact recalls of the messages that it was told: it has acknowledged once it had
answered and seen the other's answer. -/
structure Recalls (contact : Contact) (script : Script) (ms : List Message) (p : Participant) :
    Prop extends Notes contact script ms p where
  acked_iff : p.acked = true ↔ p.response.isSome ∧ p.otherAnswer.isSome

section Recalls

variable {σ : Type} [Choice σ] {contact : Contact} {script : Script} {ms : List Message}
  {p : Participant}

/-- A contact that was told nothing recalls nothing. -/
lemma recalls_nothing (contact : Contact) (script : Script) :
    Recalls contact script [] { contact, script } := by
  refine ⟨⟨rfl, rfl, rfl, ?_, ?_⟩, ?_⟩ <;> simp

/-- What a contact recalls is neither in what it counts nor in whether it has stopped. -/
lemma Recalls.set (h : Recalls contact script ms p) (acksReceived ignored : Nat) (aborted : Bool) :
    Recalls contact script ms { p with acksReceived, aborted, ignored } :=
  ⟨⟨h.contact_eq, h.script_eq, h.request_eq, h.response_iff, h.otherAnswer_iff⟩, h.acked_iff⟩

/-- A contact that only counts recalls the same. -/
lemma Recalls.ignore (h : Recalls contact script ms p) : Recalls contact script ms p.ignore :=
  h.set p.acksReceived (p.ignored + 1) p.aborted

/-- A contact that was not told of a request has not replied. -/
lemma Recalls.of_request_eq_none (h : Recalls contact script ms p) (hrequest : p.request = none) :
    p.response = none ∧ p.acked = false := by
  have hresponse : ¬ p.response.isSome := by
    rw [h.response_iff, hrequest]
    simp
  refine ⟨by simpa using hresponse, ?_⟩
  rw [← Bool.not_eq_true, h.acked_iff]
  exact fun hready => hresponse hready.1

/-- What a contact has replied is what its script says of what it was told. -/
lemma Recalls.given_eq (h : Recalls contact script ms p) :
    p.given = script.replies (ms.map Message.kind) := by
  have hrequest := isSome_firstRequest_iff ms
  rw [← h.request_eq] at hrequest
  have hanswered : p.response.isSome ↔
      script.silent = false ∧ .request ∈ ms.map Message.kind := by
    rw [h.response_iff, hrequest]
  unfold Participant.given Script.replies
  simp only [h.acked_iff, h.otherAnswer_iff, hanswered]
  split_ifs with h₁ h₂ h₃ h₃ <;> simp_all

/-- A contact that has taken a message down acknowledges if it can. -/
lemma Notes.acknowledge (h : Notes contact script ms p)
    (hacked : p.acked = true → p.response.isSome ∧ p.otherAnswer.isSome) (source : σ) :
    Recalls contact script ms (p.acknowledge source).participant := by
  rcases p.acknowledge_cases source with
    ⟨request, message, source', -, hresponse, -, hother, hack⟩ | ⟨hno, hack⟩
  · rw [hack]
    exact ⟨⟨h.contact_eq, h.script_eq, h.request_eq, h.response_iff, h.otherAnswer_iff⟩,
      ⟨fun _ => ⟨hresponse, hother⟩, fun _ => rfl⟩⟩
  · rw [hack]
    refine ⟨h, hacked, fun ⟨hresponse, hother⟩ => ?_⟩
    rcases hno with hno | hno | hno | hno
    · have hrequest := (h.response_iff.mp hresponse).2
      rw [hno] at hrequest
      cases hrequest
    · rw [hno] at hresponse
      cases hresponse
    · rw [hno] at hother
      cases hother
    · exact hno

/-- A contact that is told of a request takes the first one down and answers it. -/
lemma Recalls.onRequest (h : Recalls contact script ms p) (now : UInt64)
    (request : Message.Request) (source : σ) :
    Recalls contact script (ms ++ [.request request])
      (p.onRequest now request source).participant := by
  have hfirst : firstRequest (ms ++ [.request request]) = p.request.or (some request) := by
    rw [firstRequest, List.findSome?_append, h.request_eq]
    rfl
  have hother : p.otherAnswer.isSome ↔
      Message.Kind.response ∈ (ms ++ [Message.request request]).map Message.kind := by
    rw [h.otherAnswer_iff, List.map_append, List.mem_append]
    simp [Message.kind]
  rcases p.onRequest_cases now request source with
    ⟨hsome, hreaction⟩ | ⟨hnone, ⟨hsilent, notices, hreaction⟩ |
      ⟨hsilent, message, source', hreaction⟩⟩
  · rw [hreaction]
    refine Recalls.ignore ⟨⟨h.contact_eq, h.script_eq, ?_, h.response_iff, hother⟩, h.acked_iff⟩
    rw [hfirst, Option.or_of_isSome hsome]
  · rw [hreaction]
    obtain ⟨hresponse, -⟩ := h.of_request_eq_none hnone
    rw [h.script_eq] at hsilent
    refine ⟨⟨h.contact_eq, h.script_eq, ?_, ?_, hother⟩, h.acked_iff⟩
    · rw [hfirst, hnone]
      rfl
    · simp [hresponse, hsilent]
  · rw [hreaction]
    obtain ⟨-, hacked⟩ := h.of_request_eq_none hnone
    rw [h.script_eq] at hsilent
    have hnotes : Notes contact script (ms ++ [.request request])
        { p with request := some request, response := some message } := by
      refine ⟨h.contact_eq, h.script_eq, ?_, ?_, hother⟩
      · rw [hfirst, hnone]
        rfl
      · simp [hsilent]
    exact hnotes.acknowledge (by simp [hacked]) source'

/-- A contact that is told the other's answer keeps the first one in mind. -/
lemma Recalls.onResponse (h : Recalls contact script ms p) (response : Message.Response)
    (source : σ) :
    Recalls contact script (ms ++ [.response response]) (Participant.acknowledge
      (if p.otherAnswer.isNone then { p with otherAnswer := some response.accept } else p.ignore)
      source).participant := by
  have hfirst : firstRequest (ms ++ [.response response]) = p.request := by
    rw [firstRequest, List.findSome?_append, h.request_eq]
    exact Option.or_none
  have hother : Message.Kind.response ∈ (ms ++ [Message.response response]).map Message.kind := by
    simp [Message.kind]
  split_ifs with hnone
  · have hnotes : Notes contact script (ms ++ [.response response])
        { p with otherAnswer := some response.accept } :=
      ⟨h.contact_eq, h.script_eq, hfirst.symm, h.response_iff, iff_of_true rfl hother⟩
    exact hnotes.acknowledge (fun hacked => ⟨(h.acked_iff.mp hacked).1, rfl⟩) source
  · have hsome : p.otherAnswer.isSome := by simpa [Option.isSome_iff_ne_none] using hnone
    have hnotes : Notes contact script (ms ++ [.response response]) p.ignore :=
      ⟨h.contact_eq, h.script_eq, hfirst.symm, h.response_iff, iff_of_true hsome hother⟩
    exact hnotes.acknowledge h.acked_iff.mp source

/-- A contact that is told neither of a request nor of an answer recalls no more than before. -/
lemma Recalls.append (h : Recalls contact script ms p) {m : Message} (hm : m.request? = none)
    (hkind : m.kind ≠ .response) : Recalls contact script (ms ++ [m]) p := by
  refine ⟨⟨h.contact_eq, h.script_eq, ?_, h.response_iff, ?_⟩, h.acked_iff⟩
  · rw [firstRequest, List.findSome?_append, h.request_eq]
    simp [firstRequest, hm]
  · rw [h.otherAnswer_iff]
    simp [hkind.symm]

end Recalls

/-! ### What a contact listens to -/

/-- A contact recalls what it was told until it took the introduction for given up. -/
structure Listens (contact : Contact) (script : Script) (ds : List Dictionary) (p : Participant) :
    Prop extends Recalls contact script (told ds) p where
  aborted_iff : p.aborted = true ↔ GivenUp ds

section Listens

variable {σ : Type} [Choice σ] {contact : Contact} {script : Script} {ds : List Dictionary}
  {p : Participant}

/-- A contact that was handed nothing. -/
lemma listens_nothing (contact : Contact) (script : Script) :
    Listens contact script [] { contact, script } :=
  ⟨recalls_nothing contact script, by simp [GivenUp, readable]⟩

/-- A contact that takes a message down and does not stop listens on. -/
lemma Listens.of_recalls {d : Dictionary} {m : Message} {p' : Participant}
    (h : Listens contact script ds p) (haborted : ¬ p.aborted = true)
    (hread : Message.ofDictionary d = .ok m) (hkind : m.kind ≠ .abort)
    (hrecalls : Recalls contact script (told ds ++ [m]) p') (hkept : p'.aborted = p.aborted) :
    Listens contact script (ds ++ [d]) p' := by
  refine ⟨?_, ?_⟩
  · rw [told_append_of_not_givenUp (h.aborted_iff.not.mp haborted) hread, if_neg hkind]
    exact hrecalls
  · rw [hkept, h.aborted_iff, givenUp_append_of_ok hread, or_iff_left hkind]

/-- A contact listens to every message that it is handed. -/
lemma Listens.handle (h : Listens contact script ds p) (now : UInt64) (d : Dictionary)
    (source : σ) :
    Listens contact script (ds ++ [d]) (p.handle now d source).participant := by
  unfold Participant.handle
  cases hread : Message.ofDictionary d with
  | error e =>
    refine ⟨?_, ?_⟩
    · rw [told, readable_append_of_error hread]
      exact h.toRecalls.ignore
    · rw [GivenUp, readable_append_of_error hread]
      exact h.aborted_iff
  | ok m =>
    dsimp only
    by_cases haborted : p.aborted = true
    · rw [if_pos haborted]
      have hgiven := h.aborted_iff.mp haborted
      refine ⟨?_, ?_⟩
      · rw [told_append_of_givenUp hgiven]
        exact h.toRecalls.ignore
      · exact iff_of_true haborted ((givenUp_append_of_ok hread).mpr (.inl hgiven))
    · rw [if_neg haborted]
      cases m with
      | request request =>
        exact h.of_recalls haborted hread (by simp [Message.kind])
          (h.toRecalls.onRequest now request source) (p.aborted_onRequest now request source)
      | response response =>
        refine h.of_recalls haborted hread (by simp [Message.kind])
          (h.toRecalls.onResponse response source) ?_
        rw [Participant.aborted_acknowledge]
        split_ifs <;> rfl
      | ack ack =>
        have hrecalls := h.toRecalls.append (m := .ack ack) rfl (by simp [Message.kind])
        exact h.of_recalls haborted hread (by simp [Message.kind])
          (hrecalls.set (p.acksReceived + 1) p.ignored p.aborted) rfl
      | abort abort =>
        refine ⟨?_, ?_⟩
        · have htold := told_append_of_not_givenUp (h.aborted_iff.not.mp haborted) hread
          rw [htold, if_pos (by rfl), List.append_nil]
          exact h.toRecalls.set p.acksReceived p.ignored true
        · exact iff_of_true rfl ((givenUp_append_of_ok hread).mpr (.inr rfl))

end Listens

/-! ### Replies over a run -/

/-- A message as a contact is handed it. -/
structure Hearing (σ : Type) where
  /-- When it is handed the message. -/
  time : UInt64
  /-- The message. -/
  message : Dictionary
  /-- The source of choices. -/
  source : σ

/-- What a contact replies to each of the messages that it is handed. -/
def Participant.repliesTo {σ : Type} [Choice σ] :
    Participant → List (Hearing σ) → List (List Dictionary)
  | _, [] => []
  | p, x :: xs =>
    (p.handle x.time x.message x.source).replies ::
      (p.handle x.time x.message x.source).participant.repliesTo xs

/-- How a script governs what is replied to each of the messages that a contact is handed.

It answers at most once, with the first request, and acknowledges at most once, after its answer and
as soon as it was told the other's answer as well.  What it replies belongs to the introduction of
the first request and is sent on the channel of the contact.  A silent contact does not reply at
all, and no contact does once the introduction is given up. -/
structure Script.Governs (script : Script) (contact : Contact) (ds : List Dictionary)
    (replies : List (List Dictionary)) : Prop where
  /-- There are replies to every message. -/
  length_eq : replies.length = ds.length
  /-- Over the run there is one response at most, and then one ack at most. -/
  kinds_prefix : kinds replies.flatten <+: [some .response, some .ack]
  /-- The response comes with the first request, unless the contact is silent. -/
  response_iff : ∀ n, some .response ∈ kinds (replies.getD n []) ↔ script.silent = false ∧
    .request ∈ heard (ds.take (n + 1)) ∧ .request ∉ heard (ds.take n)
  /-- The ack comes with the message by which both a request and a response were heard. -/
  ack_iff : ∀ n, some .ack ∈ kinds (replies.getD n []) ↔ script.silent = false ∧
    (.request ∈ heard (ds.take (n + 1)) ∧ .response ∈ heard (ds.take (n + 1))) ∧
      ¬ (.request ∈ heard (ds.take n) ∧ .response ∈ heard (ds.take n))
  /-- Every reply is well formed and speaks of the first request. -/
  speaks : ∀ reply ∈ replies.flatten, ∃ request, firstRequest (readable ds) = some request ∧
    Speaks contact script request reply
  /-- A silent contact does not reply. -/
  of_silent : script.silent = true → replies.flatten = []
  /-- There is no reply once the introduction is given up. -/
  of_givenUp : ∀ n, GivenUp (ds.take (n + 1)) → replies.getD n [] = []

section Run

variable {σ : Type} [Choice σ] {contact : Contact} {script : Script} {p : Participant}

/-- A contact replies to every message, be it with nothing. -/
lemma length_repliesTo (p : Participant) (xs : List (Hearing σ)) :
    (p.repliesTo xs).length = xs.length := by
  induction xs generalizing p with
  | nil => rfl
  | cons x xs ih => simp [Participant.repliesTo, ih]

/-- A contact replies to a message by what it was handed before. -/
lemma Listens.getElem?_repliesTo {ds : List Dictionary} (h : Listens contact script ds p)
    {xs : List (Hearing σ)} {n : Nat} {x : Hearing σ} (hx : xs[n]? = some x) :
    ∃ q, Listens contact script (ds ++ (xs.map Hearing.message).take n) q ∧
      (p.repliesTo xs)[n]? = some (q.handle x.time x.message x.source).replies := by
  induction xs generalizing p ds n with
  | nil => simp at hx
  | cons y ys ih =>
    cases n with
    | zero =>
      obtain rfl : y = x := by simpa using hx
      exact ⟨p, by simpa using h, by simp [Participant.repliesTo]⟩
    | succ n =>
      obtain ⟨q, hq, hreplies⟩ := ih (h.handle y.time y.message y.source) (by simpa using hx)
      exact ⟨q, by simpa using hq, by simpa [Participant.repliesTo] using hreplies⟩

/-- The reaction to a message, of a contact that was handed the messages before it. -/
lemma exists_reaction (contact : Contact) (script : Script) {xs : List (Hearing σ)} {n : Nat}
    {x : Hearing σ} (hx : xs[n]? = some x) :
    ∃ q : Participant, Listens contact script ((xs.map Hearing.message).take n) q ∧
      Listens contact script ((xs.map Hearing.message).take (n + 1))
        (q.handle x.time x.message x.source).participant ∧
      q.Responds (q.handle x.time x.message x.source) ∧
      (Participant.repliesTo { contact, script } xs)[n]? =
        some (q.handle x.time x.message x.source).replies := by
  obtain ⟨q, hq, hreplies⟩ := (listens_nothing contact script).getElem?_repliesTo hx
  rw [List.nil_append] at hq
  have hnext := hq.handle x.time x.message x.source
  refine ⟨q, hq, ?_, Participant.responds_handle hq.of_request_eq_none _ _ _, hreplies⟩
  rw [List.take_add_one, List.getElem?_map, hx]
  exact hnext

/-- What a contact replies to a message is what its script says after the message, beyond what it
says before it. -/
lemma replies_append_kinds_repliesTo (contact : Contact) (script : Script)
    (xs : List (Hearing σ)) (n : Nat) :
    (script.replies (heard ((xs.map Hearing.message).take n))).map some ++
        kinds ((Participant.repliesTo { contact, script } xs).getD n []) =
      (script.replies (heard ((xs.map Hearing.message).take (n + 1)))).map some := by
  cases hx : xs[n]? with
  | none =>
    have hend : (Participant.repliesTo { contact, script } xs)[n]? = none := by
      rw [List.getElem?_eq_none_iff, length_repliesTo]
      exact List.getElem?_eq_none_iff.mp hx
    rw [List.take_add_one, List.getElem?_map, hx, List.getD_eq_getElem?_getD, hend]
    simp [kinds]
  | some x =>
    obtain ⟨q, hq, hnext, hresponds, hreplies⟩ := exists_reaction contact script hx
    rw [List.getD_eq_getElem?_getD, hreplies, heard, ← hq.given_eq, heard, ← hnext.given_eq]
    exact hresponds.given_eq

/-- What a contact has replied to the first messages is what its script says of them. -/
lemma kinds_flatten_take_repliesTo (contact : Contact) (script : Script) (xs : List (Hearing σ))
    (n : Nat) :
    kinds ((Participant.repliesTo { contact, script } xs).take n).flatten =
      (script.replies (heard ((xs.map Hearing.message).take n))).map some := by
  induction n with
  | zero => simp [kinds, heard, told, readable, Script.replies]
  | succ n ih =>
    rw [← replies_append_kinds_repliesTo, ← ih, ← kinds_append, List.take_add_one,
      List.getD_eq_getElem?_getD]
    cases (Participant.repliesTo { contact, script } xs)[n]? <;> simp

/-- Whatever a contact replies speaks of the first request. -/
lemma speaks_of_mem_repliesTo {xs : List (Hearing σ)} {reply : Dictionary}
    (hmem : reply ∈ (Participant.repliesTo { contact, script } xs).flatten) :
    ∃ request, firstRequest (readable (xs.map Hearing.message)) = some request ∧
      Speaks contact script request reply := by
  obtain ⟨replies, hreplies, hmem⟩ := List.mem_flatten.mp hmem
  obtain ⟨n, hn⟩ := List.mem_iff_getElem?.mp hreplies
  have hlt := (List.getElem?_eq_some_iff.mp hn).1
  rw [length_repliesTo] at hlt
  obtain ⟨q, hq, hnext, hresponds, hx⟩ :=
    exists_reaction contact script (List.getElem?_eq_getElem hlt)
  rw [hn, Option.some_inj] at hx
  rw [hx] at hmem
  obtain ⟨request, hrequest, hspeaks⟩ := hresponds.speaks reply hmem
  rw [hnext.request_eq] at hrequest
  rw [hq.contact_eq, hq.script_eq] at hspeaks
  exact ⟨request, firstRequest_readable hrequest, hspeaks⟩

/-- Among what is said after a message beyond what is said before it is what is said only then. -/
lemma Script.mem_kinds_iff {seen seen' : List Message.Kind} {replies : List Dictionary}
    (h : (script.replies seen).map some ++ kinds replies = (script.replies seen').map some)
    (kind : Message.Kind) :
    some kind ∈ kinds replies ↔ kind ∈ script.replies seen' ∧ kind ∉ script.replies seen := by
  have hnodup : ((script.replies seen).map some ++ kinds replies).Nodup := by
    rw [h]
    exact List.Nodup.map (Option.some_injective _)
      ((script.replies_prefix seen').sublist.nodup (by decide))
  have hmem : kind ∈ script.replies seen' ↔
      kind ∈ script.replies seen ∨ some kind ∈ kinds replies := by
    have hmap := congrArg (some kind ∈ ·) h
    simpa using hmap.symm
  rw [hmem]
  refine ⟨fun hnew => ⟨.inr hnew, fun hold => ?_⟩, fun ⟨hor, hold⟩ => hor.resolve_left hold⟩
  exact (List.nodup_append.mp hnodup).2.2 _ (List.mem_map_of_mem hold) _ hnew rfl

/-- The script of a contact governs what it replies to any messages, at any times and whatever it
chooses. -/
theorem governs_repliesTo (contact : Contact) (script : Script) (xs : List (Hearing σ)) :
    script.Governs contact (xs.map Hearing.message)
      (Participant.repliesTo { contact, script } xs) := by
  have hsaid := replies_append_kinds_repliesTo contact script xs
  have hall : kinds (Participant.repliesTo { contact, script } xs).flatten =
      (script.replies (heard (xs.map Hearing.message))).map some := by
    have htake := kinds_flatten_take_repliesTo contact script xs xs.length
    rwa [List.take_of_length_le (by rw [length_repliesTo]),
      List.take_of_length_le (by rw [List.length_map])] at htake
  refine ⟨?_, ?_, fun n => ?_, fun n => ?_, fun _ => speaks_of_mem_repliesTo, fun hsilent => ?_,
    fun n hgiven => ?_⟩
  · rw [length_repliesTo, List.length_map]
  · rw [hall]
    exact (script.replies_prefix _).map some
  · rw [script.mem_kinds_iff (hsaid n), script.response_mem_replies_iff,
      script.response_mem_replies_iff]
    tauto
  · rw [script.mem_kinds_iff (hsaid n), script.ack_mem_replies_iff, script.ack_mem_replies_iff]
    tauto
  · have hnone : script.replies (heard (xs.map Hearing.message)) = [] :=
      if_neg (by simp [hsilent])
    rw [hnone] at hall
    exact List.map_eq_nil_iff.mp hall
  · have hkinds := hsaid n
    rw [heard_take_succ_of_givenUp hgiven] at hkinds
    exact List.map_eq_nil_iff.mp (List.append_right_eq_self.mp hkinds)

end Run

end Simulation

end Introduction
