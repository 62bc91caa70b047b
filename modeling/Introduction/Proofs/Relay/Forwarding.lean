import Introduction.Proofs.Dictionary.Reencoding
import Introduction.Proofs.Relay.Runs
import Introduction.Proofs.Session.Outgoing

/-!
# What a relay makes of bytes that it passes on

A relay decodes bytes, and the response or ack that they hold is passed on as a dictionary, which
the transport encodes in its canonical form.  How long that form is depends on how the bytes were
written: it is longer by at most what `Form.growth` says, whatever the relay holds and whatever it
is refused (`relayed_of_receiveBytes`).  A contact with the limit of the relay can decode it if this
growth is within the limit.

Two things are put together.  A call hands over nothing but what the answer of the session says
(`SendsOnly`), and a session passes a message on with the entry of the channel replaced, by one of
the same length.
-/

namespace Introduction

namespace Session

variable {s t : Session} {d : Dictionary} {envelopes : List Envelope} {events : List Event}

/-- What a session sends over a message is an abort, or that message, passed on. -/
lemma Step.abort_or_forward (h : Step s (.message d) t envelopes events) {e : Envelope}
    (he : e ∈ envelopes) :
    Message.kindOf e.message = some .abort ∨
      ∃ side m, s.Hears side d m ∧ (m.kind = .response ∨ m.kind = .ack) ∧ e = s.forward side d := by
  cases h with
  | ignore _ => cases he
  | giveUp _ =>
    have habort : ∀ side, Message.kindOf (s.abortTo side).toDictionary = some .abort := fun side =>
      Message.kindOf_of_ofDictionary (Message.ofDictionary_toDictionary (.abort (s.abortTo side)))
    simp only [aborts, List.mem_cons, List.not_mem_nil, or_false] at he
    rcases he with rfl | rfl
    · exact .inl (habort .first)
    · exact .inl (habort .second)
  | response haccepts _ =>
    exact .inr ⟨_, _, haccepts.hears, .inl rfl, List.mem_singleton.mp he⟩
  | ack haccepts => exact .inr ⟨_, _, haccepts.hears, .inr rfl, List.mem_singleton.mp he⟩
  | late _ _ => cases he

/-- A message that is passed on is encoded in as many octets as the message is. -/
lemma Hears.length_encode_forward {side : Side} {m : Message} (h : s.Hears side d m) :
    (s.forward side d).message.encode.length = d.encode.length := by
  refine Dictionary.length_encode_insert h.get?_channel ?_
  rw [Value.encode, Value.encode, List.length_append, List.length_append, Identifier.length_bytes,
    Identifier.length_bytes]

/-- A message that is passed on is nested as deep as the message is. -/
lemma Hears.depth_forward {side : Side} {m : Message} (h : s.Hears side d m) :
    Value.depth (.dictionary (s.forward side d).message) = Value.depth (.dictionary d) :=
  Dictionary.depth_insert h.get?_channel rfl

end Session

namespace Relay

variable {α β : Type} {r : Relay} {P : Envelope → Prop}

/-! ### What calls hand over -/

/-- A call hands nothing over, and answers are amended as before. -/
def Withholds (call : Relaying α) : Prop :=
  ∀ r, (outcome call r).2.outbox.sent = r.outbox.sent ∧ (outcome call r).2.amend = r.amend

/-- A call hands over only what satisfies a condition. -/
def SendsOnly (call : Relaying α) (r : Relay) (P : Envelope → Prop) : Prop :=
  ∃ sent, (outcome call r).2.outbox.sent = r.outbox.sent ++ sent ∧ ∀ e ∈ sent, P e

lemma Withholds.sendsOnly {call : Relaying α} (h : Withholds call) : SendsOnly call r P :=
  ⟨[], (h r).1.trans (List.append_nil _).symm, nofun⟩

/-- Calls in sequence hand nothing over if none of them does. -/
lemma Withholds.bind {call : Relaying α} {f : α → Relaying β} (h : Withholds call)
    (hf : ∀ x, Withholds (f x)) : Withholds (call >>= f) := by
  intro r
  have hcall := h r
  rw [outcome_bind]
  rcases hrun : outcome call r with ⟨x | x, r'⟩
  · rw [hrun] at hcall
    exact hcall
  · rw [hrun] at hcall
    exact ⟨(hf x r').1.trans hcall.1, (hf x r').2.trans hcall.2⟩

/-- What follows a call that hands nothing over says what is handed over. -/
lemma Withholds.then {call : Relaying α} {f : α → Relaying β} (h : Withholds call)
    (hf : ∀ x r', (outcome call r).1 = .ok x → r'.amend = r.amend → SendsOnly (f x) r' P) :
    SendsOnly (call >>= f) r P := by
  have hcall := h r
  unfold SendsOnly
  rw [outcome_bind]
  rcases hrun : outcome call r with ⟨x | x, r'⟩
  · rw [hrun] at hcall
    exact ⟨[], hcall.1.trans (List.append_nil _).symm, nofun⟩
  · rw [hrun] at hcall hf
    obtain ⟨sent, hsent, hP⟩ := hf x r' rfl hcall.2
    exact ⟨sent, hcall.1 ▸ hsent, hP⟩

/-- Nothing is handed over after a call. -/
lemma SendsOnly.bind {call : Relaying α} {f : α → Relaying β} (h : SendsOnly call r P)
    (hf : ∀ x, Withholds (f x)) : SendsOnly (call >>= f) r P := by
  obtain ⟨sent, hsent, hP⟩ := h
  refine ⟨sent, ?_, hP⟩
  rw [outcome_bind]
  rcases hrun : outcome call r with ⟨x | x, r'⟩
  · rw [hrun] at hsent
    exact hsent
  · rw [hrun] at hsent
    exact (hf x r').1.trans hsent

lemma withholds_pure (x : α) : Withholds (pure x) := fun _ => ⟨rfl, rfl⟩

lemma withholds_throw (e : Error) : Withholds (throw e : Relaying α) := fun _ => ⟨rfl, rfl⟩

lemma withholds_get : Withholds (get : Relaying Relay) := fun _ => ⟨rfl, rfl⟩

lemma withholds_tell (n : Notice) : Withholds (tell n) := fun _ => ⟨rfl, rfl⟩

lemma withholds_ofWire (x : Except WireError α) : Withholds (ofWire x) := by
  cases x with
  | error e => exact withholds_throw _
  | ok x => exact withholds_pure x

/-- An operation of the store hands nothing over. -/
lemma withholds_onStore (operation : Store → Except StoreError α × Store) :
    Withholds (onStore operation) := by
  intro r
  unfold outcome onStore
  rcases operation r.store with ⟨e | x, store⟩ <;> exact ⟨rfl, rfl⟩

/-- Giving an input to a session hands nothing over. -/
lemma withholds_answer (update : Except Session.Error Update) : Withholds (answer update) := by
  intro r
  cases update <;> exact ⟨rfl, rfl⟩

/-- Reading a session hands nothing over. -/
lemma withholds_load (id : SessionId) : Withholds (load id) := by
  refine Withholds.bind (Withholds.bind (withholds_onStore _) fun d? => ?_) fun s? => ?_
  · cases d? with
    | none => exact withholds_pure _
    | some d =>
      dsimp only
      split
      · exact withholds_pure _
      · exact withholds_throw _
  · cases s? with
    | none => exact (withholds_tell _).bind fun _ => withholds_throw _
    | some s => exact withholds_pure _

/-- Giving the store back what it held hands nothing over. -/
lemma withholds_restore (id : SessionId) (previous : Option Dictionary) :
    Withholds (restore id previous) := by
  cases previous with
  | none => exact withholds_onStore (·.delete id)
  | some d => exact withholds_onStore (·.put id d)

/-- Only the messages that are to be handed over are.  The induction is on them. -/
lemma sendsOnly_routeAll (id : SessionId) (previous : Option Dictionary) (r : Relay)
    (envelopes : List Envelope) : SendsOnly (routeAll id previous envelopes) r (· ∈ envelopes) := by
  induction envelopes generalizing r with
  | nil => exact (withholds_pure ()).sendsOnly
  | cons envelope envelopes ih =>
    unfold SendsOnly routeAll
    rw [outcome_bind]
    by_cases hrefused : r.outbox.refuses (r.outbox.attempts + 1)
    · rw [outcome_route_of_refused hrefused]
      have hrest := (withholds_tell (notice .warn "routing failed, restoring session" id
        [("channel", .plain envelope.channel.short)])).bind fun _ =>
          (withholds_restore id previous).bind fun _ =>
            withholds_throw (α := Unit) (.route ⟨r.outbox.attempts + 1⟩)
      exact hrest.sendsOnly
    · rw [outcome_route_of_not_refused hrefused]
      obtain ⟨sent, hsent, hmem⟩ := ih { r with outbox := { r.outbox with
        attempts := r.outbox.attempts + 1, sent := r.outbox.sent ++ [envelope] } }
      refine ⟨envelope :: sent, hsent.trans (by rw [List.append_assoc]; rfl), fun e he => ?_⟩
      rcases List.mem_cons.mp he with rfl | he
      · exact List.mem_cons_self
      · exact List.mem_cons_of_mem _ (hmem e he)

/-- Carrying out an answer hands over only what it says. -/
lemma sendsOnly_apply (id : SessionId) (update : Update) (r : Relay) :
    SendsOnly (apply id update) r (· ∈ update.envelopes) := by
  -- whatever was done to the entry of the session, only the messages are handed over afterwards
  have hrest : ∀ previous r', SendsOnly (do
      tell (notice .trace "applying update" id
        [("messages", .count update.envelopes.length), ("events", .count update.events.length),
          ("delete_message", .flag update.deletesMessage)])
      routeAll id previous update.envelopes
      modify fun r => { r with events := r.events ++ update.events }
      return update.session) r' (· ∈ update.envelopes) := by
    intro previous r'
    refine (withholds_tell _).then fun _ r₁ _ _ =>
      (sendsOnly_routeAll id previous r₁ update.envelopes).bind fun _ => ?_
    exact Withholds.bind (fun _ => ⟨rfl, rfl⟩) fun _ => withholds_pure _
  refine (withholds_onStore _).then fun previous r₁ _ _ =>
    withholds_get.then fun r' r₂ _ _ => ?_
  split_ifs
  · exact (withholds_tell _).then fun _ _ _ _ => (withholds_onStore _).then fun _ r₃ _ _ =>
      hrest previous r₃
  · exact (withholds_onStore _).then fun _ r₃ _ _ => hrest previous r₃

/-- The messages that are handed over in a call satisfy what all of them do. -/
lemma SendsOnly.sentOver {c : Call} (h : SendsOnly c.toRelaying r P) : ∀ e ∈ r.sentOver c, P e := by
  obtain ⟨sent, hsent, hP⟩ := h
  have heq : r.sentOver c = sent := by
    rw [Relay.sentOver, call, hsent, List.drop_left]
  rw [heq]
  exact hP

/-! ### What is passed on -/

/-- A message is a response or an ack that is passed on from bytes of the given limit: its canonical
form is longer than the bytes by at most the growth of the form in which they are written, and it
can be decoded under the same limit unless it has outgrown it. -/
structure Relayed (limit : ℕ) (bytes : Bytes) (message : Dictionary) : Prop where
  /-- The message is a response or an ack. -/
  kind_eq : Message.kindOf message = some .response ∨ Message.kindOf message = some .ack
  /-- It is what was decoded from the bytes, made out to another channel. -/
  exists_decoded : ∃ (d : Dictionary) (channel : ChannelId),
    Dictionary.decode bytes limit = .ok d ∧ message = d.insert Key.channel (.raw channel.bytes)
  /-- The bytes are within the limit. -/
  length_le : bytes.length ≤ limit
  /-- The bytes are written in some form. -/
  exists_form : ∃ f : Cbor.Form, f.octets = bytes
  /-- The canonical form is longer by at most the growth. -/
  encode_le : ∀ f : Cbor.Form, f.octets = bytes → message.encode.length ≤ bytes.length + f.growth
  /-- The canonical form can be decoded if the growth is within the limit. -/
  decodes : ∀ f : Cbor.Form, f.octets = bytes → bytes.length + f.growth ≤ limit →
    Dictionary.decode message.encode limit = .ok message

/-- What a session passes on of a decoded message is relayed from the bytes. -/
lemma relayed_forward {s : Session} {side : Side} {m : Message} {bytes : Bytes} {limit : ℕ}
    {d : Dictionary} (hlimit : limit < 2 ^ 64) (hdecode : Dictionary.decode bytes limit = .ok d)
    (hhears : s.Hears side d m) (hkind : m.kind = .response ∨ m.kind = .ack) :
    Relayed limit bytes (s.forward side d).message where
  kind_eq := by
    rw [Message.kindOf_of_ofDictionary hhears.reads_forward, Message.kind_onChannel]
    exact hkind.imp (congrArg some) (congrArg some)
  exists_decoded := ⟨d, (s.contact side.other).channel, hdecode, rfl⟩
  length_le := (Dictionary.decode_eq_ok_iff.mp hdecode).1
  exists_form := Dictionary.exists_form_of_decode hdecode
  encode_le := fun f hf => by
    rw [hhears.length_encode_forward]
    exact Dictionary.length_encode_le_of_decode hdecode hf
  decodes := fun f hf hgrowth => by
    have hlength : (s.forward side d).message.encode.length ≤ limit := by
      rw [hhears.length_encode_forward]
      exact (Dictionary.length_encode_le_of_decode hdecode hf).trans hgrowth
    have hdepth : Value.depth (.dictionary (s.forward side d).message) ≤ Dictionary.maxNesting := by
      rw [hhears.depth_forward]
      exact Dictionary.depth_le_of_decode hdecode
    exact Dictionary.decode_encode (Value.writable_of_length _ (hlength.trans_lt hlimit)) hdepth
      hlength

/-- Giving an input to a session amends what it answers. -/
lemma exists_of_answer {update : Except Session.Error Update} {u : Update}
    (h : (outcome (answer update) r).1 = .ok u) :
    ∃ u', update = .ok u' ∧ u = r.amend (r.answers + 1) u' := by
  cases update with
  | error e => cases h
  | ok u' =>
    cases h
    exact ⟨u', rfl, rfl⟩

/-- A reading that goes on has succeeded. -/
lemma eq_of_ofWire {x : Except WireError α} {y : α} (h : (outcome (ofWire x) r).1 = .ok y) :
    x = .ok y := by
  cases x with
  | error e => cases h
  | ok x =>
    cases h
    rfl

/-- What is handed over when bytes are received are aborts, or the message that they hold, passed
on; nothing is assumed of what is stored and refused, and answers may be amended in all but the
messages that they send. -/
theorem relayed_of_receiveBytes (hlimit : r.config.maxMessageSize < 2 ^ 64)
    (hamend : ∀ number update, (r.amend number update).envelopes = update.envelopes)
    (bytes : Bytes) :
    ∀ e ∈ r.sentOver (.receiveBytes bytes), Message.kindOf e.message = some .abort ∨
      Relayed r.config.maxMessageSize bytes e.message := by
  refine SendsOnly.sentOver ?_
  refine withholds_get.then fun r₁ r₂ hr₁ hr₂ => ?_
  cases hr₁
  refine (withholds_ofWire _).then fun d r₃ hd hr₃ => ?_
  refine (withholds_ofWire _).then fun id r₄ _ hr₄ => ?_
  refine (withholds_load id).then fun s r₅ _ hr₅ => ?_
  refine (withholds_answer _).then fun u r₆ hu _ => ?_
  -- what was answered is a step of the session, and only its messages are handed over
  obtain ⟨u', hu', rfl⟩ := exists_of_answer hu
  obtain ⟨u₀, hreceive, hstep, -⟩ := s.receive_step d
  cases hu'.symm.trans hreceive
  have hdecode : Dictionary.decode bytes r.config.maxMessageSize = .ok d := eq_of_ofWire hd
  obtain ⟨sent, hsent, hmem⟩ := sendsOnly_apply id (r₅.amend (r₅.answers + 1) u') r₆
  refine ⟨sent, hsent, fun e he => ?_⟩
  have he' : e ∈ u'.envelopes := by
    have henvelope := hmem e he
    rw [hr₅, hr₄, hr₃, hr₂, hamend] at henvelope
    exact henvelope
  rcases hstep.abort_or_forward he' with habort | ⟨side, m, hhears, hkind, rfl⟩
  · exact .inl habort
  · exact .inr (relayed_forward hlimit hdecode hhears hkind)

/-! ### A response that grows -/

/-- A relay that has sent the requests to Alice and Bob. -/
def introducing (limit : ℕ) : Relay where
  config := { maxMessageSize := limit }
  store :=
    { archive := Archive.empty.write Session.aliceAndBob.id
        (Session.aliceAndBob.enter .awaitResponses).toDictionary }

/-- A response of Alice with one entry more, 256 zeros in an array of indefinite length. -/
def manyZeros : Bytes :=
  0xa7 :: Value.encodeText Key.type ++ (Value.int Message.Kind.response.number).encode ++
    Value.encodeText Key.session ++ (Value.raw Session.aliceAndBob.id.bytes).encode ++
    Value.encodeText Key.channel ++ (Value.raw Session.alice.channel.bytes).encode ++
    Value.encodeText Key.message ++ (Value.raw (Identifier.replicate 5 : MessageId).bytes).encode ++
    Value.encodeText Key.accept ++ (Value.bool true).encode ++
    Value.encodeText Key.time ++ (Value.int 1000).encode ++
    Value.encodeText "zeros" ++ 0x9f :: List.replicate 256 0x00 ++ [0xff]

/-- The response is passed on, and relayed from its bytes. -/
theorem relayed_manyZeros :
    (65536 < 2 ^ 64 ∧ ∀ number update,
      ((introducing 65536).amend number update).envelopes = update.envelopes) ∧
      ∃ e, (introducing 65536).sentOver (.receiveBytes manyZeros) = [e] ∧
        Message.kindOf e.message = some .response ∧ Relayed 65536 manyZeros e.message := by
  have hkinds : ((introducing 65536).sentOver (.receiveBytes manyZeros)).map
      (fun e => Message.kindOf e.message) = [some .response] := by
    decide +kernel
  obtain ⟨e, hsent, hkind⟩ := List.map_eq_singleton_iff.mp hkinds
  have hrelayed := relayed_of_receiveBytes (r := introducing 65536) (by decide) (fun _ _ => rfl)
    manyZeros e (by rw [hsent]; exact List.mem_singleton_self e)
  rw [hkind] at hrelayed
  exact ⟨⟨by decide, fun _ _ => rfl⟩, e, hsent, hkind, hrelayed.resolve_left (by decide)⟩

/-- A relay whose limit is the length of the response accepts it and passes it on.  The canonical
form gives the number of the zeros in three octets, where the response takes two to begin and end
their array; so it is one octet longer, and cannot be decoded under that limit. -/
theorem outgrown_manyZeros :
    let r := introducing manyZeros.length
    let sent := r.sentOver (.receiveBytes manyZeros)
    (r.call (.receiveBytes manyZeros)).1.toBool ∧
      sent.map (fun e => Message.kindOf e.message) = [some .response] ∧
      ∀ e ∈ sent, e.message.encode.length = manyZeros.length + 1 ∧
        Dictionary.decode e.message.encode manyZeros.length =
          .error (.tooLarge (manyZeros.length + 1) manyZeros.length) := by
  have hlengths : ∀ n ∈ ((introducing manyZeros.length).sentOver (.receiveBytes manyZeros)).map
      (·.message.encode.length), n = manyZeros.length + 1 := by
    decide +kernel
  refine ⟨by decide +kernel, by decide +kernel, fun e he => ?_⟩
  have hlength : e.message.encode.length = manyZeros.length + 1 :=
    hlengths _ (List.mem_map_of_mem he)
  refine ⟨hlength, ?_⟩
  rw [Dictionary.decode, if_pos (by omega), hlength]

end Relay

end Introduction
