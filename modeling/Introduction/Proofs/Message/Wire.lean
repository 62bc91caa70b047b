import Introduction.Proofs.Message.Reading

/-!
# Wire forms

A message is read back from its wire form, up to a time that the wire cannot hold, and a message
that is written to another channel is read as the same message on that channel.
-/

namespace Introduction.Message

/-! ### Reading wire forms -/

/-- A header is read from any dictionary made by adding entries under other keys to its own. -/
lemma Header.ofDictionary_of_get? {d : Dictionary} {h : Header}
    (htype : d.get? Key.type = h.toDictionary.get? Key.type)
    (hsession : d.get? Key.session = h.toDictionary.get? Key.session)
    (hchannel : d.get? Key.channel = h.toDictionary.get? Key.channel) :
    Header.ofDictionary d = .ok h := by
  rw [Header.ofDictionary_eq_ok_iff, htype, hsession, hchannel]
  simp [Header.toDictionary, OrderedMap.get?_insert, Key.type,
      Key.session, Key.channel]

/-- A request is read back from its wire form. -/
theorem Request.ofDictionary_toDictionary (m : Request) :
    Request.ofDictionary m.toDictionary = .ok m := by
  rw [Request.ofDictionary_eq_ok_iff]
  refine ⟨Header.ofDictionary_of_get? ?_ ?_ ?_, ?_, ?_, ?_⟩ <;>
    simp [Request.toDictionary, Header.toDictionary, Dictionary.get?_insertSome,
      OrderedMap.get?_insert, Key.type,
      Key.session, Key.channel, Key.name, Key.publicKey, Key.note]

/-- The time on the wire is not negative. -/
lemma Response.signedTime_nonneg (time : UInt64) : 0 ≤ (signedTime time).toInt := by
  unfold signedTime
  split_ifs with h
  · rw [Int64.toInt_ofNat_of_lt (by omega)]
    omega
  · decide

/-- The time on the wire is the time, or the last one that the wire holds. -/
lemma Response.toNat_signedTime (time : UInt64) :
    (signedTime time).toInt.toNat = min time.toNat (2 ^ 63 - 1) := by
  unfold signedTime
  split_ifs with h
  · rw [Int64.toInt_ofNat_of_lt (by omega)]
    omega
  · have : Int64.maxValue.toInt.toNat = 2 ^ 63 - 1 := by decide
    omega

/-- The response with the time that the wire holds for it. -/
def Response.clamped (m : Response) : Response :=
  { m with time := UInt64.ofNat (min m.time.toNat (2 ^ 63 - 1)) }

/-- A response is read back from its wire form, with a time that the wire holds. -/
theorem Response.ofDictionary_toDictionary (m : Response) :
    Response.ofDictionary m.toDictionary = .ok m.clamped := by
  rw [Response.ofDictionary_eq_ok_iff]
  refine ⟨Header.ofDictionary_of_get? ?_ ?_ ?_, ⟨signedTime m.time, ?_, signedTime_nonneg _, ?_⟩,
    ?_, ?_⟩
  case refine_5 =>
    rw [toNat_signedTime]
    rfl
  all_goals
    simp [Response.clamped, Response.toDictionary, Header.toDictionary, OrderedMap.get?_insert,
      Key.type, Key.session, Key.channel, Key.message, Key.time, Key.accept]

/-- An ack is read back from its wire form. -/
theorem Ack.ofDictionary_toDictionary (m : Ack) : Ack.ofDictionary m.toDictionary = .ok m := by
  rw [Ack.ofDictionary_eq_ok_iff]
  refine ⟨Header.ofDictionary_of_get? ?_ ?_ ?_, ?_⟩ <;>
    simp [Ack.toDictionary, Header.toDictionary, OrderedMap.get?_insert, Key.type,
      Key.session,
      Key.channel, Key.message]

/-- An abort is read back from its wire form. -/
theorem Abort.ofDictionary_toDictionary (m : Abort) :
    Abort.ofDictionary m.toDictionary = .ok m := by
  rw [Abort.ofDictionary_eq_ok_iff]
  exact Header.ofDictionary_of_get? rfl rfl rfl

/-- The message with the time that the wire holds for it. -/
def clamped : Message → Message
  | .response m => .response m.clamped
  | m => m

@[simp] lemma kind_clamped (m : Message) : m.clamped.kind = m.kind := by
  cases m <;> rfl

@[simp] lemma session_clamped (m : Message) : m.clamped.session = m.session := by
  cases m <;> rfl

@[simp] lemma channel_clamped (m : Message) : m.clamped.channel = m.channel := by
  cases m <;> rfl

/-- A message is read back from its wire form, with a time that the wire holds. -/
theorem ofDictionary_toDictionary (m : Message) :
    Message.ofDictionary m.toDictionary = .ok m.clamped := by
  rw [ofDictionary_eq_ok_iff]
  cases m with
  | request m => exact m.ofDictionary_toDictionary
  | response m => exact m.ofDictionary_toDictionary
  | ack m => exact m.ofDictionary_toDictionary
  | abort m => exact m.ofDictionary_toDictionary

/-! ### Writing another channel -/

/-- The message on another channel. -/
def onChannel (channel : ChannelId) : Message → Message
  | .request m => .request { m with channel }
  | .response m => .response { m with channel }
  | .ack m => .ack { m with channel }
  | .abort m => .abort { m with channel }

variable {d : Dictionary}

@[simp] lemma kind_onChannel (m : Message) (c : ChannelId) : (m.onChannel c).kind = m.kind := by
  cases m <;> rfl

@[simp] lemma session_onChannel (m : Message) (c : ChannelId) :
    (m.onChannel c).session = m.session := by
  cases m <;> rfl

@[simp] lemma channel_onChannel (m : Message) (c : ChannelId) : (m.onChannel c).channel = c := by
  cases m <;> rfl

/-- A header written to another channel is read as the header on that channel. -/
lemma Header.ofDictionary_insert_channel {h : Header} (hread : Header.ofDictionary d = .ok h)
    (c : ChannelId) :
    Header.ofDictionary (d.insert Key.channel (.raw c.bytes)) = .ok { h with channel := c } := by
  obtain ⟨htype, hsession, -⟩ := Header.ofDictionary_eq_ok_iff.mp hread
  rw [Header.ofDictionary_eq_ok_iff]
  simp [OrderedMap.get?_insert, Key.type,
      Key.session, Key.channel] at htype hsession ⊢
  exact ⟨htype, hsession⟩

/-- A message written to another channel is read as the message on that channel. -/
theorem ofDictionary_insert_channel {m : Message} (hread : Message.ofDictionary d = .ok m)
    (c : ChannelId) :
    Message.ofDictionary (d.insert Key.channel (.raw c.bytes)) = .ok (m.onChannel c) := by
  have hother : ∀ key, key ≠ Key.channel →
      (d.insert Key.channel (.raw c.bytes)).get? key = d.get? key := by
    intro key hkey
    rw [OrderedMap.get?_insert, if_neg hkey]
  have hheader := Header.ofDictionary_insert_channel (header_of_ofDictionary hread) c
  rw [ofDictionary_eq_ok_iff] at hread ⊢
  cases m with
  | request m =>
    obtain ⟨-, hname, hkey, hnote⟩ := Request.ofDictionary_eq_ok_iff.mp hread
    refine Request.ofDictionary_eq_ok_iff.mpr ⟨hheader, ?_, ?_, ?_⟩
    · rwa [hother _ (by decide)]
    · rwa [hother _ (by decide)]
    · rwa [hother _ (by decide)]
  | response m =>
    obtain ⟨-, htime, hmessage, haccept⟩ := Response.ofDictionary_eq_ok_iff.mp hread
    refine Response.ofDictionary_eq_ok_iff.mpr ⟨hheader, ?_, ?_, ?_⟩
    · rwa [hother _ (by decide)]
    · rwa [hother _ (by decide)]
    · rwa [hother _ (by decide)]
  | ack m =>
    obtain ⟨-, hmessage⟩ := Ack.ofDictionary_eq_ok_iff.mp hread
    refine Ack.ofDictionary_eq_ok_iff.mpr ⟨hheader, ?_⟩
    rwa [hother _ (by decide)]
  | abort m => exact Abort.ofDictionary_eq_ok_iff.mpr hheader

end Introduction.Message
