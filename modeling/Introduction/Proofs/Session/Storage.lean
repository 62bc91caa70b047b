import Introduction.Proofs.Dictionary.Fields
import Introduction.Proofs.Dictionary.RoundTrip
import Introduction.Session.Basic

/-!
# Sessions at rest

Which dictionaries are read as which sessions, and that a session survives in an archive: it is read
back from its stored form, and the stored form is decoded from its octets.  The names of the
contacts are the only texts of unbounded length in a session, and have to fit a head (`Storable`).

A dictionary is read as a session if it has the entries of one (`IsStored`), and may have more.  The
session that is read is settled by these entries, so the two directions meet in
`Session.sessions_of_dictionary`.
-/

namespace Introduction

/-- A number of 32 bits is the form of its last 32 bits. -/
lemma Value.ofUInt32_toNat {n : Int64} (hnonneg : 0 ≤ n.toInt) (hlt : n.toInt < 2 ^ 32) :
    Value.ofUInt32 (UInt32.ofNat n.toInt.toNat) = .int n := by
  have hnat : (UInt32.ofNat n.toInt.toNat).toNat = n.toInt.toNat := by
    rw [UInt32.toNat_ofNat']
    omega
  have heq : Int64.ofNat (UInt32.ofNat n.toInt.toNat).toNat = n := by
    apply Int64.toInt_inj.mp
    rw [hnat, Int64.toInt_ofNat_of_lt (by omega)]
    omega
  rw [Value.ofUInt32, heq]

/-- The name of a contact fits a head.  A text in memory does. -/
def Contact.Storable (c : Contact) : Prop := Value.WritableText c.name

namespace Session

variable {d : Dictionary}

/-! ### Reading sessions -/

/-- A state is stored under its place among all states. -/
lemma State.toInt_of_mem_all : ∀ i < all.length, ∀ state ∈ all[i]?, state.toInt.toInt = i := by
  decide

/-- A state is stored under one of nine numbers. -/
lemma State.toInt_bounds (state : State) : 0 ≤ state.toInt.toInt ∧ state.toInt.toInt ≤ 8 := by
  cases state with
  | awaitResponse side => cases side <;> decide
  | awaitAck side => cases side <;> decide
  | _ => decide

/-- A number is read as the state that it stands for. -/
lemma State.ofInt_eq_ok_iff {n : Int64} {state : State} :
    ofInt n = .ok state ↔ n = state.toInt := by
  constructor
  · intro h
    unfold ofInt at h
    split at h
    · rename_i state' hstate
      cases h
      unfold ofInt? at hstate
      split_ifs at hstate with hneg
      have hlt : n.toInt.toNat < all.length := (List.getElem?_eq_some_iff.mp hstate).1
      have hint := toInt_of_mem_all _ hlt _ hstate
      exact Int64.toInt_inj.mp (by omega)
    · cases h
  · rintro rfl
    simp [ofInt]

/-- A contact is read from a dictionary that holds its entries. -/
lemma readContact_eq_ok_iff {side : Side} {c : Contact} :
    readContact d side = .ok c ↔
      d.get? (Key.contactOf side) = some (.ofUInt32 c.id.number) ∧
        d.get? (Key.authorOf side) = some (.raw c.author.bytes) ∧
          d.get? (Key.nameOf side) = some (.string c.name) ∧
            d.get? (Key.channelOf side) = some (.raw c.channel.bytes) := by
  unfold readContact
  simp only [Except.bind_eq_ok_iff, Dictionary.getInt_eq_ok_iff]
  constructor
  · rintro ⟨number, hnumber, hrest⟩
    split_ifs at hrest with hrange
    · obtain ⟨_, hthrow, _⟩ := Except.bind_eq_ok_iff.mp hrest
      cases hthrow
    · simp only [Except.bind_eq_ok_iff, Except.pure_eq_ok_iff, Dictionary.getId_eq_ok_iff,
        Dictionary.getString_eq_ok_iff] at hrest
      obtain ⟨_, hauthor, _, hname, _, hchannel, rfl⟩ := hrest
      exact ⟨by rw [hnumber, Value.ofUInt32_toNat (by omega) (by omega)], hauthor, hname, hchannel⟩
  · rintro ⟨hnumber, hauthor, hname, hchannel⟩
    have hlt : c.id.number.toNat < 2 ^ 32 := c.id.number.toNat_lt
    have hint : (Int64.ofNat c.id.number.toNat).toInt = c.id.number.toNat :=
      Int64.toInt_ofNat_of_lt (by omega)
    refine ⟨_, hnumber, ?_⟩
    rw [hint, if_neg (by omega)]
    simp only [Except.bind_eq_ok_iff, Except.pure_eq_ok_iff, Dictionary.getId_eq_ok_iff,
      Dictionary.getString_eq_ok_iff]
    refine ⟨_, hauthor, _, hname, _, hchannel, ?_⟩
    simp

/-- A session is read from a dictionary that holds its entries. -/
theorem ofDictionary_eq_ok_iff {s : Session} :
    ofDictionary d = .ok s ↔
      (∀ side, readContact d side = .ok (s.contact side)) ∧
        d.get? Key.session = some (.raw s.id.bytes) ∧
          d.get? Key.state = some (.int s.state.toInt) ∧
            ∀ side, d.get? (Key.responseOf side) = (s.response side).map (.raw ·.bytes) := by
  unfold ofDictionary
  simp only [Except.bind_eq_ok_iff]
  constructor
  · rintro ⟨first, hfirst, second, hsecond, hrest⟩
    split_ifs at hrest with hchannels
    simp only [Except.bind_eq_ok_iff, Except.pure_eq_ok_iff, Dictionary.getId_eq_ok_iff,
      Dictionary.getInt_eq_ok_iff, State.ofInt_eq_ok_iff, Dictionary.getId?_eq_ok_iff] at hrest
    obtain ⟨_, hid, _, hnumber, _, rfl, _, hresponse₁, _, hresponse₂, rfl⟩ := hrest
    refine ⟨fun side => ?_, hid, hnumber, fun side => ?_⟩
    · cases side
      · exact hfirst
      · exact hsecond
    · cases side
      · exact hresponse₁
      · exact hresponse₂
  · rintro ⟨hcontact, hid, hstate, hresponse⟩
    refine ⟨_, hcontact .first, _, hcontact .second, ?_⟩
    rw [dif_neg (show (s.contact .first).channel ≠ (s.contact .second).channel from s.channels_ne)]
    simp only [Except.bind_eq_ok_iff, Except.pure_eq_ok_iff, Dictionary.getId_eq_ok_iff,
      Dictionary.getInt_eq_ok_iff, State.ofInt_eq_ok_iff, Dictionary.getId?_eq_ok_iff]
    exact ⟨_, hid, _, hstate, _, rfl, _, hresponse .first, _, hresponse .second, rfl⟩

/-! ### Reading stored sessions -/

/-- A session is read back from its stored form. -/
theorem ofDictionary_toDictionary (s : Session) : ofDictionary s.toDictionary = .ok s := by
  rw [ofDictionary_eq_ok_iff]
  refine ⟨fun side => readContact_eq_ok_iff.mpr ⟨?_, ?_, ?_, ?_⟩, ?_, ?_, fun side => ?_⟩
  all_goals
    try cases side
    all_goals
      simp [toDictionary, writeContact, Dictionary.get?_insertSome, OrderedMap.get?_insert, contact,
        response, Key.session, Key.state, Key.channelOf, Key.nameOf, Key.contactOf, Key.authorOf,
        Key.responseOf]

/-! ### Which dictionaries are stored sessions -/

/-- The entries of a contact can be added to the smaller dictionary if the larger one has them. -/
lemma extends_writeContact {e : Dictionary} (h : d.Extends e) {c : Contact} {side : Side}
    (hread : readContact d side = .ok c) : d.Extends (writeContact e c side) := by
  obtain ⟨hnumber, hauthor, hname, hchannel⟩ := readContact_eq_ok_iff.mp hread
  exact (((h.insert hchannel).insert hname).insert hnumber).insert hauthor

/-- A session is read from the dictionaries that hold its entries and have a response under the keys
under which it has one. -/
theorem spells : Dictionary.Spells ofDictionary toDictionary (fun s => s)
    fun _ => [Key.responseOf .first, Key.responseOf .second] := by
  refine Dictionary.spells_of_read_iff fun d s => ?_
  obtain ⟨hcontact, hid, hstate, hresponse⟩ :=
    ofDictionary_eq_ok_iff.mp s.ofDictionary_toDictionary
  have hoptional :
      (∀ key ∈ [Key.responseOf .first, Key.responseOf .second],
        d.contains key = s.toDictionary.contains key) ↔
          ∀ side, d.contains (Key.responseOf side) =
            s.toDictionary.contains (Key.responseOf side) := by
    rw [List.forall_mem_cons, List.forall_mem_singleton]
    refine ⟨fun h side => ?_, fun h => ⟨h .first, h .second⟩⟩
    cases side
    · exact h.1
    · exact h.2
  rw [hoptional, ofDictionary_eq_ok_iff]
  constructor
  · rintro ⟨hcontact', hid', hstate', hresponse'⟩
    have hfields := ((Dictionary.extends_empty d).insert hid').insert hstate'
    have hcontacts :=
      extends_writeContact (extends_writeContact hfields (hcontact' .first)) (hcontact' .second)
    refine ⟨(hcontacts.insertSome (hresponse' .first)).insertSome (hresponse' .second),
      fun side => ?_⟩
    rw [Ascending.contains, Ascending.contains, hresponse, hresponse']
  · rintro ⟨hextends, hcontains⟩
    refine ⟨fun side => ?_, hextends _ _ hid, hextends _ _ hstate, fun side => ?_⟩
    · obtain ⟨hnumber, hauthor, hname, hchannel⟩ := readContact_eq_ok_iff.mp (hcontact side)
      exact readContact_eq_ok_iff.mpr ⟨hextends _ _ hnumber, hextends _ _ hauthor,
        hextends _ _ hname, hextends _ _ hchannel⟩
    · rw [hextends.get?_eq (hcontains side), hresponse]

/-- A dictionary holds the bytes of an identifier under a key. -/
def HoldsId (d : Dictionary) (key : String) : Prop :=
  ∃ bytes : Bytes, bytes.length = Identifier.length ∧ d.get? key = some (.raw bytes)

/-- What is held is an identifier of any kind. -/
lemma HoldsId.exists_id {key : String} (h : HoldsId d key) (kind : Identifier.Kind) :
    ∃ id : Identifier kind, d.get? key = some (.raw id.bytes) := by
  obtain ⟨bytes, hlength, hget⟩ := h
  exact ⟨⟨bytes, hlength⟩, hget⟩

/-- The bytes of an identifier are held. -/
lemma holdsId_of_get? {kind : Identifier.Kind} {id : Identifier kind} {key : String}
    (h : d.get? key = some (.raw id.bytes)) : HoldsId d key :=
  ⟨id.bytes, id.length_bytes, h⟩

/-- A dictionary has the entries of a session. -/
structure IsStored (d : Dictionary) : Prop where
  /-- The identifier of the session. -/
  session : HoldsId d Key.session
  /-- The identifiers of the contacts as authors. -/
  author : ∀ side, HoldsId d (Key.authorOf side)
  /-- The channels of the contacts. -/
  channel : ∀ side, HoldsId d (Key.channelOf side)
  /-- The names of the contacts. -/
  name : ∀ side, ∃ name, d.get? (Key.nameOf side) = some (.string name)
  /-- The numbers of the contacts, of 32 bits. -/
  number : ∀ side, ∃ n : Int64, d.get? (Key.contactOf side) = some (.int n) ∧
    0 ≤ n.toInt ∧ n.toInt ≤ 2 ^ 32 - 1
  /-- The number of one of the nine states. -/
  state : ∃ n : Int64, d.get? Key.state = some (.int n) ∧ 0 ≤ n.toInt ∧ n.toInt ≤ 8
  /-- The responses, if there are any. -/
  response : ∀ side, d.get? (Key.responseOf side) = none ∨ HoldsId d (Key.responseOf side)
  /-- The channels are different. -/
  channels_ne : d.get? (Key.channelOf .first) ≠ d.get? (Key.channelOf .second)

/-- A contact is read where its entries are. -/
lemma IsStored.exists_contact (h : IsStored d) (side : Side) :
    ∃ c, readContact d side = .ok c := by
  obtain ⟨n, hnumber, hnonneg, hle⟩ := h.number side
  obtain ⟨author, hauthor⟩ := (h.author side).exists_id .author
  obtain ⟨name, hname⟩ := h.name side
  obtain ⟨channel, hchannel⟩ := (h.channel side).exists_id .channel
  refine ⟨⟨⟨UInt32.ofNat n.toInt.toNat⟩, author, name, channel⟩,
    readContact_eq_ok_iff.mpr ⟨?_, hauthor, hname, hchannel⟩⟩
  rw [hnumber, Value.ofUInt32_toNat hnonneg (by omega)]

/-- A state is read where its number is. -/
lemma IsStored.exists_state (h : IsStored d) :
    ∃ state : State, d.get? Key.state = some (.int state.toInt) := by
  obtain ⟨n, hn, hnonneg, hle⟩ := h.state
  have hlt : n.toInt.toNat < State.all.length := by
    change n.toInt.toNat < 9
    omega
  have hint := State.toInt_of_mem_all _ hlt _ (List.getElem?_eq_getElem hlt)
  have heq : State.all[n.toInt.toNat].toInt = n := Int64.toInt_inj.mp (by omega)
  exact ⟨_, heq.symm ▸ hn⟩

/-- A response is read where its entry is, or where there is none. -/
lemma IsStored.exists_response (h : IsStored d) (side : Side) :
    ∃ message : Option MessageId, d.get? (Key.responseOf side) = message.map (.raw ·.bytes) := by
  rcases h.response side with hnone | hid
  · exact ⟨none, hnone⟩
  · obtain ⟨message, hmessage⟩ := hid.exists_id .message
    exact ⟨some message, hmessage⟩

/-- A dictionary from which a session is read has the entries of a session. -/
lemma isStored_of_ofDictionary {s : Session} (h : ofDictionary d = .ok s) : IsStored d := by
  obtain ⟨hcontact, hid, hstate, hresponse⟩ := ofDictionary_eq_ok_iff.mp h
  have hentries := fun side => readContact_eq_ok_iff.mp (hcontact side)
  refine
    { session := holdsId_of_get? hid
      author := fun side => holdsId_of_get? (hentries side).2.1
      channel := fun side => holdsId_of_get? (hentries side).2.2.2
      name := fun side => ⟨_, (hentries side).2.2.1⟩
      number := fun side => ⟨_, (hentries side).1, ?_⟩
      state := ⟨_, hstate, s.state.toInt_bounds⟩
      response := fun side => ?_
      channels_ne := ?_ }
  · have hlt : (s.contact side).id.number.toNat < 2 ^ 32 := (s.contact side).id.number.toNat_lt
    rw [Int64.toInt_ofNat_of_lt (by omega)]
    omega
  · rw [hresponse]
    cases hmessage : s.response side with
    | none => exact .inl rfl
    | some message =>
      have hget : d.get? (Key.responseOf side) = some (.raw message.bytes) := by
        rw [hresponse, hmessage]
        rfl
      exact .inr (holdsId_of_get? hget)
  · rw [(hentries .first).2.2.2, (hentries .second).2.2.2]
    intro heq
    exact s.channels_ne (Identifier.ext (Value.raw.inj (Option.some.inj heq)))

/-- A session is read from a dictionary that has the entries of one. -/
lemma IsStored.exists_session (h : IsStored d) : ∃ s, ofDictionary d = .ok s := by
  obtain ⟨first, hfirst⟩ := h.exists_contact .first
  obtain ⟨second, hsecond⟩ := h.exists_contact .second
  obtain ⟨id, hid⟩ := h.session.exists_id .session
  obtain ⟨state, hstate⟩ := h.exists_state
  obtain ⟨response₁, hresponse₁⟩ := h.exists_response .first
  obtain ⟨response₂, hresponse₂⟩ := h.exists_response .second
  have hchannels : first.channel ≠ second.channel := by
    intro heq
    apply h.channels_ne
    rw [(readContact_eq_ok_iff.mp hfirst).2.2.2, (readContact_eq_ok_iff.mp hsecond).2.2.2, heq]
  refine ⟨{ id, state, first, second, response₁, response₂, channels_ne := hchannels },
    ofDictionary_eq_ok_iff.mpr ⟨fun side => ?_, hid, hstate, fun side => ?_⟩⟩
  · cases side
    · exact hfirst
    · exact hsecond
  · cases side
    · exact hresponse₁
    · exact hresponse₂

/-- A session is read back from its stored form, and is read from exactly the dictionaries that hold
its entries and have a response where it has one.  Some session is read from a dictionary exactly if
the dictionary has entries of the right forms, with different channels. -/
theorem sessions_of_dictionary :
    (Dictionary.Spells ofDictionary toDictionary (fun s => s)
      fun _ => [Key.responseOf .first, Key.responseOf .second]) ∧
      ∀ d, (∃ s, ofDictionary d = .ok s) ↔ IsStored d :=
  ⟨spells, fun _ => ⟨fun ⟨_, h⟩ => isStored_of_ofDictionary h, IsStored.exists_session⟩⟩

/-! ### Stored sessions as octets -/

/-- The names of both contacts fit a head. -/
def Storable (s : Session) : Prop := ∀ side, (s.contact side).Storable

/-- Every key of a stored session fits a head. -/
lemma writableText_key : ∀ key ∈ [Key.session, Key.state, Key.channelOf .first,
    Key.channelOf .second, Key.nameOf .first, Key.nameOf .second, Key.contactOf .first,
    Key.contactOf .second, Key.authorOf .first, Key.authorOf .second, Key.responseOf .first,
    Key.responseOf .second], Value.WritableText key := by
  unfold Value.WritableText
  decide

/-- The octets of an identifier are a flat entry. -/
lemma flatEntry_identifier {kind : Identifier.Kind} {key : String} (hkey : Value.WritableText key)
    (id : Identifier kind) : Dictionary.FlatEntry key (.raw id.bytes) := by
  refine ⟨hkey, ?_, rfl⟩
  rw [Value.Writable, id.length_bytes]
  decide

/-- A flat dictionary stays flat when a contact is added. -/
lemma flat_writeContact (hd : d.Flat) {c : Contact} (hc : c.Storable) (side : Side) :
    (writeContact d c side).Flat := by
  have hkey : ∀ key ∈ [Key.channelOf side, Key.nameOf side, Key.contactOf side, Key.authorOf side],
      Value.WritableText key := by
    intro key hmem
    apply writableText_key
    cases side <;> (revert key; decide)
  have hchannel := flatEntry_identifier (hkey (Key.channelOf side) (by simp)) c.channel
  have hauthor := flatEntry_identifier (hkey (Key.authorOf side) (by simp)) c.author
  have hname : Dictionary.FlatEntry (Key.nameOf side) (.string c.name) :=
    ⟨hkey _ (by simp), hc, rfl⟩
  have hnumber : Dictionary.FlatEntry (Key.contactOf side) (.ofUInt32 c.id.number) :=
    ⟨hkey _ (by simp), trivial, rfl⟩
  exact (((hd.insert hchannel).insert hname).insert hnumber).insert hauthor

/-- The stored form of a session is flat. -/
theorem flat_toDictionary {s : Session} (h : s.Storable) : s.toDictionary.Flat := by
  have hempty : Dictionary.empty.Flat := by
    intro key value hget
    cases hget
  have hid := flatEntry_identifier (writableText_key Key.session (by simp)) s.id
  have hstate : Dictionary.FlatEntry Key.state (.int s.state.toInt) :=
    ⟨writableText_key _ (by simp), trivial, rfl⟩
  have hcontacts := flat_writeContact
    (flat_writeContact ((hempty.insert hid).insert hstate) (h .first) .first) (h .second) .second
  have hresponse : ∀ side, ∀ value ∈ (s.response side).map (Value.raw ·.bytes),
      Dictionary.FlatEntry (Key.responseOf side) value := by
    intro side value hvalue
    obtain ⟨message, -, rfl⟩ := Option.map_eq_some_iff.mp hvalue
    exact flatEntry_identifier (writableText_key _ (by cases side <;> decide)) message
  exact (hcontacts.insertSome (hresponse .first)).insertSome (hresponse .second)

/-- A contact takes four entries. -/
lemma size_writeContact_le (d : Dictionary) (c : Contact) (side : Side) :
    (writeContact d c side).size ≤ d.size + 4 := by
  have h₁ := OrderedMap.size_insert_le d (Key.channelOf side) (.raw c.channel.bytes)
  unfold writeContact
  refine (OrderedMap.size_insert_le _ _ _).trans (Nat.succ_le_succ ?_)
  refine (OrderedMap.size_insert_le _ _ _).trans (Nat.succ_le_succ ?_)
  exact (OrderedMap.size_insert_le _ _ _).trans (Nat.succ_le_succ h₁)

/-- A session takes at most twelve entries. -/
lemma size_toDictionary_le (s : Session) : s.toDictionary.size ≤ 12 := by
  refine (Dictionary.size_insertSome_le _ _ _).trans (Nat.succ_le_succ ?_)
  refine (Dictionary.size_insertSome_le _ _ _).trans (Nat.succ_le_succ ?_)
  refine (size_writeContact_le _ _ _).trans (Nat.add_le_add_right (m := 6) ?_ 4)
  refine (size_writeContact_le _ _ _).trans (Nat.add_le_add_right (m := 2) ?_ 4)
  refine (OrderedMap.size_insert_le _ _ _).trans (Nat.succ_le_succ ?_)
  exact OrderedMap.size_insert_le _ _ _

/-- A session is decoded from its stored form. -/
theorem decode_encode_toDictionary {s : Session} (h : s.Storable) :
    Dictionary.decode s.toDictionary.encode s.toDictionary.encode.length = .ok s.toDictionary :=
  (flat_toDictionary h).decode_encode (s.size_toDictionary_le.trans_lt (by decide))

end Session

end Introduction
