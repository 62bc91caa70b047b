import Introduction.Message.Basic
import Introduction.Proofs.Dictionary.Fields

/-!
# Reading messages

Which dictionaries are read as which messages.  Every view is read exactly from the dictionaries
that hold its entries (`Header.ofDictionary_eq_ok_iff` and the lemmas after it), and reading a
message reads the view that the header names.  Two consequences carry the rest of the theory: a
message is read back from its wire form, and writing another channel into a dictionary changes the
channel of the message read and nothing else.
-/

namespace Introduction

namespace Message

variable {d : Dictionary}

/-! ### Views -/

/-- A number stands for one kind. -/
lemma Kind.ofNumber?_eq_some_iff {n : Int64} {kind : Kind} :
    Kind.ofNumber? n = some kind ↔ n = kind.number := by
  constructor
  · intro h
    unfold Kind.ofNumber? at h
    split_ifs at h with h₁ h₂ h₃ h₄ <;> cases h <;> assumption
  · rintro rfl
    exact Kind.ofNumber?_number kind

/-- A number is read as the kind that it stands for. -/
lemma Kind.ofNumber_eq_ok_iff {n : Int64} {kind : Kind} :
    Kind.ofNumber n = .ok kind ↔ n = kind.number := by
  rw [← Kind.ofNumber?_eq_some_iff]
  unfold Kind.ofNumber
  cases Kind.ofNumber? n <;> simp

/-- A header is read from a dictionary that holds its three entries. -/
lemma Header.ofDictionary_eq_ok_iff {h : Header} :
    Header.ofDictionary d = .ok h ↔
      d.get? Key.type = some (.int h.kind.number) ∧
        d.get? Key.session = some (.raw h.session.bytes) ∧
          d.get? Key.channel = some (.raw h.channel.bytes) := by
  unfold Header.ofDictionary
  simp only [Except.bind_eq_ok_iff, Except.pure_eq_ok_iff, Dictionary.getInt_eq_ok_iff,
    Dictionary.getId_eq_ok_iff, Kind.ofNumber_eq_ok_iff]
  constructor
  · rintro ⟨_, htype, _, rfl, _, hsession, _, hchannel, rfl⟩
    exact ⟨htype, hsession, hchannel⟩
  · rintro ⟨htype, hsession, hchannel⟩
    exact ⟨_, htype, _, rfl, _, hsession, _, hchannel, rfl⟩

/-- A header of a given kind is read from a dictionary whose header is of that kind. -/
lemma Header.expect_eq_ok_iff {kind : Kind} {h : Header} :
    Header.expect kind d = .ok h ↔ Header.ofDictionary d = .ok h ∧ h.kind = kind := by
  unfold Header.expect
  rw [Except.bind_eq_ok_iff]
  constructor
  · rintro ⟨h', hread, hkind⟩
    split_ifs at hkind with hk
    cases hkind
    exact ⟨hread, hk⟩
  · rintro ⟨hread, hk⟩
    exact ⟨h, hread, by rw [if_pos hk]; rfl⟩

/-- A request is read from a dictionary that holds its entries. -/
lemma Request.ofDictionary_eq_ok_iff {m : Request} :
    Request.ofDictionary d = .ok m ↔
      Header.ofDictionary d = .ok ⟨.request, m.session, m.channel⟩ ∧
        d.get? Key.name = some (.string m.name) ∧
          d.get? Key.publicKey = some (.raw m.publicKey) ∧
            d.get? Key.note = m.note.map .string := by
  unfold Request.ofDictionary
  simp only [Except.bind_eq_ok_iff, Except.pure_eq_ok_iff, Header.expect_eq_ok_iff,
    Dictionary.getString_eq_ok_iff, Dictionary.getRaw_eq_ok_iff, Dictionary.getString?_eq_ok_iff]
  constructor
  · rintro ⟨⟨_, _, _⟩, ⟨hread, rfl⟩, _, hname, _, hkey, _, hnote, rfl⟩
    exact ⟨hread, hname, hkey, hnote⟩
  · rintro ⟨hread, hname, hkey, hnote⟩
    exact ⟨_, ⟨hread, rfl⟩, _, hname, _, hkey, _, hnote, rfl⟩

/-- A response is read from a dictionary that holds its entries, with a time that is not
negative. -/
lemma Response.ofDictionary_eq_ok_iff {m : Response} :
    Response.ofDictionary d = .ok m ↔
      Header.ofDictionary d = .ok ⟨.response, m.session, m.channel⟩ ∧
        (∃ time : Int64, d.get? Key.time = some (.int time) ∧ 0 ≤ time.toInt ∧
          UInt64.ofNat time.toInt.toNat = m.time) ∧
          d.get? Key.message = some (.raw m.message.bytes) ∧
            d.get? Key.accept = some (.bool m.accept) := by
  unfold Response.ofDictionary
  simp only [Except.bind_eq_ok_iff, Header.expect_eq_ok_iff, Dictionary.getInt_eq_ok_iff]
  constructor
  · rintro ⟨⟨_, _, _⟩, ⟨hread, rfl⟩, time, htime, hrest⟩
    split_ifs at hrest with hneg
    · obtain ⟨_, hthrow, _⟩ := Except.bind_eq_ok_iff.mp hrest
      cases hthrow
    · simp only [Except.bind_eq_ok_iff, Except.pure_eq_ok_iff, Dictionary.getId_eq_ok_iff,
        Dictionary.getBool_eq_ok_iff] at hrest
      obtain ⟨_, hmessage, _, haccept, rfl⟩ := hrest
      exact ⟨hread, ⟨time, htime, by omega, rfl⟩, hmessage, haccept⟩
  · rintro ⟨hread, ⟨time, htime, hpos, hm⟩, hmessage, haccept⟩
    refine ⟨_, ⟨hread, rfl⟩, time, htime, ?_⟩
    rw [if_neg (by omega)]
    simp only [Except.bind_eq_ok_iff, Except.pure_eq_ok_iff, Dictionary.getId_eq_ok_iff,
      Dictionary.getBool_eq_ok_iff]
    exact ⟨_, hmessage, _, haccept, by rw [hm]⟩

/-- An ack is read from a dictionary that holds its entries. -/
lemma Ack.ofDictionary_eq_ok_iff {m : Ack} :
    Ack.ofDictionary d = .ok m ↔
      Header.ofDictionary d = .ok ⟨.ack, m.session, m.channel⟩ ∧
        d.get? Key.message = some (.raw m.message.bytes) := by
  unfold Ack.ofDictionary
  simp only [Except.bind_eq_ok_iff, Except.pure_eq_ok_iff, Header.expect_eq_ok_iff,
    Dictionary.getId_eq_ok_iff]
  constructor
  · rintro ⟨⟨_, _, _⟩, ⟨hread, rfl⟩, _, hmessage, rfl⟩
    exact ⟨hread, hmessage⟩
  · rintro ⟨hread, hmessage⟩
    exact ⟨_, ⟨hread, rfl⟩, _, hmessage, rfl⟩

/-- An abort is read from a dictionary that holds its header. -/
lemma Abort.ofDictionary_eq_ok_iff {m : Abort} :
    Abort.ofDictionary d = .ok m ↔
      Header.ofDictionary d = .ok ⟨.abort, m.session, m.channel⟩ := by
  unfold Abort.ofDictionary
  simp only [Except.bind_eq_ok_iff, Except.pure_eq_ok_iff, Header.expect_eq_ok_iff]
  constructor
  · rintro ⟨⟨_, _, _⟩, ⟨hread, rfl⟩, rfl⟩
    exact hread
  · intro hread
    exact ⟨_, ⟨hread, rfl⟩, rfl⟩

/-! ### Messages -/

/-- The header of a message. -/
def header (m : Message) : Header := ⟨m.kind, m.session, m.channel⟩

/-- The view of a message is read from a dictionary. -/
def ReadFrom (d : Dictionary) : Message → Prop
  | .request m => Request.ofDictionary d = .ok m
  | .response m => Response.ofDictionary d = .ok m
  | .ack m => Ack.ofDictionary d = .ok m
  | .abort m => Abort.ofDictionary d = .ok m

/-- A view is read only from dictionaries with the header of the message. -/
lemma ReadFrom.header_eq {m : Message} (h : ReadFrom d m) :
    Header.ofDictionary d = .ok m.header := by
  cases m with
  | request m => exact (Request.ofDictionary_eq_ok_iff.mp h).1
  | response m => exact (Response.ofDictionary_eq_ok_iff.mp h).1
  | ack m => exact (Ack.ofDictionary_eq_ok_iff.mp h).1
  | abort m => exact Abort.ofDictionary_eq_ok_iff.mp h

/-- A message is read from the dictionaries that its view is read from. -/
theorem ofDictionary_eq_ok_iff {m : Message} :
    Message.ofDictionary d = .ok m ↔ ReadFrom d m := by
  unfold Message.ofDictionary
  rw [Except.bind_eq_ok_iff]
  constructor
  · rintro ⟨⟨kind, session, channel⟩, -, h⟩
    cases kind <;>
    · obtain ⟨_, hview, hm⟩ := Except.bind_eq_ok_iff.mp h
      cases hm
      exact hview
  · intro h
    refine ⟨m.header, h.header_eq, ?_⟩
    cases m <;> exact Except.bind_eq_ok_iff.mpr ⟨_, h, rfl⟩

/-- Under the header of a response the message read is the response read. -/
lemma ofDictionary_of_response_header {session : SessionId} {channel : ChannelId}
    (h : Header.ofDictionary d = .ok ⟨.response, session, channel⟩) :
    Message.ofDictionary d = (Response.ofDictionary d).map .response := by
  unfold Message.ofDictionary
  rw [h]
  rfl

/-- Under the header of an ack the message read is the ack read. -/
lemma ofDictionary_of_ack_header {session : SessionId} {channel : ChannelId}
    (h : Header.ofDictionary d = .ok ⟨.ack, session, channel⟩) :
    Message.ofDictionary d = (Ack.ofDictionary d).map .ack := by
  unfold Message.ofDictionary
  rw [h]
  rfl

/-- A dictionary read as a message has the header of the message. -/
lemma header_of_ofDictionary {m : Message} (h : Message.ofDictionary d = .ok m) :
    Header.ofDictionary d = .ok m.header :=
  (ofDictionary_eq_ok_iff.mp h).header_eq

end Message

end Introduction
