import Introduction.Proofs.Message.Wire
import Introduction.Session.LocalAction

/-!
# Views

Which dictionaries a message, or a local action, is read from.

A view is read from exactly those dictionaries that hold the entries of its wire form.  Entries that
it knows nothing about do not matter, and a note is present in both or in neither.  A time that the
wire cannot hold is the only thing that is lost in writing.

The views of a message are the four of `view`, one for each kind.  Each begins with the header.  If
that cannot be read, all four fail over what is wrong with it; otherwise all but the one that the
header names fail, and to read a message is to read that one (`Message.ofDictionary_eq_view`).  A
dictionary is therefore read through one view at most.

The main statement is `views_of_dictionary`.
-/

namespace Introduction

namespace Message

variable {d e : Dictionary}

/-! ### Which dictionaries a view is read from -/

/-- A header is read from the dictionaries that hold its entries. -/
lemma Header.ofDictionary_eq_ok_iff_extends {h : Header} :
    Header.ofDictionary d = .ok h ↔ d.Extends h.toDictionary := by
  rw [Header.ofDictionary_eq_ok_iff]
  constructor
  · rintro ⟨htype, hsession, hchannel⟩
    exact (((Dictionary.extends_empty d).insert htype).insert hsession).insert hchannel
  · intro hextends
    exact ⟨hextends _ _ rfl, hextends _ _ rfl, hextends _ _ rfl⟩

/-- A header is also read from a dictionary with more entries. -/
lemma Header.ofDictionary_of_extends {h : Header} (hextends : d.Extends e)
    (hread : Header.ofDictionary e = .ok h) : Header.ofDictionary d = .ok h := by
  obtain ⟨htype, hsession, hchannel⟩ := Header.ofDictionary_eq_ok_iff.mp hread
  exact Header.ofDictionary_eq_ok_iff.mpr
    ⟨hextends _ _ htype, hextends _ _ hsession, hextends _ _ hchannel⟩

/-- A request is read from the dictionaries that hold its entries and have a note if it has one. -/
theorem Request.spells : Dictionary.Spells Request.ofDictionary Request.toDictionary id
    fun _ => [Key.note] := by
  refine Dictionary.spells_of_read_iff fun d m => ?_
  obtain ⟨hheader, hname, hkey, hnote⟩ :=
    Request.ofDictionary_eq_ok_iff.mp m.ofDictionary_toDictionary
  rw [Request.ofDictionary_eq_ok_iff, List.forall_mem_singleton]
  constructor
  · rintro ⟨hheader', hname', hkey', hnote'⟩
    have hextends := Header.ofDictionary_eq_ok_iff_extends.mp hheader'
    refine ⟨((hextends.insert hname').insert hkey').insertSome hnote', ?_⟩
    rw [Ascending.contains, Ascending.contains, hnote, hnote']
  · rintro ⟨hextends, hcontains⟩
    exact ⟨Header.ofDictionary_of_extends hextends hheader, hextends _ _ hname, hextends _ _ hkey,
      by rw [hextends.get?_eq hcontains, hnote]⟩

/-- The time of a response is kept if the wire holds it. -/
lemma Response.clamped_eq_iff {m : Response} : m.clamped = m ↔ m.time.toNat < 2 ^ 63 := by
  have hmin : (UInt64.ofNat (min m.time.toNat (2 ^ 63 - 1))).toNat =
      min m.time.toNat (2 ^ 63 - 1) := by
    rw [UInt64.toNat_ofNat']
    omega
  constructor
  · intro h
    have htime : m.clamped.time.toNat = m.time.toNat := by rw [h]
    rw [Response.clamped, hmin] at htime
    omega
  · intro h
    have htime : UInt64.ofNat (min m.time.toNat (2 ^ 63 - 1)) = m.time :=
      UInt64.toNat_inj.mp (by rw [hmin]; omega)
    rw [Response.clamped, htime]

/-- A response keeps its time, or the last one that the wire holds. -/
lemma Response.clamped_eq (m : Response) : m.clamped =
    if m.time.toNat ≤ 2 ^ 63 - 1 then m else { m with time := UInt64.ofNat (2 ^ 63 - 1) } := by
  split_ifs with h
  · exact Response.clamped_eq_iff.mpr (by omega)
  · rw [Response.clamped, Nat.min_eq_right (by omega)]

/-- A time that is read from the wire is written as it was. -/
lemma Response.signedTime_eq {time : Int64} (h : 0 ≤ time.toInt) :
    signedTime (UInt64.ofNat time.toInt.toNat) = time ∧
      (UInt64.ofNat time.toInt.toNat).toNat < 2 ^ 63 := by
  have hlt : time.toInt < 2 ^ 63 := time.toInt_lt
  have hnat : (UInt64.ofNat time.toInt.toNat).toNat = time.toInt.toNat := by
    rw [UInt64.toNat_ofNat']
    omega
  refine ⟨Int64.toInt_inj.mp ?_, by omega⟩
  rw [signedTime, hnat, if_pos (by omega), Int64.toInt_ofNat_of_lt (by omega)]
  omega

/-- A response is read from the dictionaries that hold its entries, if the wire holds its time. -/
theorem Response.spells : Dictionary.Spells Response.ofDictionary Response.toDictionary
    Response.clamped fun _ => [] := by
  refine ⟨Response.ofDictionary_toDictionary, fun d m => ?_⟩
  rw [Response.ofDictionary_eq_ok_iff, Response.clamped_eq_iff]
  constructor
  · rintro ⟨hheader, ⟨time, htime, hnonneg, hm⟩, hmessage, haccept⟩
    obtain ⟨hsigned, hlt⟩ := Response.signedTime_eq hnonneg
    rw [hm] at hsigned hlt
    rw [← hsigned] at htime
    have hextends := Header.ofDictionary_eq_ok_iff_extends.mp hheader
    exact ⟨hlt, ((hextends.insert hmessage).insert htime).insert haccept, nofun⟩
  · rintro ⟨hlt, hextends, -⟩
    obtain ⟨hheader, ⟨time, htime, hnonneg, hm⟩, hmessage, haccept⟩ :=
      Response.ofDictionary_eq_ok_iff.mp m.ofDictionary_toDictionary
    rw [Response.clamped_eq_iff.mpr hlt] at hheader hm hmessage haccept
    exact ⟨Header.ofDictionary_of_extends hextends hheader,
      ⟨time, hextends _ _ htime, hnonneg, hm⟩, hextends _ _ hmessage, hextends _ _ haccept⟩

/-- An ack is read from the dictionaries that hold its entries. -/
theorem Ack.spells : Dictionary.Spells Ack.ofDictionary Ack.toDictionary id fun _ => [] := by
  refine Dictionary.spells_of_read_iff fun d m => ?_
  obtain ⟨hheader, hmessage⟩ := Ack.ofDictionary_eq_ok_iff.mp m.ofDictionary_toDictionary
  rw [Ack.ofDictionary_eq_ok_iff]
  constructor
  · rintro ⟨hheader', hmessage'⟩
    exact ⟨(Header.ofDictionary_eq_ok_iff_extends.mp hheader').insert hmessage', nofun⟩
  · rintro ⟨hextends, -⟩
    exact ⟨Header.ofDictionary_of_extends hextends hheader, hextends _ _ hmessage⟩

/-- An abort is read from the dictionaries that hold its header. -/
theorem Abort.spells : Dictionary.Spells Abort.ofDictionary Abort.toDictionary id fun _ => [] := by
  refine Dictionary.spells_of_read_iff fun d m => ?_
  rw [Abort.ofDictionary_eq_ok_iff, Header.ofDictionary_eq_ok_iff_extends]
  exact ⟨fun h => ⟨h, nofun⟩, fun h => h.1⟩

/-! ### The view that the header names -/

/-- Reads the view of a kind. -/
def view (kind : Kind) (d : Dictionary) : Except WireError Message :=
  match kind with
  | .request => (Request.ofDictionary d).map .request
  | .response => (Response.ofDictionary d).map .response
  | .ack => (Ack.ofDictionary d).map .ack
  | .abort => (Abort.ofDictionary d).map .abort

/-- A view fails over what is wrong with the header. -/
lemma view_of_expect_error {kind : Kind} {error : WireError}
    (h : Header.expect kind d = .error error) : view kind d = .error error := by
  cases kind with
  | request =>
    unfold view Request.ofDictionary
    rw [h]
    rfl
  | response =>
    unfold view Response.ofDictionary
    rw [h]
    rfl
  | ack =>
    unfold view Ack.ofDictionary
    rw [h]
    rfl
  | abort =>
    unfold view Abort.ofDictionary
    rw [h]
    rfl

/-- Without a header no view is read. -/
lemma view_of_header_error {error : WireError} (h : Header.ofDictionary d = .error error)
    (kind : Kind) : view kind d = .error error :=
  view_of_expect_error (by rw [Header.expect, h]; rfl)

/-- A view of another kind than the header names is not read. -/
lemma view_of_header_ne {header : Header} (h : Header.ofDictionary d = .ok header) {kind : Kind}
    (hkind : kind ≠ header.kind) : view kind d = .error (.wrongMessage kind header.kind) := by
  refine view_of_expect_error ?_
  rw [Header.expect, h]
  exact if_neg hkind.symm

/-- To read a message is to read the view that the header names. -/
lemma ofDictionary_eq_view {header : Header} (h : Header.ofDictionary d = .ok header) :
    Message.ofDictionary d = view header.kind d := by
  obtain ⟨kind, session, channel⟩ := header
  unfold Message.ofDictionary
  rw [h]
  cases kind <;> rfl

/-- Without a header no message is read. -/
lemma ofDictionary_of_header_error {error : WireError}
    (h : Header.ofDictionary d = .error error) : Message.ofDictionary d = .error error := by
  unfold Message.ofDictionary
  rw [h]
  rfl

/-- A dictionary is read through one view at most, and reading a message finds it. -/
structure ReadThroughOneView (d : Dictionary) : Prop where
  /-- At most one view is read. -/
  unique : ∀ kind kind' m m', view kind d = .ok m → view kind' d = .ok m' → kind = kind'
  /-- A message is read if a view is, and the same one. -/
  ok_iff : ∀ m, Message.ofDictionary d = .ok m ↔ ∃ kind, view kind d = .ok m
  /-- If none is read, that is for the error of the view that the header names, or for that of the
  header, which all four views have then. -/
  error_cases : ∀ error, Message.ofDictionary d = .error error →
    (∃ header, Header.ofDictionary d = .ok header ∧ view header.kind d = .error error) ∨
      (Header.ofDictionary d = .error error ∧ ∀ kind, view kind d = .error error)

/-- Every dictionary is read through one view at most. -/
theorem readThroughOneView (d : Dictionary) : ReadThroughOneView d := by
  cases hheader : Header.ofDictionary d with
  | error cause =>
    have hview := view_of_header_error hheader
    have hread := ofDictionary_of_header_error hheader
    refine ⟨fun kind _ m _ h => ?_, fun m => ⟨fun h => ?_, fun ⟨kind, h⟩ => ?_⟩, fun error h => ?_⟩
    · cases (hview kind).symm.trans h
    · cases hread.symm.trans h
    · cases (hview kind).symm.trans h
    · cases hread.symm.trans h
      exact .inr ⟨hheader, hview⟩
  | ok header =>
    have hread := ofDictionary_eq_view hheader
    have hkind : ∀ kind m, view kind d = .ok m → kind = header.kind := by
      intro kind m h
      by_contra hne
      cases (view_of_header_ne hheader hne).symm.trans h
    refine ⟨fun kind kind' m m' h h' => ?_, fun m => ⟨fun h => ?_, fun ⟨kind, h⟩ => ?_⟩,
      fun error h => ?_⟩
    · rw [hkind kind m h, hkind kind' m' h']
    · exact ⟨header.kind, hread ▸ h⟩
    · rw [hread, ← hkind kind m h, h]
    · exact .inl ⟨header, hheader, hread ▸ h⟩

end Message

/-! ### Local actions -/

namespace Session.LocalAction

variable {d : Dictionary} {a : LocalAction}

/-- The keys that a local action may have or not have. -/
def optionalKeys : LocalAction → List String
  | .request .. => [Key.note]
  | .abort => []

/-- A request is read from a dictionary that holds its entries. -/
lemma readRequest_eq_ok_iff :
    readRequest d = .ok a ↔
      ∃ publicKey₁ publicKey₂ note, a = .request publicKey₁ publicKey₂ note ∧
        d.get? (Key.publicKeyOf .first) = some (.raw publicKey₁) ∧
          d.get? (Key.publicKeyOf .second) = some (.raw publicKey₂) ∧
            d.get? Key.note = note.map .string := by
  unfold readRequest
  simp only [Except.bind_eq_ok_iff, Except.pure_eq_ok_iff, Dictionary.getRaw_eq_ok_iff,
    Dictionary.getString?_eq_ok_iff]
  constructor
  · rintro ⟨key₁, hkey₁, key₂, hkey₂, note, hnote, rfl⟩
    exact ⟨key₁, key₂, note, rfl, hkey₁, hkey₂, hnote⟩
  · rintro ⟨key₁, key₂, note, rfl, hkey₁, hkey₂, hnote⟩
    exact ⟨key₁, hkey₁, key₂, hkey₂, note, hnote, rfl⟩

/-- A local action is read from a dictionary by its type number. -/
lemma ofDictionary_eq_ok_iff :
    ofDictionary d = .ok a ↔
      (d.get? Key.type = some (.int Message.Kind.request.number) ∧ readRequest d = .ok a) ∨
        (d.get? Key.type = some (.int Message.Kind.abort.number) ∧ a = .abort) := by
  unfold ofDictionary
  constructor
  · intro h
    cases hnumber : d.getInt Key.type with
    | error e =>
      rw [hnumber] at h
      cases h
    | ok number =>
      rw [hnumber] at h
      rw [Dictionary.getInt_eq_ok_iff] at hnumber
      dsimp only at h
      split at h
      · rename_i hkind
        rw [Message.Kind.ofNumber?_eq_some_iff.mp hkind] at hnumber
        refine .inl ⟨hnumber, ?_⟩
        cases hread : readRequest d with
        | error e =>
          rw [hread] at h
          cases h
        | ok a' =>
          rw [hread] at h
          cases h
          rfl
      · rename_i hkind
        rw [Message.Kind.ofNumber?_eq_some_iff.mp hkind] at hnumber
        cases h
        exact .inr ⟨hnumber, rfl⟩
      · cases h
  · rintro (⟨htype, hread⟩ | ⟨htype, rfl⟩)
    · rw [Dictionary.getInt_eq_ok_iff.mpr htype]
      simp only [Message.Kind.ofNumber?_number, hread]
      rfl
    · rw [Dictionary.getInt_eq_ok_iff.mpr htype]
      simp only [Message.Kind.ofNumber?_number]

/-- A local action is read from the dictionaries that hold its entries; if it is a request, they
have a note if it has one. -/
theorem spells : Dictionary.Spells ofDictionary toDictionary (fun action => action)
    optionalKeys := by
  refine Dictionary.spells_of_read_iff fun d a => ?_
  rw [ofDictionary_eq_ok_iff, readRequest_eq_ok_iff]
  cases a with
  | abort =>
    constructor
    · rintro (⟨-, _, _, _, h, -⟩ | ⟨htype, -⟩)
      · cases h
      · exact ⟨(Dictionary.extends_empty d).insert htype, nofun⟩
    · rintro ⟨hextends, -⟩
      exact .inr ⟨hextends _ _ rfl, rfl⟩
  | request key₁ key₂ note =>
    have hnote : (request key₁ key₂ note).toDictionary.get? Key.note = note.map .string := by
      simp [toDictionary, Dictionary.get?_insertSome, OrderedMap.get?_insert, Key.type,
        Key.publicKeyOf, Key.note]
    rw [optionalKeys, List.forall_mem_singleton]
    constructor
    · rintro (⟨htype, _, _, _, h, hkey₁, hkey₂, hd⟩ | ⟨-, h⟩)
      · cases h
        have hextends := (Dictionary.extends_empty d).insert htype
        refine ⟨((hextends.insert hkey₁).insert hkey₂).insertSome hd, ?_⟩
        rw [Ascending.contains, Ascending.contains, hnote, hd]
      · cases h
    · rintro ⟨hextends, hcontains⟩
      refine .inl ⟨hextends _ _ ?_, key₁, key₂, note, rfl, hextends _ _ ?_, hextends _ _ ?_, ?_⟩
      · simp [toDictionary, Dictionary.get?_insertSome, OrderedMap.get?_insert, Key.type,
          Key.publicKeyOf, Key.note]
      · simp [toDictionary, Dictionary.get?_insertSome, OrderedMap.get?_insert,
          Key.publicKeyOf, Key.note]
      · simp [toDictionary, Dictionary.get?_insertSome, OrderedMap.get?_insert,
          Key.publicKeyOf, Key.note]
      · rw [hextends.get?_eq hcontains, hnote]

end Session.LocalAction

/-- Messages and local actions are read back from their dictionaries, up to a time that the wire
cannot hold, and are read only from dictionaries that hold their entries and have a note if they do.
Of the four views of a message at most one is read from a dictionary, and to read a message is to
read the view that the header names. -/
theorem views_of_dictionary :
    (Dictionary.Spells Message.Request.ofDictionary Message.Request.toDictionary id
        (fun _ => [Key.note]) ∧
      Dictionary.Spells Message.Response.ofDictionary Message.Response.toDictionary
        Message.Response.clamped (fun _ => []) ∧
      Dictionary.Spells Message.Ack.ofDictionary Message.Ack.toDictionary id (fun _ => []) ∧
      Dictionary.Spells Message.Abort.ofDictionary Message.Abort.toDictionary id (fun _ => []) ∧
      Dictionary.Spells Session.LocalAction.ofDictionary Session.LocalAction.toDictionary id
        Session.LocalAction.optionalKeys) ∧
      (∀ m : Message.Response, m.clamped =
        if m.time.toNat ≤ 2 ^ 63 - 1 then m else { m with time := UInt64.ofNat (2 ^ 63 - 1) }) ∧
        ∀ d, Message.ReadThroughOneView d :=
  ⟨⟨Message.Request.spells, Message.Response.spells, Message.Ack.spells, Message.Abort.spells,
    Session.LocalAction.spells⟩, Message.Response.clamped_eq, Message.readThroughOneView⟩

end Introduction
