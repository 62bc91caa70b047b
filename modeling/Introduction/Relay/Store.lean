import Introduction.Relay.Archive

/-!
# Stores that may fail

A store is an archive behind operations that may be refused. The operations of each sort are
numbered from one, and `refuses` says which of them do nothing but fail. An arbitrary `refuses` is
an arbitrary pattern of failures.
-/

namespace Introduction.Relay

/-- The sorts of operation on a store. -/
inductive Operation where
  | get | put | delete | list
  deriving DecidableEq, Repr

/-- The name of an operation in error texts. -/
def Operation.name : Operation → String
  | .get => "get"
  | .put => "put"
  | .delete => "delete"
  | .list => "sessions"

/-- Why an operation on a store fails. -/
inductive StoreError where
  /-- What is stored cannot be decoded. -/
  | wire (cause : WireError)
  /-- The operation was refused; it was the `number`-th of its sort. -/
  | refused (operation : Operation) (number : Nat)
  deriving DecidableEq

/-- The text of a failure. -/
def StoreError.message : StoreError → String
  | .wire cause => cause.message
  | .refused operation number => operation.name ++ " call " ++ toString number ++ " fails"

/-- How many operations of each sort have been asked for. -/
structure Tally where
  gets : Nat := 0
  puts : Nat := 0
  deletes : Nat := 0
  lists : Nat := 0
  deriving DecidableEq, Repr

/-- The number of operations of a sort. -/
def Tally.count (t : Tally) : Operation → Nat
  | .get => t.gets
  | .put => t.puts
  | .delete => t.deletes
  | .list => t.lists

/-- The tally with one operation more. -/
def Tally.bump (t : Tally) : Operation → Tally
  | .get => { t with gets := t.gets + 1 }
  | .put => { t with puts := t.puts + 1 }
  | .delete => { t with deletes := t.deletes + 1 }
  | .list => { t with lists := t.lists + 1 }

/-- An archive whose operations may be refused. -/
structure Store where
  /-- What is stored. -/
  archive : Archive := Archive.empty
  /-- How many operations have been asked for. -/
  tally : Tally := {}
  /-- Which operations are refused, by sort and number. -/
  refuses : Operation → Nat → Bool := fun _ _ => false
  /-- Sessions that are listed although nothing is stored for them. -/
  ghosts : List SessionId := []

namespace Store

/-- Counts an operation, and says whether it is refused. -/
def attempt (s : Store) (operation : Operation) : Except StoreError Unit × Store :=
  let number := s.tally.count operation + 1
  let s := { s with tally := s.tally.bump operation }
  (if s.refuses operation number then .error (.refused operation number) else .ok (), s)

/-- The dictionary stored for a session. -/
def get (s : Store) (id : SessionId) : Except StoreError (Option Dictionary) × Store :=
  match s.attempt .get with
  | (.error e, s) => (.error e, s)
  | (.ok (), s) => ((s.archive.read id).mapError .wire, s)

/-- Stores a dictionary for a session. -/
def put (s : Store) (id : SessionId) (d : Dictionary) : Except StoreError Unit × Store :=
  match s.attempt .put with
  | (.error e, s) => (.error e, s)
  | (.ok (), s) => (.ok (), { s with archive := Archive.write s.archive id d })

/-- Deletes what is stored for a session. -/
def delete (s : Store) (id : SessionId) : Except StoreError Unit × Store :=
  match s.attempt .delete with
  | (.error e, s) => (.error e, s)
  | (.ok (), s) => (.ok (), { s with archive := Archive.delete s.archive id })

/-- The sessions something is stored for, in order, and the ghosts after them. -/
def list (s : Store) : Except StoreError (List SessionId) × Store :=
  match s.attempt .list with
  | (.error e, s) => (.error e, s)
  | (.ok (), s) => (.ok (s.archive.keys ++ s.ghosts), s)

end Store

end Introduction.Relay
