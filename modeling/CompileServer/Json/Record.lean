import CompileServer.Json.Decode

/-!
# Decoding records

A record is written as an object, or as the list of its members in their fixed
order.  Members are checked in document order, so the first fault of a document
is the one reported; only then are missing members noticed, in their fixed order.
-/

namespace CompileServer.Json

/-- What it means that a member is missing. -/
inductive Presence where
  /-- The record cannot be read. -/
  | required
  /-- An object without the member has no value for it; a list must give it. -/
  | nullable
  /-- The member has its default. -/
  | defaulted
deriving DecidableEq, Repr

/-- What is checked about one member before the record is put together. -/
structure Entry where
  name : String
  presence : Presence
  check : Decoder Unit

/-- The members of a record, and how the record is put together from their drafts. -/
structure Record (α : Type) where
  entries : List Entry
  build : Reading → (String → Option Draft) → Except Failure α

namespace Record

variable {α β : Type}

instance : Applicative Record where
  pure value := ⟨[], fun _ _ => .ok value⟩
  seq function argument :=
    ⟨function.entries ++ (argument ()).entries, fun reading drafts => do
      let f ← function.build reading drafts
      let value ← (argument ()).build reading drafts
      .ok (f value)⟩

/-- A member that must be there. -/
def required (name : String) (decode : Decoder α) : Record α :=
  ⟨[⟨name, .required, decode.map fun _ => ()⟩], fun reading drafts =>
    match drafts name with
    | some draft => decode reading draft
    | none => .error (.mismatch (.missingField name))⟩

/-- A member that may be missing or `null`. -/
def nullable (name : String) (decode : Decoder α) : Record (Option α) :=
  ⟨[⟨name, .nullable, (Decoder.nullable decode).map fun _ => ()⟩], fun reading drafts =>
    match drafts name with
    | some draft => Decoder.nullable decode reading draft
    | none => .ok none⟩

/-- A member with a default. -/
def defaulted (name : String) (default : α) (decode : Decoder α) : Record α :=
  ⟨[⟨name, .defaulted, decode.map fun _ => ()⟩], fun reading drafts =>
    match drafts name with
    | some draft => decode reading draft
    | none => .ok default⟩

/-- The first member of an object with the given key. -/
def memberDraft (members : List (Option String × Draft)) (name : String) : Option Draft :=
  members.lookup (some name)

/-- Checks members in document order, given the names of the members before them. -/
def checkMembers (entries : List Entry) (reading : Reading) :
    List String → List (Option String × Draft) → Except Failure Unit
  | _, [] => .ok ()
  | _, (none, _) :: _ => .error .malformed
  | seen, (some key, draft) :: rest =>
    match entries.find? fun entry => entry.name == key with
    | none => if draft.canSkip then checkMembers entries reading seen rest else .error .malformed
    | some entry =>
      if seen.contains key then .error (.mismatch (.duplicateField key))
      else do
        entry.check reading draft
        checkMembers entries reading (key :: seen) rest

/-- Fails for the first required member that is missing. -/
def checkMissing (drafts : String → Option Draft) : List Entry → Except Failure Unit
  | [] => .ok ()
  | entry :: rest =>
    if entry.presence = .required && (drafts entry.name).isNone then
      .error (.mismatch (.missingField entry.name))
    else checkMissing drafts rest

/-- A number of elements. -/
def elementCount (n : Nat) : String :=
  if n = 1 then "1 element" else toString n ++ " elements"

/-- How a list with more elements than members is met. -/
def checkExtra (origin : Origin) (count total : Nat) : Except Failure Unit :=
  match origin with
  | .value => .error (.mismatch (.wrongLength total "fewer elements in array"))
  | .text => .error .malformed
  | .setAside => .error (.mismatch (.wrongLength total (elementCount count ++ " in sequence")))
  | .configuration => .ok ()

/-- Checks the elements of a list against the members from position `index` on. -/
def checkElements (reading : Reading) (wanted : String) (closed : Bool) :
    Nat → List Entry → List Draft → Except Failure Unit
  | _, [], [] => if closed then .ok () else .error .malformed
  | index, [], extra :: rest =>
    checkExtra reading.origin index (index + (extra :: rest).length)
  | index, entry :: entries, [] =>
    if !closed then .error .malformed
    else if entry.presence = .defaulted then
      checkElements reading wanted closed (index + 1) entries []
    else .error (.mismatch (.wrongLength index wanted))
  | index, entry :: entries, draft :: drafts => do
    entry.check reading draft
    checkElements reading wanted closed (index + 1) entries drafts

/-- Reads a record with the given name from an object. -/
def fromMembers (record : Record α) (reading : Reading)
    (members : List (Option String × Draft)) (closed : Bool) : Except Failure α := do
  let inside ← enter reading
  checkMembers record.entries inside [] members
  if closed then
    checkMissing (memberDraft members) record.entries
    record.build inside (memberDraft members)
  else .error .malformed

/-- Reads a record with the given name from a list. -/
def fromElements (kind : String) (record : Record α) (reading : Reading)
    (elements : List Draft) (closed : Bool) : Except Failure α := do
  let inside ← enter reading
  let wanted := "struct " ++ kind ++ " with " ++ elementCount record.entries.length
  checkElements inside wanted closed 0 record.entries elements
  record.build inside fun name => ((record.entries.map Entry.name).zip elements).lookup name

/-- Reads a record with the given name. -/
def decoder (kind : String) (record : Record α) : Decoder α
  | reading, .obj members closed => fromMembers record reading members closed
  | reading, .arr elements closed => fromElements kind record reading elements closed
  | _, other => unexpected ("struct " ++ kind) other

end Record

/-- Decodes a value that was read before. -/
def decode {α : Type} (decoder : Decoder α) (value : Json) : Except Failure α :=
  decoder .value (.ofJson value)

/-- Decodes a document. -/
def decodeDocument {α : Type} (decoder : Decoder α) (document : Document) : Except Failure α := do
  let value ← decoder .text document.root
  if document.trailing then .error .malformed else .ok value

/-- Decodes the text of a document. -/
def decodeText {α : Type} (decoder : Decoder α) (text : String) : Except Failure α :=
  decodeDocument decoder (.ofText text)

end CompileServer.Json
