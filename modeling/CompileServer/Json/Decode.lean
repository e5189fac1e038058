import CompileServer.Json.Scanner
import CompileServer.Text.Quoted

/-!
# Decoding structured values

A decoder turns a draft into a value of a chosen type or names the first thing
that does not fit.  Where the draft comes from decides a few of the rules: a
value already known, the text of a document, members set aside to be read later,
or a configuration document.
-/

namespace CompileServer.Json

/-- Where a draft comes from. -/
inductive Origin where
  /-- A value that was read before. -/
  | value
  /-- The text of a document, read on the way. -/
  | text
  /-- Members that were set aside and are read after all of them were seen. -/
  | setAside
  /-- A configuration document. -/
  | configuration
deriving DecidableEq, Repr

/-- How a draft is read: where it comes from and how many containers may still be entered. -/
structure Reading where
  origin : Origin
  room : Option Nat
deriving DecidableEq, Repr

/-- Reading a value that was read before. -/
def Reading.value : Reading := ⟨.value, none⟩

/-- Reading a document, at most 127 containers deep. -/
def Reading.text : Reading := ⟨.text, some 127⟩

/-- Reading a configuration document. -/
def Reading.configuration : Reading := ⟨.configuration, none⟩

/-- What was found in place of something else. -/
inductive Found where
  | null
  | bool (value : Bool)
  | num (value : Number)
  | str (text : String)
  | sequence
  | map
deriving DecidableEq, Repr

/-- The words for what was found. -/
def Found.describe : Found → String
  | .null => "null"
  | .bool true => "boolean \x60true\x60"
  | .bool false => "boolean \x60false\x60"
  | .num (.whole n) => "integer \x60" ++ toString n ++ "\x60"
  | .num (.fractional x) => "floating point \x60" ++ String.ofList (x.write .document) ++ "\x60"
  | .str text => "string " ++ Text.quoted text
  | .sequence => "sequence"
  | .map => "map"

/-- How a value can fail to have the wanted shape. -/
inductive Mismatch where
  | wrongType (found : Found) (expected : String)
  | wrongValue (found : Found) (expected : String)
  | wrongLength (length : Nat) (expected : String)
  | missingField (name : String)
  | duplicateField (name : String)
  | unknownVariant (found : String) (expected : List String)
deriving DecidableEq, Repr

/-- A name between backquotes. -/
def named (name : String) : String :=
  "\x60" ++ name ++ "\x60"

/-- The words for a list of names of which one was expected. -/
def oneOf : List String → String
  | [] => "there are no variants"
  | [name] => "expected " ++ named name
  | [first, second] => "expected " ++ named first ++ " or " ++ named second
  | names => "expected one of " ++ ", ".intercalate (names.map named)

/-- The message of a mismatch. -/
def Mismatch.message : Mismatch → String
  | .wrongType found expected => "invalid type: " ++ found.describe ++ ", expected " ++ expected
  | .wrongValue found expected => "invalid value: " ++ found.describe ++ ", expected " ++ expected
  | .wrongLength length expected =>
    "invalid length " ++ toString length ++ ", expected " ++ expected
  | .missingField name => "missing field " ++ named name
  | .duplicateField name => "duplicate field " ++ named name
  | .unknownVariant found expected => "unknown variant " ++ named found ++ ", " ++ oneOf expected

/-- Why a value could not be decoded: it has another shape, it lacks every one of some
alternatives, or its text is faulty. -/
inductive Failure where
  | mismatch (reason : Mismatch)
  | noVariant (kind : String)
  | malformed
deriving DecidableEq, Repr

/-- The message of a failure; the wording for faulty text is not fixed any further. -/
def Failure.message : Failure → String
  | .mismatch reason => reason.message
  | .noVariant kind => "no variant of enum " ++ kind ++ " found in flattened data"
  | .malformed => "<json syntax>"

/-- Reads values of one type. -/
abbrev Decoder (α : Type) := Reading → Draft → Except Failure α

/-- Fails for what was found in place of what was expected. -/
def unexpected {α : Type} (expected : String) : Draft → Except Failure α
  | .null => .error (.mismatch (.wrongType .null expected))
  | .bool value => .error (.mismatch (.wrongType (.bool value) expected))
  | .num value => .error (.mismatch (.wrongType (.num value) expected))
  | .str text => .error (.mismatch (.wrongType (.str text) expected))
  | .arr _ _ => .error (.mismatch (.wrongType .sequence expected))
  | .obj _ _ => .error (.mismatch (.wrongType .map expected))
  | .unreadable => .error .malformed
  | .broken => .error .malformed

/-- Enters a container, if the nesting is not too deep. -/
def enter (reading : Reading) : Except Failure Reading :=
  match reading.room with
  | none => .ok reading
  | some 0 => .error .malformed
  | some (room + 1) => .ok { reading with room := some room }

namespace Decoder

variable {α β : Type}

/-- Applies a function to what was decoded. -/
def map (f : α → β) (decode : Decoder α) : Decoder β :=
  fun reading draft => (decode reading draft).map f

/-- A text, in messages called `expected`. -/
def text (expected : String) : Decoder String
  | _, .str text => .ok text
  | _, other => unexpected expected other

/-- A text. -/
def string : Decoder String :=
  text "a string"

/-- A whole number between two bounds. -/
def whole (kind : String) (low high : Int) : Decoder Int
  | _, .num (.whole n) =>
    if low ≤ n && n ≤ high then .ok n
    else .error (.mismatch (.wrongValue (.num (.whole n)) kind))
  | _, other => unexpected kind other

/-- A natural number below `2 ^ 32`. -/
def natural32 : Decoder Nat :=
  map Int.toNat (whole "u32" 0 0xffffffff)

/-- An integer of 32 bits. -/
def integer32 : Decoder Int :=
  whole "i32" (-0x80000000) 0x7fffffff

/-- A natural number below `2 ^ 64`, in messages called `kind`. -/
def natural64 (kind : String) : Decoder Nat :=
  map Int.toNat (whole kind 0 0xffffffffffffffff)

/-- A value, or nothing for `null`. -/
def nullable (decode : Decoder α) : Decoder (Option α)
  | _, .null => .ok none
  | reading, draft => (decode reading draft).map some

/-- Any value. -/
def any : Decoder Json
  | reading, draft =>
    match draft.toJson? reading.room with
    | some value => .ok value
    | none => .error .malformed

/-- The members of any object. -/
def members : Decoder Members
  | reading, .obj found closed =>
    match (Draft.obj found closed).toJson? reading.room with
    | some (.obj members) => .ok members
    | _ => .error .malformed
  | _, other => unexpected "a map" other

/-- Decodes items in order. -/
def items (decode : Decoder α) (reading : Reading) : List Draft → Except Failure (List α)
  | [] => .ok []
  | item :: rest => do
    let value ← decode reading item
    let values ← items decode reading rest
    .ok (value :: values)

/-- A list. -/
def list (decode : Decoder α) : Decoder (List α)
  | reading, .arr drafts closed => do
    let inside ← enter reading
    let values ← items decode inside drafts
    if closed then .ok values else .error .malformed
  | _, other => unexpected "a sequence" other

/-- The value that goes with a name. -/
def variantNamed (variants : List (String × α)) (name : String) : Except Failure α :=
  match variants.lookup name with
  | some value => .ok value
  | none => .error (.mismatch (.unknownVariant name (variants.map Prod.fst)))

/-- Whether a draft stands for a variant without contents. -/
def emptyContents : Decoder Unit
  | _, .null => .ok ()
  | ⟨.setAside, _⟩, .obj [] true => .ok ()
  | _, other => unexpected "unit" other

/-- One of some named values: its name, or an object whose only key is its name. -/
def choice (variants : List (String × α)) : Decoder α
  | _, .str name => variantNamed variants name
  | reading, .obj members closed =>
    match reading.origin with
    | .text => do
      let inside ← enter reading
      match members with
      | (some name, contents) :: rest => do
        let value ← variantNamed variants name
        emptyContents inside contents
        if closed && rest.isEmpty then .ok value else .error .malformed
      | _ => .error .malformed
    | _ =>
      match members with
      | [(some name, contents)] => do
        let value ← variantNamed variants name
        emptyContents reading contents
        .ok value
      | _ => .error (.mismatch (.wrongValue .map "map with a single key"))
  | ⟨.text, _⟩, _ => .error .malformed
  | _, other => unexpected "string or map" other

end Decoder

end CompileServer.Json
