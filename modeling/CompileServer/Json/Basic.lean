import CompileServer.Binary64.Shortest

/-!
# Structured values

Requests, replies and analyses carry free-form structured values.  A whole number
stays a whole number, every other number is a binary64 number, and an object is
the list of its members in the order in which they are written.
-/

namespace CompileServer

/-- A number of a structured value. -/
inductive Number where
  | whole (value : Int)
  | fractional (value : Binary64)
deriving DecidableEq, Repr

/-- The text of a number. -/
def Number.write (style : DecimalStyle) : Number → List Char
  | .whole value => intDigits value
  | .fractional value => value.write style

/-- A structured value. -/
inductive Json where
  | null
  | bool (value : Bool)
  | num (value : Number)
  | str (text : String)
  | arr (items : List Json)
  | obj (members : List (String × Json))
deriving Repr

namespace Json

instance : Inhabited Json := ⟨.null⟩

/-- The members of an object. -/
abbrev Members := List (String × Json)

/-- The member with the given key. -/
def Members.find? (members : Members) (key : String) : Option Json :=
  List.lookup key members

/-- Puts a member into a list sorted by key; a member with the same key is replaced. -/
def Members.insert (key : String) (value : Json) : Members → Members
  | [] => [(key, value)]
  | (other, old) :: rest =>
    if key = other then (key, value) :: rest
    else if key < other then (key, value) :: (other, old) :: rest
    else (other, old) :: Members.insert key value rest

/-- The members sorted by key; of two with one key the later is kept. -/
def Members.sorted (members : Members) : Members :=
  List.foldl (fun kept member => Members.insert member.1 member.2 kept) [] members

/-- The members without the given key. -/
def Members.erase (members : Members) (key : String) : Members :=
  List.filter (fun member => member.1 != key) members

/-- The value of a member of an object. -/
def member? (value : Json) (key : String) : Option Json :=
  match value with
  | .obj members => Members.find? members key
  | _ => none

/-- A whole number. -/
def int (value : Int) : Json :=
  .num (.whole value)

/-- A natural number. -/
def nat (value : Nat) : Json :=
  .num (.whole value)

/-- A list of texts. -/
def strings (texts : List String) : Json :=
  .arr (texts.map .str)

/-- The value, or `null` when there is none. -/
def ofOption {α : Type} (encode : α → Json) : Option α → Json
  | some value => encode value
  | none => .null

mutual

/-- The value with the members of every object sorted by key. -/
def sorted : Json → Json
  | .arr items => .arr (sortedItems items)
  | .obj members => .obj (Members.sorted (sortedMembers members))
  | other => other

/-- The items with the members of every object sorted by key. -/
def sortedItems : List Json → List Json
  | [] => []
  | item :: rest => sorted item :: sortedItems rest

/-- The members with the members of every object in them sorted by key. -/
def sortedMembers : List (String × Json) → List (String × Json)
  | [] => []
  | (key, value) :: rest => (key, sorted value) :: sortedMembers rest

end

end Json

end CompileServer
