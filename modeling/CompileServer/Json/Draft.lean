import CompileServer.Json.Basic

/-!
# Drafts of structured values

A draft is what a reader finds in a document before it knows which values are
wanted: members in document order with repetitions, and the place where the
document stops making sense.  Faults inside a part that nobody wants are
noticed only if they keep the reader from finding the end of that part.
-/

namespace CompileServer

/-- A value as it stands in a document. -/
inductive Draft where
  | null
  | bool (value : Bool)
  | num (value : Number)
  | str (text : String)
  /-- A scalar that can be passed over but has no value. -/
  | unreadable
  /-- Nothing that could be a value. -/
  | broken
  /-- The items up to the end of the list, or up to a fault when not `closed`. -/
  | arr (items : List Draft) (closed : Bool)
  /-- The members up to the end of the object, or up to a fault when not `closed`.  A key
  without a value of its own is `none`. -/
  | obj (members : List (Option String × Draft)) (closed : Bool)
deriving Repr

namespace Draft

instance : Inhabited Draft := ⟨.broken⟩

mutual

/-- The draft of a value that is already known. -/
def ofJson : Json → Draft
  | .null => .null
  | .bool value => .bool value
  | .num value => .num value
  | .str text => .str text
  | .arr items => .arr (ofItems items) true
  | .obj members => .obj (ofMembers members) true

/-- The drafts of known items. -/
def ofItems : List Json → List Draft
  | [] => []
  | item :: rest => ofJson item :: ofItems rest

/-- The drafts of known members. -/
def ofMembers : List (String × Json) → List (Option String × Draft)
  | [] => []
  | (key, value) :: rest => (some key, ofJson value) :: ofMembers rest

end

mutual

/-- Whether a reader that does not want the value can find its end. -/
def canSkip : Draft → Bool
  | .broken => false
  | .arr items closed => closed && canSkipItems items
  | .obj members closed => closed && canSkipMembers members
  | _ => true

/-- Whether every item can be skipped. -/
def canSkipItems : List Draft → Bool
  | [] => true
  | item :: rest => canSkip item && canSkipItems rest

/-- Whether every member can be skipped. -/
def canSkipMembers : List (Option String × Draft) → Bool
  | [] => true
  | (_, value) :: rest => canSkip value && canSkipMembers rest

end

mutual

/-- The value of a draft without faults, at most `room` containers deep if that is limited. -/
def toJson? (room : Option Nat) : Draft → Option Json
  | .null => some .null
  | .bool value => some (.bool value)
  | .num value => some (.num value)
  | .str text => some (.str text)
  | .unreadable => none
  | .broken => none
  | .arr items closed =>
    if closed && room != some 0 then (itemsToJson? (room.map (· - 1)) items).map .arr else none
  | .obj members closed =>
    if closed && room != some 0 then
      (membersToJson? (room.map (· - 1)) members).map fun found => .obj (Json.Members.sorted found)
    else none

/-- The values of items without faults. -/
def itemsToJson? (room : Option Nat) : List Draft → Option (List Json)
  | [] => some []
  | item :: rest =>
    match toJson? room item, itemsToJson? room rest with
    | some value, some values => some (value :: values)
    | _, _ => none

/-- The members without faults, in document order. -/
def membersToJson? (room : Option Nat) :
    List (Option String × Draft) → Option (List (String × Json))
  | [] => some []
  | (key, item) :: rest =>
    match key, toJson? room item, membersToJson? room rest with
    | some key, some value, some values => some ((key, value) :: values)
    | _, _, _ => none

end

end Draft

end CompileServer
