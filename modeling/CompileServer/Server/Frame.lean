import CompileServer.Text.Blank
import CompileServer.Wire.Decode

/-!
# Frames

The input is cut into lines at every line feed; what follows the last one is a line
too unless it is empty.  A line that is no text is a frame of its own kind.
-/

namespace CompileServer

/-- A line of the input. -/
inductive Frame where
  | line (text : String)
  /-- The bytes of the line are no text. -/
  | notText
deriving DecidableEq, Repr

namespace Frame

/-- The pieces of the input between line feeds, at least one. -/
def pieces : List UInt8 → List (List UInt8)
  | [] => [[]]
  | b :: rest =>
    if b = 0x0a then [] :: pieces rest
    else match pieces rest with
      | [] => [[b]]
      | piece :: more => (b :: piece) :: more

/-- The frame that holds some bytes. -/
def ofPiece (bytes : List UInt8) : Frame :=
  match String.fromUTF8? ⟨bytes.toArray⟩ with
  | some text => .line text
  | none => .notText

/-- The frames of the input. -/
def ofBytes (bytes : List UInt8) : List Frame :=
  let found := pieces bytes
  (if found.getLast? = some [] then found.dropLast else found).map ofPiece

end Frame

/-- What a line asks for. -/
inductive Incoming where
  /-- Nothing. -/
  | blank
  /-- It is no request. -/
  | faulty (failure : Json.Failure)
  /-- It is a request. -/
  | request (request : Request)

/-- What a line asks for. -/
def Incoming.ofLine (text : String) : Incoming :=
  let trimmed := Text.trim text
  if trimmed = "" then .blank
  else match Json.decodeText Request.decoder trimmed with
    | .ok found => .request found
    | .error failure => .faulty failure

end CompileServer
