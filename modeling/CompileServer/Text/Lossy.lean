/-!
# Text from any bytes

What a program writes is shown as text even if it is none: every longest beginning of
a character that does not go on, and every byte that begins none, becomes one
replacement character.
-/

namespace CompileServer.Text

/-- A character of which some bytes were read. -/
structure Begun where
  /-- The bits read so far. -/
  code : Nat
  /-- The number of bytes still to come, at least one. -/
  missing : Nat
  /-- The least byte that may come next. -/
  least : UInt8
  /-- The greatest byte that may come next. -/
  greatest : UInt8
deriving DecidableEq, Repr

/-- The character that stands for bytes without a meaning. -/
def replacement : Char := '\ufffd'

/-- Reads the first byte of a character.  The bounds of the second byte keep out spellings
that are too long, surrogates, and everything beyond the last character. -/
def beginChar (b : UInt8) : List Char × Option Begun :=
  if b < 0x80 then ([Char.ofNat b.toNat], none)
  else if b < 0xc2 then ([replacement], none)
  else if b < 0xe0 then ([], some ⟨b.toNat - 0xc0, 1, 0x80, 0xbf⟩)
  else if b < 0xf0 then
    ([], some ⟨b.toNat - 0xe0, 2, if b = 0xe0 then 0xa0 else 0x80,
      if b = 0xed then 0x9f else 0xbf⟩)
  else if b < 0xf5 then
    ([], some ⟨b.toNat - 0xf0, 3, if b = 0xf0 then 0x90 else 0x80,
      if b = 0xf4 then 0x8f else 0xbf⟩)
  else ([replacement], none)

/-- Reads a byte after those of a character that was begun, if there is one. -/
def continueChar (begun : Option Begun) (b : UInt8) : List Char × Option Begun :=
  match begun with
  | none => beginChar b
  | some begun =>
    if begun.least ≤ b && b ≤ begun.greatest then
      let code := begun.code * 0x40 + (b.toNat - 0x80)
      if begun.missing ≤ 1 then ([Char.ofNat code], none)
      else ([], some ⟨code, begun.missing - 1, 0x80, 0xbf⟩)
    else
      let (chars, next) := beginChar b
      (replacement :: chars, next)

/-- The characters of bytes, given the character that was begun before them. -/
def charsOf (begun : Option Begun) : List UInt8 → List Char
  | [] => if begun.isSome then [replacement] else []
  | b :: rest =>
    let (chars, next) := continueChar begun b
    chars ++ charsOf next rest

/-- The text of bytes. -/
def ofBytes (bytes : List UInt8) : String :=
  String.ofList (charsOf none bytes)

end CompileServer.Text
