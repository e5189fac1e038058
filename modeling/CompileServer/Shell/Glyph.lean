/-!
# Glyphs

A word that was expanded is a list of glyphs.  They remember where a character comes from,
which decides whether it separates texts and whether it has a meaning in patterns.
-/

namespace CompileServer.Shell

/-- A part of an expanded word. -/
inductive Glyph where
  /-- A quoted character, which stands for itself. -/
  | fixed (c : Char)
  /-- A character of the word itself. -/
  | plain (c : Char)
  /-- A character of a value, which may separate texts. -/
  | loose (c : Char)
  /-- A place with quotes: there is a text here even if it is empty. -/
  | quotes
  /-- The end of an argument of which there are several. -/
  | cut
  /-- A gap between values, which separates texts like a blank. -/
  | gap
deriving DecidableEq, Repr

namespace Glyph

/-- The character of a glyph that has one. -/
def char? : Glyph → Option Char
  | .fixed c => some c
  | .plain c => some c
  | .loose c => some c
  | _ => none

/-- The text of some glyphs. -/
def text (glyphs : List Glyph) : String :=
  String.ofList (glyphs.filterMap char?)

/-- Whether a character is a blank that separates texts without leaving empty ones. -/
def isBlank (c : Char) : Bool :=
  c = ' ' || c = '\t' || c = '\n'

/-- What a glyph does to the text that it stands in. -/
inductive Effect where
  /-- It belongs to the text. -/
  | continues
  /-- It separates texts as a blank does. -/
  | spaces
  /-- It ends a text, which may be empty. -/
  | ends
deriving DecidableEq, Repr

/-- The effect of a glyph where the given characters separate texts. -/
def effect (separators : List Char) : Glyph → Effect
  | .loose c =>
    if !separators.contains c then .continues else if isBlank c then .spaces else .ends
  | .cut => .ends
  | .gap => .spaces
  | _ => .continues

/-- Splits glyphs into texts.  `current` is the text at hand in reverse, and `absorbs` says that
blanks ended the text before, so that a separator among them is part of the gap. -/
def splitFrom (separators : List Char) (current : List Glyph) (absorbs : Bool) :
    List Glyph → List (List Glyph)
  | [] => if current.isEmpty then [] else [current.reverse]
  | glyph :: rest =>
    match glyph.effect separators with
    | .continues => splitFrom separators (glyph :: current) false rest
    | .spaces =>
      if current.isEmpty then splitFrom separators [] absorbs rest
      else current.reverse :: splitFrom separators [] true rest
    | .ends =>
      if absorbs && glyph ≠ .cut then splitFrom separators [] false rest
      else current.reverse :: splitFrom separators [] false rest

/-- Splits glyphs into texts where the given characters separate them. -/
def split (separators : List Char) (glyphs : List Glyph) : List (List Glyph) :=
  splitFrom separators [] false glyphs

/-- The first text, and what follows the separator after it. -/
def takeField (separators : List Char) (glyphs : List Glyph) : List Glyph × List Glyph :=
  let spaces := fun (glyph : Glyph) => decide (glyph.effect separators = .spaces)
  let start := glyphs.dropWhile spaces
  let field := start.takeWhile fun glyph => decide (glyph.effect separators = .continues)
  match (start.drop field.length).dropWhile spaces with
  | [] => (field, [])
  | glyph :: rest =>
    if glyph.effect separators = .ends then (field, rest.dropWhile spaces)
    else (field, glyph :: rest)

/-- Splits glyphs into the given number of texts.  The last of them takes what is left, and is
split at no separators unless nothing follows the first of them. -/
def splitUpTo (separators : List Char) : Nat → List Glyph → List (List Glyph)
  | 0, _ => []
  | 1, glyphs =>
    match split separators glyphs with
    | [] => [[]]
    | [field] => [field]
    | _ =>
      let spaces := fun (glyph : Glyph) => decide (glyph.effect separators = .spaces)
      [((glyphs.dropWhile spaces).reverse.dropWhile spaces).reverse]
  | count + 1, glyphs =>
    let (field, rest) := takeField separators glyphs
    field :: splitUpTo separators count rest

end Glyph

end CompileServer.Shell
