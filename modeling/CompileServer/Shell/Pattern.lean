import CompileServer.Shell.Glyph

/-!
# Patterns

A pattern matches texts character by character.  Quoted characters stand for themselves
in it.
-/

namespace CompileServer.Shell

/-- A member of a set of characters in a pattern. -/
inductive Member where
  /-- The characters from one to another. -/
  | range (low high : Char)
  /-- The characters of a kind that has a name. -/
  | kind (name : String)
deriving DecidableEq, Repr

/-- A part of a pattern. -/
inductive PatternPart where
  | char (c : Char)
  /-- Any character. -/
  | one
  /-- Any characters, or none. -/
  | many
  /-- A character of a set, or one that is not in the set. -/
  | set (negated : Bool) (members : List Member)
deriving DecidableEq, Repr

/-- What a text is compared with. -/
abbrev Pattern := List PatternPart

/-- Whether a character can be seen. -/
def isGraphic (c : Char) : Bool :=
  '!' ≤ c && c ≤ '~'

/-- Whether a character is of the kind with the given name. -/
def isOfKind (name : String) (c : Char) : Bool :=
  match name with
  | "alnum" => c.isAlphanum
  | "alpha" => c.isAlpha
  | "blank" => c = ' ' || c = '\t'
  | "cntrl" => c.toNat < 32 || c.toNat = 127
  | "digit" => c.isDigit
  | "graph" => isGraphic c
  | "lower" => c.isLower
  | "print" => isGraphic c || c = ' '
  | "punct" => isGraphic c && !c.isAlphanum
  | "space" => c = ' ' || 9 ≤ c.toNat && c.toNat ≤ 13
  | "upper" => c.isUpper
  | "xdigit" => c.isDigit || 'a' ≤ c.toLower && c.toLower ≤ 'f'
  | _ => false

/-- Whether a member of a set is a character. -/
def Member.holds (c : Char) : Member → Bool
  | .range low high => low ≤ c && c ≤ high
  | .kind name => isOfKind name c

namespace Pattern

/-- A character of a pattern and whether it may have a meaning. -/
abbrev Sign := Char × Bool

/-- The characters of glyphs; a backslash that is not quoted takes the meaning from the next
one. -/
def signs : List Glyph → List Sign
  | [] => []
  | .fixed c :: rest => (c, false) :: signs rest
  | .plain c :: rest => (c, true) :: signs rest
  | .loose '\x5c' :: .loose c :: rest => (c, false) :: signs rest
  | .loose c :: rest => (c, true) :: signs rest
  | _ :: rest => signs rest

/-- Reads the name of a kind of characters up to the signs that end it. -/
def kindName? : List Sign → Option (String × List Sign)
  | [] => none
  | (':', true) :: (']', true) :: rest => some ("", rest)
  | (c, _) :: rest => (kindName? rest).map fun (name, rest) => (String.singleton c ++ name, rest)

/-- Reads one member of a set. -/
def member? (signs : List Sign) : Option (Member × List Sign) :=
  match signs with
  | [] => none
  | (c, isActive) :: rest =>
    let single : Member × List Sign :=
      match rest with
      | ('-', true) :: (high, highActive) :: after =>
        if high = ']' && highActive then (.range c c, rest) else (.range c high, after)
      | rest => (.range c c, rest)
    match c, isActive, rest with
    | '[', true, (':', true) :: more =>
      match kindName? more with
      | some (name, rest) => some (.kind name, rest)
      | none => some single
    | _, _, _ => some single

/-- Reads the members of a set up to the bracket that ends it; the first member may be a bracket
itself. -/
def members? : Nat → Bool → List Sign → Option (List Member × List Sign)
  | 0, _, _ => none
  | fuel + 1, isFirst, signs =>
    match isFirst, signs with
    | false, (']', true) :: rest => some ([], rest)
    | _, signs => do
      let (member, rest) ← member? signs
      let (members, rest) ← members? fuel false rest
      return (member :: members, rest)

/-- The pattern that some signs make; a bracket that is never closed stands for itself. -/
def ofSigns : Nat → List Sign → Pattern
  | 0, _ => []
  | _, [] => []
  | fuel + 1, ('*', true) :: rest => .many :: ofSigns fuel rest
  | fuel + 1, ('?', true) :: rest => .one :: ofSigns fuel rest
  | fuel + 1, ('[', true) :: rest =>
    let (negated, inside) := match rest with
      | ('!', true) :: inside => (true, inside)
      | inside => (false, inside)
    match members? (inside.length + 1) true inside with
    | some (members, rest) => .set negated members :: ofSigns fuel rest
    | none => .char '[' :: ofSigns fuel rest
  | fuel + 1, (c, _) :: rest => .char c :: ofSigns fuel rest

/-- The pattern that an expanded word is. -/
def ofGlyphs (glyphs : List Glyph) : Pattern :=
  let found := signs glyphs
  ofSigns (found.length + 1) found

/-- Whether some part of a pattern matches more than one character. -/
def isProper (pattern : Pattern) : Bool :=
  pattern.any fun part =>
    match part with
    | .char _ => false
    | _ => true

/-- The ends of a text, from the whole text to nothing. -/
def ends : List Char → List (List Char)
  | [] => [[]]
  | c :: rest => (c :: rest) :: ends rest

/-- Whether a pattern matches a text as a whole. -/
def holds : Pattern → List Char → Bool
  | [], [] => true
  | [], _ :: _ => false
  | .many :: rest, chars => (ends chars).any (holds rest)
  | _ :: _, [] => false
  | .char a :: rest, c :: chars => a = c && holds rest chars
  | .one :: rest, _ :: chars => holds rest chars
  | .set negated members :: rest, c :: chars =>
    members.any (·.holds c) != negated && holds rest chars

/-- The lengths up to the given one, from one side or the other. -/
def lengths (longest : Bool) (length : Nat) : List Nat :=
  if longest then (List.range (length + 1)).reverse else List.range (length + 1)

/-- A text without what a pattern matches at its start. -/
def cutStart (pattern : Pattern) (longest : Bool) (chars : List Char) : List Char :=
  match (lengths longest chars.length).find? fun n => pattern.holds (chars.take n) with
  | some n => chars.drop n
  | none => chars

/-- A text without what a pattern matches at its end. -/
def cutEnd (pattern : Pattern) (longest : Bool) (chars : List Char) : List Char :=
  match (lengths longest chars.length).find? fun n =>
      pattern.holds (chars.drop (chars.length - n)) with
  | some n => chars.take (chars.length - n)
  | none => chars

end Pattern

end CompileServer.Shell
