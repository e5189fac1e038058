import CompileServer.Shell.Number
import CompileServer.Shell.Pattern

/-!
# Regular expressions

A regular expression matches parts of lines.  Of the parts that it could match, the one that
starts first counts, and of those the longest one.  Its characters stand for bytes.
-/

namespace CompileServer.Shell

/-- A condition on the characters around a place. -/
inductive Surroundings where
  | lineStart
  | lineEnd
  | wordStart
  | wordEnd
  /-- A word starts or ends. -/
  | wordEdge
  /-- No word starts or ends. -/
  | noWordEdge
  | noWordBefore
  | noWordAfter
deriving DecidableEq, Repr

/-- A regular expression. -/
inductive Regex where
  | empty
  | char (c : Char)
  | any
  | set (negated : Bool) (members : List Member)
  /-- Nothing, where the surroundings are as required. -/
  | between (required : Surroundings)
  | sequence (first second : Regex)
  | choice (first second : Regex)
  /-- Parts that follow each other, of which there may be at most so many. -/
  | repeated (body : Regex) (least : Nat) (most : Option Nat)
  /-- A part that is remembered under a number. -/
  | group (number : Nat) (body : Regex)
  /-- What is remembered under a number. -/
  | again (number : Nat)
deriving Repr

/-- A place in a line, with what was remembered on the way there. -/
structure Spot where
  /-- The characters in front of the place, the nearest one first. -/
  before : List Char
  after : List Char
  groups : List (Nat × List Char)

/-- Whether words are made of a character. -/
def isWordChar (c : Char) : Bool :=
  c.isAlphanum || c = '_'

namespace Spot

/-- The start of a line. -/
def start (line : List Char) : Spot :=
  ⟨[], line, []⟩

/-- The place after the next character, if there is one that is accepted. -/
def step (spot : Spot) (accepts : Char → Bool) : List Spot :=
  match spot.after with
  | c :: rest =>
    if accepts c then [{ spot with before := c :: spot.before, after := rest }] else []
  | [] => []

/-- The places after the given characters, compared as told. -/
def steps (spot : Spot) (same : Char → Char → Bool) : List Char → List Spot
  | [] => [spot]
  | c :: rest => (spot.step (same c)).flatMap fun next => next.steps same rest

/-- The characters from a place to a later one. -/
def upTo (first last : Spot) : List Char :=
  first.after.take (first.after.length - last.after.length)

/-- Whether the surroundings of a place are as required. -/
def meets (spot : Spot) (required : Surroundings) : Bool :=
  let left := spot.before.head?.any isWordChar
  let right := spot.after.head?.any isWordChar
  match required with
  | .lineStart => spot.before.isEmpty
  | .lineEnd => spot.after.isEmpty
  | .wordStart => !left && right
  | .wordEnd => left && !right
  | .wordEdge => left != right
  | .noWordEdge => left == right
  | .noWordBefore => !left
  | .noWordAfter => !right

/-- Remembers the characters since an earlier place under a number. -/
def remember (spot : Spot) (number : Nat) (first : Spot) : Spot :=
  { spot with groups := (number, first.upTo spot) :: spot.groups }

end Spot

namespace Regex

/-- Whether two characters are the same where case may not count. -/
def same (ignoresCase : Bool) (a b : Char) : Bool :=
  a = b || ignoresCase && a.toLower = b.toLower

/-- Whether some member of a set is a character. -/
def isMember (ignoresCase : Bool) (members : List Member) (c : Char) : Bool :=
  members.any fun member =>
    member.holds c || ignoresCase && (member.holds c.toLower || member.holds c.toUpper)

/-- The places that repeated steps lead to, those after more steps first.  A step that is not
required has to lead further. -/
def turns (step : Spot → List Spot) : Nat → Nat → Option Nat → Spot → List Spot
  | 0, least, _, spot => if least = 0 then [spot] else []
  | fuel + 1, least, most, spot =>
    if most = some 0 then [spot]
    else
      let next := (step spot).filter fun next =>
        0 < least || next.after.length < spot.after.length
      let further := next.flatMap (turns step fuel (least - 1) (most.map (· - 1)))
      if least = 0 then further ++ [spot] else further

/-- The places where a match that starts at a place can end, the preferred ones first. -/
def ends (ignoresCase : Bool) : Regex → Spot → List Spot
  | .empty, spot => [spot]
  | .char c, spot => spot.step (same ignoresCase c)
  | .any, spot => spot.step fun _ => true
  | .set negated members, spot =>
    spot.step fun c => isMember ignoresCase members c != negated
  | .between required, spot => if spot.meets required then [spot] else []
  | .sequence first second, spot => (ends ignoresCase first spot).flatMap (ends ignoresCase second)
  | .choice first second, spot => ends ignoresCase first spot ++ ends ignoresCase second spot
  | .repeated body least most, spot =>
    turns (ends ignoresCase body) (spot.after.length + least + 1) least most spot
  | .group number body, spot =>
    (ends ignoresCase body spot).map fun next => next.remember number spot
  | .again number, spot =>
    match spot.groups.lookup number with
    | some chars => spot.steps (same ignoresCase) chars
    | none => []

/-- The end of the longest match that starts at a place. -/
def longest? (regex : Regex) (ignoresCase : Bool) (spot : Spot) : Option Spot :=
  (ends ignoresCase regex spot).foldl
    (fun best next =>
      match best with
      | some best => if next.after.length < best.after.length then some next else some best
      | none => some next)
    none

/-- The start and the end of the first match at or after a place. -/
def findFrom? (regex : Regex) (ignoresCase : Bool) (before : List Char) :
    List Char → Option (Spot × Spot)
  | [] =>
    let spot : Spot := ⟨before, [], []⟩
    (regex.longest? ignoresCase spot).map fun last => (spot, last)
  | c :: rest =>
    let spot : Spot := ⟨before, c :: rest, []⟩
    match regex.longest? ignoresCase spot with
    | some last => some (spot, last)
    | none => findFrom? regex ignoresCase (c :: before) rest

/-- The start and the end of the first match in a line. -/
def find? (regex : Regex) (ignoresCase : Bool) (line : List Char) : Option (Spot × Spot) :=
  regex.findFrom? ignoresCase [] line

/-- The expression that only the given characters match. -/
def ofChars (chars : List Char) : Regex :=
  chars.foldr (fun c regex => .sequence (.char c) regex) .empty

/-- The number of groups in an expression. -/
def groupCount : Regex → Nat
  | .sequence first second => groupCount first + groupCount second
  | .choice first second => groupCount first + groupCount second
  | .repeated body _ _ => groupCount body
  | .group _ body => groupCount body + 1
  | _ => 0

/-- Why a text is no regular expression. -/
inductive Fault where
  | openSet
  | openGroup
  | strayClosing
  | openRepetition
  | badRepetition
  | badReference
  | lastBackslash
deriving DecidableEq, Repr

/-- The message of a fault. -/
def Fault.message : Fault → String
  | .openSet => "Unmatched [, [^, [:, [., or [="
  | .openGroup => "Unmatched ( or \\("
  | .strayClosing => "Unmatched ) or \\)"
  | .openRepetition => "Unmatched \\\x7b"
  | .badRepetition => "Invalid content of \\\x7b\\\x7d"
  | .badReference => "Invalid back reference"
  | .lastBackslash => "Trailing backslash"

/-- A mark of which the text of a regular expression is made. -/
inductive Mark where
  | atom (regex : Regex)
  | opening
  /-- The end of a group; a plain one stands for itself where no group is open. -/
  | closing (isPlain : Bool)
  | bar
  | repeats (least : Nat) (most : Option Nat)

/-- The way in which regular expressions are written. -/
inductive Dialect where
  /-- Operators have a backslash in front. -/
  | basic
  /-- Operators stand for themselves. -/
  | extended
deriving DecidableEq, Repr

/-- The characters that a set of word characters has. -/
def wordMembers : List Member :=
  [.kind "alnum", .range '_' '_']

/-- What a character after a backslash means where it is no operator. -/
def escaped (c : Char) : Regex :=
  match c with
  | 'w' => .set false wordMembers
  | 'W' => .set true wordMembers
  | 's' => .set false [.kind "space"]
  | 'S' => .set true [.kind "space"]
  | '<' => .between .wordStart
  | '>' => .between .wordEnd
  | 'b' => .between .wordEdge
  | 'B' => .between .noWordEdge
  | '\x60' => .between .lineStart
  | '\x27' => .between .lineEnd
  | c => if '1' ≤ c && c ≤ '9' then .again (digitOf c) else .char c

/-- Reads a set after its opening bracket. -/
def scanSet (chars : List Char) : Except Fault (Mark × List Char) :=
  let (negated, inside) := match chars with
    | '^' :: inside => (true, inside)
    | inside => (false, inside)
  match Pattern.members? (inside.length + 1) true (inside.map fun c => (c, true)) with
  | some (members, rest) => .ok (.atom (.set negated members), rest.map Prod.fst)
  | none => .error .openSet

/-- Reads how often something is repeated, after the opening brace.  In the extended dialect the
brace stands for itself if no numbers follow. -/
def scanRepetition (dialect : Dialect) (chars : List Char) : Except Fault (Mark × List Char) :=
  let low := chars.takeWhile Char.isDigit
  let afterLow := chars.drop low.length
  let (most, rest) := match afterLow with
    | ',' :: more =>
      let high := more.takeWhile Char.isDigit
      (naturalOf? high, more.drop high.length)
    | more => (naturalOf? low, more)
  let least := valueOfDigits 10 low
  let mark : Mark := .repeats least most
  let literal := (Mark.atom (.char '\x7b'), chars)
  let isProper := (!low.isEmpty || afterLow.head? = some ',') && most.all (least ≤ ·)
  match dialect, rest with
  | .basic, '\x5c' :: '\x7d' :: rest =>
    if isProper then .ok (mark, rest) else .error .badRepetition
  | .basic, [] => .error .openRepetition
  | .basic, _ => .error .badRepetition
  | .extended, '\x7d' :: rest =>
    if isProper then .ok (mark, rest)
    else if low.isEmpty then .ok literal
    else .error .badRepetition
  | .extended, _ => .ok literal

/-- Reads an operator. -/
def scanOperator (dialect : Dialect) (canRepeat : Bool) (c : Char) (rest : List Char) :
    Except Fault (Mark × List Char) :=
  let literal := (Mark.atom (.char c), rest)
  match c with
  | '(' => .ok (.opening, rest)
  | ')' => .ok (.closing (dialect = .extended), rest)
  | '|' => .ok (.bar, rest)
  | '+' => .ok (if canRepeat then (.repeats 1 none, rest) else literal)
  | '?' => .ok (if canRepeat then (.repeats 0 (some 1), rest) else literal)
  | '\x7b' => if canRepeat then scanRepetition dialect rest else .ok literal
  | _ => .ok literal

/-- The characters that are operators, with or without a backslash. -/
def operators : List Char :=
  "()|+?\x7b".toList

/-- Whether the rest of a text ends a part of it. -/
def endsPart (rest : List Char) : Bool :=
  rest.isEmpty || "\\)".toList.isPrefixOf rest || "\\|".toList.isPrefixOf rest

/-- Reads a mark that starts with a character.  `startsPart` says that a part starts here, and
`canRepeat` that something stands in front that can be repeated. -/
def scanMark (dialect : Dialect) (startsPart canRepeat : Bool) (c : Char) (rest : List Char) :
    Except Fault (Mark × List Char) :=
  let isOperator := dialect = .extended && operators.contains c
  match c, rest with
  | '.', _ => .ok (.atom .any, rest)
  | '[', _ => scanSet rest
  | '*', _ => .ok (if canRepeat then .repeats 0 none else .atom (.char c), rest)
  | '^', _ =>
    let isAnchor := dialect = .extended || startsPart
    .ok (.atom (if isAnchor then .between .lineStart else .char c), rest)
  | '$', _ =>
    let isAnchor := dialect = .extended || endsPart rest
    .ok (.atom (if isAnchor then .between .lineEnd else .char c), rest)
  | '\x5c', [] => .error .lastBackslash
  | '\x5c', c :: rest =>
    if dialect = .basic && operators.contains c then scanOperator dialect canRepeat c rest
    else .ok (.atom (escaped c), rest)
  | c, rest =>
    if isOperator then scanOperator dialect canRepeat c rest else .ok (.atom (.char c), rest)

/-- Reads all marks; `previous` is the one in front. -/
def scanMarks (dialect : Dialect) : Nat → Option Mark → List Char → Except Fault (List Mark)
  | 0, _, _ => .ok []
  | _, _, [] => .ok []
  | fuel + 1, previous, c :: rest => do
    let (startsPart, canRepeat) := match previous with
      | none => (true, false)
      | some .opening => (true, false)
      | some .bar => (true, false)
      | some (.atom (.between .lineStart)) => (false, false)
      | some _ => (false, true)
    let (mark, rest) ← scanMark dialect startsPart canRepeat c rest
    let marks ← scanMarks dialect fuel (some mark) rest
    return mark :: marks

/-- A group that is not closed yet. -/
structure OpenGroup where
  number : Nat
  /-- The choices in front of the one at hand. -/
  choices : Option Regex
  /-- The parts of the choice at hand, the last one first. -/
  parts : List Regex

namespace OpenGroup

/-- The expression that the group is so far. -/
def regex (group : OpenGroup) : Regex :=
  let last := group.parts.foldl (fun rest part => .sequence part rest) .empty
  match group.choices with
  | some choices => .choice choices last
  | none => last

/-- Adds a part. -/
def add (group : OpenGroup) (part : Regex) : OpenGroup :=
  { group with parts := part :: group.parts }

end OpenGroup

/-- An expression that is not complete yet. -/
structure Draft where
  group : OpenGroup
  /-- The groups around the one at hand, the nearest one first. -/
  around : List OpenGroup
  /-- The number of groups so far. -/
  count : Nat

/-- Adds a mark to an expression. -/
def Draft.add (draft : Draft) (mark : Mark) : Except Fault Draft :=
  match mark, draft.around, draft.group.parts with
  | .atom (.again number), _, _ =>
    if number ≤ draft.count then .ok { draft with group := draft.group.add (.again number) }
    else .error .badReference
  | .atom regex, _, _ => .ok { draft with group := draft.group.add regex }
  | .opening, around, _ =>
    .ok ⟨⟨draft.count + 1, none, []⟩, draft.group :: around, draft.count + 1⟩
  | .closing _, outer :: around, _ =>
    .ok { draft with
      group := outer.add (.group draft.group.number draft.group.regex), around := around }
  | .closing true, [], _ => .ok { draft with group := draft.group.add (.char ')') }
  | .closing false, [], _ => .error .strayClosing
  | .bar, _, _ =>
    .ok { draft with
      group := { draft.group with choices := some draft.group.regex, parts := [] } }
  | .repeats least most, _, part :: parts =>
    .ok { draft with
      group := { draft.group with parts := .repeated part least most :: parts } }
  | .repeats _ _, _, [] => .ok draft

/-- The expression that a text is. -/
def ofText (dialect : Dialect) (chars : List Char) : Except Fault Regex := do
  let marks ← scanMarks dialect (chars.length + 1) none chars
  let draft ← marks.foldlM Draft.add ⟨⟨0, none, []⟩, [], 0⟩
  if draft.around.isEmpty then return draft.group.regex else throw .openGroup

end Regex

end CompileServer.Shell
