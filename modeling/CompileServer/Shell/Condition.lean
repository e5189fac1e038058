import CompileServer.FileSystem.Extend
import CompileServer.Shell.Number

/-!
# Conditions

A condition is made of properties of texts and files and of relations between texts,
put together with connectives.  Which words are operators depends on what follows
them: a word at the end is always an operand.
-/

namespace CompileServer.Shell

/-- The property that a word names. -/
def property? (word : String) : Option (FileSystem → String → Bool) :=
  match word with
  | "-f" => some fun files operand => files.hasFile ⟨operand⟩
  | "-d" => some fun files operand => files.hasFolder ⟨operand⟩
  | "-e" => some fun files operand => files.has ⟨operand⟩
  | "-r" => some fun files operand => files.has ⟨operand⟩
  | "-w" => some fun files operand => files.has ⟨operand⟩
  | "-x" => some fun files operand => files.hasFolder ⟨operand⟩
  | "-h" => some fun files operand => files.hasLink ⟨operand⟩
  | "-L" => some fun files operand => files.hasLink ⟨operand⟩
  | "-s" => some fun files operand => match files.read ⟨operand⟩ with
    | .ok content => !content.isEmpty
    | .error _ => files.hasFolder ⟨operand⟩
  | "-n" => some fun _ operand => operand != ""
  | "-z" => some fun _ operand => operand == ""
  | "-t" => some fun _ _ => false
  | _ => none

/-- Compares two operands as numbers. -/
def compareNumbers (holds : Int → Int → Bool) (left right : String) : Except String Bool :=
  match wholeNumber? left, wholeNumber? right with
  | none, _ => .error ("Illegal number: " ++ left)
  | _, none => .error ("Illegal number: " ++ right)
  | some a, some b => .ok (holds a b)

/-- The relation that a word names. -/
def relation? (word : String) : Option (String → String → Except String Bool) :=
  match word with
  | "=" => some fun a b => .ok (a == b)
  | "!=" => some fun a b => .ok (a != b)
  | "<" => some fun a b => .ok (decide (a < b))
  | ">" => some fun a b => .ok (decide (b < a))
  | "-eq" => some (compareNumbers (· == ·))
  | "-ne" => some (compareNumbers (· != ·))
  | "-lt" => some (compareNumbers (· < ·))
  | "-le" => some (compareNumbers (· ≤ ·))
  | "-gt" => some (compareNumbers (· > ·))
  | "-ge" => some (compareNumbers (· ≥ ·))
  | _ => none

/-- Whether a word that names a property is an operand all the same, given what follows. -/
def isOperand : List String → Bool
  | [] => true
  | [_] => false
  | next :: _ => (relation? next).isSome

/-- What is at stake between two connectives of the same strength. -/
inductive Strength where
  /-- Whether one of some holds. -/
  | any
  /-- Whether all of some hold. -/
  | all
  /-- Whether one holds or does not. -/
  | one
deriving DecidableEq, Repr

/-- The truth of the longest condition at the start of some words, and the rest. -/
def evaluate (files : FileSystem) : Nat → Strength → List String →
    Except String (Bool × List String)
  | 0, _, words => .ok (false, words)
  | _, _, [] => .ok (false, [])
  | fuel + 1, .any, words => do
    let (holds, rest) ← evaluate files fuel .all words
    match rest with
    | "-o" :: rest =>
      let (others, rest) ← evaluate files fuel .any rest
      return (holds || others, rest)
    | rest => return (holds, rest)
  | fuel + 1, .all, words => do
    let (holds, rest) ← evaluate files fuel .one words
    match rest with
    | "-a" :: rest =>
      let (others, rest) ← evaluate files fuel .all rest
      return (holds && others, rest)
    | rest => return (holds, rest)
  | fuel + 1, .one, word :: rest =>
    if word = "!" then do
      let (holds, rest) ← evaluate files fuel .one rest
      return (!holds, rest)
    else if word = "(" && !rest.isEmpty then
      if rest.head? = some ")" then .ok (false, rest.tail)
      else do
        let (holds, rest) ← evaluate files fuel .any rest
        match rest with
        | ")" :: rest => return (holds, rest)
        | _ => throw "closing paren expected"
    else match if isOperand rest then none else property? word, rest with
      | some property, operand :: rest => .ok (property files operand, rest)
      | _, operator :: others =>
        match relation? operator, others with
        | some relation, right :: rest => (relation word right).map fun holds => (holds, rest)
        | some _, [] => .error (operator ++ ": argument expected")
        | none, _ => .ok (word != "", rest)
      | _, [] => .ok (word != "", [])

/-- Whether a condition holds, or what is wrong with it.  Three words with a relation in the
middle are always a comparison. -/
def condition (files : FileSystem) (words : List String) : Except String Bool := do
  match words with
  | [left, operator, right] =>
    if let some relation := relation? operator then
      return ← relation left right
  | _ => pure ()
  let (holds, rest) ← evaluate files (4 * words.length + 4) .any words
  if rest.isEmpty then return holds
  else throw ((words.getD (words.length - rest.length - 1) "") ++ ": unexpected operator")

end CompileServer.Shell
