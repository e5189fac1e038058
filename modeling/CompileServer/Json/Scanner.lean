import CompileServer.Json.Draft

/-!
# Reading the text of structured values

The reader works on bytes.  It never fails: a document with a fault becomes a
draft that ends at the fault.  A number with more digits than 64 bits hold is
read from its leading digits by multiplying or dividing with powers of ten.
-/

namespace CompileServer.Json

/-- The blanks between the parts of a document. -/
def isSeparator (b : UInt8) : Bool :=
  b == 0x20 || b == 0x09 || b == 0x0a || b == 0x0d

/-- The value of a decimal digit. -/
def digit? (b : UInt8) : Option Nat :=
  if 0x30 ≤ b && b ≤ 0x39 then some (b.toNat - 0x30) else none

/-- The value of a digit in base sixteen, of either case. -/
def hexDigit? (b : UInt8) : Option Nat :=
  if 0x30 ≤ b && b ≤ 0x39 then some (b.toNat - 0x30)
  else if 0x41 ≤ b && b ≤ 0x46 then some (b.toNat - 0x37)
  else if 0x61 ≤ b && b ≤ 0x66 then some (b.toNat - 0x57)
  else none

/-- The leading decimal digits and what follows them. -/
def spanDigits : List UInt8 → List Nat × List UInt8
  | [] => ([], [])
  | b :: rest =>
    match digit? b with
    | some d => let (digits, after) := spanDigits rest; (d :: digits, after)
    | none => ([], b :: rest)

/-- Appends digits to a significand while it fits 64 bits; the digits left over follow. -/
def absorbDigits (significand : Nat) : List Nat → Nat × List Nat
  | [] => (significand, [])
  | d :: rest =>
    if significand * 10 + d < Nat.pow 2 64 then absorbDigits (significand * 10 + d) rest
    else (significand, d :: rest)

/-- The parts of a written number. -/
structure NumberText where
  negative : Bool
  whole : List Nat
  fraction : Option (List Nat)
  /-- Whether the power of ten is negative, and its digits. -/
  power : Option (Bool × List Nat)

/-- The magnitude of `significand * 10 ^ power`, with one rounding for every step of at
most 308 powers; none if it is beyond the largest finite number. -/
def scaleMagnitude : Nat → Nat → Int → Option Nat
  | 0, _, _ => some 0
  | fuel + 1, magnitude, power =>
    if power.natAbs ≤ 308 then
      let factor := Binary64.ofNat (Nat.pow 10 power.natAbs)
      if 0 ≤ power then
        let scaled := Binary64.mul magnitude factor
        if scaled < Binary64.infinity then some scaled else none
      else some (Binary64.div magnitude factor)
    else if magnitude = 0 then some 0
    else if 0 ≤ power then none
    else
      let factor := Binary64.ofNat (Nat.pow 10 308)
      scaleMagnitude fuel (Binary64.div magnitude factor) (power + 308)

/-- The value of a natural written with these digits. -/
def naturalOf (digits : List Nat) : Nat :=
  digits.foldl (fun n d => n * 10 + d) 0

/-- The number that a text stands for; none if it is out of range. -/
def NumberText.value? (text : NumberText) : Option Number :=
  let (leading, dropped) := absorbDigits 0 text.whole
  match text.fraction, text.power, dropped with
  | none, none, [] =>
    if !text.negative then some (.whole leading)
    else if 0 < leading && leading ≤ Nat.pow 2 63 then some (.whole (-leading))
    else some (.fractional (.ofMagnitude true (Binary64.ofNat leading)))
  | fraction, power, dropped =>
    let places := fraction.getD []
    let (significand, ignored) := absorbDigits leading places
    let shift : Int := dropped.length - (places.length - ignored.length : Nat)
    let fractional := fun magnitude => Number.fractional (.ofMagnitude text.negative magnitude)
    match power with
    | none => (scaleMagnitude 8 (Binary64.ofNat significand) shift).map fractional
    | some (down, digits) =>
      let size := naturalOf digits
      if Nat.pow 2 31 ≤ size then
        if significand ≠ 0 && !down then none else some (fractional 0)
      else
        let total := if down then shift - size else shift + size
        (scaleMagnitude 8 (Binary64.ofNat significand) total).map fractional

/-- Reads the power of ten of a number, after its whole part and its fraction. -/
def scanPower (negative : Bool) (whole : List Nat) (fraction : Option (List Nat)) :
    List UInt8 → Option (NumberText × List UInt8)
  | b :: rest =>
    if b == 0x65 || b == 0x45 then
      let (down, rest) := match rest with
        | 0x2b :: after => (false, after)
        | 0x2d :: after => (true, after)
        | other => (false, other)
      match spanDigits rest with
      | ([], _) => none
      | (digits, after) => some (⟨negative, whole, fraction, some (down, digits)⟩, after)
    else some (⟨negative, whole, fraction, none⟩, b :: rest)
  | [] => some (⟨negative, whole, fraction, none⟩, [])

/-- Reads a number after its sign. -/
def scanUnsigned (negative : Bool) (bytes : List UInt8) : Option (NumberText × List UInt8) :=
  match spanDigits bytes with
  | ([], _) => none
  | (first :: more, rest) =>
    if first = 0 && more ≠ [] then none
    else match rest with
      | 0x2e :: after =>
        match spanDigits after with
        | ([], _) => none
        | (places, after) => scanPower negative (first :: more) (some places) after
      | other => scanPower negative (first :: more) none other

/-- Reads a number. -/
def scanNumber (bytes : List UInt8) : Option (NumberText × List UInt8) :=
  match bytes with
  | 0x2d :: rest => scanUnsigned true rest
  | other => scanUnsigned false other

/-- Reads four digits in base sixteen. -/
def scanHex4 : List UInt8 → Option (Nat × List UInt8)
  | a :: b :: c :: d :: rest => do
    let a ← hexDigit? a
    let b ← hexDigit? b
    let c ← hexDigit? c
    let d ← hexDigit? d
    some (((a * 16 + b) * 16 + c) * 16 + d, rest)
  | _ => none

/-- The character of a simple escape, by the letter after the backslash. -/
def simpleEscape? (b : UInt8) : Option UInt8 :=
  match b with
  | 0x22 => some 0x22
  | 0x5c => some 0x5c
  | 0x2f => some 0x2f
  | 0x62 => some 0x08
  | 0x66 => some 0x0c
  | 0x6e => some 0x0a
  | 0x72 => some 0x0d
  | 0x74 => some 0x09
  | _ => none

/-- The character of the pair of surrogates that starts with `high`, and what follows it. -/
def scanLowSurrogate (high : Nat) : List UInt8 → Option (Char × List UInt8)
  | 0x5c :: 0x75 :: rest => do
    let (low, after) ← scanHex4 rest
    if 0xdc00 ≤ low && low ≤ 0xdfff then
      some (Char.ofNat (0x10000 + (high - 0xd800) * 0x400 + (low - 0xdc00)), after)
    else none
  | _ => none

/-- Reads a text after its opening quote: its bytes, whether it has a value, and what
follows its closing quote. -/
def scanString : Nat → List UInt8 → Option ((List UInt8 × Bool) × List UInt8)
  | 0, _ => none
  | _ + 1, [] => none
  | fuel + 1, b :: rest =>
    let keep := fun (bytes : List UInt8) (sound : Bool)
        (found : (List UInt8 × Bool) × List UInt8) =>
      ((bytes ++ found.1.1, sound && found.1.2), found.2)
    if b == 0x22 then some (([], true), rest)
    else if b < 0x20 then none
    else if b == 0x5c then
      match rest with
      | 0x75 :: rest =>
        match scanHex4 rest with
        | none => none
        | some (unit, after) =>
          if unit < 0xd800 || 0xdfff < unit then
            (scanString fuel after).map (keep (String.utf8EncodeChar (Char.ofNat unit)) true)
          else if unit < 0xdc00 then
            match scanLowSurrogate unit after with
            | some (c, after) =>
              (scanString fuel after).map (keep (String.utf8EncodeChar c) true)
            | none => (scanString fuel after).map (keep [] false)
          else (scanString fuel after).map (keep [] false)
      | letter :: rest =>
        match simpleEscape? letter with
        | some byte => (scanString fuel rest).map (keep [byte] true)
        | none => none
      | [] => none
    else (scanString fuel rest).map (keep [b] true)

/-- The text that bytes encode. -/
def textOf? (bytes : List UInt8) (sound : Bool) : Option String :=
  if sound then String.fromUTF8? ⟨bytes.toArray⟩ else none

/-- What follows the given bytes, if they stand first. -/
def dropWord : List UInt8 → List UInt8 → Option (List UInt8)
  | [], bytes => some bytes
  | w :: word, b :: bytes => if w = b then dropWord word bytes else none
  | _ :: _, [] => none

/-- Reads one of the three words of the format. -/
def scanWord (word : String) (draft : Draft) (bytes : List UInt8) : Draft × Option (List UInt8) :=
  match dropWord word.toUTF8.toList bytes with
  | some rest => (draft, some rest)
  | none => (.broken, none)

/-- The bytes after the blanks in front. -/
def skipSeparators (bytes : List UInt8) : List UInt8 :=
  bytes.dropWhile isSeparator

mutual

/-- Reads a value; what follows it is none if the reader could not find its end. -/
def scanValue : Nat → List UInt8 → Draft × Option (List UInt8)
  | 0, _ => (.broken, none)
  | fuel + 1, bytes =>
    match skipSeparators bytes with
    | [] => (.broken, none)
    | 0x6e :: rest => scanWord "null" .null (0x6e :: rest)
    | 0x74 :: rest => scanWord "true" (.bool true) (0x74 :: rest)
    | 0x66 :: rest => scanWord "false" (.bool false) (0x66 :: rest)
    | 0x22 :: rest =>
      match scanString (rest.length + 1) rest with
      | none => (.broken, none)
      | some ((text, sound), after) =>
        (match textOf? text sound with
          | some text => .str text
          | none => .unreadable, some after)
    | 0x5b :: rest =>
      match skipSeparators rest with
      | 0x5d :: after => (.arr [] true, some after)
      | inside =>
        let (items, after) := scanItems fuel inside
        (.arr items after.isSome, after)
    | 0x7b :: rest =>
      match skipSeparators rest with
      | 0x7d :: after => (.obj [] true, some after)
      | inside =>
        let (members, after) := scanMembers fuel inside
        (.obj members after.isSome, after)
    | other =>
      match scanNumber other with
      | none => (.broken, none)
      | some (number, after) =>
        (match number.value? with
          | some value => .num value
          | none => .unreadable, some after)

/-- Reads the items of a list, at least one. -/
def scanItems : Nat → List UInt8 → List Draft × Option (List UInt8)
  | 0, _ => ([.broken], none)
  | fuel + 1, bytes =>
    match scanValue fuel bytes with
    | (item, none) => ([item], none)
    | (item, some after) =>
      match skipSeparators after with
      | 0x5d :: after => ([item], some after)
      | 0x2c :: after =>
        match skipSeparators after with
        | 0x5d :: _ => ([item], none)
        | next =>
          let (items, after) := scanItems fuel next
          (item :: items, after)
      | _ => ([item], none)

/-- Reads the members of an object, at least one. -/
def scanMembers : Nat → List UInt8 → List (Option String × Draft) × Option (List UInt8)
  | 0, _ => ([], none)
  | fuel + 1, bytes =>
    match skipSeparators bytes with
    | 0x22 :: rest =>
      match scanString (rest.length + 1) rest with
      | none => ([], none)
      | some ((text, sound), after) =>
        let key := textOf? text sound
        match skipSeparators after with
        | 0x3a :: after =>
          match scanValue fuel after with
          | (value, none) => ([(key, value)], none)
          | (value, some after) =>
            match skipSeparators after with
            | 0x7d :: after => ([(key, value)], some after)
            | 0x2c :: after =>
              let (members, after) := scanMembers fuel after
              ((key, value) :: members, after)
            | _ => ([(key, value)], none)
        | _ => ([(key, .broken)], none)
    | _ => ([], none)

end

/-- A document: the draft of its value, and whether something other than blanks follows. -/
structure Document where
  root : Draft
  trailing : Bool
deriving Repr

/-- Reads a document. -/
def Document.ofBytes (bytes : List UInt8) : Document :=
  let (root, after) := scanValue (2 * bytes.length + 2) bytes
  ⟨root, !((after.map skipSeparators).getD []).isEmpty⟩

/-- Reads a document. -/
def Document.ofText (text : String) : Document :=
  .ofBytes text.toUTF8.toList

/-- The value of a document without faults. -/
def parse? (text : String) : Option Json :=
  let document := Document.ofText text
  if document.trailing then none else document.root.toJson? (some 127)

end CompileServer.Json
