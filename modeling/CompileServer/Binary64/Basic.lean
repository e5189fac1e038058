/-!
# Binary floating-point numbers

A number of the binary64 format is its 64 bits.  Its magnitude is a natural
significand times a power of two, and the arithmetic a number reader needs is
exact arithmetic on naturals followed by one rounding.
-/

namespace CompileServer

/-- A number of the binary64 format, as its bits. -/
structure Binary64 where
  bits : UInt64
deriving DecidableEq, Repr

namespace Binary64

/-- The bits without the sign. -/
def magnitude (x : Binary64) : Nat :=
  x.bits.toNat % Nat.pow 2 63

/-- Whether the sign bit is set. -/
def isNegative (x : Binary64) : Bool :=
  x.bits.toNat ≥ Nat.pow 2 63

/-- The bits of positive infinity; a magnitude from here on is not finite. -/
def infinity : Nat :=
  2047 * Nat.pow 2 52

/-- The number with the given sign and magnitude bits. -/
def ofMagnitude (negative : Bool) (magnitude : Nat) : Binary64 :=
  ⟨UInt64.ofNat (magnitude % Nat.pow 2 63 + if negative then Nat.pow 2 63 else 0)⟩

/-- The significand: the magnitude is `significand * 2 ^ exponent`. -/
def significand (magnitude : Nat) : Nat :=
  if magnitude < Nat.pow 2 52 then magnitude else magnitude % Nat.pow 2 52 + Nat.pow 2 52

/-- The exponent of two that belongs to the significand. -/
def exponent (magnitude : Nat) : Int :=
  (max 1 (magnitude / Nat.pow 2 52) : Nat) - 1075

/-- A quotient of naturals. -/
structure Ratio where
  num : Nat
  den : Nat

/-- The exact value of a finite magnitude. -/
def toRatio (magnitude : Nat) : Ratio :=
  match exponent magnitude with
  | .ofNat e => ⟨significand magnitude * Nat.pow 2 e, 1⟩
  | .negSucc e => ⟨significand magnitude, Nat.pow 2 (e + 1)⟩

/-- The quotient multiplied by a power of two. -/
def Ratio.scale (x : Ratio) : Int → Ratio
  | .ofNat e => ⟨x.num * Nat.pow 2 e, x.den⟩
  | .negSucc e => ⟨x.num, x.den * Nat.pow 2 (e + 1)⟩

/-- The natural nearest to a quotient; a tie goes to the even one. -/
def roundHalfEven (x : Ratio) : Nat :=
  let floor := x.num / x.den
  let twice := 2 * (x.num % x.den)
  if twice < x.den then floor
  else if x.den < twice then floor + 1
  else floor + floor % 2

/-- The magnitude nearest to a quotient, a tie going to the even significand.
A quotient beyond the largest finite number gives at least `infinity`. -/
def ofRatio (x : Ratio) : Nat :=
  if x.num = 0 then 0
  else
    let estimate : Int := (x.num.log2 : Int) - (x.den.log2 : Int) - 53
    let coarse := x.scale (-estimate)
    let fitted := if coarse.num / coarse.den < Nat.pow 2 53 then estimate else estimate + 1
    let power := max fitted (-1074)
    min infinity ((power + 1074).toNat * Nat.pow 2 52 + roundHalfEven (x.scale (-power)))

/-- The magnitude nearest to a natural. -/
def ofNat (n : Nat) : Nat :=
  ofRatio ⟨n, 1⟩

/-- The rounded product of two magnitudes. -/
def mul (a b : Nat) : Nat :=
  let x := toRatio a
  let y := toRatio b
  ofRatio ⟨x.num * y.num, x.den * y.den⟩

/-- The rounded quotient of two magnitudes, the second not zero. -/
def div (a b : Nat) : Nat :=
  let x := toRatio a
  let y := toRatio b
  ofRatio ⟨x.num * y.den, x.den * y.num⟩

end Binary64

end CompileServer
