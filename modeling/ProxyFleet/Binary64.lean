/-!
# Double precision numbers

The finite numbers of the 64-bit binary format as sign, mantissa and exponent, with exact rounding
from decimal notation, exact comparison through rational numbers, and truncation.
-/

namespace ProxyFleet

/-- A number of the 64-bit binary floating format; `finite` stands for
`±mantissa · 2 ^ exponent`. -/
inductive Binary64 where
  | finite (negative : Bool) (mantissa : Nat) (exponent : Int)
  | infinite (negative : Bool)
  | nan
  deriving DecidableEq, Repr

namespace Binary64

/-- `n · base ^ e`, and `n` itself for a negative `e`. -/
def raised (base n : Nat) (e : Int) : Nat := n * Nat.pow base e.toNat

/-- `n · 2 ^ e` as a rational number. -/
def scaled (n : Int) (e : Int) : Rat := mkRat (n * raised 2 1 e) (raised 2 1 (-e))

def isZero : Binary64 → Bool
  | finite _ m _ => m == 0
  | _ => false

/-- The quotient `num / den` to the nearest whole number, a half going to the even neighbour. -/
def roundDiv (num den : Nat) : Nat :=
  let q := num / den
  let r := 2 * (num % den)
  if r < den then q else if den < r then q + 1 else if q % 2 = 0 then q else q + 1

/-- The exponent whose unit leaves the quotient `num / den` 53 binary digits, or the least one. -/
def unitExponent (num den : Nat) : Int :=
  let e := (num.log2 : Int) - den.log2 - 53
  let quotient := raised 2 num (-e) / raised 2 den e
  let e := if quotient < Nat.pow 2 53 then e else e + 1
  max e (-1074)

/-- The number nearest to a positive quotient. -/
def ofQuotient (negative : Bool) (num den : Nat) : Binary64 :=
  if num = 0 then finite negative 0 (-1074)
  else
    let e := unitExponent num den
    let m := roundDiv (raised 2 num (-e)) (raised 2 den e)
    let (m, e) := if m = Nat.pow 2 53 then (Nat.pow 2 52, e + 1) else (m, e)
    if 971 < e then infinite negative else finite negative m e

def decimalLength (n : Nat) : Nat := (Nat.toDigits 10 n).length

/-- The number nearest to `digits · 10 ^ exponent`. -/
def ofDecimal (negative : Bool) (digits : Nat) (exponent : Int) : Binary64 :=
  if digits = 0 then finite negative 0 (-1074)
  else
    let magnitude := (decimalLength digits : Int) + exponent
    if 310 < magnitude then infinite negative
    else if magnitude < -330 then finite negative 0 (-1074)
    else ofQuotient negative (raised 10 digits exponent) (raised 10 1 (-exponent))

/-- A finite number without its fraction. -/
def truncate? : Binary64 → Option Int
  | finite negative m e =>
    let n := raised 2 m e / raised 2 1 (-e)
    some (if negative then -(n : Int) else n)
  | _ => none

/-- Whether a whole number is too large to be rounded to a finite number. -/
def overflows (n : Int) : Bool :=
  match ofQuotient false n.natAbs 1 with
  | infinite _ => true
  | _ => false

/-- An exact number, one of the two infinities, or none at all. -/
inductive Extended where
  | exact (q : Rat)
  | infinite (negative : Bool)
  | nan

def extended : Binary64 → Extended
  | finite negative m e => .exact (scaled (if negative then -(m : Int) else m) e)
  | infinite negative => .infinite negative
  | nan => .nan

namespace Extended

/-- Equality of numbers; what is no number equals nothing. -/
def same : Extended → Extended → Bool
  | exact p, exact q => p == q
  | infinite a, infinite b => a == b
  | _, _ => false

def less : Extended → Extended → Bool
  | exact p, exact q => p < q
  | infinite a, infinite b => a && !b
  | infinite a, exact _ => a
  | exact _, infinite b => !b
  | _, _ => false

end Extended

end Binary64

end ProxyFleet
