import ProxyFleet.Binary64
import ProxyFleet.Text.Symbol

/-!
# The shortest decimal text of a double

A number is written with the fewest digits that read back to it, and among those with the digits
nearest to it. Exponents from -4 to 15 are written positionally.
-/

namespace ProxyFleet.Binary64

/-- Where the decimal point stands: `p` with `10 ^ (p - 1) ≤ num / den < 10 ^ p`. -/
def pointPosition (num den : Nat) : Int :=
  if den ≤ num then decimalLength (num / den)
  else
    let d := decimalLength (den / num)
    if num * Nat.pow 10 (d - 1) = den then 2 - (d : Int) else 1 - (d : Int)

/-- The neighbours below and above `num / den` on the grid of step `10 ^ unit`. -/
def neighbours (num den : Nat) (unit : Int) : Nat × Nat :=
  let q := raised 10 num (-unit) / raised 10 den unit
  (q, q + 1)

/-- Whether `num / den` is nearer to `low` than to `low + 1` on the grid, or as near and `low`
even. -/
def nearerLow (num den : Nat) (unit : Int) (low : Nat) : Bool :=
  let n := 2 * raised 10 num (-unit)
  let d := (2 * low + 1) * raised 10 den unit
  n < d || (n == d && low % 2 == 0)

/-- The digits and the unit of the shortest decimal among those of `count`, `count + 1`, …
digits that reads back to `x`. -/
def shortestFrom (x : Binary64) (num den : Nat) (point : Int) : Nat → Nat → Nat × Int
  | 0, count => ((neighbours num den (point - count)).1, point - count)
  | fuel + 1, count =>
    let unit := point - count
    let (low, high) := neighbours num den unit
    let readsLow := ofDecimal false low unit == x
    let readsHigh := ofDecimal false high unit == x
    if readsLow && (!readsHigh || nearerLow num den unit low) then (low, unit)
    else if readsHigh then (high, unit)
    else shortestFrom x num den point fuel (count + 1)

/-- Digits of a number without the zeros at its end. -/
def significant (n : Nat) : List Char :=
  ((Nat.toDigits 10 n).reverse.dropWhile (· == '0')).reverse

/-- Decimal digits with the point after the first `point` of them. -/
def positional (digits : List Char) (point : Int) : List Char :=
  if point ≤ 0 then '0' :: '.' :: (List.replicate (-point).toNat '0' ++ digits)
  else if digits.length ≤ point.toNat then
    digits ++ List.replicate (point.toNat - digits.length) '0' ++ ['.', '0']
  else digits.take point.toNat ++ '.' :: digits.drop point.toNat

/-- Decimal digits with an exponent of at least two digits. -/
def scientific (digits : List Char) (point : Int) : List Char :=
  let exponent := point - 1
  let width := Nat.toDigits 10 exponent.natAbs
  (match digits with
    | d :: [] => [d]
    | d :: rest => d :: '.' :: rest
    | [] => []) ++
  ['e', if exponent < 0 then '-' else '+'] ++ (if width.length < 2 then '0' :: width else width)

/-- The text of the number `mantissa · 2 ^ exponent`. -/
def magnitudeText (mantissa : Nat) (exponent : Int) : List Char :=
  if mantissa = 0 then ['0', '.', '0']
  else
    let num := raised 2 mantissa exponent
    let den := raised 2 1 (-exponent)
    let (n, unit) :=
      shortestFrom (finite false mantissa exponent) num den (pointPosition num den) 17 1
    let digits := significant n
    let point := (decimalLength n : Int) + unit
    if -4 < point ∧ point ≤ 16 then positional digits point else scientific digits point

def chars : Binary64 → List Char
  | finite negative m e => (if negative then ['-'] else []) ++ magnitudeText m e
  | infinite negative => if negative then ['-', 'i', 'n', 'f'] else ['i', 'n', 'f']
  | nan => ['n', 'a', 'n']

def text (x : Binary64) : Text := .ofChars x.chars

end ProxyFleet.Binary64
