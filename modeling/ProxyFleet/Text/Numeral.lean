import ProxyFleet.Text.Basic

/-!
# Numerals

Reading a whole number from a text: white space around it, a sign, decimal digits of any script,
single underscores between digits, and never more than 4300 digits. No longer numeral is written
either.
-/

namespace ProxyFleet.Text

/-- The digits of a numeral, single underscores between them left out. -/
def digitRun? : Text → Option (List Nat)
  | [] => none
  | [c] => (digitValue? c).map fun d => [d]
  | c :: .char '_' :: rest => do
    let d ← digitValue? c
    let ds ← digitRun? rest
    return d :: ds
  | c :: rest => do
    let d ← digitValue? c
    let ds ← digitRun? rest
    return d :: ds

/-- The number that decimal digits write, most significant first. -/
def ofDigits (ds : List Nat) : Nat := ds.foldl (fun n d => 10 * n + d) 0

/-- Numerals with more digits than this are neither read nor written. -/
def maxDigits : Nat := 4300

def readDigits? (s : Text) : Option Nat := do
  let ds ← digitRun? s
  if ds.length ≤ maxDigits then some (ofDigits ds) else none

/-- A numeral with an optional sign. -/
def readSigned? : Text → Option Int
  | .char '-' :: s => (readDigits? s).map fun n => -(n : Int)
  | .char '+' :: s => (readDigits? s).map Int.ofNat
  | s => (readDigits? s).map Int.ofNat

def readInt? (s : Text) : Option Int := readSigned? (trim isNumeralBlank s)

/-- The whole number that a text writes in the one form that printing produces. -/
def readCanonicalInt? (s : Text) : Option Int :=
  match readInt? s with
  | some n => if numeral n = s then some n else none
  | none => none

def hasNumeral (n : Int) : Bool := (Nat.toDigits 10 n.natAbs).length ≤ maxDigits

end ProxyFleet.Text
