import ProxyFleet.Json
import ProxyFleet.Text.Numeral

/-!
# Reading JSON

A reader for one JSON document. Besides the standard grammar it takes the three words `NaN`,
`Infinity` and `-Infinity`; a whole number of more than 4300 digits is refused where it stands, and
so is an array or object inside too many others.
-/

namespace ProxyFleet.Json

inductive ReadError where
  | malformed
  | numberTooLong
  | tooDeep (object : Bool)
  deriving DecidableEq, Repr

def isSpace (c : Symbol) : Bool := c == ' ' || c == '\t' || c == '\n' || c == '\r'

def skipSpace (s : Text) : Text := s.dropWhile isSpace

/-- The number that four hexadecimal digits write. -/
def hex4? (a b c d : Symbol) : Option Nat := do
  let a ← Text.hexValue? a
  let b ← Text.hexValue? b
  let c ← Text.hexValue? c
  let d ← Text.hexValue? d
  return ((a * 16 + b) * 16 + c) * 16 + d

/-- The character that a one-letter escape stands for. -/
def escaped? : Symbol → Option Symbol
  | .char '\x22' => some '\x22'
  | .char '\\' => some '\\'
  | .char '/' => some '/'
  | .char 'b' => some '\x08'
  | .char 'f' => some '\x0c'
  | .char 'n' => some '\n'
  | .char 'r' => some '\r'
  | .char 't' => some '\t'
  | _ => none

/-- The character that two numbers write as a surrogate pair, if they are one. -/
def paired? (high low : Nat) : Option Char :=
  if 0xd800 ≤ high ∧ high < 0xdc00 ∧ 0xdc00 ≤ low ∧ low < 0xe000 then
    some (Char.ofNat (0x10000 + (high - 0xd800) * 0x400 + (low - 0xdc00)))
  else none

/-- A symbol and whether it was written by its number. -/
abbrev Written := Symbol × Bool

/-- A written symbol before others; two halves that make up a pair become one character when both
were written by their numbers. -/
def joinPair (high : Written) : List Written → List Written
  | [] => [high]
  | low :: rest =>
    match high, low with
    | (c, true), (d, true) =>
      match paired? c.point d.point with
      | some pair => (.char pair, false) :: rest
      | none => high :: low :: rest
    | _, _ => high :: low :: rest

/-- The symbols of a string up to its closing quote. -/
def written? : Text → Option (List Written × Text)
  | [] => none
  | .char '\x22' :: rest => some ([], rest)
  | .char '\\' :: .char 'u' :: a :: b :: c :: d :: rest => do
    let point ← hex4? a b c d
    let (s, rest) ← written? rest
    return (joinPair (.ofPoint point, true) s, rest)
  | .char '\\' :: c :: rest => do
    let c ← escaped? c
    let (s, rest) ← written? rest
    return ((c, false) :: s, rest)
  | c :: rest => do
    if c.point < 32 ∨ c = '\\' then none
    let (s, rest) ← written? rest
    return ((c, false) :: s, rest)

/-- A string after its opening quote. -/
def readString (s : Text) : Except ReadError (Text × Text) :=
  match written? s with
  | some (s, rest) => .ok (s.map Prod.fst, rest)
  | none => .error .malformed

/-- The digits at the start, and what follows. -/
def digits (s : Text) : Text × Text :=
  (s.takeWhile Text.isAsciiDigit, s.dropWhile Text.isAsciiDigit)

/-- The number that ASCII digits write. -/
def digitsValue (ds : Text) : Nat := Text.ofDigits (ds.map fun d => d.point - 48)

/-- The whole part of a number: a lone zero or digits without a leading zero. -/
def wholePart (s : Text) : Text × Text :=
  match s with
  | .char '0' :: rest => (['0'], rest)
  | _ => digits s

/-- The digits after the point, if a point with digits follows. -/
def fractionPart (s : Text) : Option (Text × Text) :=
  match s with
  | .char '.' :: rest =>
    match digits rest with
    | ([], _) => none
    | part => some part
  | _ => none

/-- The exponent, if a complete one follows. -/
def exponentPart (s : Text) : Option (Int × Text) :=
  let ofDigits (negative : Bool) (rest : Text) : Option (Int × Text) :=
    match digits rest with
    | ([], _) => none
    | (ds, rest) => some (if negative then -(digitsValue ds : Int) else digitsValue ds, rest)
  match s with
  | e :: rest =>
    if e = 'e' ∨ e = 'E' then
      match rest with
      | .char '+' :: rest => ofDigits false rest
      | .char '-' :: rest => ofDigits true rest
      | rest => ofDigits false rest
    else none
  | [] => none

/-- A number after its sign. -/
def readNumber (negative : Bool) (s : Text) : Except ReadError (Json × Text) :=
  match wholePart s with
  | ([], _) => .error .malformed
  | (whole, rest) =>
    match fractionPart rest, exponentPart ((fractionPart rest).elim rest Prod.snd) with
    | none, none =>
      if whole.length ≤ Text.maxDigits then
        .ok (int (if negative then -(digitsValue whole : Int) else digitsValue whole), rest)
      else .error .numberTooLong
    | fraction, exponent =>
      let fractionDigits := fraction.elim [] Prod.fst
      let afterFraction := fraction.elim rest Prod.snd
      let value := Binary64.ofDecimal negative (digitsValue (whole ++ fractionDigits))
        (exponent.elim 0 Prod.fst - fractionDigits.length)
      .ok (float value, exponent.elim afterFraction Prod.snd)

def readWord (s : Text) : Except ReadError (Json × Text) :=
  let words : List (Text × Json) :=
    [("null", null), ("true", bool true), ("false", bool false), ("NaN", float .nan),
     ("Infinity", float (.infinite false)), ("-Infinity", float (.infinite true))]
  match words.findSome? fun (w, j) => (w.isPrefixOf? s).map fun rest => (j, rest) with
  | some found => .ok found
  | none =>
    match s with
    | .char '-' :: rest => readNumber true rest
    | _ => readNumber false s

/-- How many arrays and objects may stand inside one another. -/
def maxDepth : Nat := 980

mutual

/-- A value, the reader being allowed `fuel` nested steps and `depth` nested arrays and objects. -/
def readValue (fuel depth : Nat) (s : Text) : Except ReadError (Json × Text) :=
  match fuel with
  | 0 => .error .malformed
  | fuel + 1 =>
    match s with
    | .char '\x22' :: rest => (readString rest).map fun (s, rest) => (str s, rest)
    | .char '[' :: rest =>
      match depth, skipSpace rest with
      | 0, _ => .error (.tooDeep false)
      | _, .char ']' :: rest => .ok (arr [], rest)
      | depth + 1, rest => (readElements fuel depth rest).map fun (xs, rest) => (arr xs, rest)
    | .char '\x7b' :: rest =>
      match depth, skipSpace rest with
      | 0, _ => .error (.tooDeep true)
      | _, .char '\x7d' :: rest => .ok (obj [], rest)
      | depth + 1, rest =>
        (readMembers fuel depth rest).map fun (ms, rest) => (obj (Keyed.ofList ms), rest)
    | _ => readWord s

def readElements (fuel depth : Nat) (s : Text) : Except ReadError (List Json × Text) :=
  match fuel with
  | 0 => .error .malformed
  | fuel + 1 => do
    let (x, rest) ← readValue fuel depth s
    match skipSpace rest with
    | .char ',' :: rest =>
      let (xs, rest) ← readElements fuel depth (skipSpace rest)
      return (x :: xs, rest)
    | .char ']' :: rest => return ([x], rest)
    | _ => .error .malformed

def readMembers (fuel depth : Nat) (s : Text) :
    Except ReadError (List (Text × Json) × Text) :=
  match fuel with
  | 0 => .error .malformed
  | fuel + 1 => do
    let (key, rest) ← match s with
      | .char '\x22' :: rest => readString rest
      | _ => .error .malformed
    let rest ← match skipSpace rest with
      | .char ':' :: rest => pure (skipSpace rest)
      | _ => .error .malformed
    let (x, rest) ← readValue fuel depth rest
    match skipSpace rest with
    | .char ',' :: rest =>
      let (ms, rest) ← readMembers fuel depth (skipSpace rest)
      return ((key, x) :: ms, rest)
    | .char '\x7d' :: rest => return ([(key, x)], rest)
    | _ => .error .malformed

end

/-- The value of a document in which at most `depth` arrays and objects stand inside one another. -/
def readWithin (depth : Nat) (s : Text) : Except ReadError Json := do
  let (x, rest) ← readValue (2 * s.length + 2) depth (skipSpace s)
  if (skipSpace rest).isEmpty then return x else .error .malformed

def read (s : Text) : Except ReadError Json := readWithin maxDepth s

end ProxyFleet.Json
