import ProxyFleet.Json

/-!
# Writing JSON

The compact text of a JSON value.
-/

namespace ProxyFleet.Json

/-- One symbol of a JSON string; half of a surrogate pair is escaped. -/
def printSymbol : Symbol → List Char
  | .char c =>
    if c = '\x22' ∨ c = '\\' then ['\\', c]
    else if c.toNat < 32 then '\\' :: 'u' :: Text.hex 4 c.toNat
    else [c]
  | .half i => '\\' :: 'u' :: Text.hex 4 (Symbol.half i).point

/-- A JSON string with its quotes. -/
def printString (s : Text) : List Char :=
  '\x22' :: (s.flatMap printSymbol ++ ['\x22'])

def printFloat : Binary64 → List Char
  | .infinite negative => if negative then "-Infinity".toList else "Infinity".toList
  | .nan => "NaN".toList
  | x => x.chars

mutual

def print : Json → List Char
  | null => "null".toList
  | bool b => if b then "true".toList else "false".toList
  | int n => (toString n).toList
  | float x => printFloat x
  | str s => printString s
  | arr xs => '[' :: (printElements xs ++ [']'])
  | obj ms => '\x7b' :: (printMembers ms ++ ['\x7d'])

def printElements : List Json → List Char
  | [] => []
  | [x] => print x
  | x :: rest => print x ++ ',' :: printElements rest

def printMembers : List (Text × Json) → List Char
  | [] => []
  | [(k, x)] => printString k ++ ':' :: print x
  | (k, x) :: rest => printString k ++ ':' :: (print x ++ ',' :: printMembers rest)

end

def render (j : Json) : String := String.ofList j.print

end ProxyFleet.Json
