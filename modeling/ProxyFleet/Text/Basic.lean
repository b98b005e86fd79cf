import ProxyFleet.Text.Character

/-!
# Trimming, splitting and searching

The operations on texts that the library is built from.
-/

namespace ProxyFleet.Text

/-- A text without its last symbols that satisfy `p`. -/
def dropEnd (p : Symbol → Bool) (s : Text) : Text := (s.reverse.dropWhile p).reverse

/-- A text without the symbols that satisfy `p` at either end. -/
def trim (p : Symbol → Bool) (s : Text) : Text := dropEnd p (s.dropWhile p)

/-- A text without white space at either end. -/
def strip (s : Text) : Text := trim isBlank s

/-- A text without any `c` at its end. -/
def stripEnd (c : Symbol) (s : Text) : Text := dropEnd (· == c) s

/-- A text without any `c` at its start. -/
def stripStart (c : Symbol) (s : Text) : Text := s.dropWhile (· == c)

/-- Whether `needle` occurs in a text. -/
def occursIn (needle : Text) : Text → Bool
  | [] => needle.isEmpty
  | c :: rest => needle.isPrefixOf (c :: rest) || occursIn needle rest

/-- What follows `start` in a text that begins with it. -/
def after? (start s : Text) : Option Text := start.isPrefixOf? s

/-- A text up to the first `c`, and what is left of it from there on. -/
def breakAt (c : Symbol) (s : Text) : Text × Text :=
  (s.takeWhile (· ≠ c), s.dropWhile (· ≠ c))

/-- The pieces between the occurrences of `c`, `piece` holding the current one in reverse. -/
def splitFrom (c : Symbol) (piece : Text) : Text → List Text
  | [] => [piece.reverse]
  | d :: rest =>
    if d = c then piece.reverse :: splitFrom c [] rest else splitFrom c (d :: piece) rest

/-- The pieces of a text between the occurrences of `c`. -/
def split (c : Symbol) (s : Text) : List Text := splitFrom c [] s

/-- The lines of a text, `line` holding the current one in reverse. -/
def linesFrom (line : Text) : Text → List Text
  | [] => if line.isEmpty then [] else [line.reverse]
  | .char '\r' :: .char '\n' :: rest => line.reverse :: linesFrom [] rest
  | c :: rest =>
    if isLineEnd c then line.reverse :: linesFrom [] rest else linesFrom (c :: line) rest

/-- The lines of a text; a line end at the very end starts no further line. -/
def lines (s : Text) : List Text := linesFrom [] s

/-- A text with every `c` replaced by `replacement`. -/
def replace (c : Symbol) (replacement s : Text) : Text :=
  s.flatMap fun d => if d = c then replacement else [d]

/-- Texts one after another with a separator between neighbours. -/
def join (separator : Text) (pieces : List Text) : Text := separator.intercalate pieces

end ProxyFleet.Text
