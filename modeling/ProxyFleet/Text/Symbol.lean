/-!
# Texts

A text is a sequence of code points. Nearly all of them are characters, but a JSON document may
write half of a surrogate pair on its own, which is a code point and no character. Such a half is
kept as it is: it equals itself alone, is ordered by its number, is shown and written by its number,
and has no bytes.
-/

namespace ProxyFleet

/-- A code point: a character, or one of the 2048 halves of surrogate pairs. -/
inductive Symbol where
  | char (c : Char)
  | half (i : Fin 2048)
  deriving DecidableEq, Repr

namespace Symbol

instance : Coe Char Symbol := ⟨char⟩

def point : Symbol → Nat
  | char c => c.toNat
  | half i => 0xd800 + i

/-- The code point of a number below 1114112. -/
def ofPoint (n : Nat) : Symbol :=
  if h : 0xd800 ≤ n ∧ n < 0xe000 then half ⟨n - 0xd800, by omega⟩ else char (Char.ofNat n)

def char? : Symbol → Option Char
  | char c => some c
  | half _ => none

end Symbol

/-- A sequence of code points. -/
abbrev Text := List Symbol

namespace Text

def ofChars (cs : List Char) : Text := cs.map .char

def ofString (s : String) : Text := ofChars s.toList

instance : Coe String Text := ⟨ofString⟩

/-- The characters of a text, if it holds nothing else. -/
def chars? (s : Text) : Option (List Char) := s.mapM Symbol.char?

/-- Whether the first of two texts comes before the second by their code points. -/
def less (s t : Text) : Bool := decide (s.map Symbol.point < t.map Symbol.point)

/-- The bytes of a text in UTF-8; there are none when it holds half of a surrogate pair. -/
def utf8? (s : Text) : Option ByteArray := s.chars?.map fun cs => (String.ofList cs).toUTF8

def ofUtf8? (bytes : ByteArray) : Option Text := (String.fromUTF8? bytes).map ofString

def numeral : Int → Text
  | .ofNat n => ofChars (Nat.toDigits 10 n)
  | .negSucc n => ofChars ('-' :: Nat.toDigits 10 (n + 1))

end Text

end ProxyFleet
