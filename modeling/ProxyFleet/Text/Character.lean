import ProxyFleet.Text.Symbol

/-!
# Blanks, line ends and digits

The character classes that stripping, line splitting and number reading go by: white space, line
boundaries, the decimal digits of every script, and the further characters that count as digits
although they carry no decimal value.
-/

namespace ProxyFleet.Text

def inRanges (ranges : List (Nat × Nat)) (c : Symbol) : Bool :=
  ranges.any fun r => r.1 ≤ c.point && c.point ≤ r.2

/-- White space of Unicode 14, the separators U+001C to U+001F included. -/
def blankRanges : List (Nat × Nat) :=
  [(0x9, 0xd), (0x1c, 0x20), (0x85, 0x85), (0xa0, 0xa0), (0x1680, 0x1680), (0x2000, 0x200a),
   (0x2028, 0x2029), (0x202f, 0x202f), (0x205f, 0x205f), (0x3000, 0x3000)]

/-- White space, as stripping knows it. -/
def isBlank (c : Symbol) : Bool := inRanges blankRanges c

/-- White space around a numeral: a blank other than the separators U+001C to U+001F. -/
def isNumeralBlank (c : Symbol) : Bool := isBlank c && !(28 ≤ c.point && c.point ≤ 31)

/-- Characters after which a new line starts. -/
def isLineEnd (c : Symbol) : Bool :=
  inRanges [(0xa, 0xd), (0x1c, 0x1e), (0x85, 0x85), (0x2028, 0x2029)] c

/-- The zero of every run of ten decimal digits (general category Nd, Unicode 14). -/
def zeroDigits : List Nat :=
  [0x30, 0x660, 0x6f0, 0x7c0, 0x966, 0x9e6, 0xa66, 0xae6, 0xb66, 0xbe6, 0xc66, 0xce6, 0xd66, 0xde6,
   0xe50, 0xed0, 0xf20, 0x1040, 0x1090, 0x17e0, 0x1810, 0x1946, 0x19d0, 0x1a80, 0x1a90, 0x1b50,
   0x1bb0, 0x1c40, 0x1c50, 0xa620, 0xa8d0, 0xa900, 0xa9d0, 0xa9f0, 0xaa50, 0xabf0, 0xff10, 0x104a0,
   0x10d30, 0x11066, 0x110f0, 0x11136, 0x111d0, 0x112f0, 0x11450, 0x114d0, 0x11650, 0x116c0,
   0x11730, 0x118e0, 0x11950, 0x11c50, 0x11d50, 0x11da0, 0x16a60, 0x16ac0, 0x16b50, 0x1d7ce,
   0x1d7d8, 0x1d7e2, 0x1d7ec, 0x1d7f6, 0x1e140, 0x1e2f0, 0x1e950, 0x1fbf0]

/-- The decimal value of a digit of any script. -/
def digitValue? (c : Symbol) : Option Nat :=
  zeroDigits.findSome? fun origin =>
    if origin ≤ c.point ∧ c.point < origin + 10 then some (c.point - origin) else none

def isDecimal (c : Symbol) : Bool := (digitValue? c).isSome

/-- Superscripts, circled numbers and the like: digits without a decimal value. -/
def digitLikeRanges : List (Nat × Nat) :=
  [(0xb2, 0xb3), (0xb9, 0xb9), (0x1369, 0x1371), (0x19da, 0x19da), (0x2070, 0x2070),
   (0x2074, 0x2079), (0x2080, 0x2089), (0x2460, 0x2468), (0x2474, 0x247c), (0x2488, 0x2490),
   (0x24ea, 0x24ea), (0x24f5, 0x24fd), (0x24ff, 0x24ff), (0x2776, 0x277e), (0x2780, 0x2788),
   (0x278a, 0x2792), (0x10a40, 0x10a43), (0x10e60, 0x10e68), (0x11052, 0x1105a), (0x1f100, 0x1f10a)]

/-- A decimal digit or a character that merely looks like one. -/
def isDigitLike (c : Symbol) : Bool := isDecimal c || inRanges digitLikeRanges c

def isAsciiDigit (c : Symbol) : Bool := 48 ≤ c.point && c.point ≤ 57

def hexValue? (c : Symbol) : Option Nat :=
  if 48 ≤ c.point ∧ c.point ≤ 57 then some (c.point - 48)
  else if 97 ≤ c.point ∧ c.point ≤ 102 then some (c.point - 87)
  else if 65 ≤ c.point ∧ c.point ≤ 70 then some (c.point - 55)
  else none

end ProxyFleet.Text
