import ProxyFleet.Json
import ProxyFleet.Text.Basic

/-!
# Internet addresses

IPv4 addresses in dotted notation, without leading zeros, and IPv6 addresses with the usual
abbreviations and an optional zone. Addresses of the two families are never equal, and neither are
two IPv6 addresses of different zones.
-/

namespace ProxyFleet

/-- An address of one of the two families. -/
inductive Address where
  | v4 (value : Nat)
  | v6 (value : Nat) (zone : Option Text)
  deriving DecidableEq, Repr

namespace Address

def value : Address → Nat
  | v4 n => n
  | v6 n _ => n

/-- One of the four parts of an IPv4 address: at most three digits, no leading zero, up to 255. -/
def readOctet? (s : Text) : Option Nat :=
  if s.isEmpty ∨ !s.all Text.isAsciiDigit ∨ 3 < s.length ∨
      (1 < s.length ∧ s.head? = some (.char '0')) then
    none
  else
    let n := s.foldl (fun n c => 10 * n + (c.point - 48)) 0
    if n ≤ 255 then some n else none

def readV4? (s : Text) : Option Nat :=
  match Text.splitFrom '.' [] s with
  | [a, b, c, d] => do
    let a ← readOctet? a
    let b ← readOctet? b
    let c ← readOctet? c
    let d ← readOctet? d
    return ((a * 256 + b) * 256 + c) * 256 + d
  | _ => none

/-- One group of an IPv6 address: one to four hexadecimal digits. -/
def readGroup? (s : Text) : Option Nat :=
  if s.isEmpty ∨ 4 < s.length then none
  else (s.mapM Text.hexValue?).map fun ds => ds.foldl (fun n d => 16 * n + d) 0

def groupText (n : Nat) : Text := .ofChars (Nat.toDigits 16 n)

/-- The parts of an IPv6 address between colons, an IPv4 ending written as two groups. -/
def groupsOf? (s : Text) : Option (List Text) :=
  let parts := Text.splitFrom ':' [] s
  if parts.length < 3 then none
  else
    match parts.getLast? with
    | some last =>
      if last.contains '.' then
        (readV4? last).map fun n =>
          parts.dropLast ++ [groupText (n / 65536), groupText (n % 65536)]
      else some parts
    | none => none

/-- The parts on one side of the abbreviated run of zeros, `outer` being the one at the end of the
address. Only a side without groups may have an empty part there. -/
def sideOfZeros? (side : List Text) (outer : Text) : Option (List Text) :=
  if !outer.isEmpty then some side else if side.length = 1 then some [] else none

/-- The groups before and after the abbreviated run of zeros of an IPv6 address, the run being the
part at index `i` of `parts`. -/
def aroundZeros? (parts : List Text) (i : Nat) :
    Option (List Text × List Text) :=
  let high := parts.take i
  let low := parts.drop (i + 1)
  match sideOfZeros? high (high.headD []), sideOfZeros? low (low.getLastD []) with
  | some high, some low => if high.length + low.length < 8 then some (high, low) else none
  | _, _ => none

/-- The number that groups write, most significant first. -/
def joinGroups (groups : List Nat) : Nat := groups.foldl (fun n g => 65536 * n + g) 0

/-- The number of an IPv6 address without zone. -/
def readV6? (s : Text) : Option Nat := do
  let parts ← groupsOf? s
  if 9 < parts.length then none
  let inner := parts.tail.dropLast
  match inner.findIdx? List.isEmpty with
  | none =>
    if parts.length = 8 then
      let groups ← parts.mapM readGroup?
      return joinGroups groups
    else none
  | some i =>
    if (inner.drop (i + 1)).any List.isEmpty then none
    let (high, low) ← aroundZeros? parts (i + 1)
    let high ← high.mapM readGroup?
    let low ← low.mapM readGroup?
    return joinGroups (high ++ List.replicate (8 - high.length - low.length) 0 ++ low)

/-- An IPv6 address with an optional zone after a percent sign. -/
def readZoned? (s : Text) : Option Address := do
  let (body, rest) := Text.breakAt '%' s
  match rest with
  | [] => (readV6? body).map (v6 · none)
  | _ :: zone =>
    if zone.isEmpty ∨ zone.contains '%' then none
    (readV6? body).map (v6 · (some zone))

def read? (s : Text) : Option Address :=
  if s.contains '/' then none
  else ((readV4? s).map v4).or (readZoned? s)

/-- The address of a number: IPv4 when it fits. -/
def ofInt? (n : Int) : Option Address :=
  if n < 0 then none
  else if n < Nat.pow 2 32 then some (v4 n.toNat)
  else if n < Nat.pow 2 128 then some (v6 n.toNat none)
  else none

def ofJson? : Json → Option Address
  | .int n => ofInt? n
  | .bool b => ofInt? (if b then 1 else 0)
  | j => read? j.text

def dotted (n : Nat) : Text :=
  Text.join "."
    ([n / 16777216, n / 65536 % 256, n / 256 % 256, n % 256].map fun (part : Nat) =>
      Text.numeral part)

def groups (n : Nat) : List Nat := (List.range 8).map fun i => n / Nat.pow 65536 (7 - i) % 65536

/-- The length of the run of zeros at the start. -/
def zeroRun (gs : List Nat) : Nat := (gs.takeWhile (· == 0)).length

/-- Where the first longest run of zero groups starts, and its length. -/
def longestZeros (gs : List Nat) : Nat × Nat :=
  (List.range gs.length).foldl
    (fun best i => let run := zeroRun (gs.drop i); if best.2 < run then (i, run) else best) (0, 0)

def colons (gs : List Nat) : Text := Text.join ":" (gs.map groupText)

/-- An IPv6 address, its first longest run of at least two zero groups abbreviated. -/
def abbreviated (n : Nat) : Text :=
  let gs := groups n
  let (start, run) := longestZeros gs
  if 1 < run then colons (gs.take start) ++ "::" ++ colons (gs.drop (start + run))
  else colons gs

def text : Address → Text
  | v4 n => dotted n
  | v6 n none => abbreviated n
  | v6 n (some zone) => abbreviated n ++ "%" ++ zone

end Address

end ProxyFleet
