import ProxyFleet.Address
import ProxyFleet.Least
import ProxyFleet.Text.Numeral

/-!
# Networks

A network is an address and the length of its prefix. It is read from `address`, `address/length`
or, for IPv4, `address/mask` with a network mask or its complement; host bits are cleared.
-/

namespace ProxyFleet

/-- A network: its first address and the number of leading bits that all its addresses share. -/
structure Network where
  base : Address
  length : Nat
  deriving DecidableEq, Repr

namespace Network

def width : Address → Nat
  | .v4 _ => 32
  | .v6 _ _ => 128

/-- The network of a prefix length that an address lies in. The zone stays only when the address
is the first of the network. -/
def around (a : Address) (length : Nat) : Network :=
  let size := Nat.pow 2 (width a - length)
  match a with
  | .v4 n => ⟨.v4 (n - n % size), length⟩
  | .v6 n zone => if n % size = 0 then ⟨.v6 n zone, length⟩ else ⟨.v6 (n - n % size) none, length⟩

/-- A prefix length: ASCII digits, at most `max`. -/
def readLength? (max : Nat) (s : Text) : Option Nat :=
  if s.isEmpty ∨ !s.all Text.isAsciiDigit ∨ Text.maxDigits < s.length then none
  else
    let n := s.foldl (fun n c => 10 * n + (c.point - 48)) 0
    if n ≤ max then some n else none

/-- The length of a mask of 32 bits: ones followed by zeros. -/
def maskLength? (mask : Nat) : Option Nat :=
  (List.range 33).find? fun length => mask == Nat.pow 2 32 - Nat.pow 2 (32 - length)

/-- The prefix length that a dotted network mask or host mask stands for. -/
def readMask? (s : Text) : Option Nat := do
  let mask ← Address.readV4? s
  (maskLength? mask).or (maskLength? (Nat.pow 2 32 - 1 - mask))

def readV4? (address : Text) (suffix : Option Text) : Option Network := do
  let n ← Address.readV4? address
  match suffix with
  | none => return around (.v4 n) 32
  | some s =>
    let length ← (readLength? 32 s).or (readMask? s)
    return around (.v4 n) length

def readV6? (address : Text) (suffix : Option Text) : Option Network := do
  let a ← Address.readZoned? address
  match suffix with
  | none => return around a 128
  | some s =>
    let length ← readLength? 128 s
    return around a length

def read? (s : Text) : Option Network :=
  match Text.splitFrom '/' [] s with
  | [address] => (readV4? address none).or (readV6? address none)
  | [address, suffix] => (readV4? address (some suffix)).or (readV6? address (some suffix))
  | _ => none

/-- The network that a JSON value stands for; a number is the network of one address. -/
def ofJson? : Json → Option Network
  | .int n => (Address.ofInt? n).map fun a => around a (width a)
  | .bool b => (Address.ofInt? (if b then 1 else 0)).map fun a => around a (width a)
  | j => read? j.text

/-- The number of the first host and the count of hosts. A network of one or two addresses has only
hosts; otherwise the first address is none, nor is, for IPv4, the last. -/
def hostRange (n : Network) : Nat × Nat :=
  let size := Nat.pow 2 (width n.base - n.length)
  if size ≤ 2 then (n.base.value, size)
  else
    match n.base with
    | .v4 v => (v + 1, size - 2)
    | .v6 v _ => (v + 1, size - 1)

/-- The address of a host number; the only host of a network is its first address itself. -/
def hostAddress (n : Network) (v : Nat) : Address :=
  match n.base with
  | .v4 _ => .v4 v
  | .v6 _ zone => if n.length = 128 then .v6 v zone else .v6 v none

/-- The least host of a network that is not reserved. -/
def freeHost? (n : Network) (reserved : List Address) : Option Address :=
  let (first, count) := n.hostRange
  (firstFree? (fun v => reserved.contains (n.hostAddress v)) first
    (min count (reserved.length + 1))).map n.hostAddress

end Network

end ProxyFleet
