import ProxyFleet.Digest.Sha1
import ProxyFleet.Text.Quoted

/-!
# Identifiers derived from names

The version 5 identifier of a name: the first sixteen bytes of the digest of a name space and the
name, with the version and the variant written into them.
-/

namespace ProxyFleet.NameId

def objectSpace : List UInt8 :=
  [0x6b, 0xa7, 0xb8, 0x12, 0x9d, 0xad, 0x11, 0xd1, 0x80, 0xb4, 0x00, 0xc0, 0x4f, 0xd4, 0x30, 0xc8]

/-- The sixteen bytes of the identifier of a name that is given by its bytes. -/
def bytes (space name : List UInt8) : List UInt8 :=
  let d := (Sha1.digest (space ++ name)).take 16
  let d := d.modify 6 fun b => (b &&& 0x0f) ||| 0x50
  d.modify 8 fun b => (b &&& 0x3f) ||| 0x80

def hexText (bs : List UInt8) : List Char := bs.flatMap fun b => Text.hex 2 b.toNat

/-- Sixteen bytes in five groups of digits. -/
def grouped (bs : List UInt8) : List Char :=
  let part (start count : Nat) := hexText ((bs.drop start).take count)
  part 0 4 ++ '-' :: (part 4 2 ++ '-' :: (part 6 2 ++ '-' :: (part 8 2 ++ '-' :: part 10 6)))

end ProxyFleet.NameId

namespace ProxyFleet

/-- The identifier of an object name, if the name has bytes. -/
def nameId? (name : Text) : Option Text :=
  (Text.utf8? name).map fun bytes =>
    .ofChars (NameId.grouped (NameId.bytes NameId.objectSpace bytes.toList))

end ProxyFleet
