import ProxyFleet.Calendar.Iso
import ProxyFleet.Json

/-!
# Timestamps of docker

Docker writes points in time with nine digits of a second and `Z` for universal time. They are read
to the microsecond; anything that is no point in time reads as none.
-/

namespace ProxyFleet.Docker

/-- Whether a list starts with six decimal digits. -/
def sixDigits (s : Text) : Bool :=
  (s.take 6).length == 6 && (s.take 6).all Text.isDecimal

/-- A text with every fraction of six or more digits cut to six. `kept` is, inside such a fraction,
how many digits are still to be kept. -/
def cutFractions (kept : Option Nat) : Text → Text
  | [] => []
  | c :: rest =>
    match kept with
    | some (n + 1) => c :: cutFractions (some n) rest
    | some 0 =>
      if Text.isDecimal c then cutFractions (some 0) rest
      else c :: cutFractions (if c = '.' ∧ sixDigits rest then some 6 else none) rest
    | none => c :: cutFractions (if c = '.' ∧ sixDigits rest then some 6 else none) rest

def readTimestamp? : Json → Option Moment
  | .str s =>
    if s.isEmpty then none
    else Moment.ofIso? (cutFractions none (Text.replace 'Z' "+00:00" s))
  | _ => none

end ProxyFleet.Docker
