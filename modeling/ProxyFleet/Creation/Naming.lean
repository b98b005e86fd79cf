import ProxyFleet.Failure
import ProxyFleet.Least
import ProxyFleet.Text.Numeral

/-!
# Container names

Containers of one kind are numbered: a new one takes the least number that no container of the
same prefix has.
-/

namespace ProxyFleet

/-- The digits of a number at the end of a name, before which a line end may stand. -/
def suffixDigits? (s : Text) : Option Text :=
  let ds := s.takeWhile Text.isDecimal
  let rest := s.dropWhile Text.isDecimal
  if !ds.isEmpty && (rest.isEmpty || rest == "\n") then some ds else none

/-- The digits after `stem` and a hyphen in a name, with or without a slash in front. -/
def nameDigits? (stem name : Text) : Option Text :=
  let start : Text := stem ++ "-"
  let plain := (Text.after? start name).bind suffixDigits?
  let slashed := (Text.after? ("/" ++ start) name).bind suffixDigits?
  slashed.or plain

/-- The numbers that names with the given stem have. -/
def usedNumbers (stem : Text) : List Text → Except Failure (List Int)
  | [] => .ok []
  | name :: rest =>
    match nameDigits? stem name with
    | none => usedNumbers stem rest
    | some ds =>
      match Text.readDigits? ds with
      | none => .error .badNumeral
      | some n => (usedNumbers stem rest).map ((n : Int) :: ·)

/-- The least number from one on that no name with the given stem has. -/
def nextNumber (stem : Text) (names : List Text) : Except Failure Int :=
  (usedNumbers stem names).map fun used => leastFree used 1

end ProxyFleet
