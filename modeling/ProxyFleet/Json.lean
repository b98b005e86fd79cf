import ProxyFleet.Binary64.Shortest
import ProxyFleet.Keyed
import ProxyFleet.Text.Numeral
import ProxyFleet.Text.Quoted

/-!
# JSON values

The values of JSON documents. Whole numbers and doubles are kept apart, and the members of an
object keep the order in which their keys first appeared.
-/

namespace ProxyFleet

inductive Json where
  | null
  | bool (b : Bool)
  | int (n : Int)
  | float (x : Binary64)
  | str (s : Text)
  | arr (elements : List Json)
  | obj (members : List (Text × Json))

namespace Json

instance : Inhabited Json := ⟨null⟩

/-- Whether a value stands for "nothing given": null, false, a zero, or something empty. -/
def isBlank : Json → Bool
  | null => true
  | bool b => !b
  | int n => n == 0
  | float x => x.isZero
  | str s => s.isEmpty
  | arr xs => xs.isEmpty
  | obj ms => ms.isEmpty

/-- The member of an object, if the value is one and has it. -/
def member? (key : Text) : Json → Option Json
  | obj ms => Keyed.get? key ms
  | _ => none

/-- The text of a value that is one. -/
def string? : Json → Option Text
  | str s => some s
  | _ => none

/-- Pieces with a comma and a blank between neighbours. -/
def commaSeparated (pieces : List Text) : Text := Text.join ", " pieces

mutual

/-- A value as it is shown inside a message: texts quoted, `None`, `True` and `False` by name. -/
def shown : Json → Text
  | null => "None"
  | bool b => if b then "True" else "False"
  | int n => Text.numeral n
  | float x => x.text
  | str s => Text.quoted s
  | arr xs => "[" ++ commaSeparated (shownElements xs) ++ "]"
  | obj ms => "\x7b" ++ commaSeparated (shownMembers ms) ++ "\x7d"

def shownElements : List Json → List Text
  | [] => []
  | x :: rest => shown x :: shownElements rest

def shownMembers : List (Text × Json) → List Text
  | [] => []
  | (k, x) :: rest => (Text.quoted k ++ ": " ++ shown x) :: shownMembers rest

end

/-- The text of a value: a string as it is, anything else as it is shown. -/
def text : Json → Text
  | str s => s
  | j => j.shown

mutual

/-- Whether every whole number inside a value has a numeral. Those of a document have one. -/
def isWritable : Json → Bool
  | int n => Text.hasNumeral n
  | arr xs => allWritable xs
  | obj ms => membersWritable ms
  | null | bool _ | float _ | str _ => true

def allWritable : List Json → Bool
  | [] => true
  | x :: rest => isWritable x && allWritable rest

def membersWritable : List (Text × Json) → Bool
  | [] => true
  | (_, x) :: rest => isWritable x && membersWritable rest

end

/-- The text of a value, none when a number inside it has no numeral. -/
def text? (j : Json) : Option Text := if j.isWritable then some j.text else none

end Json

end ProxyFleet
