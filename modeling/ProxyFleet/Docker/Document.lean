import ProxyFleet.Failure

/-!
# Looking into documents

Access to the members, the positions and the elements of JSON documents whose shape nobody has
promised, with the failure that each access has on a value of another shape.
-/

namespace ProxyFleet.Json

/-- A member that may be missing, of a value that has to be an object. -/
def lookup (key : Text) : Json → Except Failure Json
  | obj ms => .ok ((Keyed.get? key ms).getD null)
  | _ => .error .noAttribute

/-- A member that may be missing and then has the given value. -/
def lookupOr (j : Json) (key : Text) (fallback : Json) : Except Failure Json :=
  match j with
  | obj ms => .ok ((Keyed.get? key ms).getD fallback)
  | _ => .error .noAttribute

/-- A member that has to be there. -/
def require (key : Text) : Json → Except Failure Json
  | obj ms =>
    match Keyed.get? key ms with
    | some j => .ok j
    | none => .error (.key (Text.quoted key))
  | _ => .error .wrongType

/-- The first element of a list or the first character of a text. -/
def first : Json → Except Failure Json
  | arr (x :: _) => .ok x
  | arr [] => .error .outOfRange
  | str s =>
    match s with
    | c :: _ => .ok (str [c])
    | [] => .error .outOfRange
  | obj _ => .error (.key "0")
  | _ => .error .wrongType

/-- The elements of a list, the keys of an object, or the characters of a text. -/
def elements : Json → Except Failure (List Json)
  | arr xs => .ok xs
  | obj ms => .ok (ms.map fun m => str m.1)
  | str s => .ok (s.map fun c => str [c])
  | _ => .error .wrongType

/-- The members of a value that has to be an object. -/
def members : Json → Except Failure (List (Text × Json))
  | obj ms => .ok ms
  | _ => .error .noAttribute

/-- The text of a value that has to be one. -/
def asText : Json → Except Failure Text
  | str s => .ok s
  | _ => .error .noAttribute

/-- The value, or an empty object when it is blank. -/
def orEmpty (j : Json) : Json := if j.isBlank then obj [] else j

end ProxyFleet.Json
