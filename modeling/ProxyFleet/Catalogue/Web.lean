import ProxyFleet.Docker.Container

/-!
# Web requests

The discovery service is known only by its answers. A web session holds the answers that are still
to come and the log of the requests that were made.
-/

namespace ProxyFleet.Web

inductive Reply where
  | answer (status : Int) (reason body : Text)
  | failed (cause : Failure)

/-- A request as it is made; the parameters are not yet part of the address. -/
structure Request where
  url : Text
  params : List (Text × Text)
  headers : List (Text × Text)
  timeout : Json

structure Session where
  replies : List Reply
  log : List Request

/-- An operation on a session that may fail. -/
abbrev Run (α : Type) := ExceptT Failure (StateM Session) α

/-- The next answer and those that remain. The last one stays, and without any an empty list is
answered. -/
def nextReply : List Reply → Reply × List Reply
  | [] => (.answer 200 "OK" "[]", [])
  | [reply] => (reply, [reply])
  | reply :: rest => (reply, rest)

/-- The failure that a status stands for, if it is one. -/
def statusFailure? (url reason : Text) (status : Int) : Option Failure :=
  let text (kind : Text) : Text :=
    Text.numeral status ++ " " ++ kind ++ " Error: " ++ reason ++ " for url: " ++ url
  if 400 ≤ status ∧ status < 500 then some (.request "HTTPError" (text "Client"))
  else if 500 ≤ status ∧ status < 600 then some (.request "HTTPError" (text "Server"))
  else none

/-- The document that a reply carries. -/
def Reply.document (url : Text) : Reply → Except Failure Json
  | failed cause => .error cause
  | answer status reason body =>
    match statusFailure? url reason status with
    | some e => .error e
    | none => Docker.readDocument body

def get (request : Request) : Run Json := fun s =>
  let (reply, rest) := nextReply s.replies
  (reply.document request.url, { s with replies := rest, log := s.log ++ [request] })

end ProxyFleet.Web
