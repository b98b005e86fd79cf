import ProxyFleet.Failure

/-!
# Docker sessions

The daemon is known only by its answers. A session holds the answers that are still to come, by the
command that asks for them, and the log of everything that was asked and answered. An operation is
a function of the session, so that what it does under every sequence of answers can be stated.
-/

namespace ProxyFleet.Docker

/-- The outcome of one docker command: standard output, error output and exit status. -/
structure Reply where
  out : ByteArray := .empty
  err : ByteArray := .empty
  status : Int := 0

/-- What happens in a session: a command is run and answered, or the caller waits before it tries
again. -/
inductive Event where
  | call (argv : List Text) (reply : Reply)
  | pause

/-- The state of a session; `issued` counts the runner identifiers taken so far. -/
structure Session where
  binary : Text
  answers : List (Text × List Reply)
  log : List Event
  issued : Nat

/-- An operation on a session that may fail. -/
abbrev Run (α : Type) := ExceptT Failure (StateM Session) α

/-- The name under which the answers to a command are kept: the command, for volumes with its
subcommand. -/
def answerKey : List Text → Text
  | command :: sub :: _ => if command = "volume" then "volume " ++ sub else command
  | [command] => command
  | [] => []

/-- The next answer and those that remain. The last one stays, and without any the command succeeds
silently. -/
def nextReply : List Reply → Reply × List Reply
  | [] => ({}, [])
  | [reply] => (reply, [reply])
  | reply :: rest => (reply, rest)

/-- Runs the docker binary and notes the call with its answer. -/
def ask (args : List Text) (s : Session) : Reply × Session :=
  let key := answerKey args
  let (reply, rest) := nextReply ((Keyed.get? key s.answers).getD [])
  (reply,
    { s with
      answers := Keyed.put key rest s.answers
      log := s.log ++ [.call (s.binary :: args) reply] })

def decode (bytes : ByteArray) : Except Failure Text :=
  match Text.ofUtf8? bytes with
  | some s => .ok s
  | none => .error .undecodable

/-- What a reply amounts to: its output, or the failure of the command. -/
def Reply.result (args : List Text) (reply : Reply) : Except Failure Text :=
  if reply.status = 0 then decode reply.out
  else do
    let err ← decode reply.err
    let out ← decode reply.out
    .error (.ofCommand args reply.status err out)

/-- Runs a docker command and returns its output. -/
def run (args : List Text) : Run Text := fun s =>
  let (reply, s) := ask args s
  (reply.result args, s)

/-- Waits before the next attempt. -/
def pause : Run Unit := fun s => (.ok (), { s with log := s.log ++ [.pause] })

/-- Takes the next runner identifier. -/
def newId : Run Text := fun s =>
  (.ok ("runner-" ++ Text.numeral (s.issued + 1)), { s with issued := s.issued + 1 })

/-- The outcome of an operation as a value. -/
def attempt {α : Type} (x : Run α) : Run (Except Failure α) := fun s =>
  let (outcome, s) := x s
  (.ok outcome, s)

end ProxyFleet.Docker
