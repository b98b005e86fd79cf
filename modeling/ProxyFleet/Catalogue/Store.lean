import ProxyFleet.Docker.Session

/-!
# The key store

A store of texts under keys, with the log of the commands that it was given and the failures that
it has been told to answer with.
-/

namespace ProxyFleet.Catalogue

inductive StoreCommand where
  | get (key : Text)
  | setAll (pairs : List (Text × Text))
  | expire (key : Text) (seconds : Nat)
  deriving DecidableEq, Repr

/-- What is kept under a key: a text, or bytes that are still to be read as one. -/
inductive Stored where
  | text (s : Text)
  | bytes (b : ByteArray)

def Stored.read : Stored → Except Failure Text
  | text s => .ok s
  | bytes b => Docker.decode b

/-- The state of the store. A failure is kept under the name of a command, or under the name and
the key for one key only. -/
structure Store where
  entries : List (Text × Stored)
  failing : List (Text × Failure)
  log : List StoreCommand

namespace Store

def note (s : Store) (c : StoreCommand) : Store := { s with log := s.log ++ [c] }

/-- The failure that has been set for a command, or for a command on one key. -/
def failureOf? (s : Store) (command : Text) : Option Failure := Keyed.get? command s.failing

/-- The failure that a command on a key meets. -/
def failure? (s : Store) (command key : Text) : Option Failure :=
  (s.failureOf? (command ++ " " ++ key)).or (s.failureOf? command)

def get (key : Text) (s : Store) : Except Failure (Option Text) × Store :=
  let outcome :=
    match s.failure? "get" key with
    | some e => .error e
    | none =>
      match Keyed.get? key s.entries with
      | none => .ok none
      | some stored => stored.read.map some
  (outcome, s.note (.get key))

/-- Writes pairs, all of them or none. -/
def setAll (pairs : List (Text × Text)) (s : Store) : Except Failure Unit × Store :=
  match s.failureOf? "mset" with
  | some e => (.error e, s.note (.setAll pairs))
  | none =>
    let entries := Keyed.putAll s.entries (pairs.map fun p => (p.1, .text p.2))
    (.ok (), { s.note (.setAll pairs) with entries })

def expire (key : Text) (seconds : Nat) (s : Store) : Except Failure Unit × Store :=
  let outcome := match s.failure? "expire" key with
    | some e => .error e
    | none => .ok ()
  (outcome, s.note (.expire key seconds))

end Store

end ProxyFleet.Catalogue
