import ProxyFleet.Calendar.Iso
import ProxyFleet.Runner

/-!
# Proxies and users

A proxy listens on a port and sends its traffic out through its egress side. Users reach the
proxies that their grants give them, either all proxies or those on listed ports.
-/

namespace ProxyFleet

/-- Someone who may be granted access to proxies. -/
structure User where
  id : Text
  username : Text
  password : Option Text
  enabled : Bool
  insertDate : Option Moment

/-- Whether the egress side of a proxy works. -/
inductive ProxyStatus where
  | disable
  | offline
  | online
  deriving DecidableEq, Repr

namespace ProxyStatus

def name : ProxyStatus → Text
  | disable => "disable"
  | offline => "offline"
  | online => "online"

def ofJson? : Json → Option ProxyStatus
  | .str s => [disable, offline, online].find? fun status => status.name == s
  | _ => none

end ProxyStatus

/-- The side of a proxy by which traffic leaves. -/
structure Egress where
  id : Text
  refId : Text
  ip : Option Text
  mask : Option Int
  status : ProxyStatus

/-- The listening side of a proxy. -/
structure Listener where
  id : Text
  listenAddr : Text
  listenPort : Int
  egress : List Egress
  insertDate : Option Moment

/-- What a grant extends to; a grant of any other mode gives nothing. -/
inductive GrantMode where
  | all
  | custom
  | other
  deriving DecidableEq, Repr

def GrantMode.ofName (s : Text) : GrantMode :=
  if s = "all" then all else if s = "custom" then custom else other

/-- Access of one user to all proxies or to those listening on the ports of a list. -/
structure Grant where
  id : Text
  mode : GrantMode
  user : User
  proxies : List Listener

/-- A proxy as it is shown to a user, if there is one. -/
structure UsersProxy where
  proxy : Listener
  user : Option User

def User.toValue (u : User) : Value :=
  .record "user"
    [("id", .str u.id), ("username", .str u.username), ("password", .ofText? u.password),
     ("is_enable", .bool u.enabled), ("insert_date", .ofMoment? u.insertDate)]

def Egress.toValue (e : Egress) : Value :=
  .record "egress"
    [("id", .str e.id), ("ref_id", .str e.refId), ("ip", .ofText? e.ip),
     ("mask", e.mask.elim .null .int), ("status", .str e.status.name), ("runner", .null)]

def Grant.attr (g : Grant) (field : Text) : Value :=
  if field = "user_id" then .str g.user.id else if field = "id" then .str g.id else .null

def Listener.fields (p : Listener) : List (Text × Value) :=
  [("id", .str p.id),
   ("listen_addr", .str p.listenAddr),
   ("listen_port", .int p.listenPort),
   ("proxy_downstream", .list (p.egress.map Egress.toValue)),
   ("runner", .null),
   ("insert_date", .ofMoment? p.insertDate)]

/-- An attribute of a listening side, null when there is none of that name. -/
def Listener.attr (p : Listener) (field : Text) : Value :=
  (Keyed.get? field p.fields).getD .null

namespace UsersProxy

/-- A proxy as one user sees it. The user is shown by name and password only. -/
def ofListener (p : Listener) (u : User) : UsersProxy :=
  ⟨p, some ⟨u.id, u.username, u.password, true, none⟩⟩

def fields (p : UsersProxy) : List (Text × Value) :=
  p.proxy.fields ++ [(.ofString "user", p.user.elim .null User.toValue)]

/-- The operations of a user's proxy: its summary, and showing a proxy to a user, which is the same
for all of them. -/
def operations : List (Text × Value) :=
  [("to_dict", .operation), ("from_upstream", .record "operation" [])]

def attr (p : UsersProxy) (field : Text) : Value :=
  (Keyed.get? field (p.fields ++ operations)).getD .null

end UsersProxy

/-- The text of a point in time in universal time, marked by a final `Z`. A moment without an offset
counts as universal; one that universal time puts outside the years 1 to 9999 has no such text. -/
def Moment.toUniversalText (m : Moment) : Except Failure Text :=
  match m.offset with
  | none => .ok (m.toIso ++ "Z")
  | some _ =>
    match m.toUniversal? with
    | none => .error .overflow
    | some u => .ok (Text.ofChars u.localText ++ "Z")

/-- A user's proxy as it is answered to clients. -/
def UsersProxy.summary (p : UsersProxy) : Except Failure Json := do
  let date ← match p.proxy.insertDate with
    | none => pure Json.null
    | some m => m.toUniversalText.map Json.str
  return .obj
    [("id", .str p.proxy.id),
     ("listen_addr", .str p.proxy.listenAddr),
     ("listen_port", .int p.proxy.listenPort),
     ("user", match p.user with
       | some u => .obj [("id", .str u.id), ("username", .str u.username)]
       | none => .null),
     ("insert_date", date)]

end ProxyFleet
