import ProxyFleet.Text.Basic

/-!
# Owners

The kinds of entities that may own a runner, and the typed fields by which a label refers to an
owner of each kind.
-/

namespace ProxyFleet

/-- A kind of entity that may own a runner. -/
inductive Owner where
  | identity
  | provider
  | egress
  | listener
  deriving DecidableEq, Repr

/-- The type of a label field. -/
inductive FieldKind where
  | text
  | number
  | flag
  deriving DecidableEq, Repr

/-- The typed value of a label field. -/
inductive Setting where
  | text (s : Text)
  | number (n : Int)
  | flag (b : Bool)
  deriving DecidableEq, Repr

/-- A field that labels of one kind of owner have. -/
structure Field where
  name : Text
  kind : FieldKind
  deriving DecidableEq, Repr

namespace Field

/-- The name as it is written in label keys, with hyphens for underscores. -/
def hyphenated (name : Text) : Text := Text.replace '_' "-" name

/-- The name that a part of a label key stands for. -/
def underscored (key : Text) : Text := Text.replace '-' "_" key

/-- What a field holds that was never supplied. -/
def initial (f : Field) : Setting :=
  match f.kind with
  | .text => .text ("default-" ++ hyphenated f.name)
  | .number => .number 0
  | .flag => .flag false

end Field

/-- The text of a setting as it is written into a label. -/
def Setting.toText : Setting → Text
  | text s => s
  | number n => Text.numeral n
  | flag b => if b then "true" else "false"

namespace Owner

def all : List Owner := [identity, provider, egress, listener]

/-- The name of a kind of owner inside label keys. -/
def name : Owner → Text
  | identity => "identity"
  | provider => "provider"
  | egress => "proxy-downstream"
  | listener => "proxy-upstream"

def ofName? (s : Text) : Option Owner := all.find? fun o => o.name == s

/-- How messages name the label of a kind of owner. -/
def labelName : Owner → Text
  | identity => "IdentityLabel"
  | provider => "ProviderLabel"
  | egress => "ProxyDownstreamLabel"
  | listener => "ProxyUpstreamLabel"

def fields : Owner → List Field
  | identity => [⟨"id", .text⟩, ⟨"identity", .text⟩, ⟨"passphrase", .text⟩]
  | provider =>
    [⟨"id", .text⟩, ⟨"user_identity", .text⟩, ⟨"provider_identity", .text⟩, ⟨"country", .text⟩,
     ⟨"is_register", .flag⟩]
  | egress => [⟨"id", .text⟩, ⟨"ref_id", .text⟩, ⟨"ip", .text⟩, ⟨"mask", .number⟩]
  | listener => [⟨"id", .text⟩, ⟨"listen_addr", .text⟩, ⟨"listen_port", .number⟩]

end Owner

end ProxyFleet
