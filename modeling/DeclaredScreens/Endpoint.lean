import DeclaredScreens.Decoding
import DeclaredScreens.Template

/-! Endpoints and the registry that names them. An action is a name; `save` stands for
`update` when the item is stored already and for `create` otherwise. -/

namespace DeclaredScreens

structure Endpoint where
  method : String
  path : String
deriving DecidableEq

abbrev Registry := Directory Endpoint

namespace Endpoint

def decode : Decoder Endpoint :=
  .fields ["method", "path"] fun scope m =>
    Endpoint.mk <$> m.field scope "method" .string none <*> m.field scope "path" .string none

def toJson (e : Endpoint) : Json :=
  .object [("method", .string e.method), ("path", .string e.path)]

def url (e : Endpoint) (base : String) (item : Option Record) : String :=
  Template.join base (Template.fill e.path item)

end Endpoint

namespace Registry

def decode : Decoder Registry := .directory Endpoint.decode

def toJson (r : Registry) : Json :=
  .object (r.entries.map fun (name, endpoint) => (name, endpoint.toJson))

end Registry

namespace Action

def save : String := "save"
def create : String := "create"
def update : String := "update"
def index : String := "index"

def resolve (action : String) (item : Option Record) : String :=
  if action ≠ save then action
  else if Record.hasIdentity item then update
  else create

end Action

end DeclaredScreens
