import DeclaredScreens.Json.Basic

/-! The drawer of a screen: one side panel that shows one drawer at a time, with the record it
works on. A closed drawer has no record to hold. -/

namespace DeclaredScreens

inductive Drawer
  | closed
  | opened (name : String) (payload : Option Record)

namespace Drawer

def name? : Drawer → Option String
  | closed => none
  | opened name _ => some name

def payload : Drawer → Option Record
  | closed => none
  | opened _ payload => payload

def isOpen : Drawer → Bool
  | closed => false
  | opened .. => true

def isActive (d : Drawer) (name : String) : Bool := d.name? = some name

/-- Hands a record to the open drawer; a closed one keeps none. -/
def setPayload (payload : Option Record) : Drawer → Drawer
  | closed => closed
  | opened name _ => opened name payload

end Drawer

end DeclaredScreens
