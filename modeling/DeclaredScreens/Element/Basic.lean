import DeclaredScreens.Exchange
import DeclaredScreens.Rule.Codec

/-! Elements of a screen: a tree of pages, groups, tables and forms with inputs, displays and
buttons at its leaves. The children of an element are its elements, or its columns and then
its row actions; looking up an id and collecting required fields both go through the tree in
that order, parents first. -/

namespace DeclaredScreens

inductive ButtonAction
  /-- Runs an action, after a prompt if there is one; `sendRow` sends the row along. -/
  | api (action : String) (confirm : Option String) (notification : Option Notification)
      (sendRow : Bool)
  | drawer (name : String)
  | navigate (path : String)
deriving DecidableEq

structure ElementHeader where
  id : Option String
  name : Option String
  label : Option String
  required : Bool
  rules : Option (List Rule)

structure FormSettings where
  action : Option String
  usesActiveRecord : Bool
  defaults : Option Record
  notification : Option Notification

inductive Element
  | page (header : ElementHeader) (title : Option String) (elements : List Element)
  | group (header : ElementHeader) (elements : List Element)
  | table (header : ElementHeader) (columns rowActions : List Element)
  | form (header : ElementHeader) (settings : FormSettings) (elements : List Element)
  | input (header : ElementHeader) (format : Option String)
  | display (header : ElementHeader)
  | button (header : ElementHeader) (action : ButtonAction)

namespace Element

def header : Element → ElementHeader
  | page h _ _ | group h _ | table h _ _ | form h _ _ | input h _ | display h | button h _ => h

def id (e : Element) : Option String := e.header.id

def name (e : Element) : Option String := e.header.name

def typeName : Element → String
  | page .. => "page"
  | group .. => "group"
  | table .. => "table"
  | form .. => "form"
  | input .. => "input"
  | display .. => "display"
  | button .. => "button"

def children : Element → List Element
  | page _ _ elements => elements
  | group _ elements => elements
  | table _ columns rowActions => columns ++ rowActions
  | form _ _ elements => elements
  | input .. => []
  | display .. => []
  | button .. => []

def verdict (e : Element) (record : Record) : Verdict := .ofRules e.header.rules record

def action? : Element → Option ButtonAction
  | button _ action => some action
  | _ => none

def form? : Element → Option (FormSettings × List Element)
  | form _ settings elements => some (settings, elements)
  | _ => none

mutual

/-- The first element with the id, parents before children. -/
def find? (id : String) (e : Element) : Option Element :=
  if e.id = some id then some e
  else
    match e with
    | page _ _ elements => findIn? id elements
    | group _ elements => findIn? id elements
    | table _ columns rowActions => (findIn? id columns).or (findIn? id rowActions)
    | form _ _ elements => findIn? id elements
    | input .. => none
    | display .. => none
    | button .. => none

def findIn? (id : String) : List Element → Option Element
  | [] => none
  | e :: rest => (find? id e).or (findIn? id rest)

end

def noteRequired (names : List String) (header : ElementHeader) : List String :=
  match header.required, header.name with
  | true, some name => if names.contains name then names else names ++ [name]
  | _, _ => names

mutual

def collectRequired (names : List String) : Element → List String
  | page h _ elements => collectRequiredIn (noteRequired names h) elements
  | group h elements => collectRequiredIn (noteRequired names h) elements
  | table h columns rowActions =>
      collectRequiredIn (collectRequiredIn (noteRequired names h) columns) rowActions
  | form h _ elements => collectRequiredIn (noteRequired names h) elements
  | input h _ => noteRequired names h
  | display h => noteRequired names h
  | button h _ => noteRequired names h

def collectRequiredIn (names : List String) : List Element → List String
  | [] => names
  | e :: rest => collectRequiredIn (collectRequired names e) rest

end

def requiredFields (elements : List Element) : List String := collectRequiredIn [] elements

end Element

end DeclaredScreens
