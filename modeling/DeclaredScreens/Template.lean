import DeclaredScreens.Value

/-! Path templates. A placeholder is a colon and the longest run of letters, digits and
underscores after it; it is replaced by the text of the record's field of that name, and the
text put in is not looked at again. A colon with no such run after it is text. -/

namespace DeclaredScreens.Template

def isNameChar (c : Char) : Bool := c.isAlphanum || c = '_'

/-- The text of a field; nothing when the record or the field is missing. -/
def fieldChars (record : Option Record) (name : List Char) : List Char :=
  match record.bind (List.lookup (String.ofList name)) with
  | some value => value.displayChars
  | none => []

def fillChars (record : Option Record) (template : List Char) : List Char :=
  match template with
  | [] => []
  | c :: rest =>
      if c ≠ ':' then c :: fillChars record rest
      else
        match rest.takeWhile isNameChar with
        | [] => ':' :: fillChars record rest
        | name => fieldChars record name ++ fillChars record (rest.dropWhile isNameChar)
termination_by template.length
decreasing_by
  all_goals simp_wf
  have := (List.dropWhile_sublist isNameChar (l := rest)).length_le
  omega

def fill (template : String) (record : Option Record) : String :=
  String.ofList (fillChars record template.toList)

def dropLeadingSlashes (cs : List Char) : List Char := cs.dropWhile (· = '/')

def dropTrailingSlashes (cs : List Char) : List Char :=
  (cs.reverse.dropWhile (· = '/')).reverse

/-- One slash between the two, whatever slashes meet there; an empty part adds nothing. -/
def joinChars (base path : List Char) : List Char :=
  if path.isEmpty then base
  else if base.isEmpty then path
  else dropTrailingSlashes base ++ '/' :: dropLeadingSlashes path

def join (base path : String) : String :=
  String.ofList (joinChars base.toList path.toList)

end DeclaredScreens.Template
