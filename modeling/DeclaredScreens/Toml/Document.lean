import DeclaredScreens.Toml.Scalar

/-! Reading TOML text: names, strings in their four forms, arrays, inline tables, and the
statements of a document, one a line. -/

namespace DeclaredScreens.Toml

def isBlank (c : Char) : Bool := c = ' ' || c = '\t'

def skipBlanks (cs : List Char) : List Char := cs.dropWhile isBlank

/-- The characters of comments and strings: all but control characters, tabs aside. -/
def isTextChar (c : Char) : Bool := c = '\t' || (32 ≤ c.toNat && c.toNat ≠ 127)

def afterBreak? : List Char → Option (List Char)
  | '\n' :: rest => some rest
  | '\r' :: '\n' :: rest => some rest
  | _ => none

def afterLine? (cs : List Char) : Option (List Char) :=
  let rest := match skipBlanks cs with
    | '#' :: comment => comment.dropWhile isTextChar
    | rest => rest
  if rest.isEmpty then some [] else afterBreak? rest

def skipSpace : List Char → List Char
  | ' ' :: rest => skipSpace rest
  | '\t' :: rest => skipSpace rest
  | '\n' :: rest => skipSpace rest
  | '\r' :: '\n' :: rest => skipSpace rest
  | rest => rest

def skipFiller : (inComment : Bool) → List Char → List Char
  | false, ' ' :: rest => skipFiller false rest
  | false, '\t' :: rest => skipFiller false rest
  | false, '#' :: rest => skipFiller true rest
  | _, '\n' :: rest => skipFiller false rest
  | _, '\r' :: '\n' :: rest => skipFiller false rest
  | true, c :: rest => if isTextChar c then skipFiller true rest else c :: rest
  | _, rest => rest

def codePoint? (digits : List Char) : Option Char :=
  if digits.all Digits.isHex && (Digits.number 16 digits).isValidChar then
    some (Char.ofNat (Digits.number 16 digits))
  else none

def escape? : List Char → Option (Char × List Char)
  | 'b' :: rest => some ('\x08', rest)
  | 't' :: rest => some ('\t', rest)
  | 'n' :: rest => some ('\n', rest)
  | 'f' :: rest => some ('\x0c', rest)
  | 'r' :: rest => some ('\r', rest)
  | '"' :: rest => some ('"', rest)
  | '\\' :: rest => some ('\\', rest)
  | 'u' :: rest =>
      if rest.length < 4 then none else (codePoint? (rest.take 4)).map (·, rest.drop 4)
  | 'U' :: rest =>
      if rest.length < 8 then none else (codePoint? (rest.take 8)).map (·, rest.drop 8)
  | _ => none

def quoted? : Nat → List Char → Option (List Char × List Char)
  | 0, _ => none
  | _, [] => none
  | _, '"' :: rest => some ([], rest)
  | fuel + 1, '\\' :: rest => do
      let (c, rest) ← escape? rest
      let (more, rest) ← quoted? fuel rest
      return (c :: more, rest)
  | fuel + 1, c :: rest =>
      if isTextChar c then do
        let (more, rest) ← quoted? fuel rest
        return (c :: more, rest)
      else none

/-- The rest of a string over several lines, which `quote` thrice closes; up to two more
quotes before those belong to it. Only double quotes have escapes, one of which joins
lines. -/
def long? (quote : Char) : Nat → List Char → Option (List Char × List Char)
  | 0, _ => none
  | _, [] => none
  | fuel + 1, c :: rest =>
      if c = quote && rest.take 2 = [quote, quote] then
        let extra := ((rest.drop 2).takeWhile (· = quote)).take 2
        some (extra, (rest.drop 2).drop extra.length)
      else if c = '\\' && quote = '"' then
        match afterBreak? (skipBlanks rest) with
        | some rest => long? quote fuel (skipSpace rest)
        | none => do
            let (c, rest) ← escape? rest
            let (more, rest) ← long? quote fuel rest
            return (c :: more, rest)
      else
        match afterBreak? (c :: rest) with
        | some rest => do
            let (more, rest) ← long? quote fuel rest
            return ('\n' :: more, rest)
        | none =>
            if isTextChar c then do
              let (more, rest) ← long? quote fuel rest
              return (c :: more, rest)
            else none

def verbatim? (cs : List Char) : Option (List Char × List Char) :=
  let isBody (c : Char) : Bool := isTextChar c && c ≠ '\''
  match cs.dropWhile isBody with
  | '\'' :: rest => some (cs.takeWhile isBody, rest)
  | _ => none

/-- A string over several lines, after its opening quotes; a line break there is left out. -/
def longText? (quote : Char) (cs : List Char) : Option (List Char × List Char) :=
  long? quote (cs.length + 1) ((afterBreak? cs).getD cs)

def string? (cs : List Char) : Option (List Char × List Char) :=
  match cs with
  | '"' :: '"' :: '"' :: rest => longText? '"' rest
  | '"' :: rest => quoted? (rest.length + 1) rest
  | '\'' :: '\'' :: '\'' :: rest => longText? '\'' rest
  | '\'' :: rest => verbatim? rest
  | _ => none

def isNameChar (c : Char) : Bool := c.isAlphanum || c = '_' || c = '-'

def key? (cs : List Char) : Option (String × List Char) :=
  match cs with
  | '"' :: rest => (quoted? (rest.length + 1) rest).map fun (s, rest) => (String.ofList s, rest)
  | '\'' :: rest => (verbatim? rest).map fun (s, rest) => (String.ofList s, rest)
  | cs =>
      let name := cs.takeWhile isNameChar
      if name.isEmpty then none else some (String.ofList name, cs.dropWhile isNameChar)

def dotted? : Nat → List Char → Option (Name × List Char)
  | 0, _ => none
  | parts + 1, cs => do
      let (key, rest) ← key? (skipBlanks cs)
      match skipBlanks rest with
      | '.' :: rest =>
          let (name, rest) ← dotted? parts rest
          return (⟨key :: name.path, name.last⟩, rest)
      | rest => return (⟨[], key⟩, rest)

def depthLimit : Nat := 79

def name? (cs : List Char) : Option (Name × List Char) := dotted? depthLimit cs

mutual

def value? : (fuel room : Nat) → List Char → Option (Toml × List Char)
  | 0, _, _ => none
  | _, 0, '[' :: _ => none
  | _, 0, '{' :: _ => none
  | fuel + 1, room + 1, '[' :: rest => do
      let (items, rest) ← items? fuel room rest
      return (.array items, rest)
  | fuel + 1, room + 1, '{' :: rest => do
      let (members, rest) ← match skipBlanks rest with
        | '}' :: rest => pure ([], rest)
        | rest => members? fuel room rest
      return (← inlineTable? members, rest)
  | _, _, cs =>
      match cs with
      | '"' :: _ | '\'' :: _ => (string? cs).map fun (s, rest) => (.text (String.ofList s), rest)
      | cs => scalar? cs

/-- Items up to the closing bracket, which a comma may precede. -/
def items? : (fuel room : Nat) → List Char → Option (List Toml × List Char)
  | 0, _, _ => none
  | fuel + 1, room, cs =>
      match skipFiller false cs with
      | ']' :: rest => some ([], rest)
      | cs => do
          let (item, rest) ← value? fuel room cs
          match skipFiller false rest with
          | ',' :: rest =>
              let (items, rest) ← items? fuel room rest
              return (item :: items, rest)
          | ']' :: rest => return ([item], rest)
          | _ => none

/-- Members up to the closing brace, at least one. -/
def members? : (fuel room : Nat) → List Char → Option (List (Name × Toml) × List Char)
  | 0, _, _ => none
  | fuel + 1, room, cs => do
      let (name, rest) ← name? cs
      match rest with
      | '=' :: rest =>
          let (value, rest) ← value? fuel room (skipBlanks rest)
          match skipBlanks rest with
          | ',' :: rest =>
              let (members, rest) ← members? fuel room rest
              return ((name, value) :: members, rest)
          | '}' :: rest => return ([(name, value)], rest)
          | _ => none
      | _ => none

end

def statement? (cs : List Char) : Option (Statement × List Char) :=
  match cs with
  | '[' :: '[' :: rest => do
      let (name, rest) ← name? rest
      match rest with
      | ']' :: ']' :: rest => return (.arrayHeader name, rest)
      | _ => none
  | '[' :: rest => do
      let (name, rest) ← name? rest
      match rest with
      | ']' :: rest => return (.header name, rest)
      | _ => none
  | cs => do
      let (name, rest) ← name? cs
      match rest with
      | '=' :: rest =>
          let (value, rest) ← value? (2 * rest.length + 2) depthLimit (skipBlanks rest)
          return (.entry name value, rest)
      | _ => none

def statements? : Nat → List Char → Option (List Statement)
  | 0, _ => none
  | fuel + 1, cs =>
      match skipBlanks cs with
      | [] => some []
      | cs =>
          match afterLine? cs with
          | some rest => statements? fuel rest
          | none => do
              let (statement, rest) ← statement? cs
              let statements ← statements? fuel (← afterLine? rest)
              return statement :: statements

/-- The name that a table starts with if it stands for a moment. -/
def momentName : String := "$__toml_private_datetime"

def isMomentText : Toml → Bool
  | text value => isQuotedMoment value.toList
  | _ => false

mutual

def isMeant : Toml → Bool
  | array items => areMeant items
  | table _ entries => isMeantTable entries
  | tables earlier last => areMeant earlier && isMeantTable last
  | _ => true

def areMeant : List Toml → Bool
  | [] => true
  | item :: rest => isMeant item && areMeant rest

/-- Only the first entry of a table for a moment counts. -/
def isMeantTable : List (String × Toml) → Bool
  | [] => true
  | (name, value) :: rest =>
      if name = momentName then value.isMomentText else isMeant value && areMeantEntries rest

def areMeantEntries : List (String × Toml) → Bool
  | [] => true
  | (_, value) :: rest => isMeant value && areMeantEntries rest

end

/-- The table that a text is, if it is one; a mark of byte order may come first. -/
def ofText? (text : String) : Option (Entries Toml) := do
  let cs := match text.toList with
    | '\ufeff' :: rest => rest
    | cs => cs
  let entries ← ofStatements? (← statements? (cs.length + 1) cs)
  if areMeantEntries entries then return entries else none

end DeclaredScreens.Toml
