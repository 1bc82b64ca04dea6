import DeclaredScreens.Json.Basic

/-! The command line: options of the screen first, then a command with options of its own. An
option takes a value, attached by an equals sign or as the next argument, and comes at most
once; an argument that starts with a dash is no value unless it is attached. After a lone
`--` nothing is an option. -/

namespace DeclaredScreens

inductive Refusal
  | help
  | usage
deriving DecidableEq

inductive Word
  | divider
  | long (name : String) (value : Option String)
  | short (letters : List Char)
  | plain (text : String)

def Word.ofArgument (argument : String) : Word :=
  match argument.toList with
  | ['-', '-'] => .divider
  | '-' :: '-' :: cs =>
      .long (String.ofList (cs.takeWhile (· ≠ '='))) <|
        match cs.dropWhile (· ≠ '=') with
        | [] => none
        | _ :: value => some (String.ofList value)
  | '-' :: c :: cs => .short (c :: cs)
  | _ => .plain argument

structure Grammar where
  options : List String
  /-- The options whose value must not be empty. -/
  paths : List String
  flags : List (Char × String)
  places : Nat
  commands : List String

structure Given where
  options : Entries String
  flags : List String
  places : List String

namespace Given

def nothing : Given := ⟨[], [], []⟩

def withOption (g : Grammar) (given : Given) (name value : String) : Except Refusal Given :=
  if g.options.contains name && (given.options.lookup name).isNone &&
      !(g.paths.contains name && value.isEmpty) then
    .ok { given with options := given.options ++ [(name, value)] }
  else .error .usage

def withFlag (given : Given) (name : String) : Except Refusal Given :=
  if given.flags.contains name then .error .usage
  else .ok { given with flags := given.flags ++ [name] }

def withLetter (g : Grammar) (given : Given) (letter : Char) : Except Refusal Given :=
  match g.flags.lookup letter with
  | some name => given.withFlag name
  | none => .error (if letter = 'h' then .help else .usage)

def withPlace (g : Grammar) (given : Given) (text : String) : Except Refusal Given :=
  if given.places.length < g.places then .ok { given with places := given.places ++ [text] }
  else .error .usage

def required (given : Given) (name : String) : Except Refusal String :=
  match given.options.lookup name with
  | some value => .ok value
  | none => .error .usage

def optional (given : Given) (name : String) : Option String := given.options.lookup name

def withDefault (given : Given) (name fallback : String) : String :=
  (given.optional name).getD fallback

end Given

/-- Reads a level up to the end, or up to the name of a command, which starts what is left. -/
def Grammar.scan (g : Grammar) (given : Given) : List String → Except Refusal (Given × List String)
  | [] => .ok (given, [])
  | argument :: rest =>
      match Word.ofArgument argument with
      | .divider => do
          let given ← rest.foldlM (Given.withPlace g) given
          return (given, [])
      | .long name (some value) => do g.scan (← given.withOption g name value) rest
      | .long name none =>
          if name = "help" then .error .help
          else if g.flags.any fun flag => flag.2 = name then do g.scan (← given.withFlag name) rest
          else
            match rest with
            | [] => .error .usage
            | value :: rest =>
                match Word.ofArgument value with
                | .plain value => do g.scan (← given.withOption g name value) rest
                | _ => .error .usage
      | .short letters => do g.scan (← letters.foldlM (Given.withLetter g) given) rest
      | .plain text =>
          if g.commands.contains text then .ok (given, argument :: rest)
          else do g.scan (← given.withPlace g text) rest

/-- What to run an action on, and how. Records and data are still text. -/
structure Execution where
  action : String
  item : Option String
  data : Option String
  success : Option String
  error : Option String
  confirm : Option String

inductive Command
  | resolve (record : String)
  | validate (form values : String)
  | submit (form values : String) (record : Option String)
  | exec (execution : Execution)
  | list

namespace Command

def names : List String := ["resolve", "validate", "submit", "exec", "list"]

def grammar (name : String) : Grammar :=
  { options := match name with
      | "resolve" => ["record"]
      | "validate" => ["form", "values"]
      | "submit" => ["form", "values", "record"]
      | "exec" => ["item", "data", "success", "error", "confirm"]
      | _ => []
    paths := [], flags := [], places := if name = "exec" then 1 else 0, commands := [] }

def ofGiven (name : String) (given : Given) : Except Refusal Command :=
  match name with
  | "resolve" => .ok (.resolve (given.withDefault "record" "{}"))
  | "validate" => do
      return .validate (← given.required "form") (given.withDefault "values" "{}")
  | "submit" => do
      return .submit (← given.required "form") (given.withDefault "values" "{}")
        (given.optional "record")
  | "exec" =>
      match given.places with
      | [action] => .ok (.exec {
          action := action, item := given.optional "item", data := given.optional "data"
          success := given.optional "success", error := given.optional "error"
          confirm := given.optional "confirm" })
      | _ => .error .usage
  | "list" => .ok .list
  | _ => .error .usage

def ofArguments (name : String) (arguments : List String) : Except Refusal Command := do
  let (given, _) ← (grammar name).scan .nothing arguments
  ofGiven name given

end Command

structure Invocation where
  schema : String
  config : String
  apiOrigin : Option String
  assumeYes : Bool
  command : Command

namespace Invocation

def defaultConfig : String := "screenctl.toml"

def grammar : Grammar :=
  { options := ["schema", "config", "api-origin"], paths := ["schema", "config"]
    flags := [('y', "yes")], places := 0, commands := "help" :: Command.names }

/-- Help on a topic exists for every command. -/
def helpOn (topics : List String) : Refusal :=
  match topics with
  | [] => .help
  | [topic] => if grammar.commands.contains topic then .help else .usage
  | _ => .usage

def ofArguments (arguments : List String) : Except Refusal Invocation := do
  match ← grammar.scan .nothing arguments with
  | (_, []) => throw .usage
  | (_, "help" :: topics) => throw (helpOn topics)
  | (given, name :: rest) =>
      let command ← Command.ofArguments name rest
      return {
        schema := ← given.required "schema"
        config := given.withDefault "config" defaultConfig
        apiOrigin := given.optional "api-origin"
        assumeYes := given.flags.contains "yes"
        command := command }

end Invocation

end DeclaredScreens
