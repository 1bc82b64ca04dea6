import DeclaredScreens.Toml.Document

/-! The settings of the command line: defaults, over them a configuration file, over that the
environment. Every field takes the topmost value it can use; a value of another type, or a
text that is no number, leaves what is below it. -/

namespace DeclaredScreens

structure Settings where
  apiOrigin : String
  logFilter : String
  requestTimeoutSecs : Nat
deriving DecidableEq

inductive SettingsError
  | notToml
  | negativeTimeout
deriving DecidableEq

def SettingsError.message : SettingsError → String
  | notToml => "the text is not TOML"
  | negativeTimeout => "request_timeout_secs must be positive"

abbrev Environment := String → Option String

namespace Settings

def defaults : Settings := ⟨"http://127.0.0.1:3000", "info", 30⟩

/-- The timeout of a file: an integer, which must not be negative. -/
def timeoutOfFile (entries : Entries Toml) (fallback : Nat) : Except SettingsError Nat :=
  match (entries.lookup "request_timeout_secs").bind (·.asInteger?) with
  | some (.ofNat seconds) => .ok seconds
  | some (.negSucc _) => .error .negativeTimeout
  | none => .ok fallback

def textOfFile (entries : Entries Toml) (name : String) (fallback : String) : String :=
  ((entries.lookup name).bind (·.asText?)).getD fallback

def withFile (s : Settings) (text : String) : Except SettingsError Settings :=
  match Toml.ofText? text with
  | none => .error .notToml
  | some entries =>
      (timeoutOfFile entries s.requestTimeoutSecs).map fun seconds =>
        { apiOrigin := textOfFile entries "api_origin" s.apiOrigin
          logFilter := textOfFile entries "log_filter" s.logFilter
          requestTimeoutSecs := seconds }

/-- A number of 64 bits in decimal digits, after a plus sign or none. -/
def seconds? (text : String) : Option Nat :=
  let digits := match text.toList with
    | '+' :: digits => digits
    | digits => digits
  if digits.isEmpty || !digits.all Char.isDigit then none
  else
    let n := Digits.number 10 digits
    if n < 18446744073709551616 then some n else none

def withEnvironment (s : Settings) (env : Environment) : Settings :=
  { apiOrigin := ((env "APP__API_ORIGIN").or (env "SCREENCTL_API_ORIGIN")).getD s.apiOrigin
    logFilter := (env "APP__LOG_FILTER").getD s.logFilter
    requestTimeoutSecs := ((env "APP__REQUEST_TIMEOUT_SECS").bind seconds?).getD
      s.requestTimeoutSecs }

def load (file : Option String) (env : Environment) : Except SettingsError Settings :=
  match file with
  | none => .ok (defaults.withEnvironment env)
  | some text => (defaults.withFile text).map (·.withEnvironment env)

end Settings

end DeclaredScreens
