import AmqpClient.Config.Decoding
import AmqpClient.Config.Validation
import AmqpClient.Text.Utf8

/-!
# Loading settings

From a text, or from what is found where a file should be. Only settings without a flaw get through.
-/

namespace AmqpClient.Config

open Text

/-- Why a file cannot be read as text. -/
inductive ReadFailure where
  | missing
  | directory
  | notText
  deriving DecidableEq, Repr

def ReadFailure.message : ReadFailure → String
  | .missing => "No such file or directory (os error 2)"
  | .directory => "Is a directory (os error 21)"
  | .notText => "stream did not contain valid UTF-8"

/-- Why there are no settings. -/
inductive LoadError where
  | unreadable (cause : ReadFailure)
  /-- The text is not TOML, or a setting has the wrong type. -/
  | malformed
  | invalid (flaw : Flaw)
  deriving DecidableEq, Repr

/-- What is said where there are no settings. Of malformed text the reader of TOML says what it
likes. -/
def LoadError.message? : LoadError → Option String
  | .unreadable cause => some ("I/O error: " ++ cause.message)
  | .malformed => none
  | .invalid flaw => some ("Invalid config: " ++ flaw.message)

/-- The settings that a text holds, valid or not. -/
def Settings.read? (text : String) : Option Settings := do
  ofEntries? (← Toml.parse? text)

/-- The valid settings that a text holds, given how settings are read. -/
def Settings.ofTextBy (read? : String → Option Settings) (text : String) :
    Except LoadError Settings :=
  match read? text with
  | none => .error .malformed
  | some settings => do
    settings.sasl.validate.mapError .invalid
    return settings

/-- The valid settings that a text holds. -/
def Settings.ofText : String → Except LoadError Settings :=
  ofTextBy read?

/-- What is found at a path. -/
inductive Source where
  | missing
  | directory
  | file (content : List UInt8)
  deriving DecidableEq, Repr

/-- The text found at a path. -/
def Source.text : Source → Except ReadFailure String
  | .missing => .error .missing
  | .directory => .error .directory
  | .file content => (Utf8.decode content).mapError fun _ => .notText

/-- The valid settings found at a path, given how settings are read. -/
def Settings.loadBy (read? : String → Option Settings) (source : Source) :
    Except LoadError Settings := do
  ofTextBy read? (← source.text.mapError .unreadable)

/-- The valid settings found at a path. -/
def Settings.load : Source → Except LoadError Settings :=
  loadBy read?

end AmqpClient.Config
