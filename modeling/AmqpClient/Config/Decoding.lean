import AmqpClient.Config.Settings
import AmqpClient.Toml.Document

/-!
# Settings in TOML

Reads settings from the entries of a document. What is missing keeps its default, entries of other
names are passed over, and a value of the wrong type is refused.
-/

namespace AmqpClient.Config

open Toml

def text? : Value → Option String
  | .string s => some s
  | _ => none

def texts? : Value → Option (List String)
  | .array items => items.mapM text?
  | .tables elements => elements.mapM fun table => text? (.table .header table)
  | _ => none

/-- The SASL settings, given what stands for each of them. -/
def SaslSettings.ofValues? (username password hostname mechanisms : Option Value) :
    Option SaslSettings := do
  return {
    username := ← username.mapM text?
    password := ← password.mapM text?
    hostname := ← hostname.mapM text?
    mechanisms := (← mechanisms.mapM texts?).getD [] }

/-- The SASL settings of a table. -/
def SaslSettings.ofEntries? (entries : Entries) : Option SaslSettings :=
  ofValues? (entries.lookup "username") (entries.lookup "password") (entries.lookup "hostname")
    (entries.lookup "mechanisms")

/-- The SASL settings of an array, which holds them in order; items behind them are passed over. -/
def SaslSettings.ofItems? (items : List Value) : Option SaslSettings :=
  ofValues? items[0]? items[1]? items[2]? items[3]?

/-- The SASL settings of a value: a table, an array, or a date, which is a table without any of the
entries looked for. -/
def SaslSettings.ofValue? : Value → Option SaslSettings
  | .table _ entries => ofEntries? entries
  | .inline entries => ofEntries? entries
  | .array items => ofItems? items
  | .tables elements => ofItems? (elements.map (.table .header))
  | .dateTime _ => ofEntries? []
  | _ => none

def Settings.ofEntries? (entries : Entries) : Option Settings := do
  let logLevel ← (entries.lookup "log_level").mapM text?
  let sasl ← (entries.lookup "sasl").mapM SaslSettings.ofValue?
  return { logLevel := logLevel <|> some "info", sasl := sasl.getD {} }

end AmqpClient.Config
