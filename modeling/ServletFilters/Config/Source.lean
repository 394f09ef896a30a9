import ServletFilters.Config.Decode
import ServletFilters.Config.Validation
import ServletFilters.Toml.Document

/-!
# Configurations as texts

A configuration is accepted if its text can be read, describes a configuration and has no
defects.
-/

namespace ServletFilters

inductive ConfigError where
  /-- The text could not be had. -/
  | unavailable
  /-- The text is no description of a configuration. -/
  | unreadable
  | invalid (defects : List Defect)
  deriving DecidableEq, Repr

/-- The text of a configuration error whose cause is in the configuration. -/
def ConfigError.message : ConfigError → String
  | .unavailable => "IO error"
  | .unreadable => "Parse error"
  | .invalid defects => "Validation failed: " ++ ", ".intercalate (defects.map Defect.message)

namespace Config

def validate (config : Config) : Except ConfigError Config :=
  match config.defects with
  | [] => .ok config
  | defects => .error (.invalid defects)

def parse (text : String) : Except ConfigError Config :=
  match (Toml.parse text).bind read with
  | some config => config.validate
  | none => .error .unreadable

/-- The configuration in a file, of which the text may be missing. -/
def load (content : Option String) : Except ConfigError Config :=
  match content with
  | some text => parse text
  | none => .error .unavailable

end Config

end ServletFilters
