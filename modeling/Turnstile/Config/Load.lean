import Turnstile.Config.Environment
import Turnstile.Config.Reading
import Turnstile.Toml.Document

/-!
# Loading a configuration

A configuration comes from a file, which may be missing, and from the environment, which overrides
the file.
-/

namespace Turnstile.Config

/-- A file that is no document. -/
def malformedFile : Error :=
  .invalidConfig "the configuration file is not well formed"

/-- A setting that does not fit its field. -/
def unsuitableSetting : Error :=
  .invalidConfig "a setting has a value of a wrong type or out of range"

/-- The settings of a file.  A byte order mark belongs to the file, not to the document in it. -/
def fileSource : Option String → Except Error Source
  | none => .ok []
  | some text =>
    match Toml.parse (String.ofList (Toml.afterMark text.toList)) with
    | some source => .ok source
    | none => .error malformedFile

/-- A configuration from the text of a file and the variables of an environment. -/
def load (file : Option String) (environment : List (String × String)) : Except Error Config := do
  let fromFile ← fileSource file
  let setting := Setting.ofSources [fromFile, Environment.source environment]
  match Conversions.lenient.config setting with
  | some c => return c
  | none => throw unsuitableSetting

/-- A configuration from one setting with values of the right types. -/
def ofSetting (s : Setting) : Except Error Config :=
  match Conversions.exact.config s with
  | some c => .ok c
  | none => .error unsuitableSetting

end Turnstile.Config
