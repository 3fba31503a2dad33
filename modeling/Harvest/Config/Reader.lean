import Harvest.Config.Validation
import Harvest.Text.Utf8
import Harvest.Toml.Parser

/-!
Reading configurations from text and from files.
-/

namespace Harvest.Config

/-- The configuration in a text, valid or not. -/
def decode (text : String) : Except Error Config :=
  match (Toml.parse? text).bind fun entries => ofJson (.object (Toml.entriesToJson entries)) with
  | some config => .ok config
  | none => .error (.syntaxError "the document does not describe a configuration")

/-- The configuration in a text. -/
def read (text : String) : Except Error Config := do
  let config ← decode text
  validate config
  return config

/-- A file as far as its reader can tell: its bytes, and when they were last changed, in seconds. -/
structure File where
  bytes : List UInt8
  modified : Int
  deriving DecidableEq

/-- A place in the file system, which may be empty. -/
abbrev Place := Option File

def missing : Error := .unreadable "No such file or directory (os error 2)"

def notText : Error := .unreadable "stream did not contain valid UTF-8"

def File.text (file : File) : Except Error String :=
  match Text.Utf8.decode? file.bytes with
  | some text => .ok (String.ofList text)
  | none => .error notText

def Place.file (place : Place) : Except Error File :=
  match place with
  | some file => .ok file
  | none => .error missing

end Harvest.Config
