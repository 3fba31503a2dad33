import Harvest.Config.Reader
import Harvest.Digest.Sha256

/-!
A configuration in use. It follows its file: a reload takes a new text if it is valid, and keeps
everything as it is otherwise.
-/

namespace Harvest.Config

/-- What shows a change of a file without reading it. -/
structure Signature where
  modified : Int
  length : Nat
  deriving DecidableEq

def File.signature (file : File) : Signature := ⟨file.modified, file.bytes.length⟩

/-- Where a configuration came from: the file's signature and the digest of its text. -/
structure Origin where
  signature : Signature
  hash : String
  deriving DecidableEq

structure Live where
  current : Config
  /-- Absent for a configuration without a file. -/
  origin : Option Origin
  /-- Counts the configurations so far. -/
  generation : Nat

/-- The digest of a file's text. -/
def hashOf (place : Place) : Except Error String := do
  return Digest.Sha256.hexOfText (← (← place.file).text)

/-- The configuration in a file and the digest of its text. -/
def readFile (file : File) : Except Error (Config × String) := do
  let text ← file.text
  return (← read text, Digest.Sha256.hexOfText text)

namespace Live

def load (place : Place) : Except Error Live := do
  let file ← place.file
  let (config, hash) ← readFile file
  return ⟨config, some ⟨file.signature, hash⟩, 1⟩

/-- A configuration that follows no file. -/
def ofConfig (config : Config) : Live := ⟨config, none, 1⟩

/-- Takes over what the file now holds, and says whether that is a new configuration. -/
def reload (live : Live) (place : Place) : Live × Except Error Bool :=
  match live.origin with
  | none => (live, .ok false)
  | some origin =>
    match place.file with
    | .error e => (live, .error e)
    | .ok file =>
      if file.signature = origin.signature then (live, .ok false)
      else match readFile file with
        | .error e => (live, .error e)
        | .ok (config, hash) =>
          if hash = origin.hash then
            ({ live with origin := some ⟨file.signature, hash⟩ }, .ok false)
          else (⟨config, some ⟨file.signature, hash⟩, live.generation + 1⟩, .ok true)

end Live

end Harvest.Config
