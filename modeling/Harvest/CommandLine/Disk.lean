import Harvest.Config.Reader
import Harvest.Store.Basic

/-!
The files around the program: configuration texts and databases, by path. Paths are read from the
working folder on.
-/

namespace Harvest.CommandLine

/-- The names along a path; an absolute path starts with a slash. -/
abbrev Path := List String

/-- The path that a text names. -/
def Path.ofText (text : String) : Path :=
  let names := (text.splitOn "/").filter fun name => !name.isEmpty && name != "."
  if text.startsWith "/" then "/" :: names else names

/-- Whether a text can only name a folder. -/
def namesFolder (text : String) : Bool := text.endsWith "/" || text.endsWith "/."

inductive Entry where
  | text (file : Config.File)
  | database (store : Store)

structure Disk where
  /-- The folders in which files can be made. -/
  folders : List Path
  entries : List (Path × Entry)

/-- Why a database cannot be used. -/
inductive DatabaseFault where
  | cannotOpen (path : String)
  | notDatabase
  deriving DecidableEq

namespace DatabaseFault

def message : DatabaseFault → String
  | cannotOpen path => "unable to open database file: " ++ path
  | notDatabase => "file is not a database"

/-- The kind of the fault, with its number. -/
def code : DatabaseFault → String
  | cannotOpen _ => "Error code 14: Unable to open the database file"
  | notDatabase => "Error code 26: File opened that is not a database file"

end DatabaseFault

namespace Disk

/-- A working folder with nothing in it. -/
def empty : Disk := ⟨[[]], []⟩

def find? (disk : Disk) (path : Path) : Option Entry := disk.entries.lookup path

/-- Puts something at a path, in place of what was there. -/
def put (disk : Disk) (path : Path) (entry : Entry) : Disk :=
  { disk with entries := (path, entry) :: disk.entries.filter fun e => e.1 != path }

/-- The configuration file at a path. -/
def configFile (disk : Disk) (text : String) : Except Config.Error Config.File :=
  let path := Path.ofText text
  if disk.folders.contains path then .error (.unreadable "Is a directory (os error 21)")
  else match disk.find? path with
    | none => .error Config.missing
    | some entry =>
      if namesFolder text then .error (.unreadable "Not a directory (os error 20)")
      else match entry with
        | .text file => .ok file
        | .database _ => .error Config.notText

/-- The name of a database that is not kept. -/
def inMemory : String := ":memory:"

/-- The database at a path. One that is not there is new. -/
def openStore (disk : Disk) (text : String) : Except DatabaseFault Store :=
  let path := Path.ofText text
  if text == inMemory then .ok .empty
  else if namesFolder text || disk.folders.contains path || !disk.folders.contains path.dropLast then
    .error (.cannotOpen text)
  else match disk.find? path with
    | none => .ok .empty
    | some (.database store) => .ok store
    | some (.text file) => if file.bytes.isEmpty then .ok .empty else .error .notDatabase

/-- Keeps a database. -/
def keepStore (disk : Disk) (text : String) (store : Store) : Disk :=
  if text == inMemory then disk else disk.put (Path.ofText text) (.database store)

end Disk

end Harvest.CommandLine
