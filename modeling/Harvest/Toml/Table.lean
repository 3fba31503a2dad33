import Harvest.Toml.Value

/-!
Tables while a document is read. A table is written once: by its own header, by the headers of tables
inside it, or by dotted keys, and the three do not mix.
-/

namespace Harvest.Toml

/-- What a key of a table stands for. -/
inductive Item where
  | value (v : Value)
  /-- A table; `isOpen` until a header names it, `isDotted` if dotted keys made it. -/
  | table (isOpen isDotted : Bool) (entries : List (String × Item))
  /-- The tables of an array, latest last. -/
  | tables (list : List (List (String × Item)))

abbrev Entries := List (String × Item)

namespace Entries

def get? (entries : Entries) (key : String) : Option Item :=
  (entries.find? fun e => e.1 == key).map Prod.snd

/-- Puts an item in the place of an earlier one under its key, or behind all others. -/
def put (entries : Entries) (key : String) (item : Item) : Entries :=
  match entries with
  | [] => [(key, item)]
  | (k, i) :: rest => if k == key then (key, item) :: rest else (k, i) :: put rest key item

def erase (entries : Entries) (key : String) : Entries := entries.filter fun e => e.1 != key

/-- Changes the table at the end of a path, which is made where it is missing. The change is told
whether dotted keys made the table. -/
def descend (byDots : Bool) (change : Bool → Entries → Option Entries) :
    (path : List String) → (isDotted : Bool) → Entries → Option Entries
  | [], isDotted, entries => change isDotted entries
  | key :: rest, _, entries =>
    match entries.get? key with
    | none => do
      let inner ← descend byDots change rest byDots []
      some (entries.put key (.table true byDots inner))
    | some (.value _) => none
    | some (.tables list) =>
      match list.getLast? with
      | none => none
      | some last => do
        let inner ← descend byDots change rest false last
        some (entries.put key (.tables (list.dropLast ++ [inner])))
    | some (.table isOpen isDotted inner) =>
      if byDots && !isOpen then none
      else do
        let inner ← descend byDots change rest isDotted inner
        some (entries.put key (.table isOpen isDotted inner))

/-- Adds a value under a key of one or more parts. -/
def addValue (entries : Entries) (path : List String) (key : String) (v : Value) : Option Entries :=
  entries.descend true (fun isDotted inner =>
    if isDotted == path.isEmpty || (inner.get? key).isSome then none
    else some (inner.put key (.value v))) path false

mutual

def ofItem : Item → Value
  | .value v => v
  | .table _ _ entries => .table (toValues entries)
  | .tables list => .array (ofTables list)

def ofTables : List (List (String × Item)) → List Value
  | [] => []
  | entries :: rest => .table (toValues entries) :: ofTables rest

/-- The finished values of a table. -/
def toValues : List (String × Item) → List (String × Value)
  | [] => []
  | (key, item) :: rest => (key, ofItem item) :: toValues rest

end

end Entries

/-- A document while it is read: the tables so far, and the table of the latest header, which is
outside of them until the next. -/
structure Draft where
  done : Entries
  path : List String
  isArray : Bool
  current : Entries

namespace Draft

def empty : Draft := ⟨[], [], false, []⟩

private def split (path : List String) : Option (List String × String) :=
  path.getLast?.map fun key => (path.dropLast, key)

/-- Puts the latest table among the others. -/
def close (draft : Draft) : Option Entries :=
  match split draft.path with
  | none => some draft.current
  | some (outer, key) =>
    draft.done.descend false (fun _ entries =>
      if draft.isArray then
        match entries.get? key with
        | none => some (entries.put key (.tables [draft.current]))
        | some (.tables list) => some (entries.put key (.tables (list ++ [draft.current])))
        | some _ => none
      else match entries.get? key with
        | none => some (entries.put key (.table false false draft.current))
        | some _ => none) outer false

/-- Whether a path leads to a place for one more table of an array. -/
private def startArray (entries : Entries) (outer : List String) (key : String) : Option Entries :=
  entries.descend false (fun _ entries =>
    match entries.get? key with
    | none => some (entries.put key (.tables []))
    | some (.tables _) => some entries
    | some _ => none) outer false

/-- The entries of a table that headers of inner tables have made, if there is one. -/
private def openEntries (outer : List String) (key : String) : (entries : Entries) → Entries :=
  fun entries =>
    match outer with
    | [] =>
      match entries.get? key with
      | some (.table _ _ inner) => inner
      | _ => []
    | first :: rest =>
      match entries.get? first with
      | some (.table _ _ inner) => openEntries rest key inner
      | some (.tables list) => openEntries rest key (list.getLast?.getD [])
      | _ => []
termination_by outer.length

private def startTable (entries : Entries) (outer : List String) (key : String) : Option Entries :=
  entries.descend false (fun _ entries =>
    match entries.get? key with
    | none => some entries
    | some (.table true false _) => some (entries.erase key)
    | some _ => none) outer false

/-- Begins the table of a header. -/
def start (draft : Draft) (isArray : Bool) (path : List String) : Option Draft := do
  let done ← draft.close
  let (outer, key) ← split path
  if isArray then
    some ⟨← startArray done outer key, path, true, []⟩
  else
    let current := openEntries outer key done
    some ⟨← startTable done outer key, path, false, current⟩

def addValue (draft : Draft) (path : List String) (key : String) (v : Value) : Option Draft := do
  some { draft with current := ← draft.current.addValue path key v }

end Draft

end Harvest.Toml
