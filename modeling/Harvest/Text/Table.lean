/-!
Tables over the characters of Unicode, written compactly: a row is the first code point it covers in
hexadecimal, a letter for its kind, and numbers with points between them. A row covers all code
points up to the next row.
-/

namespace Harvest.Text

structure Row where
  start : Nat
  kind : Char
  numbers : List Nat

abbrev Table := Array Row

namespace Table

private def hexValue? (c : Char) : Option Nat :=
  if '0' ≤ c && c ≤ '9' then some (c.toNat - 48)
  else if 'A' ≤ c && c ≤ 'F' then some (c.toNat - 55)
  else none

/-- What has been read of a row: its start, then its kind and its numbers, latest first. -/
private structure Partial where
  start : Nat
  kind : Option Char
  numbers : List Nat

private def Partial.finish (p : Partial) (rows : Table) : Table :=
  match p.kind with
  | some kind => rows.push ⟨p.start, kind, p.numbers.reverse⟩
  | none => rows

private def Partial.digit (p : Partial) (d : Nat) : Partial :=
  match p.kind, p.numbers with
  | none, _ => { p with start := p.start * 16 + d }
  | some _, [] => { p with numbers := [d] }
  | some _, n :: rest => { p with numbers := (n * 16 + d) :: rest }

private def readRows (rows : Table) (p : Partial) : List Char → Table
  | [] => p.finish rows
  | c :: rest =>
    if c == ' ' then readRows (p.finish rows) ⟨0, none, []⟩ rest
    else if c == '.' then readRows rows { p with numbers := 0 :: p.numbers } rest
    else match hexValue? c with
      | some d => readRows rows (p.digit d) rest
      | none => readRows rows { p with kind := some c } rest

/-- The table that lines of rows write. -/
def ofLines (lines : List String) : Table :=
  lines.foldl (fun rows line => readRows rows ⟨0, none, []⟩ line.toList) #[]

/-- Halves the range between `low` and `high` until one row is left. -/
private def search (t : Table) (n : Nat) (low high : Nat) : (fuel : Nat) → Option Row
  | 0 => none
  | fuel + 1 =>
    if high ≤ low + 1 then t[low]?
    else
      let middle := (low + high) / 2
      match t[middle]? with
      | some row => if row.start ≤ n then search t n middle high fuel else search t n low middle fuel
      | none => none

/-- The last row that starts at or before `n`. -/
def covering (t : Table) (n : Nat) : Option Row :=
  match t[0]? with
  | some first => if first.start ≤ n then search t n 0 t.size t.size else none
  | none => none

/-- The row that starts at `n`. -/
def starting (t : Table) (n : Nat) : Option Row := (t.covering n).filter (·.start == n)

end Table

end Harvest.Text
