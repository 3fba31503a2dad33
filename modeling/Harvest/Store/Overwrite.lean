import Harvest.Decimal.Read
import Harvest.Store.Basic

/-!
Overwriting one column of a stored row by hand. Nothing is checked but that the column can hold the
value: text columns hold numbers as their digits, and only columns that may be empty can be emptied.
-/

namespace Harvest.Store

/-- A value for a column. -/
inductive Cell where
  | empty
  | text (s : String)
  | number (n : Int)
  deriving DecidableEq

namespace Cell

def text? : Cell → Option String
  | empty => none
  | text s => some s
  | number n => some (toString n)

def number? : Cell → Option Int
  | empty => none
  | text s => s.toInt?
  | number n => some n

def real? : Cell → Option Float
  | empty => none
  | text s => Decimal.read? s
  | number n => some (Float.ofInt n)

end Cell

end Harvest.Store

namespace Harvest.Source.Row

open Harvest.Store (Cell)

/-- The row with another value in a column. -/
def overwrite (row : Row) (column : String) (cell : Cell) : Option Row :=
  match column with
  | "source_type" => cell.text?.map fun s => { row with sourceType := s }
  | "name" => cell.text?.map fun s => { row with name := s }
  | "url" => cell.text?.map fun s => { row with url := s }
  | "credibility_score" => cell.real?.map fun x => { row with credibility := x }
  | "source_tier" => some { row with tier := cell.text? }
  | "reporting_type" => some { row with reportingType := cell.text? }
  | "config" => cell.text?.map fun s => { row with config := s }
  | "is_active" => cell.number?.map fun n => { row with active := n }
  | "last_fetched_at" => some { row with lastFetchedAt := cell.text? }
  | "ingestion_window_end_at" => some { row with watermark := cell.text? }
  | "error_count" => cell.number?.map fun n => { row with errorCount := n }
  | "last_error" => some { row with lastError := cell.text? }
  | "created_at" => cell.text?.map fun s => { row with createdAt := s }
  | "updated_at" => cell.text?.map fun s => { row with updatedAt := s }
  | _ => none

end Harvest.Source.Row

namespace Harvest.Item.Row

open Harvest.Store (Cell)

/-- The row with another value in a column. -/
def overwrite (row : Row) (column : String) (cell : Cell) : Option Row :=
  match column with
  | "source_id" => cell.number?.map fun n => { row with sourceId := n }
  | "external_id" => cell.text?.map fun s => { row with externalId := s }
  | "url" => cell.text?.map fun s => { row with url := s }
  | "title" => some { row with title := cell.text? }
  | "author" => some { row with author := cell.text? }
  | "published_at" => some { row with publishedAt := cell.text? }
  | "fetched_at" => cell.text?.map fun s => { row with fetchedAt := s }
  | "raw_content" => cell.text?.map fun s => { row with content := s }
  | "content_hash" => cell.text?.map fun s => { row with hash := s }
  | "language" => some { row with language := cell.text? }
  | "processing_status" => cell.text?.map fun s => { row with status := s }
  | "error_message" => some { row with errorMessage := cell.text? }
  | _ => none

end Harvest.Item.Row

namespace Harvest.Store

/-- The store with another value in one column of a source. -/
def overwriteSource (store : Store) (id : Int) (column : String) (cell : Cell) : Store :=
  { store with
    sources := store.sources.map fun row =>
      if row.id == id then (row.overwrite column cell).getD row else row }

/-- The store with another value in one column of an item. -/
def overwriteItem (store : Store) (id : Int) (column : String) (cell : Cell) : Store :=
  { store with
    items := store.items.map fun row =>
      if row.id == id then (row.overwrite column cell).getD row else row }

end Harvest.Store
