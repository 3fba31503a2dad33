/-!
The processing status of a stored item.
-/

namespace Harvest

inductive ItemStatus where
  | pending
  | processing
  | classified
  | noise
  | error
  deriving DecidableEq

namespace ItemStatus

/-- Every status, in the order of reports. -/
def all : List ItemStatus := [pending, processing, classified, noise, error]

def name : ItemStatus → String
  | pending => "pending"
  | processing => "processing"
  | classified => "classified"
  | noise => "noise"
  | error => "error"

def ofName? (text : String) : Option ItemStatus := all.find? fun status => status.name == text

/-- Whether nothing more will be done with the item. -/
def isTerminal : ItemStatus → Bool
  | pending | processing => false
  | classified | noise | error => true

end ItemStatus

end Harvest
