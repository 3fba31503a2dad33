/-!
The stages of one collection run. They follow each other in order; any stage before the outcome may
turn to recording a failure, and both outcomes end in `done`.
-/

namespace Harvest.Collect

inductive Stage where
  | loadingConfig
  | resolvingSource
  | windowing
  | fetchingFeed
  | processingEntries
  | success
  | recordingFailure
  | done
  deriving DecidableEq

namespace Stage

def all : List Stage :=
  [loadingConfig, resolvingSource, windowing, fetchingFeed, processingEntries, success,
    recordingFailure, done]

def name : Stage → String
  | loadingConfig => "loading-config"
  | resolvingSource => "resolving-source"
  | windowing => "windowing"
  | fetchingFeed => "fetching-feed"
  | processingEntries => "processing-entries"
  | success => "success"
  | recordingFailure => "recording-failure"
  | done => "done"

/-- The name of a stage in error messages. -/
def title : Stage → String
  | loadingConfig => "LoadingConfig"
  | resolvingSource => "ResolvingSource"
  | windowing => "Windowing"
  | fetchingFeed => "FetchingFeed"
  | processingEntries => "ProcessingEntries"
  | success => "Success"
  | recordingFailure => "RecordingFailure"
  | done => "Done"

def ofName? (text : String) : Option Stage := all.find? fun stage => stage.name == text

/-- The stage after a step that went well. -/
def next? : Stage → Option Stage
  | loadingConfig => some resolvingSource
  | resolvingSource => some windowing
  | windowing => some fetchingFeed
  | fetchingFeed => some processingEntries
  | processingEntries => some success
  | success | recordingFailure => some done
  | done => none

/-- Whether a run is still before its outcome. -/
def isOpen : Stage → Bool
  | loadingConfig | resolvingSource | windowing | fetchingFeed | processingEntries => true
  | success | recordingFailure | done => false

/-- Whether a run may go from one stage to another. -/
def canMove (source target : Stage) : Bool :=
  source.next? == some target || (source.isOpen && target == recordingFailure)

def isDone (stage : Stage) : Bool := stage == done

end Stage

end Harvest.Collect
