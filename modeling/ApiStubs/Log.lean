import ApiStubs.Error
import ApiStubs.Escape
import ApiStubs.Report
import ApiStubs.Version

/-!
The events that a run logs, and how much of them is shown. These are the events of the program
itself: what the client that fetches a feed over the net logs of its connections is not among them.
-/

namespace ApiStubs

-- How important an event is, or how important it has to be.
inductive Level
  | error
  | info
  | debug
  | trace
  deriving DecidableEq, Repr, Inhabited

namespace Level

def rank : Level → Nat
  | error => 0
  | info => 1
  | debug => 2
  | trace => 3

def text : Level → String
  | error => "ERROR"
  | info => "INFO"
  | debug => "DEBUG"
  | trace => "TRACE"

end Level

inductive Event
  | fetching (source : String)
  | fetched (url : String) (bytes : Nat)
  | selected (entries : Nat)
  | tooNew (name added : String)
  | wrote (output : String) (rendered : Nat)
  | done (report : Report) (versions : VersionFilter)
  | failed (context : String) (cause : Error)
  deriving DecidableEq, Repr, Inhabited

namespace Event

def level : Event → Level
  | fetching _ | wrote .. | done .. => .info
  | fetched .. | selected _ | tooNew .. => .debug
  | failed .. => .error

def origin : Event → String
  | done .. | failed .. => "stubgen"
  | fetched .. => "stubgen_core::source"
  | _ => "stubgen_core::pipeline"

def message : Event → String
  | fetching source => s!"fetching API document source={source}"
  | fetched url bytes => s!"fetched API document url={url} bytes={bytes}"
  | selected entries => s!"selected API entries entries={entries}"
  | tooNew name added => s!"skipping entry newer than target version name={name} added={added}"
  | wrote output rendered => s!"wrote stub file output={output} rendered={rendered}"
  | done r versions =>
    s!"done rendered={r.rendered} skipped_constructor={r.skippedConstructor} " ++
      s!"skipped_version={r.skippedVersion} target_version={versions.text}"
  | failed context cause =>
    Escape.terminal (context ++ ": " ++ cause.trace) ++ " stage=" ++ cause.stage.text

def line (e : Event) : String :=
  s!"{e.level.text} {e.origin}: {e.message}"

end Event

-- The events that are shown at a level: those of the level and more important ones.
def Level.show (level : Level) (log : List Event) : List Event :=
  log.filter fun e => e.level.rank ≤ level.rank

end ApiStubs
