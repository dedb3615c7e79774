/-
From settings written down to a configuration. A text is refused as a document first, then as a layout, then for a span
that is no duration, and last as settings.
-/
import ReplicaKV.Failure
import ReplicaKV.Settings.Layout

namespace ReplicaKV

namespace Settings

/-- why settings that were written down are refused -/
inductive Rejection where
  /-- the text is no document -/
  | noDocument
  | misfit (m : Misfit)
  | noDuration (span : Span) (x : Binary64)
  | problem (p : Problem)
  | unreadable (path reason : String)

namespace Rejection

def message : Rejection → String
  | noDocument => "syntax"
  | misfit m => m.message
  | noDuration span x => s!"{span.name} = {x.text} is not a valid duration"
  | problem p => p.message
  | unreadable path reason => s!"cannot read {path}: {reason}"

def failure (r : Rejection) : Failure := .invalidConfig r.message

end Rejection

namespace File

/-- the text as settings written down -/
def ofText (text : String) : Except Rejection File :=
  match Toml.Entries.ofText text with
  | none => .error .noDocument
  | some es => (ofEntries es).mapError .misfit

/-- a span, if it was given -/
def duration (span : Span) (x : Option Binary64) (default : Duration) : Except Rejection Duration :=
  match x with
  | none => .ok default
  | some x =>
    match Duration.ofBinary64? x with
    | some d => .ok d
    | none => .error (.noDuration span x)

/-- the settings that were meant, with the usual tuning where none was given -/
def settings (f : File) : Except Rejection Settings := do
  let usual := initial f.clusterId
  let backoffScale ← duration .backoffScale f.backoffScale usual.backoffScale
  let masterRetryBudget ← duration .masterRetryBudget f.masterRetryBudget usual.masterRetryBudget
  let connectTimeout ← duration .connectTimeout f.connectTimeout usual.connectTimeout
  return ⟨f.clusterId, f.nodes, f.maxAttempts.getD usual.maxAttempts, backoffScale, masterRetryBudget, connectTimeout⟩

def config (f : File) : Except Rejection Config := do
  let s ← f.settings
  s.accept.mapError .problem

end File

end Settings

namespace Config

open Settings (Rejection File)

/-- the configuration that a text writes down -/
def ofText (text : String) : Except Rejection Config := File.ofText text >>= File.config

/-- what is found where a file is expected -/
inductive Found where
  | nothing
  | directory
  | file (bytes : Bytes)

/-- the configuration in the file at a path, given what is found there -/
def load (path : String) : Found → Except Rejection Config
  | .nothing => .error (.unreadable path "No such file or directory (os error 2)")
  | .directory => .error (.unreadable path "Is a directory (os error 21)")
  | .file bytes =>
    match Utf8.decode bytes with
    | .ok text => ofText text
    | .error _ => .error (.unreadable path "stream did not contain valid UTF-8")

end Config

end ReplicaKV
