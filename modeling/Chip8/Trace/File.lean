import Chip8.Files
import Chip8.Trace.Reader
import Chip8.Trace.Writer

/-!
# Trace files

Saving traces and reading them back.
-/

namespace Chip8.Trace

/-- Why a trace was not read. -/
inductive ReadError
  | file (e : FileError)
  | json (e : Json.Error)
  /-- The file was there, but gave nothing to read. -/
  | unreadable (e : FileError)
  deriving DecidableEq, Repr

def ReadError.message : ReadError → String
  | file e => e.message
  | json e => "serialize error: " ++ e.text
  | unreadable e => "serialize error: " ++ e.text

/-- Writes a trace to a file, in place of what it held. -/
def save {m : Type → Type} [FileAccess m] (t : Trace) (path : String) :
    m (Except FileError Unit) :=
  FileAccess.writeFile path t.print

/-- Reads a trace from a file. A directory can be opened like a file, and fails only then. -/
def load {m : Type → Type} [Monad m] [FileAccess m] (path : String) :
    m (Except ReadError Trace) := do
  match ← FileAccess.readFile path with
  | .error e => return .error (if e = .isDirectory then .unreadable e else .file e)
  | .ok text => return (read text).mapError .json

end Chip8.Trace
