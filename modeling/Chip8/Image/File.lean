import Chip8.Files
import Chip8.Machine

/-!
# Image files

Loading a font or a program from a file.
-/

namespace Chip8

/-- Why an image was not loaded. -/
inductive LoadError
  | file (e : FileError)
  | tooLarge (e : ImageTooLarge)
  deriving DecidableEq, Repr

namespace LoadError

def message : LoadError → String
  | file e => e.message
  | tooLarge e => e.message

/-- The error and what it goes back to, from the outermost to the innermost cause. -/
def causes : LoadError → List String
  | file e => [e.message, e.text]
  | tooLarge e => [e.message]

end LoadError

/-- Loads an image from a file: the image's size and the machine with the image, or why not. -/
def Machine.loadFile {m : Type → Type} [Monad m] [FileAccess m] (machine : Machine)
    (kind : ImageKind) (path : String) : m (Except LoadError (Nat × Machine)) := do
  match ← FileAccess.readFile path with
  | .error e => return .error (.file e)
  | .ok image =>
    match machine.load kind image with
    | .error e => return .error (.tooLarge e)
    | .ok loaded => return .ok (image.length, loaded)

end Chip8
