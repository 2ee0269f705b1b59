import Chip8.CommandLine.Arguments
import Chip8.Font
import Chip8.Image.File
import Chip8.Log.Filter
import Chip8.Machine.Journal
import Chip8.Trace.File

/-!
# The program

What a command line does: load a font and a program, and then record a trace of a run without a
window. Files are reached through `FileAccess`, so the program is the same over a real file system
and over a `Directory`. No window can be opened here: asked for one, the program says so and
fails.
-/

namespace Chip8.CommandLine

/-- Why a run failed. -/
inductive Failure
  | font (path : String) (e : LoadError)
  | builtInFont (e : ImageTooLarge)
  | program (path : String) (e : LoadError)
  | writing (path : String) (e : FileError)
  | window
  deriving DecidableEq, Repr

namespace Failure

/-- What was being done. -/
def context : Failure → String
  | font path _ => "loading font " ++ path
  | builtInFont _ => "loading built-in font"
  | program path _ => "loading program " ++ path
  | writing path _ => "writing trace " ++ path
  | window => "opening window"

/-- What it goes back to, from the outermost to the innermost cause. -/
def causes : Failure → List String
  | font _ e => e.causes
  | builtInFont e => [e.message]
  | program _ e => e.causes
  | writing _ e => [e.message, e.text]
  | window => ["Failed to create window"]

/-- The failure and its causes, which are numbered if there are several. -/
def lines (f : Failure) : List String :=
  let listed :=
    match f.causes with
    | [cause] => ["    " ++ cause]
    | causes => causes.zipIdx.map fun (cause, i) => "    " ++ i.repr ++ ": " ++ cause
  ["Error: " ++ f.context, "", "Caused by:"] ++ listed

end Failure

/-- How a run ended: what it reported on the way, and whether it failed. -/
structure RunOutcome where
  journal : List Log.Entry
  failure : Option Failure
  deriving DecidableEq, Repr

/-- Window scales that can be asked for. -/
def windowScales : List Nat := [1, 2, 4, 8, 16, 32]

/-- What is said of an unusable window scale. -/
def scaleJournal (scale : Nat) : List Log.Entry :=
  if windowScales.contains scale then []
  else [⟨.warn, Log.Source.window, "unsupported window scale " ++ scale.repr ++ ", using 16"⟩]

/-- What is said of the fault that ended a recording. -/
def stopJournal (r : Trace.Recording) : List Log.Entry :=
  match r.fault with
  | none => []
  | some fault =>
    [⟨.warn, Log.Source.program, "trace stopped after " ++ r.trace.length.repr ++ " cycles: "
      ++ fault.message⟩]

section

variable {m : Type → Type} [Monad m] [FileAccess m]

/-- Loads the font of a file, or the built-in one. -/
def loadFont (machine : Machine) (path : Option String) :
    m (Except Failure (Nat × Machine)) :=
  match path with
  | some path => return (← machine.loadFile .font path).mapError (.font path)
  | none =>
    return ((machine.load .font Font.builtIn).map fun loaded =>
      (Font.builtIn.length, loaded)).mapError .builtInFont

/-- Records a run and writes its trace. -/
def recordTrace (machine : Machine) (path : String) (cycles : Nat) : m RunOutcome := do
  let recording := Trace.record cycles machine
  let journal := machine.runJournal cycles ++ stopJournal recording
  match ← recording.trace.save path with
  | .error e => return ⟨journal, some (.writing path e)⟩
  | .ok () => return ⟨journal ++ recording.trace.saveJournal path, none⟩

/-- Loads the images that the options name and goes on with the loaded machine. -/
def withImages (o : Options) (machine : Machine) (next : Machine → m RunOutcome) :
    m RunOutcome := do
  match ← loadFont machine o.font with
  | .error failure => return ⟨[], some failure⟩
  | .ok (fontSize, machine) =>
    let fontJournal := ImageKind.font.journal fontSize
    match ← machine.loadFile .program o.rom with
    | .error e => return ⟨fontJournal, some (.program o.rom e)⟩
    | .ok (programSize, machine) =>
      let outcome ← next machine
      return { outcome with
        journal := fontJournal ++ ImageKind.program.journal programSize ++ outcome.journal }

/-- A run with the given options. Without a seed the random numbers come from `entropy`. -/
def runProgram (o : Options) (entropy : UInt64) : m RunOutcome :=
  withImages o (.withSeed (o.seed.getD entropy)) fun machine =>
    match o.trace with
    | some path => recordTrace machine path o.cycles
    | none => return ⟨scaleJournal o.scale, some .window⟩

/-- What the program leaves behind for whoever started it. -/
structure Result where
  exitCode : Nat
  /-- Standard output. -/
  out : String
  /-- The lines of standard error. -/
  err : List String
  deriving DecidableEq, Repr

/-- The whole program: its arguments, and the specification of the log filter if there is one. -/
def runCommand (arguments : List String) (logSpec : Option String) (entropy : UInt64) :
    m Result := do
  let (filter, complaints) := (logSpec.map Log.Filter.ofText).getD (.standard, [])
  match readArguments arguments with
  | .error e => return ⟨2, "", complaints ++ e.lines⟩
  | .ok .help => return ⟨0, helpText, complaints⟩
  | .ok .version => return ⟨0, versionText, complaints⟩
  | .ok (.run o) =>
    let outcome ← runProgram o entropy
    let log := (outcome.journal.filter filter.shows).map Log.Entry.line
    match outcome.failure with
    | none => return ⟨0, "", complaints ++ log⟩
    | some failure => return ⟨1, "", complaints ++ log ++ failure.lines⟩

end

end Chip8.CommandLine
