/-!
# Log entries

What the library reports as it works: a severity, the part that speaks, and a line of text.
-/

namespace Chip8.Log

/-- Severities, the gravest first. -/
inductive Level
  | error
  | warn
  | info
  | debug
  | trace
  deriving DecidableEq, Repr

namespace Level

def name : Level → String
  | error => "ERROR"
  | warn => "WARN"
  | info => "INFO"
  | debug => "DEBUG"
  | trace => "TRACE"

/-- How much is lost by leaving out an entry of this level: zero for the gravest. -/
def rank : Level → Nat
  | error => 0
  | warn => 1
  | info => 2
  | debug => 3
  | trace => 4

def all : List Level := [error, warn, info, debug, trace]

end Level

structure Entry where
  level : Level
  /-- The part that speaks, as a path of names. -/
  source : String
  text : String
  deriving DecidableEq, Repr

namespace Entry

/-- The entry on a line of its own: level padded to five letters, source, text. If the text has
several lines, all but the first are indented. -/
def line (e : Entry) : String :=
  let padding := String.ofList (List.replicate (5 - e.level.name.length) ' ')
  "[" ++ e.level.name ++ padding ++ " " ++ e.source ++ "] "
    ++ "\n    ".intercalate (e.text.splitOn "\n")

end Entry

/-! ## The parts of the program that report -/

namespace Source

def program : String := "chip8vm"
def machine : String := "chip8vm::emulator"
def memory : String := "chip8vm::memory"
def keypad : String := "chip8vm::keyboard"
def trace : String := "chip8vm::trace"
def window : String := "chip8vm::frontend::screen"

end Source

end Chip8.Log
