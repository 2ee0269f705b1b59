import Chip8.CommandLine.Options
import Chip8.Text.Terminal

/-!
# Usage texts

The help and version texts, and what is said of command lines that make no sense.
-/

namespace Chip8.CommandLine

def programName : String := "chip8vm"

def versionText : String := programName ++ " 0.1.0\n"

def helpText : String :=
"Usage: chip8vm [OPTIONS] <ROM>

Arguments:
  <ROM>  Program image, loaded at 0x200

Options:
  -f, --font <FONT>      Font image, loaded at 0x050; the built-in hex font is used if absent
      --hz <HZ>          Cycles per second [default: 500]
  -s, --scale <SCALE>    Window scale: 1, 2, 4, 8, 16 or 32 [default: 16]
  -t, --trace <TRACE>    Run headless and write a JSON snapshot per cycle to this file
  -c, --cycles <CYCLES>  Number of cycles to run in trace mode [default: 1000]
      --seed <SEED>      Seed for the random number instruction
  -h, --help             Print help
  -V, --version          Print version
"

/-- How to go on after an argument that means nothing. -/
inductive Tip
  /-- After two dashes the argument would be a value. -/
  | passAsValue
  /-- Another option was meant, most likely. -/
  | similar (option : String)
  deriving DecidableEq, Repr

inductive UsageError
  | missingRom (given : List Setting)
  /-- An argument that means nothing, with the options that the usage line names; the general usage
  line if there are none to name. -/
  | unexpectedArgument (argument : String) (tip : Option Tip) (used : Option (List String))
  /-- A value attached to a switch. The usage line says whether anything may still be given. -/
  | unneededValue (value : String) (switch : Switch) (anyGiven : Bool)
  | missingValue (place : Place)
  | invalidValue (value : String) (place : Place) (why : String)
  | repeated (s : Setting)
  deriving DecidableEq, Repr

/-- The usage line for a command line that goes on as given. -/
def usageLine (parts : List String) : String := "Usage: " ++ " ".intercalate (programName :: parts)

/-- The usage line that names no option. -/
def generalUsage : String := usageLine ["[OPTIONS]", romText]

/-- Everything that takes a value, as alternatives. -/
def alternatives : String :=
  "<" ++ "|".intercalate ("ROM" :: Setting.all.map Setting.text) ++ ">"

def Tip.line (argument : String) : Tip → String
  | passAsValue => "  tip: to pass '" ++ argument ++ "' as a value, use '-- " ++ argument ++ "'"
  | similar option => "  tip: a similar argument exists: '" ++ option ++ "'"

namespace UsageError

/-- The lines between the first one and the last. What the user wrote is repeated without controls
for a terminal. -/
def body : UsageError → List String
  | missingRom given =>
    ["error: the following required arguments were not provided:", "  " ++ romText, "",
      usageLine (given.map Setting.text ++ [romText])]
  | unexpectedArgument argument tip used =>
    let argument := Text.withoutControls argument
    let usage := match used with
      | some options => usageLine (options ++ [romText])
      | none => generalUsage
    ["error: unexpected argument '" ++ argument ++ "' found", ""]
      ++ (tip.toList.flatMap fun t => [t.line argument, ""]) ++ [usage]
  | unneededValue value switch anyGiven =>
    ["error: unexpected value '" ++ Text.withoutControls value ++ "' for '" ++ switch.text
        ++ "' found; no more were expected", "",
      usageLine [switch.text, if anyGiven then alternatives else romText]]
  | missingValue place =>
    ["error: a value is required for '" ++ place.text ++ "' but none was supplied"]
  | invalidValue value place why =>
    ["error: invalid value '" ++ Text.withoutControls value ++ "' for '" ++ place.text ++ "': "
      ++ why]
  | repeated s =>
    ["error: the argument '" ++ s.text ++ "' cannot be used multiple times", "", generalUsage]

def lines (e : UsageError) : List String := e.body ++ ["", "For more information, try '--help'."]

end UsageError

end Chip8.CommandLine
