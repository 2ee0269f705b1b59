import Chip8.Text.Integer

/-!
# Options

What the command line can say: a program image to run, settings that take a value, and switches
that ask for help or the version instead of a run.
-/

namespace Chip8.CommandLine

/-- The options that take a value. -/
inductive Setting
  | font
  | hz
  | scale
  | trace
  | cycles
  | seed
  deriving DecidableEq, Repr

/-- The options that take none. -/
inductive Switch
  | help
  | version
  deriving DecidableEq, Repr

namespace Setting

def all : List Setting := [font, hz, scale, trace, cycles, seed]

def long : Setting → String
  | font => "font"
  | hz => "hz"
  | scale => "scale"
  | trace => "trace"
  | cycles => "cycles"
  | seed => "seed"

def short? : Setting → Option Char
  | font => some 'f'
  | scale => some 's'
  | trace => some 't'
  | cycles => some 'c'
  | hz | seed => none

/-- The option with a stand-in for its value. -/
def text (s : Setting) : String := "--" ++ s.long ++ " <" ++ s.long.toUpper ++ ">"

end Setting

namespace Switch

def all : List Switch := [help, version]

def long : Switch → String
  | help => "help"
  | version => "version"

def short : Switch → Char
  | help => 'h'
  | version => 'V'

def text (s : Switch) : String := "--" ++ s.long

end Switch

/-- How the program stands in usage lines. -/
def romText : String := "<ROM>"

/-- Everything that can take a value. -/
inductive Place
  | rom
  | setting (s : Setting)
  deriving DecidableEq, Repr

def Place.text : Place → String
  | rom => romText
  | setting s => s.text

/-- What a run is told. -/
structure Options where
  rom : String
  font : Option String
  hz : Nat
  scale : Nat
  trace : Option String
  cycles : Nat
  seed : Option UInt64
  deriving DecidableEq, Repr

namespace Options

/-- A run of a program with every setting left out. -/
def standard (rom : String) : Options where
  rom := rom
  font := none
  hz := 500
  scale := 16
  trace := none
  cycles := 1000
  seed := none

end Options

/-- Why a value is not accepted. -/
inductive ValueError
  /-- An empty path is no value at all. -/
  | empty
  | invalid (why : String)
  deriving DecidableEq, Repr

/-- A path, which must not be empty. -/
def readPath (value : String) : Except ValueError String :=
  if value.isEmpty then .error .empty else .ok value

/-- A whole number of 64 bits. -/
def readNumber (value : String) : Except ValueError Nat :=
  (Text.readUnsigned (UInt64.size - 1) value).mapError fun e => .invalid e.message

/-- A whole number from zero to `greatest`. -/
def readRanged (greatest : Nat) (value : String) : Except ValueError Nat :=
  match Text.readSigned value with
  | .error e => .error (.invalid e.message)
  | .ok n =>
    if 0 ≤ n ∧ n ≤ greatest then .ok n.toNat
    else .error (.invalid (toString n ++ " is not in 0..=" ++ greatest.repr))

/-- The options with one setting given the value that a text stands for. -/
def Setting.apply (s : Setting) (value : String) (o : Options) : Except ValueError Options :=
  match s with
  | font => (readPath value).map fun path => { o with font := some path }
  | hz => (readRanged (UInt32.size - 1) value).map fun n => { o with hz := n }
  | scale => (readRanged (UInt8.size - 1) value).map fun n => { o with scale := n }
  | trace => (readPath value).map fun path => { o with trace := some path }
  | cycles => (readNumber value).map fun n => { o with cycles := n }
  | seed => (readNumber value).map fun n => { o with seed := some (UInt64.ofNat n) }

end Chip8.CommandLine
