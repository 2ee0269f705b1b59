import Chip8.CommandLine.Usage
import Chip8.Text.Similarity

/-!
# Reading arguments

Arguments are read from left to right; the first problem, or a switch, ends the reading. A value
that stands in an argument of its own is checked only when the next option or the program is met,
or at the end, so an argument that means nothing is reported before the value in front of it.
-/

namespace Chip8.CommandLine

/-- What a command line asks for. -/
inductive Request
  | run (o : Options)
  | help
  | version
  deriving DecidableEq, Repr

def Switch.request : Switch → Request
  | help => .help
  | version => .version

/-- Reading stops early for a switch or a problem. -/
inductive Stop
  | request (r : Request)
  | problem (e : UsageError)
  deriving DecidableEq, Repr

/-- How far reading has come. -/
structure Progress where
  /-- The settings checked so far, first one first. -/
  given : List Setting
  /-- The options that they make up. The program is not filled in until it has been checked. -/
  options : Options
  /-- Whether the program has been met. -/
  romMet : Bool
  /-- A place that has been met and not checked, with its value unless that is still to come. -/
  pending : Option (Place × Option String)
  /-- Whether two dashes have ended the options. -/
  onlyValues : Bool
  deriving DecidableEq, Repr

namespace Progress

def start : Progress where
  given := []
  options := .standard ""
  romMet := false
  pending := none
  onlyValues := false

/-- Accepts the value of a setting. -/
def accept (p : Progress) (s : Setting) (value : String) : Except Stop Progress :=
  if p.given.contains s then .error (.problem (.repeated s))
  else
    match s.apply value p.options with
    | .error .empty => .error (.problem (.missingValue (.setting s)))
    | .error (.invalid why) => .error (.problem (.invalidValue value (.setting s) why))
    | .ok options => .ok { p with given := p.given ++ [s], options }

/-- Checks what is pending. -/
def settle (p : Progress) : Except Stop Progress :=
  match p.pending with
  | none => .ok p
  | some (place, none) => .error (.problem (.missingValue place))
  | some (.rom, some value) =>
    match readPath value with
    | .error _ => .error (.problem (.missingValue .rom))
    | .ok rom => .ok { p with options := { p.options with rom }, pending := none }
  | some (.setting s, some value) => ({ p with pending := none }).accept s value

/-- Meets a setting, with its value if that is attached to it. -/
def meetSetting (p : Progress) (s : Setting) (attached : Option String) : Except Stop Progress := do
  let p ← p.settle
  match attached with
  | some value => p.accept s value
  | none => return { p with pending := some (.setting s, none) }

/-- Meets a switch. -/
def meetSwitch (p : Progress) (s : Switch) : Except Stop Progress := do
  let _ ← p.settle
  throw (.request s.request)

/-- The settings that count as used when reading stops at an argument that means nothing. One that
is pending counts with any value; if it was given before, that cancels it. -/
def used (p : Progress) : List Setting :=
  match p.pending with
  | some (.setting s, some _) =>
    if p.given.contains s then p.given.filter (· ≠ s) else p.given ++ [s]
  | _ => p.given

/-- Whether anything has been checked so far. -/
def anyGiven (p : Progress) : Bool :=
  !p.given.isEmpty || (p.romMet && !(p.pending.map Prod.fst = some .rom))

/-- A long option that does not exist, written without its dashes. -/
def unknownLong (p : Progress) (name : String) : Stop :=
  let names := Setting.all.map Setting.long ++ Switch.all.map Switch.long
  match Text.mostSimilar name names with
  | none =>
    let used := if p.used.isEmpty ∧ ¬ p.romMet then none else some (p.used.map Setting.text)
    .problem (.unexpectedArgument ("--" ++ name) (some .passAsValue) used)
  | some close =>
    let meant :=
      ((Setting.all.filter fun s => s.long = close ∧ ¬ p.used.contains s).map Setting.text) ++
        (Switch.all.filter fun s => s.long = close).map Switch.text
    .problem (.unexpectedArgument ("--" ++ name) (some (.similar ("--" ++ close)))
      (some (p.used.map Setting.text ++ meant)))

/-- Meets an argument that begins with two dashes, which are left out here. -/
def meetLong (p : Progress) (argument : String) : Except Stop Progress :=
  let letters := argument.toList
  let name := String.ofList (letters.takeWhile (· ≠ '='))
  let attached :=
    match letters.dropWhile (· ≠ '=') with
    | _ :: value => some (String.ofList value)
    | [] => none
  match Setting.all.find? fun s => s.long = name with
  | some s => p.meetSetting s attached
  | none =>
    match Switch.all.find? fun s => s.long = name, attached with
    | some s, none => p.meetSwitch s
    | some s, some value => .error (.problem (.unneededValue value s p.anyGiven))
    | none, _ => .error (p.unknownLong name)

/-- Meets the letters of an argument that begins with one dash. A setting takes the rest of the
argument for its value, less an equals sign, if there is a rest. -/
def meetShort (p : Progress) : List Char → Except Stop Progress
  | [] => .ok p
  | c :: rest =>
    match Setting.all.find? fun s => s.short? = some c with
    | some s =>
      match rest with
      | [] => p.meetSetting s none
      | '=' :: value => p.meetSetting s (some (String.ofList value))
      | _ => p.meetSetting s (some (String.ofList rest))
    | none =>
      match Switch.all.find? fun s => s.short = c with
      | some s => do
        let p ← p.meetSwitch s
        p.meetShort rest
      | none =>
        .error (.problem (.unexpectedArgument (String.ofList ['-', c]) (some .passAsValue) none))

/-- Meets a value: of the setting that waits for one, or else the program. -/
def meetValue (p : Progress) (value : String) : Except Stop Progress :=
  match p.pending, p.onlyValues with
  | some (.setting s, none), false => .ok { p with pending := some (.setting s, some value) }
  | _, _ =>
    if p.romMet then .error (.problem (.unexpectedArgument value none none))
    else do
      let p ← p.settle
      return { p with romMet := true, pending := some (.rom, some value) }

/-- Meets one argument. -/
def meet (p : Progress) (argument : String) : Except Stop Progress :=
  if p.onlyValues then p.meetValue argument
  else
    match argument.toList with
    | ['-', '-'] => .ok { p with onlyValues := true }
    | '-' :: '-' :: long => p.meetLong (String.ofList long)
    | '-' :: c :: letters => p.meetShort (c :: letters)
    | _ => p.meetValue argument

/-- The request, once all arguments have been met. -/
def finish (p : Progress) : Except Stop Request := do
  let p ← p.settle
  if p.romMet then return .run p.options
  else throw (.problem (.missingRom p.given))

end Progress

/-- Reads a command line. -/
def readArguments (arguments : List String) : Except UsageError Request :=
  match arguments.foldlM Progress.meet .start >>= Progress.finish with
  | .ok r => .ok r
  | .error (.request r) => .ok r
  | .error (.problem e) => .error e

end Chip8.CommandLine
