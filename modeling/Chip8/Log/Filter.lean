import Chip8.Log
import Chip8.Pattern
import Chip8.Text.Blank

/-!
# Log filters

A filter decides which entries are shown. It is written as directives separated by commas: a level
for every source, a source for all of its entries, or `source=level`. For an entry the directive
counts whose source is the longest that the entry's source begins with. After a slash the
specification may give a pattern that shown entries have to match in some part.
-/

namespace Chip8.Log

structure Directive where
  /-- The beginning of the sources meant; every source if absent. -/
  source : Option String
  /-- The least grave level that is shown; nothing if absent. -/
  level : Option Level
  deriving DecidableEq, Repr

namespace Directive

/-- A level by its name in any case; `off` is the level of silence. -/
def levelOf? (name : String) : Option (Option Level) :=
  let upper := name.toUpper
  if upper = "OFF" then some none
  else (Level.all.find? fun l => l.name = upper).map some

/-- Reads a directive; if it means nothing, the part of it that is at fault. -/
def ofText (text : String) : Except String Directive :=
  match text.splitOn "=" with
  | [single] =>
    match levelOf? single with
    | some level => .ok ⟨none, level⟩
    | none => .ok ⟨some single, some .trace⟩
  | [source, level] =>
    let level := Text.trimBlank level
    if level.isEmpty then .ok ⟨some source, some .trace⟩
    else
      match levelOf? level with
      | some level => .ok ⟨some source, level⟩
      | none => .error level
  | _ => .error text

/-- How long a source the directive asks for. -/
def weight (d : Directive) : Nat := (d.source.map String.utf8ByteSize).getD 0

def applies (d : Directive) (source : String) : Bool :=
  match d.source with
  | none => true
  | some begin => begin.isPrefixOf source

end Directive

structure Filter where
  directives : List Directive
  /-- What some part of the text of shown entries matches. -/
  wanted : Option Pattern
  deriving DecidableEq, Repr

namespace Filter

/-- Adds a directive in place of an earlier one for the same source. -/
def insert (ds : List Directive) (d : Directive) : List Directive :=
  if ds.any fun e => e.source = d.source then ds.map fun e => if e.source = d.source then d else e
  else ds ++ [d]

/-- The filter when nothing was specified: information and what is graver. -/
def standard : Filter := ⟨[⟨none, some .info⟩], none⟩

/-- The directives in a list of them, and what is said of those that mean nothing. -/
def readDirectives (text : String) : List Directive × List String :=
  let items := (text.splitOn ",").map Text.trimBlank
  let read := (items.filter fun d => ¬ d.isEmpty).map Directive.ofText
  let understood := read.filterMap Except.toOption
  let complaints := read.filterMap fun
    | .error part => some ("warning: invalid logging spec '" ++ part ++ "', ignoring it")
    | .ok _ => none
  (understood.foldl insert [], complaints)

/-- The filter with the given directives; if there are none, errors alone are shown. -/
def ofDirectives (ds : List Directive) (wanted : Option Pattern) : Filter :=
  ⟨if ds.isEmpty then [⟨none, some .error⟩] else ds, wanted⟩

/-- The filter that a specification describes, and what is said of the parts that mean nothing. -/
def ofText (spec : String) : Filter × List String :=
  match spec.splitOn "/" with
  | [list, wanted] =>
    let (ds, complaints) := readDirectives list
    match Pattern.ofText wanted with
    | .ok pattern => (ofDirectives ds (some pattern), complaints)
    | .error refusal =>
      (ofDirectives ds none,
        complaints ++ ["warning: invalid regex filter - " ++ refusal.message wanted])
  | [list] =>
    let (ds, complaints) := readDirectives list
    (ofDirectives ds none, complaints)
  | _ =>
    (ofDirectives [] none,
      ["warning: invalid logging spec '" ++ spec ++ "', ignoring it (too many '/'s)"])

/-- The directive for a source: of those that apply the one with the longest source. -/
def directiveFor (f : Filter) (source : String) : Option Directive :=
  (f.directives.filter fun d => d.applies source).foldl
    (fun best d =>
      match best with
      | some b => if b.weight ≤ d.weight then some d else some b
      | none => some d) none

def shows (f : Filter) (e : Entry) : Bool :=
  match (f.directiveFor e.source).bind Directive.level with
  | none => false
  | some level =>
    e.level.rank ≤ level.rank &&
      match f.wanted with
      | none => true
      | some pattern => pattern.matchesIn e.text

end Filter

end Chip8.Log
