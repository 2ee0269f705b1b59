import Chip8.CommandLine.Program
import Chip8.Proofs.Faults
import Chip8.Proofs.Recording
import Chip8.Proofs.TraceRoundTrip

/-!
# Traces of headless runs

A run of the program with a trace option reads the font and the program, records the machine that
they make up and writes the recording. The file it leaves behind holds exactly the recording
(`runProgram_traces`); a run whose images are missing or too long leaves every file as it was.

Reading files changes none, so the directory in which the trace is written is the one the program
was started in. The files matter to a path only where it leads nowhere (`follow_of_ok`), so a file
that was written is found again (`keeps_of_follow`); plain names can always be written
(`keeps_of_plainName`).
-/

namespace Chip8

namespace Directory

variable {d : Directory} {path : String}

/-- What is written to the path can be read from it afterwards. -/
def Keeps (d : Directory) (path : String) : Prop :=
  ∀ content, ∃ d', d.write path content = .ok d' ∧ d'.read path = .ok content

theorem get?_insert {name : String} (other : name ≠ nullDevice) (content : List UInt8) :
    (d.insert name content).get? name = some content := by
  simp [get?, insert, other]

theorem enter_of_ok {location inner : Location} {step : String}
    (entered : d.enter location step = .ok inner) (d' : Directory) :
    d'.enter location step = .ok inner := by
  unfold enter at entered ⊢
  cases inside : location.enter? step with
  | some place =>
    simp only [inside] at entered ⊢
    exact entered
  | none =>
    -- only here are the files looked at, for the words in which the step is refused
    simp only [inside] at entered ⊢
    split_ifs at entered ⊢ <;> exact entered

theorem foldlM_enter_of_ok {steps : List String} {start inner : Location}
    (entered : steps.foldlM d.enter start = .ok inner) (d' : Directory) :
    steps.foldlM d'.enter start = .ok inner := by
  induction steps generalizing start with
  | nil => exact entered
  | cons step rest ih =>
    rw [List.foldlM_cons] at entered ⊢
    cases first : d.enter start step with
    | error e =>
      rw [first] at entered
      cases entered
    | ok next =>
      rw [first] at entered
      rw [enter_of_ok first d']
      exact ih entered

/-- Where a path leads does not depend on the files. -/
theorem follow_of_ok {target : Destination} (found : d.follow path = .ok target)
    (d' : Directory) : d'.follow path = .ok target := by
  unfold follow at found ⊢
  generalize (if path.startsWith "/" then Location.root else .here) = start at found ⊢
  split_ifs at found ⊢ with nul empty long
  cases last : (pathSteps path).getLast? with
  | none =>
    simp only [last] at found ⊢
    exact found
  | some step =>
    simp only [last, bind, Except.bind] at found ⊢
    split at found
    · cases found
    · rename_i location walked
      rw [foldlM_enter_of_ok walked d']
      exact found

/-- A name that can be given to a file keeps what is written. -/
theorem keeps_of_follow {location : Location} {name : String}
    (found : d.follow path = .ok (.name location name false))
    (short : name.utf8ByteSize ≤ longestName) (file : location.enter? name = none)
    (other : location.path ++ name ≠ nullDevice) : d.Keeps path := by
  intro content
  refine ⟨d.insert (location.path ++ name) content, ?_, ?_⟩
  · simp only [write, found, bind, Except.bind, file, Nat.not_lt.mpr short, if_false]
    rfl
  · simp only [read, follow_of_ok found, bind, Except.bind, file, Nat.not_lt.mpr short, if_false,
      get?_insert other content]
    rfl

/-- A name that anything written to a directory can go by. -/
structure PlainName (name : String) : Prop where
  noNul : name.contains '\x00' = false
  /-- It is a single step of a path, with no slash before or behind it. -/
  step : pathSteps name = [name]
  before : name.startsWith "/" = false
  behind : name.endsWith "/" = false
  same : name ≠ "."
  up : name ≠ ".."
  short : name.utf8ByteSize ≤ longestName

variable {name : String}

theorem follow_of_plainName (plain : PlainName name) (d : Directory) :
    d.follow name = .ok (.name .here name false) := by
  have nonempty : name.isEmpty = false := by
    rw [String.isEmpty_eq_false_iff]
    rintro rfl
    exact absurd plain.step (by decide)
  have fits : ¬ longestPath < name.utf8ByteSize :=
    Nat.not_lt.mpr (Nat.le_trans plain.short (by decide))
  simp only [follow, plain.noNul, nonempty, fits, plain.step, plain.before, if_false,
    Bool.false_eq_true, List.getLast?_singleton, List.dropLast_singleton, List.foldlM_nil,
    plain.same, plain.up, or_self, plain.behind]
  rfl

theorem ne_nullDevice_of_plainName (plain : PlainName name) : name ≠ nullDevice := by
  rintro rfl
  exact absurd plain.before (by decide +kernel)

/-- Every plain name keeps what is written. -/
theorem keeps_of_plainName (plain : PlainName name) (d : Directory) : d.Keeps name := by
  have other : Location.here.path ++ name ≠ nullDevice := by
    rw [Location.path, String.empty_append]
    exact ne_nullDevice_of_plainName plain
  exact keeps_of_follow (follow_of_plainName plain d) plain.short rfl other

theorem read_of_plainName (plain : PlainName name) (d : Directory) :
    d.read name = (d.files.lookup name).elim (.error .notFound) .ok := by
  have fits : ¬ longestName < name.utf8ByteSize := Nat.not_lt.mpr plain.short
  simp only [read, follow_of_plainName plain d, bind, Except.bind, fits, if_false, Location.enter?,
    Option.isSome_none, Bool.false_eq_true, Location.path, String.empty_append, get?,
    ne_nullDevice_of_plainName plain]
  cases d.files.lookup name <;> rfl

end Directory

namespace Machine

/-- A machine with a seed and with images in their regions. -/
def ofImages (seed : UInt64) (font program : List UInt8) : Machine :=
  { withSeed seed with
    memory := (Memory.blank.write ImageKind.font.start font).write ImageKind.program.start program }

theorem load_of_fits (m : Machine) {kind : ImageKind} {image : List UInt8}
    (fits : image.length ≤ kind.capacity) :
    m.load kind image = .ok { m with memory := m.memory.write kind.start image } := by
  simp only [load, Memory.load, if_pos fits]
  rfl

theorem load_of_not_fits (m : Machine) {kind : ImageKind} {image : List UInt8}
    (long : ¬ image.length ≤ kind.capacity) :
    m.load kind image = .error ⟨kind, image.length, kind.capacity⟩ := by
  simp only [load, Memory.load, if_neg long]
  rfl

variable {m : Machine} {kind : ImageKind} {path : String} {d : Directory} {image : List UInt8}

theorem loadFile_of_fits (there : d.read path = .ok image) (fits : image.length ≤ kind.capacity) :
    (m.loadFile kind path : StateM Directory _) d =
      (.ok (image.length, { m with memory := m.memory.write kind.start image }), d) := by
  have opened : (FileAccess.readFile path : StateM Directory _) d = (.ok image, d) := by
    rw [← there]
    rfl
  simp only [loadFile, bind, StateT.bind, opened, load_of_fits m fits]
  rfl

/-- What cannot be loaded leaves the files as they are. -/
theorem loadFile_of_missing
    (missing : ¬ ∃ image, d.read path = .ok image ∧ image.length ≤ kind.capacity) :
    ∃ e, (m.loadFile kind path : StateM Directory _) d = (.error e, d) := by
  have opened : (FileAccess.readFile path : StateM Directory _) d = (d.read path, d) := rfl
  simp only [loadFile, bind, StateT.bind, opened]
  cases there : d.read path with
  | error e => exact ⟨_, rfl⟩
  | ok image =>
    have long : ¬ image.length ≤ kind.capacity := fun fits => missing ⟨image, there, fits⟩
    simp only [load_of_not_fits m long]
    exact ⟨_, rfl⟩

end Machine

namespace CommandLine

variable {o : Options} {d : Directory} {font program : List UInt8}

/-- The font that the options name, the built-in one if they name none. -/
def Options.fontImage (o : Options) (d : Directory) : Except FileError (List UInt8) :=
  match o.font with
  | some path => d.read path
  | none => .ok Font.builtIn

/-- The images that the options name are there and fit their regions. -/
structure Options.Images (o : Options) (d : Directory) (font program : List UInt8) : Prop where
  font_there : o.fontImage d = .ok font
  font_fits : font.length ≤ ImageKind.font.capacity
  program_there : d.read o.rom = .ok program
  program_fits : program.length ≤ ImageKind.program.capacity

/-- The images do not depend on how long the run is. -/
theorem Options.Images.with_cycles (images : o.Images d font program) (n : Nat) :
    ({ o with cycles := n } : Options).Images d font program :=
  ⟨images.font_there, images.font_fits, images.program_there, images.program_fits⟩

theorem loadFont_of_fits (m : Machine) (there : o.fontImage d = .ok font)
    (fits : font.length ≤ ImageKind.font.capacity) :
    (loadFont m o.font : StateM Directory _) d =
      (.ok (font.length, { m with memory := m.memory.write ImageKind.font.start font }), d) := by
  unfold Options.fontImage at there
  cases named : o.font with
  | none =>
    simp only [named] at there
    cases there
    simp only [loadFont, Machine.load_of_fits m fits]
    rfl
  | some path =>
    simp only [named] at there
    simp only [loadFont, bind, StateT.bind, Machine.loadFile_of_fits there fits]
    rfl

theorem loadFont_of_missing (m : Machine)
    (missing : ¬ ∃ font, o.fontImage d = .ok font ∧ font.length ≤ ImageKind.font.capacity) :
    ∃ failure, (loadFont m o.font : StateM Directory _) d = (.error failure, d) := by
  unfold Options.fontImage at missing
  cases named : o.font with
  | none =>
    rw [named] at missing
    exact absurd ⟨Font.builtIn, rfl, by decide⟩ missing
  | some path =>
    rw [named] at missing
    obtain ⟨e, refused⟩ := Machine.loadFile_of_missing (m := m) missing
    simp only [loadFont, bind, StateT.bind, refused]
    exact ⟨_, rfl⟩

theorem withImages_of_images (images : o.Images d font program) (seed : UInt64)
    (next : Machine → StateM Directory RunOutcome) :
    ∃ journal, withImages o (.withSeed seed) next d =
      let (outcome, d') := next (.ofImages seed font program) d
      ({ outcome with journal := journal ++ outcome.journal }, d') := by
  have fontLoaded := loadFont_of_fits (.withSeed seed) images.font_there images.font_fits
  have programLoaded := Machine.loadFile_of_fits
    (m := { Machine.withSeed seed with
      memory := (Machine.withSeed seed).memory.write ImageKind.font.start font })
    images.program_there images.program_fits
  refine ⟨ImageKind.font.journal font.length ++ ImageKind.program.journal program.length, ?_⟩
  simp only [withImages, bind, StateT.bind, fontLoaded, programLoaded]
  rfl

theorem withImages_of_missing (m : Machine) (next : Machine → StateM Directory RunOutcome)
    (missing : ¬ ∃ font program, o.Images d font program) :
    ∃ journal failure, withImages o m next d = (⟨journal, some failure⟩, d) := by
  by_cases fontIn : ∃ font, o.fontImage d = .ok font ∧ font.length ≤ ImageKind.font.capacity
  · obtain ⟨font, there, fits⟩ := fontIn
    have programOut : ¬ ∃ program,
        d.read o.rom = .ok program ∧ program.length ≤ ImageKind.program.capacity :=
      fun ⟨program, there', fits'⟩ => missing ⟨font, program, there, fits, there', fits'⟩
    obtain ⟨e, refused⟩ := Machine.loadFile_of_missing
      (m := { m with memory := m.memory.write ImageKind.font.start font }) programOut
    simp only [withImages, bind, StateT.bind, loadFont_of_fits m there fits, refused]
    exact ⟨_, _, rfl⟩
  · obtain ⟨failure, refused⟩ := loadFont_of_missing m fontIn
    simp only [withImages, bind, StateT.bind, refused]
    exact ⟨_, _, rfl⟩

/-- A recording that can be written reads back from its file. -/
theorem recordTrace_of_keeps {path : String} (keeps : d.Keeps path) (m : Machine) (n : Nat) :
    ∃ journal d', (recordTrace m path n : StateM Directory _) d = (⟨journal, none⟩, d') ∧
      (Trace.load path : StateM Directory _) d' = (.ok (Trace.record n m).trace, d') := by
  obtain ⟨d', written, kept⟩ := keeps (Trace.record n m).trace.print
  have saved : ((Trace.record n m).trace.save path : StateM Directory _) d = (.ok (), d') := by
    simp only [Trace.save, FileAccess.writeFile, written]
  have opened : (FileAccess.readFile path : StateM Directory _) d' =
      (.ok (Trace.record n m).trace.print, d') := by
    rw [← kept]
    rfl
  refine ⟨m.runJournal n ++ stopJournal (Trace.record n m) ++
    (Trace.record n m).trace.saveJournal path, d', ?_, ?_⟩
  · simp only [recordTrace, bind, StateT.bind, saved]
    rfl
  · simp only [Trace.load, bind, StateT.bind, opened, Trace.read_print]
    rfl

theorem runProgram_of_images {path : String} (tracing : o.trace = some path)
    (images : o.Images d font program) (keeps : d.Keeps path) (entropy : UInt64) :
    ∃ journal d', (runProgram o entropy : StateM Directory _) d = (⟨journal, none⟩, d') ∧
      (Trace.load path : StateM Directory _) d' =
        (.ok (Trace.record o.cycles (.ofImages (o.seed.getD entropy) font program)).trace, d') := by
  obtain ⟨journal, d', recorded, loaded⟩ :=
    recordTrace_of_keeps keeps (.ofImages (o.seed.getD entropy) font program) o.cycles
  obtain ⟨earlier, ran⟩ := withImages_of_images images (o.seed.getD entropy)
    fun m => recordTrace m path o.cycles
  refine ⟨earlier ++ journal, d', ?_, loaded⟩
  simp only [runProgram, tracing, ran, recorded]

/-- With a trace option and images that load, the program leaves behind exactly the recording of the
machine that the images make up, whatever the bound on the cycles; without such images it fails and
leaves every file as it was. -/
theorem runProgram_traces {path : String} (tracing : o.trace = some path) (entropy : UInt64)
    (d : Directory) :
    (∀ font program, o.Images d font program → d.Keeps path →
      let m := Machine.ofImages (o.seed.getD entropy) font program
      ∃ trace : Nat → Trace,
        (∀ n, ∃ journal d',
          (runProgram { o with cycles := n } entropy : StateM Directory _) d =
            (⟨journal, none⟩, d') ∧
          (Trace.load path : StateM Directory _) d' = (.ok (trace n), d') ∧
          Trace.OfRun m n (trace n)) ∧
        (∀ n n', n ≤ n' → trace n <+: trace n') ∧
        ∀ n n' : Nat, m.cyclesBeforeFault < n → m.cyclesBeforeFault < n' → trace n = trace n') ∧
    ((¬ ∃ font program, o.Images d font program) →
      ∃ journal failure,
        (runProgram o entropy : StateM Directory _) d = (⟨journal, some failure⟩, d)) := by
  constructor
  · intro font program images keeps m
    refine ⟨fun n => (Trace.record n m).trace, fun n => ?_, fun n n' => Trace.record_grows m,
      fun n n' => Trace.record_eq_of_lt⟩
    obtain ⟨journal, d', ran, loaded⟩ := runProgram_of_images (o := { o with cycles := n })
      tracing (images.with_cycles n) keeps entropy
    exact ⟨journal, d', ran, loaded, Trace.ofRun_record n m⟩
  · exact withImages_of_missing _ _

/-- Sets V1 and V2 and returns from a call that was never made. -/
def strayProgram : List UInt8 := [0x61, 0x05, 0x62, 0x06, 0x00, 0xEE]

def strayFiles : Directory := ⟨[("stray.ch8", strayProgram)]⟩

def strayOptions : Options := { Options.standard "stray.ch8" with trace := some "stray.json" }

def strayMachine : Machine := Machine.ofImages 7 Font.builtIn strayProgram

theorem plainName_stray :
    Directory.PlainName "stray.ch8" ∧ Directory.PlainName "stray.json" := by
  constructor
  all_goals
    exact ⟨by simp, by decide, by decide +kernel, by decide +kernel, by decide, by decide,
      by decide⟩

theorem images_strayFiles : strayOptions.Images strayFiles Font.builtIn strayProgram where
  font_there := rfl
  font_fits := by decide
  program_there := Directory.read_of_plainName plainName_stray.1 strayFiles
  program_fits := by decide

theorem cyclesBeforeFault_strayMachine : strayMachine.cyclesBeforeFault = 2 := by
  obtain ⟨first, second, third⟩ : strayMachine.cycle.1 = .ok () ∧
      strayMachine.cycle.2.cycle.1 = .ok () ∧
      strayMachine.cycle.2.cycle.2.cycle.1 = .error .stackUnderflow := by decide +kernel
  rw [Machine.cyclesBeforeFault_of_ok (Machine.cycle_eq_of_fst first),
    Machine.cyclesBeforeFault_of_ok (Machine.cycle_eq_of_fst second),
    Machine.cyclesBeforeFault_of_error (Machine.cycle_eq_of_fst third)]
  rfl

/-- The bound is a thousand cycles, and the third one faults. -/
theorem runProgram_traces_strayReturn :
    (∃ journal d' t,
      (runProgram strayOptions 7 : StateM Directory _) strayFiles = (⟨journal, none⟩, d') ∧
      (Trace.load "stray.json" : StateM Directory _) d' = (.ok t, d') ∧
      (∀ (i : Nat) (inside : i < t.length),
        t[i] = (strayMachine.afterCycles (i + 1)).snapshot) ∧
      t.map (·.halted) = [false, false, true]) ∧
    ∃ journal failure, (runProgram strayOptions 7 : StateM Directory _) .empty =
      (⟨journal, some failure⟩, .empty) := by
  constructor
  · obtain ⟨trace, traced, -, -⟩ := (runProgram_traces rfl 7 strayFiles).1 _ _ images_strayFiles
      (Directory.keeps_of_plainName plainName_stray.2 strayFiles)
    obtain ⟨journal, d', ran, loaded, ofRun⟩ := traced 1000
    have ofRun : Trace.OfRun strayMachine 1000 (trace 1000) := ofRun
    have length := ofRun.length
    have last := ofRun.last
    have running := ofRun.running
    rw [cyclesBeforeFault_strayMachine] at length last
    have three : (trace 1000).length = 3 := Nat.cast_injective (R := ENat) length
    obtain ⟨s, shown, stopped⟩ := last.mpr (Nat.cast_lt.mpr (by decide))
    refine ⟨journal, d', trace 1000, ran, loaded, ofRun.snapshots, ?_⟩
    obtain ⟨first, second, third, whole⟩ := List.length_eq_three.mp three
    simp only [whole] at running shown ⊢
    cases shown
    have inner : first.halted = false ∧ second.halted = false :=
      ⟨running 0 (by simp), running 1 (by simp)⟩
    have outer : third.halted = true := stopped
    simp [inner, outer]
  · refine (runProgram_traces rfl 7 Directory.empty).2 ?_
    rintro ⟨font, program, images⟩
    have there := images.program_there
    rw [strayOptions, Options.standard, Directory.read_of_plainName plainName_stray.1] at there
    cases there

end CommandLine

end Chip8
