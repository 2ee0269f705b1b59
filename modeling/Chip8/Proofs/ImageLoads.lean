import Chip8.Proofs.Runs

/-!
# Loading images one after the other

A run of loads is the same as putting the images that fit into memory one after the other
(`play_loads`). Byte by byte, what is in memory after it is what the last image gave that covers the
address, and what was there before if none does (`getElem_putAll`). The two regions share no address
(`given_eq_none_of_given`), so that fonts and programs do not touch each other. `imageLoads_exact`
collects what follows for every machine and all images.
-/

namespace Chip8

/-- The greatest length of an image that is accepted. -/
def ImageKind.limit : ImageKind → Nat
  | font => 80
  | program => 3583

theorem ImageKind.capacity_eq_limit (kind : ImageKind) : kind.capacity = kind.limit := by
  cases kind <;> rfl

/-- The bytes of an image and what it is loaded as. -/
structure Image where
  kind : ImageKind
  bytes : List UInt8
  deriving DecidableEq, Repr

namespace Image

variable {image other : Image} {a : Nat} {v : UInt8}

/-- The image does not exceed its region. -/
def Fits (image : Image) : Prop := image.bytes.length ≤ image.kind.limit

instance (image : Image) : Decidable image.Fits := inferInstanceAs (Decidable (_ ≤ _))

theorem fits_iff : image.Fits ↔ image.bytes.length ≤ image.kind.capacity := by
  rw [ImageKind.capacity_eq_limit]
  rfl

def load (image : Image) : Action := .load image.kind image.bytes

/-- What the load of the image is answered. -/
def answer (image : Image) : Reply :=
  if image.Fits then .done
  else .tooLarge ⟨image.kind, image.bytes.length, image.kind.capacity⟩

/-- The byte that the image puts at an address, if it fits and covers the address. -/
def given (image : Image) (a : Nat) : Option UInt8 :=
  if image.Fits ∧ image.kind.start ≤ a then image.bytes[a - image.kind.start]? else none

theorem given_start_add (fits : image.Fits) (j : Nat) :
    image.given (image.kind.start + j) = image.bytes[j]? := by
  rw [given, if_pos ⟨fits, Nat.le_add_right _ j⟩, Nat.add_sub_cancel_left]

theorem given_eq_none_of_not_fits (exceeds : ¬ image.Fits) (a : Nat) : image.given a = none := by
  rw [given, if_neg fun both => exceeds both.1]

/-- What an image gives lies in the region of its kind. -/
theorem region_of_given (gives : image.given a = some v) :
    image.kind.start ≤ a ∧ a < image.kind.start + image.kind.limit := by
  rw [given] at gives
  split at gives
  · rename_i accepted
    obtain ⟨fits, above⟩ := accepted
    obtain ⟨below, _⟩ := List.getElem?_eq_some_iff.mp gives
    rw [Fits] at fits
    omega
  · cases gives

/-- Images of different kinds have no address in common. -/
theorem given_eq_none_of_given (apart : image.kind ≠ other.kind) (gives : image.given a = some v) :
    other.given a = none := by
  refine Option.eq_none_iff_forall_ne_some.mpr fun w gives' => ?_
  have first := region_of_given gives
  have second := region_of_given gives'
  cases kind : image.kind <;> cases kind' : other.kind <;>
    simp only [kind, kind', ImageKind.start, ImageKind.limit, ne_eq, not_true] at first second apart
  all_goals omega

/-- The byte that the last of some images gives that covers the address. -/
def lastGiven (images : List Image) (a : Nat) : Option UInt8 :=
  images.reverse.findSome? fun image => image.given a

theorem lastGiven_append (first second : List Image) (a : Nat) :
    lastGiven (first ++ second) a = (lastGiven second a).or (lastGiven first a) := by
  rw [lastGiven, List.reverse_append, List.findSome?_append, lastGiven, lastGiven]

theorem lastGiven_cons (image : Image) (images : List Image) (a : Nat) :
    lastGiven (image :: images) a = (lastGiven images a).or (image.given a) := by
  rw [← List.singleton_append, lastGiven_append]
  congr 1
  simp [lastGiven]

theorem lastGiven_eq_none_iff {images : List Image} :
    lastGiven images a = none ↔ ∀ image ∈ images, image.given a = none := by
  simp [lastGiven, List.findSome?_eq_none_iff]

end Image

open Image

namespace Memory

variable (memory : Memory)

/-- The memory with an image in its region, if it fits. -/
def put (image : Image) : Memory :=
  if image.Fits then memory.write image.kind.start image.bytes else memory

/-- The memory after images have been put into it one after the other. -/
def putAll (images : List Image) : Memory := images.foldl put memory

theorem getElem_put (image : Image) {a : Nat} (inside : a < memorySize) :
    (memory.put image).bytes[a] = (image.given a).getD memory.bytes[a] := by
  rw [put, given]
  split
  · rename_i fits
    rw [getElem_write]
    simp only [fits, true_and]
    split <;> rfl
  · rename_i exceeds
    simp [exceeds]

theorem getElem_putAll (images : List Image) {a : Nat} (inside : a < memorySize) :
    (memory.putAll images).bytes[a] = (lastGiven images a).getD memory.bytes[a] := by
  induction images generalizing memory with
  | nil => rfl
  | cons image images ih =>
    rw [putAll, List.foldl_cons, ← putAll, ih, getElem_put, lastGiven_cons]
    cases lastGiven images a <;> rfl

/-- Images of different kinds can be put into memory in either order. -/
theorem put_comm {image other : Image} (apart : image.kind ≠ other.kind) :
    (memory.put image).put other = (memory.put other).put image := by
  refine ext_getElem fun a inside => ?_
  simp only [getElem_put]
  cases gives : image.given a with
  | none => rfl
  | some v => simp [given_eq_none_of_given apart gives]

end Memory

namespace Machine

variable (m : Machine) (image : Image) (images : List Image)

theorem perform_imageLoad :
    m.perform image.load = (image.answer, { m with memory := m.memory.put image }) := by
  rw [Image.load, perform, load, Memory.load]
  by_cases fits : image.Fits
  · rw [if_pos (fits_iff.mp fits), Image.answer, if_pos fits, Memory.put, if_pos fits]
    rfl
  · rw [if_neg (mt fits_iff.mpr fits), Image.answer, if_neg fits, Memory.put, if_neg fits]
    rfl

/-- A run of loads: every image is answered for itself, and memory holds those that fit. -/
theorem play_loads : m.play (images.map Image.load) =
    (images.map Image.answer, { m with memory := m.memory.putAll images }) := by
  induction images generalizing m with
  | nil => rfl
  | cons image images ih =>
    simp only [List.map_cons, play, perform_imageLoad, ih]
    rfl

theorem after_loads :
    m.after (images.map Image.load) = { m with memory := m.memory.putAll images } := by
  rw [after, play_loads]

/-- A load succeeds if the image fits. Else it changes nothing, and the error holds the image's kind
and size and the greatest size for this kind. -/
structure LoadSettled : Prop where
  accepted : image.Fits → (m.perform image.load).1 = .done
  refused : ¬ image.Fits → ∃ e : ImageTooLarge, m.perform image.load = (.tooLarge e, m) ∧
    e.kind = image.kind ∧ e.size = image.bytes.length ∧ e.max = image.kind.limit

theorem loadSettled : LoadSettled m image := by
  constructor
  · intro fits
    rw [perform_imageLoad, Image.answer, if_pos fits]
  · intro exceeds
    refine ⟨⟨image.kind, image.bytes.length, image.kind.capacity⟩, ?_, rfl, rfl,
      image.kind.capacity_eq_limit⟩
    rw [perform_imageLoad, Image.answer, if_neg exceeds, Memory.put, if_neg exceeds]

/-- What a run of loads answers and leaves behind. -/
structure ImagesLoaded : Prop where
  answers : (m.play (images.map Image.load)).1 = images.map Image.answer
  /-- Each byte is the one that the last image gave that covers it, or the old one. -/
  bytes : ∀ (a : Nat) (inside : a < memorySize),
    (m.after (images.map Image.load)).memory.bytes[a] = (lastGiven images a).getD m.memory.bytes[a]
  outside : ∀ (a : Nat) (inside : a < memorySize), ¬ (0x050 ≤ a ∧ a < 0x0A0) →
    ¬ (0x200 ≤ a ∧ a < 0xFFF) →
    (m.after (images.map Image.load)).memory.bytes[a] = m.memory.bytes[a]
  /-- Bytes of an image stay where no later image of its kind is long enough to reach them. -/
  kept : ∀ earlier image later, images = earlier ++ image :: later → image.Fits →
    ∀ (j : Nat) (present : j < image.bytes.length) (inside : image.kind.start + j < memorySize),
    (∀ next ∈ later, next.kind = image.kind → next.Fits → next.bytes.length ≤ j) →
    (m.after (images.map Image.load)).memory.bytes[image.kind.start + j] = image.bytes[j]
  memoryOnly : ∃ memory, m.after (images.map Image.load) = { m with memory }

theorem getElem_after_loads {a : Nat} (inside : a < memorySize) :
    (m.after (images.map Image.load)).memory.bytes[a] =
      (lastGiven images a).getD m.memory.bytes[a] := by
  simp only [after_loads]
  exact m.memory.getElem_putAll images inside

theorem getElem_after_loads_of_outside {a : Nat} (inside : a < memorySize)
    (noFont : ¬ (0x050 ≤ a ∧ a < 0x0A0)) (noProgram : ¬ (0x200 ≤ a ∧ a < 0xFFF)) :
    (m.after (images.map Image.load)).memory.bytes[a] = m.memory.bytes[a] := by
  have untouched : lastGiven images a = none := by
    refine lastGiven_eq_none_iff.mpr fun image _ => ?_
    refine Option.eq_none_iff_forall_ne_some.mpr fun v gives => ?_
    have region := region_of_given gives
    cases kind : image.kind <;> simp only [kind, ImageKind.start, ImageKind.limit] at region <;> omega
  rw [getElem_after_loads, untouched, Option.getD_none]

theorem getElem_after_loads_of_kept {earlier later : List Image} (fits : image.Fits) {j : Nat}
    (present : j < image.bytes.length) (inside : image.kind.start + j < memorySize)
    (shorter : ∀ next ∈ later, next.kind = image.kind → next.Fits → next.bytes.length ≤ j) :
    (m.after ((earlier ++ image :: later).map Image.load)).memory.bytes[image.kind.start + j] =
      image.bytes[j] := by
  have gives : image.given (image.kind.start + j) = some image.bytes[j] := by
    rw [given_start_add fits, List.getElem?_eq_getElem present]
  have unreached : lastGiven later (image.kind.start + j) = none := by
    refine lastGiven_eq_none_iff.mpr fun next member => ?_
    by_cases same : next.kind = image.kind
    · by_cases accepted : next.Fits
      · rw [← same, given_start_add accepted]
        exact List.getElem?_eq_none (shorter next member same accepted)
      · exact given_eq_none_of_not_fits accepted _
    · exact given_eq_none_of_given (Ne.symm same) gives
  rw [getElem_after_loads, lastGiven_append, lastGiven_cons, unreached, gives]
  rfl

theorem imagesLoaded : ImagesLoaded m images where
  answers := by rw [play_loads]
  bytes := fun _ inside => m.getElem_after_loads images inside
  outside := fun _ inside => m.getElem_after_loads_of_outside images inside
  kept := by
    rintro earlier image later rfl fits j present inside shorter
    exact m.getElem_after_loads_of_kept image fits present inside shorter
  memoryOnly := ⟨_, m.after_loads images⟩

/-- A font and a program can be loaded in either order, with the same answers. -/
theorem play_loads_comm {image other : Image} (apart : image.kind ≠ other.kind) :
    m.play [other.load, image.load] =
      ((m.play [image.load, other.load]).1.reverse, (m.play [image.load, other.load]).2) := by
  have forward := m.play_loads [image, other]
  have backward := m.play_loads [other, image]
  have same := m.memory.put_comm apart
  simp only [List.map_cons, List.map_nil, Memory.putAll, List.foldl_cons, List.foldl_nil]
    at forward backward
  rw [forward, backward, ← same]
  rfl

/-- Loading images is all or nothing, reaches only the two regions, lets the last image decide and
does not depend on the order of fonts and programs. -/
theorem imageLoads_exact :
    (∀ image, LoadSettled m image) ∧ ImagesLoaded m images ∧
      ∀ font program : List UInt8,
        m.play [.load .program program, .load .font font] =
          ((m.play [.load .font font, .load .program program]).1.reverse,
            (m.play [.load .font font, .load .program program]).2) := by
  refine ⟨m.loadSettled, m.imagesLoaded images, fun font program => ?_⟩
  have apart : (⟨.font, font⟩ : Image).kind ≠ (⟨.program, program⟩ : Image).kind := by simp
  exact m.play_loads_comm apart

end Machine

end Chip8
