import Chip8.Memory

/-!
# Images

Fonts and programs are loaded into regions of their own. An image longer than its region is
refused whole; a shorter one leaves the rest of the region as it is.
-/

namespace Chip8

inductive ImageKind
  | font
  | program
  deriving DecidableEq, Repr

namespace ImageKind

def name : ImageKind → String
  | font => "font"
  | program => "program"

/-- Where images of this kind begin. -/
def start : ImageKind → Nat
  | font => 0x050
  | program => 0x200

/-- The greatest length. The program region leaves out the last byte of memory. -/
def capacity : ImageKind → Nat
  | font => 0x0A0 - 0x050
  | program => 0xFFF - 0x200

theorem start_add_capacity_le (kind : ImageKind) : kind.start + kind.capacity ≤ memorySize := by
  cases kind <;> decide

end ImageKind

/-- An image that does not fit its region. -/
structure ImageTooLarge where
  kind : ImageKind
  size : Nat
  /-- The greatest length that would have been accepted. -/
  max : Nat
  deriving DecidableEq, Repr

def ImageTooLarge.message (e : ImageTooLarge) : String :=
  e.kind.name ++ " image is " ++ e.size.repr ++ " bytes, max size is " ++ e.max.repr
    ++ " bytes"

/-- Puts an image into its region. -/
def Memory.load (m : Memory) (kind : ImageKind) (image : List UInt8) :
    Except ImageTooLarge Memory :=
  if image.length ≤ kind.capacity then .ok (m.write kind.start image)
  else .error ⟨kind, image.length, kind.capacity⟩

end Chip8
