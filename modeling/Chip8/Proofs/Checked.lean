import Chip8.CallStack
import Chip8.Memory
import Chip8.Registers
import Chip8.Screen

/-!
# Checked operations

The parts of the machine in terms of operations that need not have a result: sums and products that
can leave their width, differences that can fall below zero, indices that can lie outside, shifts
that can be too wide and copies between blocks that can differ in length. An operation without a
result is a panic, which is no fault: nothing handles it. For each part one lemma says that within
its bounds no operation panics, and that the outcome is that of the plain definition.

The depth of the call stack is a byte here, so that there are stacks with levels that do not exist.
-/

namespace Chip8

/-- Why an operation has no result. -/
inductive Panic
  | overflow
  | index
  | shift
  | lengths
  deriving DecidableEq, Repr

namespace Checked

variable {α : Type} {n limit a b k : Nat}

/-- Sizes and indices are machine words. -/
abbrev wordSize : Nat := UInt64.size

def sum (limit a b : Nat) : Except Panic Nat :=
  if a + b < limit then .ok (a + b) else .error .overflow

def product (limit a b : Nat) : Except Panic Nat :=
  if a * b < limit then .ok (a * b) else .error .overflow

def difference (a b : Nat) : Except Panic Nat :=
  if b ≤ a then .ok (a - b) else .error .overflow

def read (xs : Vector α n) (k : Nat) : Except Panic α :=
  if h : k < n then .ok xs[k] else .error .index

def write (xs : Vector α n) (k : Nat) (value : α) : Except Panic (Vector α n) :=
  if h : k < n then .ok (xs.set k value) else .error .index

/-- The first `count` elements. -/
def take (xs : Vector α n) (count : Nat) : Except Panic (List α) :=
  if count ≤ n then .ok (xs.toList.take count) else .error .index

def shiftRight (v : UInt8) (amount : Nat) : Except Panic UInt8 :=
  if amount < 8 then .ok (v >>> UInt8.ofNat amount) else .error .shift

/-- Values for a block of `len` elements. -/
def filling (len : Nat) (values : List α) : Except Panic (List α) :=
  if values.length = len then .ok values else .error .lengths

theorem sum_eq (fits : a + b < limit) : sum limit a b = .ok (a + b) := if_pos fits

theorem product_eq (fits : a * b < limit) : product limit a b = .ok (a * b) := if_pos fits

theorem difference_eq (fits : b ≤ a) : difference a b = .ok (a - b) := if_pos fits

theorem read_eq (xs : Vector α n) (inside : k < n) : read xs k = .ok xs[k] := dif_pos inside

theorem write_eq (xs : Vector α n) (inside : k < n) (value : α) :
    write xs k value = .ok (xs.set k value) := dif_pos inside

end Checked

open Checked

/-! ## Registers -/

namespace Registers

/-- Registers are numbered by the low nibble of an operand. -/
def getChecked (r : Registers) (number : Nat) : Except Panic UInt8 := read r.values (number % 16)

def setChecked (r : Registers) (number : Nat) (value : UInt8) : Except Panic Registers :=
  (write r.values (number % 16) value).map Registers.mk

theorem getChecked_eq (r : Registers) (x : Register) : r.getChecked x = .ok (r.get x) := by
  have nibble : x.val % 16 = x.val := Nat.mod_eq_of_lt x.isLt
  rw [getChecked, nibble]
  exact read_eq r.values x.isLt

theorem setChecked_eq (r : Registers) (x : Register) (value : UInt8) :
    r.setChecked x value = .ok (r.set x value) := by
  have nibble : x.val % 16 = x.val := Nat.mod_eq_of_lt x.isLt
  rw [setChecked, nibble, write_eq r.values x.isLt]
  rfl

/-- The values of the first `count` registers. -/
def upToChecked (r : Registers) (count : Nat) : Except Panic (List UInt8) := take r.values count

/-- Gives the registers from `number` on the listed values, one after the other. -/
def loadChecked (number : Nat) (r : Registers) : List UInt8 → Except Panic Registers
  | [] => .ok r
  | v :: vs => do (← r.setChecked number v).loadChecked (number + 1) vs

theorem loadChecked_eq_loadFrom (number : Nat) (r : Registers) (values : List UInt8) :
    r.loadChecked number values = .ok (r.loadFrom number values) := by
  induction values generalizing number r with
  | nil => rfl
  | cons v vs ih =>
    have first := setChecked_eq r (.ofByte (UInt8.ofNat number)) v
    simp only [setChecked, val_ofByte_ofNat, Nat.mod_mod] at first
    simp only [loadChecked, setChecked, first, loadFrom]
    exact ih (number + 1) _

end Registers

/-! ## Memory -/

namespace Memory

variable {m : Memory} {address len : Nat}

/-- The end of a block is a machine word; only then is the block looked up. -/
def blockChecked (m : Memory) (address len : Nat) : Except Panic (Except Fault (List UInt8)) := do
  let _ ← sum wordSize address len
  return m.block address len

theorem blockChecked_eq (small : address + len < wordSize) :
    m.blockChecked address len = .ok (m.block address len) := by
  rw [blockChecked, sum_eq small]
  rfl

/-- Writes values over a block of `len` bytes. They are asked for once the block is there. -/
def setBlockChecked (m : Memory) (address len : Nat) (values : Except Panic (List UInt8)) :
    Except Panic (Except Fault Memory) := do
  let stop ← sum wordSize address len
  if stop ≤ memorySize then return .ok (m.write address (← filling len (← values)))
  else return .error (blockFault address)

theorem setBlockChecked_eq {values : List UInt8} (length : values.length = len)
    (small : address + len < wordSize) :
    m.setBlockChecked address len (.ok values) = .ok (m.setBlock address values) := by
  subst length
  rw [setBlockChecked, sum_eq small, setBlock]
  simp only [bind, Except.bind, filling, if_true]
  split <;> rfl

/-- A block that memory has no room for asks for no values. -/
theorem setBlockChecked_of_cut (cut : memorySize < address + len)
    (small : address + len < wordSize) (values : Except Panic (List UInt8)) :
    m.setBlockChecked address len values = .ok (.error (blockFault address)) := by
  rw [setBlockChecked, sum_eq small]
  simp only [bind, Except.bind, if_neg (Nat.not_le.mpr cut)]
  rfl

theorem setBlockChecked_of_panic {p : Panic} (room : address + len ≤ memorySize)
    (small : address + len < wordSize) : m.setBlockChecked address len (.error p) = .error p := by
  rw [setBlockChecked, sum_eq small]
  simp only [bind, Except.bind, if_pos room]

/-- The second byte of a word is looked up once the first one is there. -/
def wordChecked (m : Memory) (address : Nat) : Except Panic (Except Fault UInt16) :=
  match m.get address with
  | .error fault => return .error fault
  | .ok high => do
    let following ← sum wordSize address 1
    return (m.get following).map fun low => high.toUInt16 <<< 8 ||| low.toUInt16

theorem wordChecked_eq (small : address + 1 < wordSize) :
    m.wordChecked address = .ok (m.word address) := by
  rw [wordChecked, word, sum_eq small]
  cases m.get address with
  | error fault => rfl
  | ok high =>
    simp only [bind, Except.bind]
    cases m.get (address + 1) <;> rfl

end Memory

/-! ## The call stack -/

/-- A call stack as it is stored: nothing keeps the depth within the levels. -/
structure RawStack where
  slots : Vector UInt16 callLevels
  depth : UInt8

namespace RawStack

/-- The slot is looked up, which can be refused, and the depth is stepped up. -/
def push (s : RawStack) (back target : UInt16) : Except Panic (Except Fault RawStack) :=
  if h : s.depth.toNat < callLevels then do
    let depth ← sum UInt8.size s.depth.toNat 1
    return .ok { slots := s.slots.set s.depth.toNat back, depth := UInt8.ofNat depth }
  else return .error (.stackOverflow target)

/-- The depth is stepped down, and the slot there is indexed without asking. -/
def pop (s : RawStack) : Except Panic (Except Fault (UInt16 × RawStack)) :=
  if s.depth.toNat = 0 then return .error .stackUnderflow
  else do
    let depth ← difference s.depth.toNat 1
    let back ← read s.slots depth
    return .ok (back, { s with depth := UInt8.ofNat depth })

end RawStack

/-- How a call stack is stored. -/
def CallStack.raw (s : CallStack) : RawStack := ⟨s.slots, UInt8.ofNat s.depth⟩

namespace CallStack

variable {s : CallStack}

theorem toNat_depth_raw (s : CallStack) : s.raw.depth.toNat = s.depth := by
  have levels : s.depth ≤ 16 := s.depth_le
  rw [raw, UInt8.toNat_ofNat']
  omega

theorem push_raw (s : CallStack) (back target : UInt16) :
    s.raw.push back target = .ok ((s.push back target).map raw) := by
  have levels : s.depth ≤ 16 := s.depth_le
  simp only [RawStack.push, push, toNat_depth_raw]
  split
  · rw [sum_eq (by simp only [UInt8.size]; omega)]
    rfl
  · rfl

theorem pop_raw (s : CallStack) :
    s.raw.pop = .ok (s.pop.map fun popped => (popped.1, popped.2.raw)) := by
  have levels : s.depth ≤ 16 := s.depth_le
  simp only [RawStack.pop, pop, toNat_depth_raw]
  split
  · rfl
  · rename_i used
    have inside : s.depth - 1 < callLevels := by simp only [callLevels]; omega
    rw [difference_eq (Nat.pos_of_ne_zero used)]
    simp only [bind, Except.bind]
    have slot := read_eq s.raw.slots inside
    rw [slot]
    rfl

end CallStack

/-! ## The screen -/

namespace Screen

variable {x y x' y' row column : Nat}

def indexChecked (x y : Nat) : Except Panic Nat := do
  let above ← product wordSize (y % screenHeight) screenWidth
  sum wordSize above (x % screenWidth)

/-- One bit of row `row` of a sprite whose top left corner is at column `x` and row `y`. -/
def paintBit (x y row : Nat) (bits : UInt8) (painted : Screen × Bool) (column : Nat) :
    Except Panic (Screen × Bool) := do
  let shifted ← shiftRight bits (← difference 7 column)
  if shifted &&& 1 = 0 then return painted
  else
    let cell ← indexChecked (← sum wordSize x column) (← sum wordSize y row)
    let old ← read painted.1.cells cell
    let cells ← write painted.1.cells cell (if old = 0 then 1 else 0)
    return (⟨cells⟩, painted.2 || old != 0)

def paintRows (x y row : Nat) (painted : Screen × Bool) :
    List UInt8 → Except Panic (Screen × Bool)
  | [] => .ok painted
  | bits :: below => do
    let painted ← (List.range 8).foldlM (paintBit x y row bits) painted
    paintRows x y (row + 1) painted below

def paintChecked (s : Screen) (x y : UInt8) (sprite : List UInt8) :
    Except Panic (Screen × Bool) :=
  paintRows (x.toNat % screenWidth) (y.toNat % screenHeight) 0 (s, false) sprite

theorem indexChecked_eq (x y : Nat) : indexChecked x y = .ok (Pixel.at x y).val := by
  have across : x % 64 < 64 := Nat.mod_lt x (by decide)
  have down : y % 32 < 32 := Nat.mod_lt y (by decide)
  have small : y % 32 * 64 + x % 64 < wordSize := by
    simp only [wordSize, UInt64.size]
    omega
  rw [indexChecked, product_eq (Nat.lt_of_le_of_lt (Nat.le_add_right _ _) small)]
  exact sum_eq small

theorem shifted_eq_zero_iff (bits : UInt8) {amount : Nat} (narrow : amount < 8) :
    (bits >>> UInt8.ofNat amount) &&& 1 = 0 ↔ bits.toNat.testBit amount = false := by
  have amounts : amount % 2 ^ 8 % 8 = amount := by omega
  have bit : ((bits >>> UInt8.ofNat amount) &&& 1).toNat = bits.toNat >>> amount &&& 1 := by
    rw [UInt8.toNat_and, UInt8.toNat_shiftRight, UInt8.toNat_ofNat', amounts]
    rfl
  rw [← UInt8.toNat_inj, bit, Nat.testBit, bne_eq_false_iff_eq, Nat.and_comm]
  rfl

theorem paintBit_eq (bits : UInt8) (painted : Screen × Bool) (onRow : column < 8)
    (across : x < screenWidth) (down : y + row < wordSize) :
    paintBit x y row bits painted column =
      .ok (if bits.toNat.testBit (7 - column) then switch painted (.at (x + column) (y + row))
        else painted) := by
  have far : x + column < wordSize := by
    simp only [wordSize, UInt64.size, screenWidth] at across ⊢
    omega
  have narrow : 7 - column < 8 := by omega
  rw [paintBit, difference_eq (Nat.le_of_lt_succ onRow), sum_eq far, sum_eq down]
  simp only [bind, Except.bind, shiftRight, narrow, if_true, indexChecked_eq,
    shifted_eq_zero_iff bits narrow]
  cases lit : bits.toNat.testBit (7 - column) with
  | false => rfl
  | true =>
    have cell := (Pixel.at (x + column) (y + row)).isLt
    simp only [read_eq painted.1.cells cell, write_eq painted.1.cells cell, switch,
      Fin.getElem_fin]
    by_cases dark : painted.1.cells[(Pixel.at (x + column) (y + row)).val] = 0
    · simp [dark, pure, Except.pure]
    · simp [dark, pure, Except.pure]

theorem foldlM_paintBit (bits : UInt8) (across : x < screenWidth) (down : y + row < wordSize)
    {columns : List Nat} (onRow : ∀ column ∈ columns, column < 8) (painted : Screen × Bool) :
    columns.foldlM (paintBit x y row bits) painted =
      .ok (((columns.filter fun column => bits.toNat.testBit (7 - column)).map
        fun column => Pixel.at (x + column) (y + row)).foldl switch painted) := by
  induction columns generalizing painted with
  | nil => rfl
  | cons column rest ih =>
    have first := paintBit_eq bits painted (onRow column List.mem_cons_self) across down
    have later := ih fun other member => onRow other (List.mem_cons_of_mem column member)
    rw [List.foldlM_cons, first, List.filter_cons]
    cases bits.toNat.testBit (7 - column) with
    | false => exact later _
    | true => exact later _

theorem paintRows_eq (across : x < screenWidth) (sprite : List UInt8) (painted : Screen × Bool)
    (down : y + row + sprite.length ≤ wordSize) :
    paintRows x y row painted sprite =
      .ok ((spritePixels x (y + row) sprite).foldl switch painted) := by
  induction sprite generalizing row painted with
  | nil => rfl
  | cons bits below ih =>
    simp only [List.length_cons] at down
    have columns : ∀ column ∈ List.range 8, column < 8 := fun _ => List.mem_range.mp
    rw [paintRows, foldlM_paintBit bits across (by omega) columns, spritePixels,
      List.foldl_append]
    exact ih _ (by omega)

theorem spritePixels_congr (across : x % screenWidth = x' % screenWidth)
    (down : y % screenHeight = y' % screenHeight) (sprite : List UInt8) :
    spritePixels x y sprite = spritePixels x' y' sprite := by
  have same {column y y' : Nat} (down : y % screenHeight = y' % screenHeight) :
      Pixel.at (x + column) y = Pixel.at (x' + column) y' := by
    simp only [Pixel.at, Fin.mk.injEq, screenWidth, screenHeight] at across down ⊢
    omega
  induction sprite generalizing y y' with
  | nil => rfl
  | cons bits below ih =>
    have next : (y + 1) % screenHeight = (y' + 1) % screenHeight := by
      simp only [screenHeight] at down ⊢
      omega
    simp only [spritePixels, same down, ih next]

theorem paintChecked_eq (s : Screen) (x y : UInt8) {sprite : List UInt8}
    (short : sprite.length ≤ 256) : s.paintChecked x y sprite = .ok (s.paint x y sprite) := by
  have across : x.toNat % screenWidth < screenWidth := Nat.mod_lt _ (by decide)
  have down : y.toNat % 32 < 32 := Nat.mod_lt _ (by decide)
  rw [paintChecked, paintRows_eq across sprite (s, false)
    (by simp only [wordSize, UInt64.size, screenHeight]; omega), Nat.add_zero,
    spritePixels_congr (Nat.mod_mod _ _) (Nat.mod_mod _ _), paint]

end Screen

end Chip8
