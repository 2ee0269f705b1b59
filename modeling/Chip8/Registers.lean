/-!
# Registers

The sixteen byte registers V0 to VF. VF doubles as the flag that arithmetic and drawing report in.
-/

namespace Chip8

abbrev Register := Fin 16

/-- The register that carries, borrows and collisions are reported in. -/
def Register.flag : Register := ⟨0xF, by decide⟩

def Register.first : Register := ⟨0x0, by decide⟩

theorem toNat_ofNat_register (x : Register) : (UInt8.ofNat x).toNat = x := by
  rw [UInt8.toNat_ofNat']
  omega

/-- The register that the low nibble of a byte names. -/
def Register.ofByte (b : UInt8) : Register := ⟨b.toNat % 16, Nat.mod_lt _ (by decide)⟩

theorem val_ofByte_ofNat (number : Nat) :
    (Register.ofByte (UInt8.ofNat number)).val = number % 16 := by
  simp only [Register.ofByte, UInt8.toNat_ofNat']
  omega

structure Registers where
  values : Vector UInt8 16
  deriving DecidableEq, Repr

namespace Registers

def zero : Registers := ⟨Vector.replicate 16 0⟩

def get (r : Registers) (x : Register) : UInt8 := r.values[x]

def set (r : Registers) (x : Register) (value : UInt8) : Registers := ⟨r.values.set x value⟩

def setFlag (r : Registers) (on : Bool) : Registers := r.set .flag (if on then 1 else 0)

/-- The values of V0 to Vx. -/
def upTo (r : Registers) (x : Register) : List UInt8 := r.values.toList.take (x.val + 1)

/-- Gives V0, V1 and so on the listed values; the registers past the end of the list stay. -/
def load (r : Registers) (values : List UInt8) : Registers :=
  ⟨Vector.ofFn fun x => (values[x.val]?).getD (r.get x)⟩

/-- Gives the registers from `number` on the listed values, one after the other and from V0 on again
after VF. -/
def loadFrom (number : Nat) (r : Registers) : List UInt8 → Registers
  | [] => r
  | v :: vs => loadFrom (number + 1) (r.set (.ofByte (UInt8.ofNat number)) v) vs

/-- Registers are their values one by one. -/
theorem ext_get {r s : Registers} (same : ∀ x, r.get x = s.get x) : r = s := by
  obtain ⟨values⟩ := r
  obtain ⟨values'⟩ := s
  exact congrArg Registers.mk (Vector.ext fun k inside => same ⟨k, inside⟩)

@[simp] theorem get_set_self (r : Registers) (x : Register) (v : UInt8) :
    (r.set x v).get x = v := by
  simp [get, set]

theorem get_set_of_ne (r : Registers) {x y : Register} (v : UInt8) (h : x ≠ y) :
    (r.set x v).get y = r.get y := by
  simp [get, set, Fin.val_ne_of_ne h]

theorem get_set (r : Registers) (x y : Register) (v : UInt8) :
    (r.set x v).get y = if x = y then v else r.get y := by
  split
  · rename_i same
    rw [same, get_set_self]
  · rename_i other
    exact get_set_of_ne r v other

theorem length_take_values (r : Registers) {count : Nat} (few : count ≤ 16) :
    (r.values.toList.take count).length = count := by
  rw [List.length_take, Vector.length_toList, Nat.min_eq_left few]

@[simp] theorem length_upTo (r : Registers) (x : Register) : (r.upTo x).length = x.val + 1 :=
  r.length_take_values x.isLt

theorem get_load (r : Registers) (values : List UInt8) (x : Register) :
    (r.load values).get x = (values[x.val]?).getD (r.get x) := by
  simp [load, get]

theorem get_loadFrom (values : List UInt8) (number : Nat) (r : Registers)
    (room : number + values.length ≤ 16) (x : Register) :
    (r.loadFrom number values).get x =
      if number ≤ x.val then (values[x.val - number]?).getD (r.get x) else r.get x := by
  induction values generalizing number r with
  | nil => simp [loadFrom]
  | cons v vs ih =>
    simp only [List.length_cons] at room
    have named : Register.ofByte (UInt8.ofNat number) = x ↔ number = x.val := by
      rw [Fin.ext_iff, val_ofByte_ofNat, Nat.mod_eq_of_lt (by omega)]
    simp only [loadFrom, ih (number + 1) _ (by omega), get_set, named]
    rcases Nat.lt_trichotomy x.val number with below | rfl | above
    · simp [Nat.not_le.mpr below, show ¬ number + 1 ≤ x.val by omega,
        show number ≠ x.val by omega]
    · simp [show ¬ x.val + 1 ≤ x.val by omega]
    · have later : x.val - number = (x.val - (number + 1)) + 1 := by omega
      simp [Nat.le_of_lt above, show number + 1 ≤ x.val by omega, later,
        show number ≠ x.val by omega]

/-- As many values as there are registers do not go around. -/
theorem loadFrom_eq_load (r : Registers) {values : List UInt8} (room : values.length ≤ 16) :
    r.loadFrom 0 values = r.load values := by
  refine ext_get fun x => ?_
  rw [get_loadFrom values 0 r (by omega), get_load, if_pos (Nat.zero_le _), Nat.sub_zero]

end Registers

end Chip8
