import Chip8.Proofs.Effects
import Chip8.Proofs.Faults

/-!
# What a cycle may change

The nibbles of the word that a cycle fetches say which parts of the machine the cycle may change,
which byte each timer counts down from and where execution goes on. The statement (`cycle_frame`)
compares with the machine that has drained its key queue. It names words by their nibbles and by the
instruction table, never by what the decoder makes of them, and it covers every word, those that are
no instruction included.
-/

namespace Chip8

namespace Word

theorem val_family (w : UInt16) : (family w).val = w.toNat / 0x1000 := by
  have bound := w.toNat_lt
  simp only [family]
  omega

/-- The words with a given first nibble and a given last byte, such as Fx33. -/
def Fits (w : UInt16) (first last : Nat) : Prop := (family w).val = first ∧ (kk w).toNat = last

instance (w : UInt16) (first last : Nat) : Decidable (Fits w first last) :=
  inferInstanceAs (Decidable (_ ∧ _))

/-- 6xkk, 7xkk, 8xy0 to 8xy7, 8xyE, Cxkk, Fx07 and Fx0A. -/
def AssignsX (w : UInt16) : Prop :=
  (family w).val = 0x6 ∨ (family w).val = 0x7 ∨
    (family w).val = 0x8 ∧ ((n w).val ≤ 0x7 ∨ (n w).val = 0xE) ∨
    (family w).val = 0xC ∨ Fits w 0xF 0x07 ∨ Fits w 0xF 0x0A

/-- 8xy4 to 8xy7, 8xyE and Dxyn. -/
def AssignsFlag (w : UInt16) : Prop :=
  (family w).val = 0x8 ∧ (0x4 ≤ (n w).val ∧ (n w).val ≤ 0x7 ∨ (n w).val = 0xE) ∨
    (family w).val = 0xD

/-- 00E0 and Dxyn. -/
def Draws (w : UInt16) : Prop := w.toNat = 0x00E0 ∨ (family w).val = 0xD

instance (w : UInt16) : Decidable (Draws w) := inferInstanceAs (Decidable (_ ∨ _))

end Word

namespace Instruction

open Word

variable {w : UInt16}

/-- The rows of the instruction table with one operand, a register in the second nibble. -/
theorem decode_eq_row_iff (row : Register → Instruction) (first last : Nat) {r : Register}
    (spells : ∀ s v, Spells (row s) v ↔ v = 0x1000 * first + last + 0x100 * s)
    (byte : last < 0x100) : decode w = row r ↔ Fits w first last ∧ r = x w := by
  have bound := w.toNat_lt
  have known : ∀ v, row r ≠ unknown v := by
    intro v equal
    have spelled := (spells r _).mpr rfl
    rw [equal] at spelled
    exact spelled
  rw [decode_eq_iff known, spells, Fits, Fin.ext_iff, val_family, val_x, toNat_kk]
  omega

/-- What one such row gives and all other instructions leave alone. -/
theorem decode_row_ite {α : Type} {given : Instruction → α} {chosen : Register → α} {kept : α}
    (row : Register → Instruction) (first last : Nat)
    (spells : ∀ s v, Spells (row s) v ↔ v = 0x1000 * first + last + 0x100 * s)
    (byte : last < 0x100) (onRow : ∀ r, given (row r) = chosen r)
    (offRow : ∀ i, (∀ r, i ≠ row r) → given i = kept) :
    given (decode w) = if Fits w first last then chosen (x w) else kept := by
  have decodes {r} : decode w = row r ↔ Fits w first last ∧ r = x w :=
    decode_eq_row_iff row first last spells byte
  split
  · rename_i fits
    rw [decodes.mpr ⟨fits, rfl⟩, onRow]
  · rename_i other
    exact offRow _ fun r decoded => other (decodes.mp decoded).1

theorem decode_eq_setIndex_iff {t : Address} :
    decode w = .setIndex t ↔ (family w).val = 0xA ∧ t = nnn w := by
  rw [decode_eq_iff (by simp), Spells, Fin.ext_iff, val_family, val_nnn]
  omega

theorem decode_eq_random_iff {r : Register} {mask : UInt8} :
    decode w = .random r mask ↔ (family w).val = 0xC ∧ r = x w ∧ mask = kk w := by
  have byte := mask.toNat_lt
  rw [decode_eq_iff (by simp), Spells, Fin.ext_iff, val_family, val_x, ← UInt8.toNat_inj,
    toNat_kk]
  omega

theorem decode_eq_call_iff {t : Address} :
    decode w = .call t ↔ (family w).val = 0x2 ∧ t = nnn w := by
  rw [decode_eq_iff (by simp), Spells, Fin.ext_iff, val_family, val_nnn]
  omega

theorem decode_eq_ret_iff : decode w = .ret ↔ w.toNat = 0x00EE := by
  rw [decode_eq_iff (by simp), Spells]

theorem decode_eq_clearScreen_iff : decode w = .clearScreen ↔ w.toNat = 0x00E0 := by
  rw [decode_eq_iff (by simp), Spells]

theorem decode_eq_draw_iff {r s : Register} {height : Fin 16} :
    decode w = .draw r s height ↔
      (family w).val = 0xD ∧ r = x w ∧ s = y w ∧ height = n w := by
  rw [decode_eq_iff (by simp), Spells, Fin.ext_iff, Fin.ext_iff, Fin.ext_iff, val_family, val_x,
    val_y, val_n]
  omega

theorem draws_decode (w : UInt16) : Machine.draws (decode w) = decide (Draws w) := by
  by_cases drawn : Draws w
  · rw [decide_eq_true drawn]
    rcases drawn with whole | family
    · rw [decode_eq_clearScreen_iff.mpr whole]
      rfl
    · rw [decode_eq_draw_iff.mpr ⟨family, rfl, rfl, rfl⟩]
      rfl
  · rw [decide_eq_false drawn]
    cases decoded : decode w
    case clearScreen => exact absurd (.inl (decode_eq_clearScreen_iff.mp decoded)) drawn
    case draw => exact absurd (.inr (decode_eq_draw_iff.mp decoded).1) drawn
    all_goals rfl

/-- The registers that the instruction of a word may change, by the nibbles of the word. -/
theorem assigns_decode {r : Register} (assigns : Machine.Assigns (decode w) r) :
    AssignsX w ∧ r = x w ∨ Fits w 0xF 0x65 ∧ r ≤ x w ∨ AssignsFlag w ∧ r = .flag := by
  rcases spells_decode w with spelled | unknown
  -- one case for each shape that the spelled word can have; the nibbles follow from the sum
  · cases decoded : decode w <;> rw [decoded] at assigns spelled
    case setByte x kk | addByte x kk | random x kk =>
      have byte := kk.toNat_lt
      refine .inl ⟨?_, assigns.trans (Fin.ext ?_)⟩ <;>
        simp only [AssignsX, Fits, Spells, val_family, val_x, val_n, toNat_kk] at spelled ⊢ <;>
        omega
    case copy | or | and | xor | readDelay | awaitKey =>
      refine .inl ⟨?_, assigns.trans (Fin.ext ?_)⟩ <;>
        simp only [AssignsX, Fits, Spells, val_family, val_x, val_n, toNat_kk] at spelled ⊢ <;>
        omega
    case add | subtract | subtractFrom | shiftRight | shiftLeft =>
      simp only [Spells] at spelled
      rcases assigns with result | flag
      · refine .inl ⟨.inr (.inr (.inl ?_)), result.trans (Fin.ext ?_)⟩ <;>
          simp only [val_family, val_x, val_n] <;> omega
      · refine .inr (.inr ⟨.inl ?_, flag⟩)
        simp only [val_family, val_n]
        omega
    case draw =>
      exact .inr (.inr ⟨.inr (decode_eq_draw_iff.mp decoded).1, assigns⟩)
    case loadRegisters =>
      obtain ⟨fits, rfl⟩ :=
        (decode_eq_row_iff .loadRegisters 0xF 0x65 (fun _ _ => Iff.rfl) (by decide)).mp decoded
      exact .inr (.inl ⟨fits, assigns⟩)
    all_goals exact assigns.elim
  · rw [unknown] at assigns
    exact assigns.elim

end Instruction

namespace Machine

open Word Instruction

variable {m after : Machine} {w : UInt16}

theorem stores_decode {k : Nat} (inside : k < (m.stores (decode w)).length) :
    Fits w 0xF 0x33 ∧ k < 3 ∨ Fits w 0xF 0x55 ∧ k ≤ (x w).val := by
  cases decoded : decode w <;> rw [decoded] at inside
  case storeDecimal =>
    obtain ⟨fits, rfl⟩ :=
      (decode_eq_row_iff .storeDecimal 0xF 0x33 (fun _ _ => Iff.rfl) (by decide)).mp decoded
    exact .inl ⟨fits, inside⟩
  case storeRegisters =>
    obtain ⟨fits, rfl⟩ :=
      (decode_eq_row_iff .storeRegisters 0xF 0x55 (fun _ _ => Iff.rfl) (by decide)).mp decoded
    rw [stores, Registers.length_upTo] at inside
    exact .inr ⟨fits, Nat.le_of_lt_succ inside⟩
  all_goals exact absurd inside (Nat.not_lt_zero k)

theorem nextDelay_decode (m : Machine) (w : UInt16) :
    m.nextDelay (decode w) =
      if Fits w 0xF 0x15 then ⟨m.registers.get (x w)⟩ else m.delay := by
  refine decode_row_ite .setDelay 0xF 0x15 (fun _ _ => Iff.rfl) (by decide) (fun _ => rfl) ?_
  intro i other
  cases i
  case setDelay r => exact absurd rfl (other r)
  all_goals rfl

theorem nextSound_decode (m : Machine) (w : UInt16) :
    m.nextSound (decode w) =
      if Fits w 0xF 0x18 then ⟨m.registers.get (x w)⟩ else m.sound := by
  refine decode_row_ite .setSound 0xF 0x18 (fun _ _ => Iff.rfl) (by decide) (fun _ => rfl) ?_
  intro i other
  cases i
  case setSound r => exact absurd rfl (other r)
  all_goals rfl

theorem nextGenerator_decode (m : Machine) (w : UInt16) :
    m.nextGenerator (decode w) =
      if (family w).val = 0xC then m.generator.draw.2 else m.generator := by
  split
  · rename_i family
    rw [decode_eq_random_iff.mpr ⟨family, rfl, rfl⟩]
    rfl
  · rename_i other
    cases decoded : decode w
    case random => exact absurd (decode_eq_random_iff.mp decoded).1 other
    all_goals rfl

/-- The index after the word `w`. -/
def indexAfter (m : Machine) (w : UInt16) : Nat :=
  if (family w).val = 0xA then nnn w
  else if Fits w 0xF 0x1E then (m.index.toNat + (m.registers.get (x w)).toNat) % 0x10000
  else if Fits w 0xF 0x29 then 0x50 + 5 * (m.registers.get (x w)).toNat
  else m.index.toNat

theorem nextIndex_decode (m : Machine) (w : UInt16) :
    (m.nextIndex (decode w)).toNat = m.indexAfter w := by
  have adds {r} : decode w = .addIndex r ↔ Fits w 0xF 0x1E ∧ r = x w :=
    decode_eq_row_iff .addIndex 0xF 0x1E (fun _ _ => Iff.rfl) (by decide)
  have points {r} : decode w = .pointGlyph r ↔ Fits w 0xF 0x29 ∧ r = x w :=
    decode_eq_row_iff .pointGlyph 0xF 0x29 (fun _ _ => Iff.rfl) (by decide)
  unfold indexAfter
  split
  · rename_i family
    rw [decode_eq_setIndex_iff.mpr ⟨family, rfl⟩, nextIndex, UInt16.toNat_ofNat']
    omega
  · rename_i notSet
    split
    · rename_i fits
      rw [adds.mpr ⟨fits, rfl⟩, nextIndex, UInt16.toNat_add, UInt8.toNat_toUInt16]
    · rename_i notAdd
      split
      · rename_i fits
        have byte := (m.registers.get (x w)).toNat_lt
        rw [points.mpr ⟨fits, rfl⟩, nextIndex, UInt16.toNat_ofNat']
        simp only [ImageKind.start, Font.glyphSize]
        omega
      · rename_i notGlyph
        cases decoded : decode w
        case setIndex => exact absurd (decode_eq_setIndex_iff.mp decoded).1 notSet
        case addIndex => exact absurd (adds.mp decoded).1 notAdd
        case pointGlyph => exact absurd (points.mp decoded).1 notGlyph
        all_goals rfl

/-- A word that is a call or a return moves the depth of the call stack by one, and only a call
fills a slot. -/
theorem stack_decode (moves : m.Moves after (decode w)) :
    after.stack.depth + (if w.toNat = 0x00EE then 1 else 0) =
        m.stack.depth + (if (family w).val = 0x2 then 1 else 0) ∧
      ∀ (k : Nat) (inside : k < callLevels), after.stack.slots[k] ≠ m.stack.slots[k] →
        (family w).val = 0x2 ∧ k = m.stack.depth := by
  cases decoded : decode w
  case ret =>
    rw [decoded] at moves
    obtain ⟨depth, slots, _⟩ := CallStack.slots_pop moves
    have whole := decode_eq_ret_iff.mp decoded
    have notCall : (family w).val ≠ 0x2 := by
      rw [val_family]
      omega
    rw [if_pos whole, if_neg notCall]
    exact ⟨depth.symm, fun k inside changed => absurd (by rw [slots]) changed⟩
  case call target =>
    rw [decoded] at moves
    obtain ⟨depth, slots⟩ := CallStack.slots_push moves.1
    have called := (decode_eq_call_iff.mp decoded).1
    have notRet : w.toNat ≠ 0x00EE := by
      rw [val_family] at called
      omega
    rw [if_neg notRet, if_pos called]
    refine ⟨depth, fun k inside changed => ⟨called, ?_⟩⟩
    rw [slots] at changed
    exact Decidable.byContradiction fun other => changed (if_neg (Ne.symm other))
  all_goals
    have kept : after.stack = m.stack := by
      rw [decoded] at moves
      exact moves.1
    have notRet : w.toNat ≠ 0x00EE := by
      intro whole
      rw [decode_eq_ret_iff.mpr whole] at decoded
      cases decoded
    have notCall : (family w).val ≠ 0x2 := by
      intro called
      rw [decode_eq_call_iff.mpr ⟨called, rfl⟩] at decoded
      cases decoded
    rw [if_neg notRet, if_neg notCall, kept]
    exact ⟨rfl, fun k inside changed => absurd rfl changed⟩

/-- Where a word that is an instruction sends a machine whose program counter points at it. -/
def pcAfter (m : Machine) : Instruction → Nat
  | .ret => m.stack.top.toNat
  | .jump target | .call target => target
  | .jumpOffset target => target + (m.registers.get .first).toNat
  | .skipIfByte x kk =>
    if m.registers.get x = kk then m.pc.toNat + 4 else m.pc.toNat + 2
  | .skipUnlessByte x kk =>
    if m.registers.get x = kk then m.pc.toNat + 2 else m.pc.toNat + 4
  | .skipIfSame x y =>
    if m.registers.get x = m.registers.get y then m.pc.toNat + 4 else m.pc.toNat + 2
  | .skipUnlessSame x y =>
    if m.registers.get x = m.registers.get y then m.pc.toNat + 2 else m.pc.toNat + 4
  | .skipIfPressed x => if m.holds (m.registers.get x) then m.pc.toNat + 4 else m.pc.toNat + 2
  | .skipUnlessPressed x => if m.holds (m.registers.get x) then m.pc.toNat + 2 else m.pc.toNat + 4
  | .awaitKey _ =>
    if true ∈ m.keypad.lines then m.pc.toNat + 2 else m.pc.toNat
  | _ => m.pc.toNat + 2

theorem toNat_nextPc_fetched (read : m.memory.word m.pc.toNat = .ok w) (i : Instruction) :
    ((m.fetched w).nextPc i).toNat = m.drainKeys.pcAfter i := by
  have inside : m.pc.toNat + 1 < 4096 := (Memory.word_eq_ok_iff.mp read).1
  have past : (m.fetched w).pc.toNat = m.pc.toNat + 2 := toNat_pc_fetched read
  have skipped : ((m.fetched w).pc + 2).toNat = m.pc.toNat + 4 := by
    have moved := toNat_pc_advance (m := m.fetched w) (by omega)
    rw [past] at moved
    exact moved
  have back : ((m.fetched w).pc - 2).toNat = m.pc.toNat := by
    have moved := toNat_pc_stepBack (m := m.fetched w) (by omega)
    rw [past] at moved
    exact Nat.add_right_cancel moved
  cases i
  case jump target | call target =>
    rw [nextPc, UInt16.toNat_ofNat']
    exact Nat.mod_eq_of_lt (by omega)
  case jumpOffset target =>
    have byte := ((m.fetched w).registers.get .first).toNat_lt
    rw [nextPc, UInt16.toNat_add, UInt16.toNat_ofNat', UInt8.toNat_toUInt16]
    change _ = target.val + ((m.fetched w).registers.get .first).toNat
    omega
  case awaitKey x =>
    have waits : (m.fetched w).keypad.firstPressed = none ↔ true ∉ m.drainKeys.keypad.lines :=
      Keypad.firstPressed_eq_none_iff
    rw [nextPc, apply_ite UInt16.toNat, back, past]
    simp only [waits, ite_not]
    rfl
  case skipIfByte | skipUnlessByte | skipIfSame | skipUnlessSame | skipIfPressed
      | skipUnlessPressed =>
    rw [nextPc, apply_ite UInt16.toNat, skipped, past]
    rfl
  case ret => rfl
  all_goals exact past

/-- What the nibbles of the fetched word `w` say about a cycle from `m` to `after`. -/
structure Frame (m after : Machine) (w : UInt16) : Prop where
  opcode : after.opcode = w
  memory : ∀ (a : Nat) (inside : a < memorySize), after.memory.bytes[a] ≠ m.memory.bytes[a] →
    m.index.toNat ≤ a ∧
      (Fits w 0xF 0x33 ∧ a < m.index.toNat + 3 ∨
        Fits w 0xF 0x55 ∧ a ≤ m.index.toNat + x w)
  registers : ∀ r, after.registers.get r ≠ m.registers.get r →
    AssignsX w ∧ r = x w ∨ Fits w 0xF 0x65 ∧ r ≤ x w ∨ AssignsFlag w ∧ r = .flag
  index : after.index.toNat = m.indexAfter w
  depth : after.stack.depth + (if w.toNat = 0x00EE then 1 else 0) =
    m.stack.depth + (if (family w).val = 0x2 then 1 else 0)
  slots : ∀ (k : Nat) (inside : k < callLevels), after.stack.slots[k] ≠ m.stack.slots[k] →
    (family w).val = 0x2 ∧ k = m.stack.depth
  screen : after.screen ≠ m.screen → Draws w
  redraw : after.redraw = (decide (Draws w) || m.redraw)
  /-- The only line that changes is the one that Vx names, from pressed to released. -/
  lines : ∀ (k : Nat) (inside : k < keyCount), after.keypad.lines[k] ≠ m.keypad.lines[k] →
    (Fits w 0xE 0x9E ∨ Fits w 0xE 0xA1) ∧ k = (m.registers.get (x w)).toNat ∧
      m.keypad.lines[k] = true ∧ after.keypad.lines[k] = false
  pending : after.keypad.pending = m.keypad.pending
  delay : after.delay.count.toNat =
    (if Fits w 0xF 0x15 then m.registers.get (x w) else m.delay.count).toNat - 1
  sound : after.sound.count.toNat =
    (if Fits w 0xF 0x18 then m.registers.get (x w) else m.sound.count).toNat - 1
  generator : after.generator = if (family w).val = 0xC then m.generator.draw.2 else m.generator
  running : after.halted = false
  pc : ∀ i, Spells i w.toNat → after.pc.toNat = m.pcAfter i
  /-- A word that is no instruction is passed over. -/
  passed : (∀ i, ¬ Spells i w.toNat) → after.pc.toNat = m.pc.toNat + 2

theorem lines_of_consumes {keypad : Keypad} (consumes : m.Consumes (decode w) keypad)
    (k : Nat) (inside : k < keyCount) (changed : keypad.lines[k] ≠ m.keypad.lines[k]) :
    (Fits w 0xE 0x9E ∨ Fits w 0xE 0xA1) ∧ k = (m.registers.get (x w)).toNat ∧
      m.keypad.lines[k] = true ∧ keypad.lines[k] = false := by
  rcases consumes with rfl | ⟨r, skips, known, pressed, rfl⟩
  · exact absurd rfl changed
  · have row : (Fits w 0xE 0x9E ∨ Fits w 0xE 0xA1) ∧ r = x w := by
      rcases skips with decoded | decoded
      · exact ((decode_eq_row_iff .skipIfPressed 0xE 0x9E (fun _ _ => Iff.rfl)
          (by decide)).mp decoded).imp_left .inl
      · exact ((decode_eq_row_iff .skipUnlessPressed 0xE 0xA1 (fun _ _ => Iff.rfl)
          (by decide)).mp decoded).imp_left .inr
    obtain ⟨fits, rfl⟩ := row
    have line : k = (m.registers.get (x w)).toNat := by
      refine Decidable.byContradiction fun other => changed ?_
      exact Vector.getElem_set_ne known inside (Ne.symm other)
    refine ⟨fits, line, ?_, ?_⟩
    · simpa [line] using pressed
    · simp [line]

/-- A write changes bytes where it has values, and so only where the word stores some. -/
theorem memory_of_stores {a : Nat} (inside : a < memorySize)
    (changed : (m.memory.write m.index.toNat (m.stores (decode w))).bytes[a] ≠ m.memory.bytes[a]) :
    m.index.toNat ≤ a ∧
      (Fits w 0xF 0x33 ∧ a < m.index.toNat + 3 ∨
        Fits w 0xF 0x55 ∧ a ≤ m.index.toNat + x w) := by
  rw [Memory.getElem_write] at changed
  split at changed
  · rename_i above
    have covered : a - m.index.toNat < (m.stores (decode w)).length := by
      refine Nat.lt_of_not_le fun past => changed ?_
      rw [List.getElem?_eq_none past, Option.getD_none]
    refine ⟨above, (stores_decode covered).imp ?_ ?_⟩
    · rintro ⟨fits, digit⟩
      exact ⟨fits, by omega⟩
    · rintro ⟨fits, stored⟩
      exact ⟨fits, by omega⟩
  · exact absurd rfl changed

theorem frame_of_execute (read : m.memory.word m.pc.toNat = .ok w)
    (success : (m.fetched w).execute (decode w) = (.ok (), after))
    (running : after.halted = false) : Frame m.drainKeys after.tickTimers w := by
  have effect := effect_of_execute success
  have stack := stack_decode (moves_of_execute success)
  have moved : after.pc.toNat = m.drainKeys.pcAfter (decode w) := by
    rw [effect.pc]
    exact toNat_nextPc_fetched read (decode w)
  exact {
    opcode := effect.opcode
    memory := fun a inside changed => by
      simp only [tickTimers, effect.memory] at changed
      exact memory_of_stores inside changed
    registers := fun r changed =>
      assigns_decode (Classical.byContradiction fun other => changed (effect.registers r other))
    index := by
      simp only [tickTimers, effect.index]
      exact nextIndex_decode (m.fetched w) w
    depth := stack.1
    slots := stack.2
    screen := fun changed => Decidable.byContradiction fun silent =>
      changed (effect.screen ((draws_decode w).trans (decide_eq_false silent)))
    redraw := by
      simp only [tickTimers, effect.redraw, draws_decode]
      rfl
    lines := lines_of_consumes effect.keypad
    pending := effect.keypad.pending
    delay := by
      simp only [tickTimers, effect.delay, nextDelay_decode, Timer.toNat_count_tick]
      split <;> rfl
    sound := by
      simp only [tickTimers, effect.sound, nextSound_decode, Timer.toNat_count_tick]
      split <;> rfl
    generator := by
      simp only [tickTimers, effect.generator, nextGenerator_decode]
      rfl
    running := running
    pc := fun i spelled => by
      rw [← decode_of_spells spelled]
      exact moved
    passed := fun none => by
      rcases spells_decode w with spelled | unknown
      · exact absurd spelled (none _)
      · rw [unknown] at moved
        exact moved }

/-- What the word at the program counter says about a cycle that succeeds. -/
theorem frame_of_word (success : m.cycle = (.ok (), after))
    (read : m.memory.word m.pc.toNat = .ok w) : Frame m.drainKeys after w := by
  obtain ⟨v, executed, same, result, rfl⟩ :=
    (cycle_eq_ok_iff (running_of_cycle_ok success)).mp success
  obtain rfl : v = w := Except.ok.inj (same.symm.trans read)
  have running : executed.tickTimers.halted = false := halted_of_cycle_ok success
  exact frame_of_execute read result running

/-- A cycle that succeeds executes the word at the program counter, and changes only what the
nibbles of that word name. -/
theorem cycle_frame (success : m.cycle = (.ok (), after)) :
    ∃ w : UInt16, m.NextWord w.toNat ∧ Frame m.drainKeys after w := by
  obtain ⟨w, executed, read, result, rfl⟩ :=
    (cycle_eq_ok_iff (running_of_cycle_ok success)).mp success
  have running : executed.tickTimers.halted = false := halted_of_cycle_ok success
  exact ⟨w, Memory.word_eq_ok_iff.mp read, frame_of_execute read result running⟩

/-- About to skip on a press of line 3 that waits in the queue, while the delay timer runs. -/
def waitingPress : Machine :=
  { fresh ⟨Vector.replicate 8 0, 0⟩ with
    memory := Memory.blank.write 0x200 [0xE1, 0x9E]
    registers := Registers.zero.set ⟨1, by decide⟩ 3
    keypad := { Keypad.released with pending := [.pressed 3] }
    delay := ⟨5⟩ }

theorem nextWord_waitingPress : waitingPress.NextWord 0xE19E := ⟨by decide, by decide +kernel⟩

theorem cycle_frame_waitingPress :
    waitingPress.cycle = (.ok (), waitingPress.cycle.2) ∧
      Frame waitingPress.drainKeys waitingPress.cycle.2 0xE19E ∧
      waitingPress.cycle.2.pc.toNat = 0x204 := by
  have spelled : Spells (.skipIfPressed ⟨1, by decide⟩) 0xE19E := rfl
  have success : waitingPress.cycle = (.ok (), waitingPress.cycle.2) := by
    apply cycle_eq_of_fst
    rw [cycle_fst_eq_ite rfl nextWord_waitingPress spelled fun _ => Iff.rfl]
    exact if_neg (by decide)
  obtain ⟨w, next, frame⟩ := cycle_frame success
  obtain rfl : w = 0xE19E := UInt16.toNat_inj.mp (next.unique nextWord_waitingPress)
  refine ⟨success, frame, ?_⟩
  rw [frame.pc _ spelled]
  decide +kernel

end Machine

end Chip8
