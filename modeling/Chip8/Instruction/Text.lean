import Chip8.Instruction

/-!
# Instruction text

How instructions are written in the log: a name and the operands as decimal numbers.
-/

namespace Chip8.Instruction

/-- A name with its operands in parentheses; a name alone if there are none. -/
def written (name : String) (operands : List Nat) : String :=
  if operands.isEmpty then name
  else name ++ "(" ++ ", ".intercalate (operands.map Nat.repr) ++ ")"

def text : Instruction → String
  | clearScreen => written "ClearScreen" []
  | ret => written "PopSubroutine" []
  | jump target => written "Jump" [target]
  | call target => written "PushSubroutine" [target]
  | skipIfByte x kk => written "SkipEqualConstant" [x, kk.toNat]
  | skipUnlessByte x kk => written "SkipNotEqualConstant" [x, kk.toNat]
  | skipIfSame x y => written "SkipEqualRegister" [x, y]
  | skipUnlessSame x y => written "SkipNotEqualRegister" [x, y]
  | setByte x kk => written "SetRegister" [x, kk.toNat]
  | addByte x kk => written "AddToRegister" [x, kk.toNat]
  | copy x y => written "CopyRegister" [x, y]
  | or x y => written "Or" [x, y]
  | and x y => written "And" [x, y]
  | xor x y => written "XOr" [x, y]
  | add x y => written "Add" [x, y]
  | subtract x y => written "SubtractForward" [x, y]
  | shiftRight x => written "RightShift" [x]
  | subtractFrom x y => written "SubtractBackward" [x, y]
  | shiftLeft x => written "LeftShift" [x]
  | setIndex target => written "SetIndexRegister" [target]
  | jumpOffset target => written "JumpWithOffset" [target]
  | random x kk => written "Random" [x, kk.toNat]
  | draw x y height => written "Display" [x, y, height]
  | skipIfPressed x => written "SkipIfPressed" [x]
  | skipUnlessPressed x => written "SkipIfNotPressed" [x]
  | readDelay x => written "CopyDelayToRegister" [x]
  | awaitKey x => written "GetKey" [x]
  | setDelay x => written "CopyRegisterToDelay" [x]
  | setSound x => written "CopyRegisterToSound" [x]
  | addIndex x => written "AddToIndex" [x]
  | pointGlyph x => written "PointChar" [x]
  | storeDecimal x => written "ToDecimal" [x]
  | storeRegisters x => written "StoreRegisterToMemory" [x]
  | loadRegisters x => written "LoadRegisterFromMemory" [x]
  | unknown word => written "Unimplemented" [word.toNat]

end Chip8.Instruction
