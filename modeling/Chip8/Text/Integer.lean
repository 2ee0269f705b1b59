/-!
# Integers given as text

Reading an integer of limited size from an argument: an optional sign and decimal digits, nothing
else.
-/

namespace Chip8.Text

/-- Why a text is no integer of the wanted size. -/
inductive IntegerError
  | empty
  | invalidDigit
  | tooLarge
  | tooSmall
  deriving DecidableEq, Repr

def IntegerError.message : IntegerError → String
  | empty => "cannot parse integer from empty string"
  | invalidDigit => "invalid digit found in string"
  | tooLarge => "number too large to fit in target type"
  | tooSmall => "number too small to fit in target type"

/-- Appends digits to `n`, none of which may take it past `limit`. -/
def readDigits (limit : Nat) (exceeded : IntegerError) (n : Nat) :
    List Char → Except IntegerError Nat
  | [] => .ok n
  | c :: cs =>
    if ¬ c.isDigit then .error .invalidDigit
    else
      let longer := n * 10 + (c.toNat - '0'.toNat)
      if limit < longer then .error exceeded else readDigits limit exceeded longer cs

/-- A number without a minus sign, at most `limit`. -/
def readUnsigned (limit : Nat) (text : String) : Except IntegerError Nat :=
  match text.toList with
  | [] => .error .empty
  | ['+'] => .error .invalidDigit
  | '+' :: digits => readDigits limit .tooLarge 0 digits
  | digits => readDigits limit .tooLarge 0 digits

/-- A signed 64-bit number. -/
def readSigned (text : String) : Except IntegerError Int :=
  match text.toList with
  | [] => .error .empty
  | ['+'] | ['-'] => .error .invalidDigit
  | '-' :: digits => (readDigits 0x8000000000000000 .tooSmall 0 digits).map fun n => -n
  | '+' :: digits => (readDigits 0x7FFFFFFFFFFFFFFF .tooLarge 0 digits).map Int.ofNat
  | digits => (readDigits 0x7FFFFFFFFFFFFFFF .tooLarge 0 digits).map Int.ofNat

end Chip8.Text
