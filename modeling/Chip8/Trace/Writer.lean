import Chip8.Json.Printer
import Chip8.Trace

/-!
# Written traces

A trace is written as a list of objects, one per cycle, whose members are the fields in order.
-/

namespace Chip8

def Scalar.print : (s : Scalar) → s.Value → List UInt8
  | byte, v => Json.printNatural v.toNat
  | word, v => Json.printNatural v.toNat
  | flag, v => Json.printFlag v

def Shape.print : (s : Shape) → s.Value → List UInt8
  | one s, v => s.print v
  | sixteen s, v => Json.printList (v.toList.map s.print)
  | bytes, v => Json.printList (v.toList.map Scalar.byte.print)

def Snapshot.print (s : Snapshot) : List UInt8 :=
  Json.printObject (Field.all.map fun f => Json.printMember f.name (f.shape.print (s.get f)))

/-- The text of a trace, as the bytes of a file. -/
def Trace.print (t : Trace) : List UInt8 := Json.printList (t.map Snapshot.print)

end Chip8
