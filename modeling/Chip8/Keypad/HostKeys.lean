import Chip8.Keypad

/-!
# Keys of the host

The block of sixteen keys on the left of a host keyboard stands for the keypad:

```text
1 2 3 4      1 2 3 C
Q W E R      4 5 6 D
A S D F      7 8 9 E
Z X C V      A 0 B F
```
-/

namespace Chip8.Keypad

/-- The name of the host key for each line, from line 0 on. -/
def hostKeys : Vector String keyCount :=
  #v["X", "Key1", "Key2", "Key3", "Q", "W", "E", "A", "S", "D", "Z", "C", "Key4", "R", "F", "V"]

/-- The keypad line of a host key; other keys have none. -/
def lineOfHostKey (name : String) : Option (Fin keyCount) :=
  (List.finRange keyCount).find? fun line => hostKeys.get line = name

/-- Each line is reached by its own host key. -/
theorem lineOfHostKey_hostKeys (line : Fin keyCount) :
    lineOfHostKey (hostKeys.get line) = some line := by
  revert line
  decide

end Chip8.Keypad
