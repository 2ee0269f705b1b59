import Chip8.CommandLine.Program

/-!
# The executable

The program over the real file system.
-/

namespace Chip8

/-- The description and number of a failed file operation. -/
def FileError.ofError : IO.Error → FileError
  | .alreadyExists _ code text | .noFileOrDirectory _ code text | .invalidArgument _ code text
  | .permissionDenied _ code text | .resourceExhausted _ code text | .inappropriateType _ code text
  | .noSuchThing _ code text | .interrupted _ code text | .otherError code text
  | .resourceBusy code text | .resourceVanished code text | .unsupportedOperation code text
  | .hardwareFault code text | .unsatisfiedConstraints code text | .illegalOperation code text
  | .protocolError code text | .timeExpired code text => ⟨text, some code.toNat⟩
  | .unexpectedEof => ⟨"Unexpected end of file", none⟩
  | .userError text => ⟨text, none⟩

instance : FileAccess IO where
  readFile path := do
    if path.contains '\x00' then return .error .nulInName
    try
      return .ok (← IO.FS.readBinFile path).data.toList
    catch e => return .error (.ofError e)
  writeFile path content := do
    if path.contains '\x00' then return .error .nulInName
    try
      IO.FS.writeBinFile path (ByteArray.mk content.toArray)
      return .ok ()
    catch e => return .error (.ofError e)

/-- Eight random bytes as a number. -/
def entropy : IO UInt64 := do
  let bytes ← IO.getRandomBytes 8
  return bytes.data.foldl (fun n b => n * 256 + b.toUInt64) 0

end Chip8

def main (arguments : List String) : IO UInt32 := do
  let logSpec ← IO.getEnv "RUST_LOG"
  let result ← Chip8.CommandLine.runCommand arguments logSpec (← Chip8.entropy)
  IO.print result.out
  for line in result.err do
    IO.eprintln line
  return UInt32.ofNat result.exitCode
