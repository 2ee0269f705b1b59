/-!
# The random generator

A ChaCha stream of 12 rounds with a 64-bit block counter, started at block zero. A generator is
its key and the number of words drawn so far, so the value of each draw is a function of the key
and the draw's index alone (`Generator.output`).
-/

namespace Chip8

/-- The sixteen words of a cipher state. -/
abbrev CipherState := Vector UInt32 16

structure Generator where
  key : Vector UInt32 8
  drawn : Nat
  deriving DecidableEq, Repr

namespace Generator

def rotateLeft (w : UInt32) (k : UInt32) : UInt32 := w <<< k ||| w >>> (32 - k)

/-- Seed expansion steps a 64-bit linear congruential generator. -/
def nextSeedState (state : UInt64) : UInt64 :=
  state * 6364136223846793005 + 11634580027462260723

/-- The word that a seed state yields: its high half, mixed and then turned by its top five bits. -/
def seedWord (state : UInt64) : UInt32 :=
  let mixed := (((state >>> 18) ^^^ state) >>> 27).toUInt32
  let turn := (state >>> 59).toUInt32
  mixed >>> turn ||| mixed <<< ((32 - turn) % 32)

/-- The state after `n` steps from `seed`. -/
def seedState (seed : UInt64) : Nat → UInt64
  | 0 => seed
  | n + 1 => nextSeedState (seedState seed n)

def ofSeed (seed : UInt64) : Generator :=
  { key := Vector.ofFn fun i => seedWord (seedState seed (i.val + 1)), drawn := 0 }

def quarterRound (s : CipherState) (a b c d : Fin 16) : CipherState :=
  let s := s.set a (s[a] + s[b])
  let s := s.set d (rotateLeft (s[d] ^^^ s[a]) 16)
  let s := s.set c (s[c] + s[d])
  let s := s.set b (rotateLeft (s[b] ^^^ s[c]) 12)
  let s := s.set a (s[a] + s[b])
  let s := s.set d (rotateLeft (s[d] ^^^ s[a]) 8)
  let s := s.set c (s[c] + s[d])
  s.set b (rotateLeft (s[b] ^^^ s[c]) 7)

/-- The columns of the four by four state, then its diagonals. -/
def roundLanes : List (Fin 16 × Fin 16 × Fin 16 × Fin 16) :=
  [(0, 4, 8, 12), (1, 5, 9, 13), (2, 6, 10, 14), (3, 7, 11, 15),
   (0, 5, 10, 15), (1, 6, 11, 12), (2, 7, 8, 13), (3, 4, 9, 14)]

def doubleRound (s : CipherState) : CipherState :=
  roundLanes.foldl (fun s (a, b, c, d) => quarterRound s a b c d) s

/-- The state before the rounds: four constant words, the key, the block counter, two zeros. -/
def initialState (key : Vector UInt32 8) (counter : Nat) : CipherState :=
  #v[0x61707865, 0x3320646E, 0x79622D32, 0x6B206574,
     key[0], key[1], key[2], key[3], key[4], key[5], key[6], key[7],
     UInt32.ofNat counter, UInt32.ofNat (counter / UInt32.size), 0, 0]

/-- Six double rounds, added to the state they began from. -/
def block (key : Vector UInt32 8) (counter : Nat) : CipherState :=
  let start := initialState key counter
  Vector.zipWith (· + ·) (Nat.repeat doubleRound 6 start) start

/-- The `j`-th word of the stream, counting from zero. -/
def output (key : Vector UInt32 8) (j : Nat) : UInt32 :=
  (block key (j / 16)).get ⟨j % 16, Nat.mod_lt _ (by decide)⟩

/-- The known answer of this cipher for a key of four numbers and zeros: its first two words, the
low one first, as one number. -/
example : (output #v[1, 23, 456, 7890, 0, 0, 0, 0] 0).toNat +
    2 ^ 32 * (output #v[1, 23, 456, 7890, 0, 0, 0, 0] 1).toNat = 10719222850664546238 := by
  decide +kernel

/-- One draw: the low byte of the next word. -/
def draw (g : Generator) : UInt8 × Generator :=
  ((output g.key g.drawn).toUInt8, { g with drawn := g.drawn + 1 })

end Generator

end Chip8
