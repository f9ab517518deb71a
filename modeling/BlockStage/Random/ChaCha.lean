/-!
The ChaCha stream cipher as a source of words. A key and a block number make a block of sixteen
words; the blocks one after another are the stream. The number of rounds is a parameter.
-/

namespace BlockStage.ChaCha

/-- The sixteen words of the cipher. -/
abbrev Words := Vector UInt32 16

/-- Eight words. -/
abbrev Key := Vector UInt32 8

/-- `x` with its bits turned left by `n`, `0 < n < 32`. -/
def rotateLeft (x n : UInt32) : UInt32 := (x <<< n) ||| (x >>> (32 - n))

/-- `x` with its bits turned right by `n`, taken modulo 32. -/
def rotateRight (x n : UInt32) : UInt32 := (x >>> n) ||| (x <<< (32 - n))

/-- Mixes four of the words. -/
def quarterRound (w : Words) (a b c d : Fin 16) : Words :=
  let w := w.set a (w[a] + w[b])
  let w := w.set d (rotateLeft (w[d] ^^^ w[a]) 16)
  let w := w.set c (w[c] + w[d])
  let w := w.set b (rotateLeft (w[b] ^^^ w[c]) 12)
  let w := w.set a (w[a] + w[b])
  let w := w.set d (rotateLeft (w[d] ^^^ w[a]) 8)
  let w := w.set c (w[c] + w[d])
  w.set b (rotateLeft (w[b] ^^^ w[c]) 7)

/-- Mixes the columns and then the diagonals. -/
def doubleRound (w : Words) : Words :=
  let w := quarterRound w 0 4 8 12
  let w := quarterRound w 1 5 9 13
  let w := quarterRound w 2 6 10 14
  let w := quarterRound w 3 7 11 15
  let w := quarterRound w 0 5 10 15
  let w := quarterRound w 1 6 11 12
  let w := quarterRound w 2 7 8 13
  quarterRound w 3 4 9 14

/-- The words a block starts from: four constants, the key, the number of the block as two words,
low word first, and two zeros. -/
def initial (key : Key) (number : Nat) : Words :=
  let constants : Vector UInt32 4 := #v[0x61707865, 0x3320646e, 0x79622d32, 0x6b206574]
  let place : Vector UInt32 4 := #v[.ofNat number, .ofNat (number / UInt32.size), 0, 0]
  constants ++ key ++ place

/-- A block after `doubleRounds` double rounds. -/
def block (doubleRounds : Nat) (key : Key) (number : Nat) : Words :=
  let start := initial key number
  let mixed := Nat.repeat doubleRound doubleRounds start
  start.zipWith (· + ·) mixed

/-- Word `n` of the stream. -/
def word (doubleRounds : Nat) (key : Key) (n : Nat) : UInt32 :=
  (block doubleRounds key (n / 16))[n % 16]

/-- The `n`-th pair of words of the stream as one number, low word first. -/
def pair (doubleRounds : Nat) (key : Key) (n : Nat) : UInt64 :=
  (word doubleRounds key (2 * n)).toUInt64 |||
    ((word doubleRounds key (2 * n + 1)).toUInt64 <<< 32)

/-- One step of the generator that stretches a seed. -/
def nextSeed (state : UInt64) : UInt64 := state * 6364136223846793005 + 11634580027462260723

/-- The word that a state of that generator yields: its upper bits folded onto the lower ones
and turned by the top five bits. -/
def seedWord (state : UInt64) : UInt32 :=
  rotateRight (((state >>> 18) ^^^ state) >>> 27).toUInt32 (state >>> 59).toUInt32

/-- The key of a seed: the words of the eight states after it. -/
def keyOfSeed (seed : UInt64) : Key :=
  Vector.ofFn fun i => seedWord (Nat.repeat nextSeed (i.val + 1) seed)

end BlockStage.ChaCha
