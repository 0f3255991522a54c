/-!
# Key streams

A seed gives an endless stream of 32-bit words. The seed is stretched to a key of eight words by a
congruential generator, and the key drives ChaCha with eight rounds in counter mode: block number
`c` of the stream holds words `16 c` to `16 c + 15`.
-/

namespace Crater.Random

/-- Rotates a word to the left by `n` bits, for `0 < n < 32`. -/
def rotateLeft (w n : UInt32) : UInt32 := (w <<< n) ||| (w >>> (32 - n))

/-- Rotates a word to the right by the low five bits of `n`. -/
def rotateRight (w n : UInt32) : UInt32 := (w >>> (n % 32)) ||| (w <<< ((32 - n % 32) % 32))

abbrev State := Vector UInt32 16

/-- Mixes the words at four places of the state. -/
def quarterRound (s : State) (a b c d : Fin 16) : State :=
  let wa := s[a] + s[b]
  let wd := rotateLeft (s[d] ^^^ wa) 16
  let wc := s[c] + wd
  let wb := rotateLeft (s[b] ^^^ wc) 12
  let wa := wa + wb
  let wd := rotateLeft (wd ^^^ wa) 8
  let wc := wc + wd
  let wb := rotateLeft (wb ^^^ wc) 7
  (((s.set a wa).set b wb).set c wc).set d wd

/-- One round over the columns of the state and one over its diagonals. -/
def doubleRound (s : State) : State :=
  let s := quarterRound s 0 4 8 12
  let s := quarterRound s 1 5 9 13
  let s := quarterRound s 2 6 10 14
  let s := quarterRound s 3 7 11 15
  let s := quarterRound s 0 5 10 15
  let s := quarterRound s 1 6 11 12
  let s := quarterRound s 2 7 8 13
  quarterRound s 3 4 9 14

/-- The state that block `counter` starts from: four constants, the key, the counter and a zero
nonce. -/
def initial (key : Vector UInt32 8) (counter : UInt64) : State :=
  #v[0x61707865, 0x3320646e, 0x79622d32, 0x6b206574,
    key[0], key[1], key[2], key[3], key[4], key[5], key[6], key[7],
    counter.toUInt32, (counter >>> 32).toUInt32, 0, 0]

/-- A block of the stream: eight rounds, added to the state they started from. -/
def block (key : Vector UInt32 8) (counter : UInt64) : State :=
  let start := initial key counter
  (Nat.repeat doubleRound 4 start).zipWith (· + ·) start

def stretch (state : UInt64) : UInt64 := state * 6364136223846793005 + 11634580027462260723

/-- The key word that is read off a state of the stretching generator. -/
def keyWord (state : UInt64) : UInt32 :=
  rotateRight (((state >>> 18) ^^^ state) >>> 27).toUInt32 (state >>> 59).toUInt32

/-- The key of a seed: the words of the first eight states after it. -/
def keyOfSeed (seed : UInt64) : Vector UInt32 8 :=
  Vector.ofFn fun i => keyWord (Nat.repeat stretch (i.val + 1) seed)

def wordAt (key : Vector UInt32 8) (n : Nat) : UInt32 :=
  (block key (n / 16).toUInt64).get ⟨n % 16, Nat.mod_lt _ (by decide)⟩

end Crater.Random
