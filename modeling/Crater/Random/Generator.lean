import Crater.Random.Stream
/-!
# Draws

A generator is a stream of words and the number of words already drawn, so what a computation does to
the generator can be read off one number. Draws are state-passing functions: a fraction of the unit
interval takes one word, a choice below a bound takes words until one can be used without favouring
any result, and a shuffle takes one choice per element but the first.
-/

namespace Crater

/-- A stream of words and a place in it. -/
structure Generator where
  /-- The words of the stream, numbered from zero. -/
  word : Nat → UInt32
  /-- How many words have been drawn. -/
  drawn : Nat

namespace Generator

def ofSeed (seed : UInt64) : Generator := ⟨Random.wordAt (Random.keyOfSeed seed), 0⟩

def skip (g : Generator) (n : Nat) : Generator := { g with drawn := g.drawn + n }

end Generator

/-- A computation that draws from a generator. -/
abbrev Draw (α : Type) := StateM Generator α

namespace Draw

def word : Draw UInt32 := fun g => (g.word g.drawn, g.skip 1)

/-- The fraction of a word: its upper 24 bits as a number from 0 up to but not including 1. -/
def fractionOf (w : UInt32) : Float32 := (w >>> 8).toFloat32 * Float32.ofBits 0x33800000

def fraction : Draw Float32 := do return fractionOf (← word)

/-- The choice below `n` that a word makes, if the word can be used: the product of word and `n` has
the choice in its upper half, and its lower half must not lie in the part of the range that some
choices reach once more than others. -/
def choiceOf? (n : Nat) (w : UInt32) : Option Nat :=
  let zone := n <<< (31 - n.log2) - 1
  let product := w.toNat * n
  if product % UInt32.size ≤ zone then some (product / UInt32.size) else none

/-- How many unusable words in a row a choice puts up with. Each is unusable with probability less
than one half. -/
def patience : Nat := 1024

/-- Draws words until one makes a choice, at most `tries` of them. -/
def choose (n : Nat) : (tries : Nat) → Draw Nat
  | 0 => pure 0
  | tries + 1 => do
    match choiceOf? n (← word) with
    | some choice => pure choice
    | none => choose n tries

/-- A choice among the numbers below `n`, each equally likely, for `0 < n < 2 ^ 32`. -/
def below (n : Nat) : Draw Nat := choose n patience

/-- Exchanges places `i`, `i - 1`, … `1` with a place chosen at or below each. -/
def shuffleDown {α : Type} : Nat → Array α → Draw (Array α)
  | 0, xs => pure xs
  | i + 1, xs => do
    let j ← below (i + 2)
    shuffleDown i (xs.swapIfInBounds (i + 1) j)

/-- A permutation of `xs`, each equally likely. -/
def shuffle {α : Type} (xs : Array α) : Draw (Array α) := shuffleDown (xs.size - 1) xs

end Draw

end Crater
