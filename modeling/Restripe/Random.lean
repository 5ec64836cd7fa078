import Restripe.Error

/-!
# Random samples

A sample is a list of distinct indices below a length, in random order.  It is drawn from a stream of
random words that a seed determines.
-/

/-!
## A stream of random words

The words come from the ChaCha block function with twelve rounds.  The key is made from a 64-bit
seed by a linear congruential generator whose state is permuted into one key word a step.  All
arithmetic is modulo the width of its words.
-/

namespace Restripe.Random

/-- The words that a block function works on. -/
abbrev Block := Vector UInt32 16

/-- Rotate a word to the left, by less than its width. -/
def rotateLeft (word : UInt32) (distance : UInt32) : UInt32 :=
  (word <<< distance) ||| (word >>> (32 - distance))

/-- Add, exclusive-or and rotate four words of a block. -/
def quarterRound (block : Block) (a b c d : Fin 16) : Block :=
  let block := block.set a (block[a] + block[b])
  let block := block.set d (rotateLeft (block[d] ^^^ block[a]) 16)
  let block := block.set c (block[c] + block[d])
  let block := block.set b (rotateLeft (block[b] ^^^ block[c]) 12)
  let block := block.set a (block[a] + block[b])
  let block := block.set d (rotateLeft (block[d] ^^^ block[a]) 8)
  let block := block.set c (block[c] + block[d])
  block.set b (rotateLeft (block[b] ^^^ block[c]) 7)

/-- One round over the columns of a block and one over its diagonals. -/
def doubleRound (block : Block) : Block :=
  let block := quarterRound block 0 4 8 12
  let block := quarterRound block 1 5 9 13
  let block := quarterRound block 2 6 10 14
  let block := quarterRound block 3 7 11 15
  let block := quarterRound block 0 5 10 15
  let block := quarterRound block 1 6 11 12
  let block := quarterRound block 2 7 8 13
  quarterRound block 3 4 9 14

/-- The block that a key and a counter start from. -/
def initialBlock (key : Vector UInt32 8) (counter : UInt64) : Block :=
  #v[0x61707865, 0x3320646E, 0x79622D32, 0x6B206574,
    key[0], key[1], key[2], key[3], key[4], key[5], key[6], key[7],
    counter.toUInt32, (counter >>> 32).toUInt32, 0, 0]

/-- The output words of a block. -/
def outputWords (key : Vector UInt32 8) (counter : UInt64) : List UInt32 :=
  let start := initialBlock key counter
  let mixed := Nat.repeat doubleRound 6 start
  (start.zipWith (· + ·) mixed).toList

/-- A position in a stream: the words left of the current block, and the block after it. -/
structure Generator where
  key : Vector UInt32 8
  counter : UInt64
  pending : List UInt32

namespace Generator

/-- Advance the state that a key is made from. -/
def advanceSeed (state : UInt64) : UInt64 :=
  state * 6364136223846793005 + 11634580027462260723

def keyWord (state : UInt64) : UInt32 :=
  let word := (((state >>> 18) ^^^ state) >>> 27).toUInt32
  let distance := (state >>> 59).toUInt32
  (word >>> distance) ||| (word <<< ((32 - distance) % 32))

def seedStates : Nat → UInt64 → List UInt64
  | 0, _ => []
  | count + 1, state => advanceSeed state :: seedStates count (advanceSeed state)

/-- The start of the stream of a seed. -/
def ofSeed (seed : UInt64) : Generator where
  key := Vector.ofFn fun index : Fin 8 => keyWord ((seedStates 8 seed)[index.val]?.getD 0)
  counter := 0
  pending := []

/-- The next word of a stream. -/
def next (generator : Generator) : UInt32 × Generator :=
  match generator.pending with
  | word :: pending => (word, { generator with pending })
  | [] =>
      match outputWords generator.key generator.counter with
      | word :: pending => (word, { generator with counter := generator.counter + 1, pending })
      | [] => (0, generator)

end Generator

/-!
## Drawing a sample

Which of three ways a sample is drawn depends on both numbers.  Numbers are drawn by scaling random
words; a word that would favour some number is drawn again.  Nothing bounds how often that happens,
so a draw is told how often it may try, and a draw that fails too often is a fault.
-/

/-- A computation that takes words from a stream, given how often it may try each draw. -/
abbrev Draw := ReaderT Nat (StateT Generator (Except Error))

def wordSize : Nat := UInt32.size

/-- How often a draw is tried before it is given up, unless something else is said.  A try fails with
a chance below one half. -/
def maxTries : Nat := 4096

def word : Draw UInt32 := do
  let (value, generator) := (← get).next
  set generator
  pure value

/-- Draw a number below `span`: words whose scaled low part is above `zone` are drawn again. -/
def scaled (span zone : Nat) : (tries : Nat) → Draw Nat
  | 0 => throw (.fault .tooManyDraws)
  | tries + 1 => do
      let product := (← word).toNat * span
      if product % wordSize ≤ zone then pure (product / wordSize) else scaled span zone tries

/-- Draw a number from `low` up to `high`.  The zone is the largest multiple of the span by a power
of two that fits a word. -/
def between (low high : Nat) : Draw Nat := do
  let span := high - low + 1
  return low + (← scaled span ((span <<< (31 - span.log2)) - 1) (← read))

/-- Draw a number below `length`.  The zone is the largest multiple of the length that fits a word.
-/
def below (length : Nat) : Draw Nat := do
  scaled length (wordSize - 1 - wordSize % length) (← read)

/-- Swap each of `count` places from `start` on with a place that is not before it. -/
def shuffleFront (indices : Array Nat) (start : Nat) : (count : Nat) → Draw (Array Nat)
  | 0 => pure indices
  | count + 1 => do
      let chosen ← between start (indices.size - 1)
      shuffleFront (indices.swapIfInBounds start chosen) (start + 1) count

/-- Swap each place from `last` down to the second with a place that is not after it. -/
def shuffleBack (indices : Array Nat) : (last : Nat) → Draw (Array Nat)
  | 0 => pure indices
  | last + 1 => do
      let chosen ← between 0 (last + 1)
      shuffleBack (indices.swapIfInBounds (last + 1) chosen) last

/-- Shuffle all indices as far as they are needed. -/
def inPlace (length amount : Nat) : Draw (List Nat) := do
  return ((← shuffleFront (Array.range length) 0 amount).toList.take amount)

/-- Put `value` right before the first `mark`. -/
def insertBefore (mark value : Nat) : List Nat → List Nat
  | [] => [value]
  | head :: tail =>
      if head = mark then value :: head :: tail else head :: insertBefore mark value tail

/-- Draw one index for each of `count` bounds from `bound` on.  An index that is taken stands for
its bound: with `ordered` the bound goes before it, else to the end. -/
def collectBelow (ordered : Bool) (taken : List Nat) (bound : Nat) : (count : Nat) → Draw (List Nat)
  | 0 => pure taken
  | count + 1 => do
      let chosen ← between 0 bound
      let taken :=
        if taken.contains chosen then
          if ordered then insertBefore chosen bound taken else taken ++ [bound]
        else
          taken ++ [chosen]
      collectBelow ordered taken (bound + 1) count

/-- Draw below growing bounds.  Small samples come out in random order; others are shuffled. -/
def byBounds (length amount : Nat) : Draw (List Nat) := do
  if amount < 50 then
    collectBelow true [] (length - amount) amount
  else
    let indices ← collectBelow false [] (length - amount) amount
    return (← shuffleBack indices.toArray (amount - 1)).toList

/-- Draw an index that is not taken. -/
def untaken (length : Nat) (taken : List Nat) : (tries : Nat) → Draw Nat
  | 0 => throw (.fault .tooManyDraws)
  | tries + 1 => do
      let chosen ← below length
      if taken.contains chosen then untaken length taken tries else pure chosen

/-- Draw `count` more indices, each until it is not taken. -/
def byRejection (length : Nat) (taken : List Nat) : (count : Nat) → Draw (List Nat)
  | 0 => pure taken
  | count + 1 => do
      let chosen ← untaken length taken (← read)
      byRejection length (taken ++ [chosen]) count

/-- Draw `amount` distinct indices below `length`.  Shuffling pays where much of the length is
needed; large samples of a far larger length are drawn until they are distinct. -/
def sample (length amount : Nat) : Draw (List Nat) :=
  if amount < 163 then
    if 11 < amount ∧ 5 * length < (50 + 8 * amount) * amount then inPlace length amount
    else byBounds length amount
  else if length < 270 * amount then inPlace length amount
  else byRejection length [] amount

end Restripe.Random
