import Restripe.Error

/-!
# Operations that a machine stops at

Numbers have to fit in a word, nothing can be divided by zero, and nothing is read or written
outside a list.  Where this is broken, the program stops with a fault.
-/

namespace Restripe

/-- A number that fits in a machine word. -/
def word (value : Nat) : Except Error Nat :=
  if value < UInt64.size then pure value else throw (.fault .overflow)

/-- The numbers of a range of machine words. -/
def wordsFrom (first length : Nat) : Except Error (List Nat) := do
  let last ← word (first + length)
  return List.range' first (last - first)

/-- Quotient and remainder of a division. -/
def divide [Div α] [Mod α] [OfNat α 0] [DecidableEq α] (dividend divisor : α) :
    Except Error (α × α) :=
  if divisor = 0 then throw (.fault .divisionByZero)
  else pure (dividend / divisor, dividend % divisor)

def divideUp (dividend divisor : Nat) : Except Error Nat := do
  let (quotient, remainder) ← divide dividend divisor
  return if remainder = 0 then quotient else quotient + 1

def itemAt (items : Array α) (index : Nat) : Except Error α :=
  match items[index]? with
  | some item => pure item
  | none => throw (.fault .outOfBounds)

def putAt (items : Array α) (index : Nat) (item : α) : Except Error (Array α) :=
  if index < items.size then pure (items.setIfInBounds index item)
  else throw (.fault .outOfBounds)

/-!
## Runs of equal length

A list is cut into runs of a given length, the last of which may be shorter.  Nothing can be cut
into runs of length zero.
-/

/-- Cut a list into runs of `length + 1` items; the last run may be shorter. -/
def runsOfSucc (length : Nat) : List α → List (List α)
  | [] => []
  | head :: tail => (head :: tail.take length) :: runsOfSucc length (tail.drop length)
  termination_by items => items.length

/-- Cut a list into runs of `length` items. -/
def chunks (length : Nat) (items : List α) : Except Error (List (List α)) :=
  match length with
  | 0 => throw (.fault .emptyChunk)
  | length + 1 => pure (runsOfSucc length items)

end Restripe
