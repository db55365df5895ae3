import Inventory.Slots.Basic

set_option autoImplicit false

namespace Inventory

structure Manner where
  /-- The match to begin with, counted from 0. The matches before it come after the last one. -/
  start : Nat
  foodCounts : Bool
  clearsEmptied : Bool
deriving DecidableEq

namespace Manner

def drop (start : Nat) : Manner := ⟨start, false, false⟩

def eat (start : Nat) : Manner := ⟨start, true, true⟩

def counts (manner : Manner) (stack : Stack) : Bool :=
  stack.item.stackable || (manner.foodCounts && stack.kind = .food)

end Manner

namespace Slots

def matchers : List (Stack → Stack → Bool) :=
  [fun stack target => stack = target, Stack.sameButValue, Stack.sameButValueAndEquipped,
   Stack.sameItem]

def positions (p : Stack → Bool) (slots : Slots) : List Nat :=
  (slots.zipIdx.filter fun entry => p entry.1).map Prod.snd

def rotated (start : Nat) (entries : List Nat) : List Nat :=
  if start < entries.length then entries.drop start ++ entries.take start else []

/-- The slots in the order in which they are asked. Each way of matching has its turn, so a slot
can come up more than once. -/
def visits (slots : Slots) (target : Stack) (start : Nat) : List Nat :=
  matchers.flatMap fun matcher => rotated start (positions (matcher · target) slots)

structure Serving where
  slots : List (Option Stack)
  left : Amount
  removed : Count
deriving DecidableEq

namespace Serving

def takeWhole (serving : Serving) (manner : Manner) (index : Nat) (stack : Stack) : Serving :=
  { slots := serving.slots.set index (if manner.clearsEmptied then none else stack.withValue 0)
    left := serving.left.minus stack.value
    removed := serving.removed.plus stack.value }

def takePart (serving : Serving) (index : Nat) (stack : Stack) (n : Count) : Serving :=
  { slots := serving.slots.set index (stack.withValue (stack.value.minus n))
    left := .count 0
    removed := serving.removed.plus n }

def takeSlot (serving : Serving) (index : Nat) : Serving :=
  { slots := serving.slots.set index none
    left := serving.left.minus 1
    removed := serving.removed.plus 1 }

def visit (manner : Manner) (serving : Serving) (index : Nat) : Serving :=
  if serving.left.isExhausted then serving
  else
    match serving.slots[index]? with
    | some (some stack) =>
      if manner.counts stack then
        -- An emptied slot comes up again in later turns; it has nothing to give.
        if stack.value = 0 then serving
        else
          match serving.left with
          | .count n =>
            if n.val < stack.value.val then serving.takePart index stack n
            else serving.takeWhole manner index stack
          | .all => serving.takeWhole manner index stack
      else serving.takeSlot index
    | _ => serving

end Serving

def remains (manner : Manner) (stack : Stack) : Bool :=
  stack.value ≠ 0 || stack.kind = .arrow || !manner.counts stack

def withdraw (slots : Slots) (target : Stack) (amount : Amount) (manner : Manner) :
    Slots × Count :=
  let start : Serving := ⟨slots.map some, amount, 0⟩
  let served := (slots.visits target manner.start).foldl (Serving.visit manner) start
  ((served.slots.filterMap id).filter (remains manner), served.removed)

end Slots

end Inventory
