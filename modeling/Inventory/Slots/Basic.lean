import Inventory.Stack

set_option autoImplicit false

namespace Inventory

abbrev Slots := List Stack

def lastIndex? {α : Type} (p : α → Bool) : List α → Option Nat
  | [] => none
  | x :: rest =>
    match lastIndex? p rest with
    | some i => some (i + 1)
    | none => if p x then some 0 else none

namespace Slots

def insertStacks (slots : Slots) (index : Nat) (added : List Stack) : Slots :=
  slots.take index ++ added ++ slots.drop index

def exchange (slots : Slots) (i j : Nat) : Option Slots :=
  match slots[i]?, slots[j]? with
  | some a, some b => some ((slots.set i b).set j a)
  | _, _ => none

def occurrence : Slots → Item → Nat → Option Nat
  | [], _, _ => none
  | stack :: rest, item, n =>
    if stack.item = item then
      match n with
      | 0 => some 0
      | n + 1 => (occurrence rest item n).map (· + 1)
    else (occurrence rest item n).map (· + 1)

def editItem (slots : Slots) (item : Item) (n : Nat) (edit : Edit) : Option Slots :=
  (slots.occurrence item n).map fun i => slots.modify i fun stack => stack.edit edit

def isEquipped (kind : Kind) (stack : Stack) : Bool := stack.equipped && stack.kind = kind

theorem isEquipped_iff {kind : Kind} {stack : Stack} :
    isEquipped kind stack ↔ stack.equipped ∧ stack.kind = kind := by
  simp [isEquipped]

def lastEquipped (slots : Slots) (kind : Kind) : Option Nat := lastIndex? (isEquipped kind) slots

def lastEquippedNearby (slots : Slots) (kind : Kind) : Option Nat :=
  lastIndex? (isEquipped kind) (slots.takeWhile fun stack => stack.kind.number ≤ kind.number + 1)

/-- Whether values of the stack stop at 999. Those of arrows do not. -/
def isCapped (stack : Stack) : Bool :=
  match stack.kind with
  | .material => true
  | .food => true
  | .key => stack.item.stackable
  | _ => false

def cap : Count := 999

def updateLife (slots : Slots) (life : Count) (index : Nat) : Except Fault Slots :=
  match slots[index]? with
  | none => .error (.indexOutOfBounds index slots.length)
  | some stack =>
    let value := if isCapped stack then life.atMost cap else life
    .ok (slots.set index (stack.withValue value))

def shoot (slots : Slots) (count : Count) : Option (Nat × Slots) :=
  match (slots.lastEquipped .arrow).bind fun i => slots[i]? with
  | none => none
  | some arrow =>
    (slots.findIdx? fun stack => stack.item = arrow.item).map fun i =>
      (i, slots.modify i fun stack => stack.withValue ((stack.value.minus count).atLeast 0))

def removeKinds (slots : Slots) (kinds : List Kind) : Slots :=
  slots.filter fun stack => stack.kind ∉ kinds

def unequipKinds (slots : Slots) (kinds : List Kind) : Slots :=
  slots.map fun stack => if stack.kind ∈ kinds then stack.withEquipped false else stack

def keepKeys (slots : Slots) : Slots := slots.filter fun stack => stack.kind = .key

def describe (slots : Slots) : List String := slots.map Stack.describe

end Slots

def Kind.shelf : Kind → Nat
  | .arrow => 2
  | kind => kind.tab.number

/-- What slots are sorted by. A rank is below 2 ^ 32, so the shelf decides first. -/
def Stack.sortKey (stack : Stack) : Int :=
  stack.kind.shelf * 4294967296 + if stack.kind = .arrow then stack.item.rank.val else 0

namespace Slots

def sortByTab (slots : Slots) : Slots := sortBy Stack.sortKey slots

def sortIfMany (slots : Slots) (counted : Int) : Slots :=
  if counted ≤ 1 then slots else slots.sortByTab

def place (slots : Slots) (stack : Stack) (counted : Int) : Slots × Nat :=
  let longer := slots ++ [stack]
  if counted > 0 then
    -- The sort is stable, so the new stack comes after all slots with the same key.
    (sortByTab longer, slots.countP fun other => other.sortKey ≤ stack.sortKey)
  else (longer, slots.length)

def isMaterial (stack : Stack) : Bool := stack.kind = .material

def materialPositions (slots : Slots) : List Nat :=
  (slots.zipIdx.filter fun slot => isMaterial slot.1).map Prod.snd

def writeAll (slots : Slots) (writes : List (Nat × Stack)) : Slots :=
  writes.foldl (fun row write => row.set write.1 write.2) slots

def sortMaterials (slots : Slots) : Slots :=
  let positions := slots.materialPositions
  let materials := sortBy (fun stack => stack.item.rank.val) (positions.filterMap fun i => slots[i]?)
  slots.writeAll (positions.zip materials)

end Slots

end Inventory
