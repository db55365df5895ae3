import Inventory.Slots.Obtain
import Inventory.Slots.Withdraw

set_option autoImplicit false

namespace Inventory

structure Pouch where
  slots : Slots
  /-- How many slots the game does not count. -/
  broken : Price
deriving DecidableEq

namespace Pouch

def empty : Pouch := ⟨[], 0⟩

/-- The number of items that the game counts. It can be zero or below while there are slots. No row of
slots is as long as 64 bits can count, so only a negative number of broken slots takes it to a bound. -/
def counted (pouch : Pouch) : Int :=
  if pouch.broken.val < 0 then (Price.clamp (pouch.slots.length - pouch.broken.val)).val
  else pouch.slots.length - pouch.broken.val

theorem counted_of_nonneg {pouch : Pouch} (nonneg : 0 ≤ pouch.broken.val) :
    pouch.counted = pouch.slots.length - pouch.broken.val :=
  if_neg (Int.not_lt.2 nonneg)

theorem counted_of_whole {pouch : Pouch} (whole : pouch.broken = 0) :
    pouch.counted = pouch.slots.length := by
  have none : pouch.broken.val = 0 := congrArg Bounded.val whole
  rw [counted_of_nonneg (Int.le_of_eq none.symm), none, Int.sub_zero]

theorem counted_pos {pouch : Pouch} (whole : pouch.broken = 0) (some : pouch.slots ≠ []) :
    0 < pouch.counted := by
  rw [counted_of_whole whole]
  exact Int.natCast_pos.2 (List.length_pos_iff.2 some)

theorem counted_eq_clamp {pouch : Pouch} (fits : pouch.slots.length ≤ 9223372036854775807) :
    pouch.counted = (Price.clamp (pouch.slots.length - pouch.broken.val)).val := by
  have := pouch.broken.le_hi
  unfold counted
  split
  next => rfl
  next =>
    simp only [Bounded.val_clamp]
    omega

def breakSlots (pouch : Pouch) (n : Int) : Pouch :=
  { pouch with broken := .clamp (pouch.broken.val + n) }

def mapSlots (pouch : Pouch) (change : Slots → Slots) : Pouch :=
  { pouch with slots := change pouch.slots }

def append (pouch : Pouch) (stack : Stack) : Pouch := pouch.mapSlots (· ++ [stack])

def obtain (pouch : Pouch) (stack : Stack) : Pouch :=
  pouch.mapSlots fun slots => (slots.obtain stack pouch.counted none).1

def restore (pouch : Pouch) (stack source : Stack) (capacity : Capacity) (last : Option Nat) :
    Pouch × Option Nat :=
  let stack := if stack.kind = .food then stack.withDetailsOf source else stack
  let restored := pouch.slots.restore stack pouch.counted capacity last
  ({ pouch with slots := restored.1 }, restored.2)

def withdraw (pouch : Pouch) (target : Stack) (amount : Amount) (manner : Manner) :
    Pouch × Count :=
  let taken := pouch.slots.withdraw target amount manner
  ({ pouch with slots := taken.1 }, taken.2)

def equip (pouch : Pouch) (item : Item) (n : Nat) : Pouch :=
  pouch.mapSlots fun slots => slots.equip item n pouch.counted

def unequip (pouch : Pouch) (item : Item) (n : Option Nat) : Pouch :=
  pouch.mapSlots fun slots => slots.unequip item n

def clearCounted (pouch : Pouch) : Pouch :=
  pouch.mapSlots fun slots => slots.drop pouch.counted.toNat

theorem clearCounted_of_whole {pouch : Pouch} (whole : pouch.broken = 0) :
    pouch.clearCounted = .empty := by
  have all := counted_of_whole whole
  have none : pouch.slots.drop pouch.counted.toNat = [] := List.drop_eq_nil_of_le (by omega)
  simp [clearCounted, mapSlots, none, whole, empty]

def trialKinds : List Kind :=
  [.weapon, .bow, .arrow, .shield, .armorUpper, .armorMiddle, .armorLower, .material, .food]

def clearForTrial (pouch : Pouch) : Pouch := pouch.mapSlots fun slots => slots.removeKinds trialKinds

end Pouch

structure GameData where
  slots : Slots
  capacity : Capacity
deriving DecidableEq

namespace GameData

def initial : GameData := ⟨[], .initial⟩

def syncWith (data : GameData) (pouch : Pouch) : GameData :=
  { data with slots := if pouch.counted ≤ 0 then [] else pouch.slots }

def isSyncedWith (data : GameData) (pouch : Pouch) : Bool := data.slots = pouch.slots

def updateLife (data : GameData) (life : Count) (index : Nat) : Except Fault GameData :=
  (data.slots.updateLife life index).map fun slots => { data with slots }

def setFlag (data : GameData) (flag : Flag) (value : Count) : GameData :=
  { data with capacity := data.capacity.set flag value }

def isFood (stack : Stack) : Bool := stack.kind = .food

structure Filling where
  pouch : Pouch
  last : Option Nat
  dish : Nat
deriving DecidableEq

/-- Brings back one slot. Food takes the details of the dish whose turn it is. The turn passes on
after food, but not while no slot is known to have been added. -/
def Filling.restore (dishes : List Stack) (capacity : Capacity) (filling : Filling) (stack : Stack) :
    Filling :=
  let source := if isFood stack then (dishes[filling.dish]?).getD stack else stack
  let restored := filling.pouch.restore stack source capacity filling.last
  { pouch := restored.1
    last := restored.2
    dish := if restored.2.isSome && isFood stack then filling.dish + 1 else filling.dish }

def fill (data : GameData) (pouch : Pouch) : Pouch :=
  let dishes := data.slots.filter isFood
  (data.slots.foldl (Filling.restore dishes data.capacity) ⟨pouch, none, 0⟩).pouch

def takeDurability (pouch : Pouch) (data : GameData) (kind : Kind) : GameData :=
  -- The place is sought in the pouch but written here, so it may be that of another stack.
  match pouch.slots.findIdx? (Slots.isEquipped kind),
      (pouch.slots.lastEquippedNearby kind).bind fun i => pouch.slots[i]? with
  | some first, some last =>
    match data.updateLife last.value first with
    | .ok updated => updated
    | .error _ => data
  | _, _ => data

def takeDurabilities (data : GameData) (pouch : Pouch) : GameData :=
  [Kind.weapon, .bow, .shield].foldl (takeDurability pouch) data

end GameData

def shootArrows (pouch : Pouch) (data : GameData) (count : Count) :
    Pouch × Except Fault GameData :=
  match pouch.slots.shoot count with
  | none => (pouch, .ok data)
  | some (i, slots) =>
    let value := ((slots[i]?).map Stack.value).getD 0
    ({ pouch with slots }, data.updateLife value i)

end Inventory
