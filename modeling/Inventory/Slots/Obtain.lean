import Inventory.Slots.FirstTab

set_option autoImplicit false

namespace Inventory

structure Capacity where
  weapon : Count
  bow : Count
  shield : Count
deriving DecidableEq

inductive Flag where
  | weaponSlots
  | bowSlots
  | shieldSlots
deriving DecidableEq, Repr

namespace Flag

def all : List Flag := [weaponSlots, bowSlots, shieldSlots]

def name : Flag → String
  | weaponSlots => "weaponSlots"
  | bowSlots => "bowSlots"
  | shieldSlots => "shieldSlots"

def key : Flag → String
  | weaponSlots => "weaponslots"
  | bowSlots => "bowslots"
  | shieldSlots => "shieldslots"

def ofStart? (start : String) : Option Flag :=
  if start.isEmpty then none else all.find? fun flag => Text.startsWith flag.key (Text.lower start)

end Flag

namespace Capacity

def initial : Capacity := ⟨8, 5, 4⟩

def get (capacity : Capacity) : Flag → Count
  | .weaponSlots => capacity.weapon
  | .bowSlots => capacity.bow
  | .shieldSlots => capacity.shield

def set (capacity : Capacity) (flag : Flag) (value : Count) : Capacity :=
  match flag with
  | .weaponSlots => { capacity with weapon := value }
  | .bowSlots => { capacity with bow := value }
  | .shieldSlots => { capacity with shield := value }

def limit (capacity : Capacity) : Kind → Nat
  | .weapon => min capacity.weapon.val.toNat 20
  | .bow => min capacity.bow.val.toNat 14
  | .arrow => 6
  | .shield => min capacity.shield.val.toNat 20
  | .armorUpper => 100
  | .armorMiddle => 100
  | .armorLower => 100
  | .material => 160
  | .food => 60
  | .key => 40

def isFull (capacity : Capacity) (slots : Slots) (kind : Kind) : Bool :=
  capacity.limit kind ≤ slots.countP fun stack => stack.kind.shelf = kind.shelf

end Capacity

namespace Slots

def sameItemAt? (slots : Slots) (stack : Stack) : Option Nat :=
  if stack.item.stackable then slots.findIdx? fun other => other.item = stack.item else none

def uniqueAt? (slots : Slots) (stack : Stack) (counted : Int) : Option Nat :=
  if stack.item.repeatable then none
  else
    (slots.firstTab stack.kind counted).bind fun head =>
      let run := (slots.drop head).takeWhile fun other => other.kind = stack.kind
      (run.findIdx? fun other => other.item = stack.item).map (head + ·)

def isBrokenMasterSword (stack : Stack) : Bool :=
  stack.kind = .weapon && stack.item.id = Item.masterSword && stack.value.val ≤ 0

/-- A broken Master Sword puts the one in the slot out of use. Any other second copy is refused. -/
def meetUnique (slots : Slots) (index : Nat) (stack : Stack) (last : Option Nat) :
    Slots × Option Nat :=
  if isBrokenMasterSword stack then
    (slots.modify index fun other => (other.withValue 0).withEquipped false, none)
  else (slots, last)

def equipsItself (slots : Slots) (kind : Kind) : Bool :=
  if kind.isEquipment then !slots.any (isEquipped kind)
  else kind = .arrow && (slots.filter (isEquipped kind)).all fun stack => stack.value.val ≤ 0

def unequipArrows : Slots → Slots
  | [] => []
  | stack :: rest =>
    if stack.kind = .arrow then stack.withEquipped false :: unequipArrows rest else stack :: rest

def unequipFirstArrows (slots : Slots) (counted : Int) : Slots :=
  match slots.firstTab .arrow counted with
  | none => slots
  | some head => slots.take head ++ unequipArrows (slots.drop head)

def placeEquipping (slots : Slots) (stack : Stack) (counted : Int) : Slots × Nat :=
  if slots.equipsItself stack.kind then
    let ready := if stack.kind = .arrow then slots.unequipFirstArrows counted else slots
    ready.place (stack.withEquipped true) counted
  else slots.place stack counted

def obtain (slots : Slots) (stack : Stack) (counted : Int) (last : Option Nat) :
    Slots × Option Nat :=
  match slots.sameItemAt? stack with
  | some i =>
    (slots.modify i fun other => other.withValue ((other.value.plus stack.value).atMost cap), last)
  | none =>
    match slots.uniqueAt? stack counted with
    | some i => slots.meetUnique i stack last
    | none => (slots.placeEquipping stack counted).map id some

/-- Whether counting a stack into the slots stops at 999. It does not for arrows when there is no
first arrow or the first slot of arrows is empty. -/
def capsCount (slots : Slots) (kind : Kind) (counted : Int) : Bool :=
  if kind = .arrow then
    match (slots.firstTab .arrow counted).bind fun i => slots[i]? with
    | none => false
    | some first => first.value.val ≠ 0
  else true

def overflows (slots : Slots) (stack : Stack) (counted : Int) : Bool :=
  match (slots.sameItemAt? stack).bind fun i => slots[i]? with
  | none => false
  | some other =>
    slots.capsCount stack.kind counted && cap.val < other.value.val + stack.value.val

/-- Brings back a stack of a save. It always takes a new slot, and is left out if its item has
reached 999 or if its item is new and its shelf is full. -/
def restore (slots : Slots) (stack : Stack) (counted : Int) (capacity : Capacity)
    (last : Option Nat) : Slots × Option Nat :=
  if slots.overflows stack counted then (slots, last)
  else
    match slots.uniqueAt? stack counted with
    | some i => slots.meetUnique i stack last
    | none =>
      -- A counted item that already has a slot takes another one even on a full shelf.
      if (slots.sameItemAt? stack).isNone && capacity.isFull slots stack.kind then (slots, last)
      else (slots.place stack counted).map id some

end Slots

end Inventory
