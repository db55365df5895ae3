import Inventory.Item.Basic
import Inventory.Item.Modifier

set_option autoImplicit false

namespace Inventory

structure Details where
  hp : Option Count
  price : Option Price
  effect : Effect
deriving DecidableEq

def Details.plain : Details := ⟨none, none, .none⟩

structure Stack where
  item : Item
  /-- How many there are, or a durability in hundredths. -/
  value : Count
  equipped : Bool
  details : Details
deriving DecidableEq

structure Edit where
  life : Option Count
  equip : Option Bool
  price : Option Price
  hp : Option Count
  effect : Option Effect
deriving DecidableEq

namespace Edit

def empty : Edit := ⟨none, none, none, none, none⟩

def isEmpty (edit : Edit) : Bool := edit = empty

def withModifier (edit : Edit) : Modifier → Edit
  | .bonus bonus => { edit with price := some bonus.price }
  | .effect effect => { edit with effect := some effect }

end Edit

namespace Stack

def new (item : Item) : Stack := ⟨item, item.life, false, .plain⟩

def kind (stack : Stack) : Kind := stack.item.kind

def tab (stack : Stack) : Tab := stack.item.tab

def withValue (stack : Stack) (value : Count) : Stack := { stack with value }

def withEquipped (stack : Stack) (equipped : Bool) : Stack := { stack with equipped }

def withDetailsOf (stack source : Stack) : Stack := { stack with details := source.details }

def edit (stack : Stack) (edit : Edit) : Stack :=
  { stack with
    value := edit.life.getD stack.value
    equipped := edit.equip.getD stack.equipped
    details :=
      { hp := edit.hp.or stack.details.hp
        price := edit.price.or stack.details.price
        effect := edit.effect.getD stack.details.effect } }

def sameItem (a b : Stack) : Bool := a.item = b.item

def sameButValue (a b : Stack) : Bool :=
  a.item = b.item && a.equipped = b.equipped && a.details = b.details

def sameButValueAndEquipped (a b : Stack) : Bool := a.item = b.item && a.details = b.details

def describe (stack : Stack) : String :=
  let content :=
    if stack.kind.isEquipment then
      s!"{stack.item.id} (durability {Text.hundredths stack.value.val})"
    else s!"{stack.value.val}x {stack.item.id}"
  let equipped := if stack.equipped then " [equipped]" else ""
  let price := match stack.details.price with
    | some price => s!" [price={price.val}]"
    | none => ""
  let hp := match stack.details.hp with
    | some hp => s!" [hp={hp.val}]"
    | none => ""
  let effect :=
    if stack.details.effect = .none then "" else s!" [{stack.details.effect.name}]"
  content ++ equipped ++ price ++ hp ++ effect

end Stack

structure Lot where
  stack : Stack
  count : Count
deriving DecidableEq

def Lot.maxCopies : Count := 999

def Lot.slots (lot : Lot) : List Stack :=
  if lot.stack.item.stackable then [lot.stack.withValue lot.count]
  else List.replicate (lot.count.atMost maxCopies).val.toNat lot.stack

def Lot.slotsOfAll (lots : List Lot) : List Stack := lots.flatMap Lot.slots

inductive Amount where
  | count (n : Count)
  | all
deriving DecidableEq

namespace Amount

def isExhausted : Amount → Bool
  | count n => n.val ≤ 0
  | all => false

def minus : Amount → Count → Amount
  | count left, n => count (left.minus n)
  | all, _ => all

def text : Amount → String
  | count n => toString n.val
  | all => "all"

end Amount

structure Withdrawal where
  stack : Stack
  amount : Amount
deriving DecidableEq

end Inventory
