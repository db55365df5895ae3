import Inventory.Basic
import Inventory.Text.Letters

set_option autoImplicit false

namespace Inventory

inductive Effect where
  | none
  | chilly
  | spicy
  | electro
  | sneaky
  | energizing
  | enduring
  | hasty
  | mighty
  | tough
  | fireproof
  | hearty
deriving DecidableEq, Repr

inductive Bonus where
  | none
  | attackUp
  | durabilityUp
  | criticalHit
  | longThrow
  | multiShot
  | zoom
  | quickShot
  | surfMaster
  | guardUp
  | yellow
deriving DecidableEq, Repr

namespace Effect

def all : List Effect :=
  [none, chilly, spicy, electro, sneaky, energizing, enduring, hasty, mighty, tough, fireproof,
   hearty]

def name : Effect → String
  | none => "None"
  | chilly => "Chilly"
  | spicy => "Spicy"
  | electro => "Electro"
  | sneaky => "Sneaky"
  | energizing => "Energizing"
  | enduring => "Enduring"
  | hasty => "Hasty"
  | mighty => "Mighty"
  | tough => "Tough"
  | fireproof => "Fireproof"
  | hearty => "Hearty"

def secondNames : List (String × Effect) :=
  [("hotresist", chilly), ("coldresist", spicy), ("stealth", sneaky), ("speed", hasty)]

def ofStart? (start : String) : Option Effect :=
  match all.find? fun effect => Text.startsWith (Text.lower effect.name) start with
  | some effect => some effect
  | Option.none => (secondNames.find? fun entry => Text.startsWith entry.1 start).map Prod.snd

end Effect

namespace Bonus

def all : List Bonus :=
  [none, attackUp, durabilityUp, criticalHit, longThrow, multiShot, zoom, quickShot, surfMaster,
   guardUp, yellow]

def name : Bonus → String
  | none => "None"
  | attackUp => "AttackUp"
  | durabilityUp => "DurabilityUp"
  | criticalHit => "CriticalHit"
  | longThrow => "LongThrow"
  | multiShot => "MultiShot"
  | zoom => "Zoom"
  | quickShot => "QuickShot"
  | surfMaster => "SurfMaster"
  | guardUp => "GuardUp"
  | yellow => "Yellow"

/-- A bonus is written into the price of a stack, each as one binary digit. -/
def price : Bonus → Price
  | none => 0
  | attackUp => 1
  | durabilityUp => 2
  | criticalHit => 4
  | longThrow => 8
  | multiShot => 16
  | zoom => 32
  | quickShot => 64
  | surfMaster => 128
  | guardUp => 256
  | yellow => 2147483648

/-- Whether a price has the digit of the bonus. Negative prices count as in two's complement. -/
def isIn (bonus : Bonus) (price : Price) : Bool := price.val / bonus.price.val % 2 == 1

def ofStart? (start : String) : Option Bonus :=
  all.find? fun bonus => Text.startsWith (Text.lower bonus.name) start

end Bonus

inductive Modifier where
  | bonus (bonus : Bonus)
  | effect (effect : Effect)
deriving DecidableEq, Repr

def Modifier.ofName? (name : String) : Option Modifier :=
  let start := Text.lower name
  match Bonus.ofStart? start with
  | some found => some (.bonus found)
  | none => (Effect.ofStart? start).map .effect

end Inventory
