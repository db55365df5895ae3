import Inventory.Basic
import Inventory.Text.Letters

set_option autoImplicit false

namespace Inventory

/-- What an item is for. The game sorts by this order. -/
inductive Kind where
  | weapon
  | bow
  | arrow
  | shield
  | armorUpper
  | armorMiddle
  | armorLower
  | material
  | food
  | key
deriving DecidableEq, Repr

inductive Tab where
  | weapon
  | bow
  | shield
  | armor
  | material
  | food
  | key
deriving DecidableEq, Repr

namespace Tab

def all : List Tab := [weapon, bow, shield, armor, material, food, key]

def number : Tab → Nat
  | weapon => 0
  | bow => 1
  | shield => 3
  | armor => 4
  | material => 7
  | food => 8
  | key => 9

end Tab

namespace Kind

def all : List Kind :=
  [weapon, bow, arrow, shield, armorUpper, armorMiddle, armorLower, material, food, key]

def number : Kind → Nat
  | weapon => 0
  | bow => 1
  | arrow => 2
  | shield => 3
  | armorUpper => 4
  | armorMiddle => 5
  | armorLower => 6
  | material => 7
  | food => 8
  | key => 9

def tab : Kind → Tab
  | weapon => .weapon
  | bow => .bow
  | arrow => .bow
  | shield => .shield
  | armorUpper => .armor
  | armorMiddle => .armor
  | armorLower => .armor
  | material => .material
  | food => .food
  | key => .key

def isEquipment : Kind → Bool
  | weapon => true
  | bow => true
  | shield => true
  | _ => false

def name : Kind → String
  | weapon => "weapon"
  | bow => "bow"
  | arrow => "arrow"
  | shield => "shield"
  | armorUpper => "armor upper"
  | armorMiddle => "armor middle"
  | armorLower => "armor lower"
  | material => "material"
  | food => "food"
  | key => "key item"

end Kind

structure Item where
  id : String
  kind : Kind
  stackable : Bool
  repeatable : Bool
  rank : Rank
  life : Count
deriving DecidableEq

namespace Item

def masterSword : String := "MasterSword"

def new (id : String) (kind : Kind) : Item :=
  { id
    kind
    stackable := kind = .material || kind = .arrow
    repeatable := kind ≠ .key && id ≠ masterSword
    rank := 0
    life := 1 }

def tab (item : Item) : Tab := item.kind.tab

def kindWords : List (String × Kind) :=
  [("arrow", .arrow), ("material", .material), ("food", .food), ("key", .key),
   ("weapon", .weapon), ("bow", .bow), ("shield", .shield), ("armorupper", .armorUpper),
   ("armormiddle", .armorMiddle), ("armorlower", .armorLower)]

def kindOfName (name : String) : Kind :=
  if name = masterSword then .weapon
  else
    match kindWords.find? fun entry => Text.startsWith (Text.lower name) entry.1 with
    | some entry => entry.2
    | none => .material

def named (name : String) : Item := new name (kindOfName name)

end Item

end Inventory
