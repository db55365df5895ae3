import Inventory.Pouch

set_option autoImplicit false

namespace Inventory

abbrev Save := String × GameData

structure Saves where
  entries : List Save
  ordered : entries.Pairwise fun a b => a.1 < b.1
deriving DecidableEq

namespace Saves

def empty : Saves := ⟨[], .nil⟩

def find? (saves : Saves) (name : String) : Option GameData :=
  (saves.entries.find? fun entry => entry.1 = name).map Prod.snd

def names (saves : Saves) : List String := saves.entries.map Prod.fst

def insertEntry (name : String) (data : GameData) : List Save → List Save
  | [] => [(name, data)]
  | entry :: rest =>
    if name < entry.1 then (name, data) :: entry :: rest
    else if name = entry.1 then (name, data) :: rest
    else entry :: insertEntry name data rest

theorem mem_insertEntry {name : String} {data : GameData} {entry : Save} {entries : List Save}
    (member : entry ∈ insertEntry name data entries) : entry = (name, data) ∨ entry ∈ entries := by
  induction entries with
  | nil => exact .inl (List.mem_singleton.1 member)
  | cons first rest ih =>
    unfold insertEntry at member
    split at member
    next => exact List.mem_cons.1 member
    next =>
      split at member
      next =>
        rcases List.mem_cons.1 member with same | member
        · exact .inl same
        · exact .inr (List.mem_cons_of_mem _ member)
      next =>
        rcases List.mem_cons.1 member with rfl | member
        · exact .inr List.mem_cons_self
        · exact (ih member).imp_right (List.mem_cons_of_mem _)

theorem ordered_insertEntry (name : String) (data : GameData) {entries : List Save}
    (ordered : entries.Pairwise fun a b => a.1 < b.1) :
    (insertEntry name data entries).Pairwise fun a b => a.1 < b.1 := by
  induction entries with
  | nil => exact List.pairwise_singleton _ _
  | cons first rest ih =>
    have later : ∀ entry ∈ rest, first.1 < entry.1 := fun _ => List.rel_of_pairwise_cons ordered
    have tail := List.Pairwise.of_cons ordered
    unfold insertEntry
    split
    next before =>
      refine List.pairwise_cons.2 ⟨fun entry h => ?_, ordered⟩
      rcases List.mem_cons.1 h with rfl | h
      · exact before
      · exact String.lt_trans before (later entry h)
    next notBefore =>
      split
      next same =>
        refine List.pairwise_cons.2 ⟨fun entry h => ?_, tail⟩
        simpa [same] using later entry h
      next different =>
        refine List.pairwise_cons.2 ⟨fun entry h => ?_, ih tail⟩
        rcases mem_insertEntry h with rfl | h
        · exact String.not_le.1 fun le =>
            different (String.le_antisymm le (String.not_lt.1 notBefore))
        · exact later entry h

def insert (saves : Saves) (name : String) (data : GameData) : Saves :=
  ⟨insertEntry name data saves.entries, ordered_insertEntry name data saves.ordered⟩

end Saves

structure Simulation where
  gameData : GameData
  pouch : Pouch
  manual : Option GameData
  named : Saves
  nextReload : Option String
  inTrial : Bool
deriving DecidableEq

namespace Simulation

def initial : Simulation := ⟨.initial, .empty, none, .empty, none, false⟩

def sync (state : Simulation) : Simulation :=
  if state.inTrial then state
  else { state with gameData := state.gameData.syncWith state.pouch }

/-- Starts over with the given slots. They reach the game data even in a trial. -/
def startWith (state : Simulation) (added : List Stack) : Simulation :=
  let pouch : Pouch := ⟨added, 0⟩
  { state with pouch, gameData := state.gameData.syncWith pouch }

def initGameData (state : Simulation) (added : List Stack) : Simulation :=
  { state with gameData := { state.gameData with slots := added } }

def save (state : Simulation) : Option String → Simulation
  | some name => { state with named := state.named.insert name state.gameData }
  | none => { state with manual := some state.gameData }

def saveToReload (state : Simulation) (name : Option String) : Option GameData :=
  match name.or state.nextReload with
  | some name => state.named.find? name
  | none => state.manual

def reloadFrom (state : Simulation) (data : GameData) : Simulation :=
  let pouch := data.fill state.pouch.clearCounted
  { state with pouch, gameData := data.takeDurabilities pouch, inTrial := false }

def reload (state : Simulation) (name : Option String) : Simulation × Bool :=
  match state.saveToReload name with
  | some data => (state.reloadFrom data, true)
  | none => (state, false)

def useSave (state : Simulation) (name : String) : Simulation :=
  { state with nextReload := some name }

def breakSlots (state : Simulation) (n : Int) : Simulation :=
  { state with pouch := state.pouch.breakSlots n }

def obtain (state : Simulation) (added : List Stack) : Simulation :=
  { state with pouch := added.foldl Pouch.obtain state.pouch }.sync

def withdraw (state : Simulation) (target : Stack) (amount : Amount) (manner : Manner) :
    Simulation × Count :=
  let taken := state.pouch.withdraw target amount manner
  ({ state with pouch := taken.1 }.sync, taken.2)

def remove (state : Simulation) (target : Stack) (amount : Amount) (start : Nat) :
    Simulation × Count :=
  state.withdraw target amount (.drop start)

def eat (state : Simulation) (target : Stack) (amount : Amount) (start : Nat) :
    Simulation × Count :=
  state.withdraw target amount (.eat start)

def dropAndPickUp (state : Simulation) (target : Stack) (amount : Amount) (start : Nat) :
    Simulation × Count :=
  -- What is picked up are copies of the target, whatever was dropped.
  let (dropped, n) := state.remove target amount start
  if n.val > 0 then (dropped.obtain (Lot.mk target n).slots, n) else (dropped, n)

def changeSlots (state : Simulation) (change : Slots → Slots) : Simulation :=
  { state with pouch := state.pouch.mapSlots change }

def removeKinds (state : Simulation) (kinds : List Kind) : Simulation :=
  (state.changeSlots fun slots => slots.removeKinds kinds).sync

def unequipKinds (state : Simulation) (kinds : List Kind) : Simulation :=
  (state.changeSlots fun slots => slots.unequipKinds kinds).sync

def equip (state : Simulation) (item : Item) (n : Nat) : Simulation :=
  { state with pouch := state.pouch.equip item n }.sync

def unequip (state : Simulation) (item : Item) (n : Option Nat) : Simulation :=
  { state with pouch := state.pouch.unequip item n }.sync

def shoot (state : Simulation) (count : Count) : Simulation × Except Fault Unit :=
  match shootArrows state.pouch state.gameData count with
  | (pouch, .ok gameData) => ({ state with pouch, gameData }, .ok ())
  | (pouch, .error fault) => ({ state with pouch }, .error fault)

def write (state : Simulation) (stack : Stack) (n : Nat) (edit : Edit) : Simulation :=
  state.changeSlots fun slots =>
    (slots.editItem stack.item n edit).getD (slots ++ [stack.edit edit])

def swap (state : Simulation) (i j : Nat) : Simulation :=
  state.changeSlots fun slots => (slots.exchange i j).getD slots

def sortMaterials (state : Simulation) : Simulation := state.changeSlots Slots.sortMaterials

def insertSlots (state : Simulation) (index : Nat) (added : List Stack) : Simulation :=
  state.changeSlots fun slots => slots.insertStacks index added

def closeGame (state : Simulation) : Simulation :=
  { state with pouch := .empty, gameData := .initial, inTrial := false }

def setTrial (state : Simulation) (active : Bool) : Simulation :=
  if state.inTrial = active then state
  else if active then { state with pouch := state.pouch.clearForTrial, inTrial := true }
  else state.reloadFrom state.gameData

def setFlag (state : Simulation) (flag : Flag) (value : Count) : Simulation :=
  { state with gameData := state.gameData.setFlag flag value }

end Simulation

inductive Operation where
  | startWith (added : List Stack)
  | initGameData (added : List Stack)
  | save (name : Option String)
  | reload (name : Option String)
  | useSave (name : String)
  | breakSlots (n : Int)
  | obtain (added : List Stack)
  | remove (target : Stack) (amount : Amount) (start : Nat)
  | eat (target : Stack) (amount : Amount) (start : Nat)
  | dropAndPickUp (target : Stack) (amount : Amount) (start : Nat)
  | removeKinds (kinds : List Kind)
  | unequipKinds (kinds : List Kind)
  | equip (item : Item) (n : Nat)
  | unequip (item : Item) (n : Option Nat)
  | shoot (count : Count)
  | write (stack : Stack) (n : Nat) (edit : Edit)
  | swap (i j : Nat)
  | sortMaterials
  | insertSlots (index : Nat) (added : List Stack)
  | closeGame
  | setTrial (active : Bool)
  | sync
  | setFlag (flag : Flag) (value : Count)
deriving DecidableEq

namespace Operation

def applyTo (state : Simulation) : Operation → Simulation
  | startWith added => state.startWith added
  | initGameData added => state.initGameData added
  | save name => state.save name
  | reload name => (state.reload name).1
  | useSave name => state.useSave name
  | breakSlots n => state.breakSlots n
  | obtain added => state.obtain added
  | remove target amount start => (state.remove target amount start).1
  | eat target amount start => (state.eat target amount start).1
  | dropAndPickUp target amount start => (state.dropAndPickUp target amount start).1
  | removeKinds kinds => state.removeKinds kinds
  | unequipKinds kinds => state.unequipKinds kinds
  | equip item n => state.equip item n
  | unequip item n => state.unequip item n
  | shoot count => (state.shoot count).1
  | write stack n edit => state.write stack n edit
  | swap i j => state.swap i j
  | sortMaterials => state.sortMaterials
  | insertSlots index added => state.insertSlots index added
  | closeGame => state.closeGame
  | setTrial active => state.setTrial active
  | sync => state.sync
  | setFlag flag value => state.setFlag flag value

def faultIn? (state : Simulation) : Operation → Option Fault
  | shoot count =>
    match (state.shoot count).2 with
    | .ok _ => none
    | .error fault => some fault
  | _ => none

end Operation

namespace Simulation

def run (state : Simulation) (operations : List Operation) : Simulation :=
  operations.foldl Operation.applyTo state

def perform (state : Simulation) : List Operation → Simulation × Option Fault
  | [] => (state, none)
  | operation :: rest =>
    match operation.faultIn? state with
    | some fault => (operation.applyTo state, some fault)
    | none => perform (operation.applyTo state) rest

end Simulation

end Inventory
