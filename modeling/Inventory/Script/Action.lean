import Inventory.Simulation

set_option autoImplicit false

namespace Inventory

inductive Refusal where
  | none
  | unknownCommand
  | malformed
  | unknownSuperCommand
  | failed
deriving DecidableEq, Repr

def Refusal.all : List Refusal := [none, unknownCommand, malformed, unknownSuperCommand, failed]

def Refusal.text : Refusal → String
  | none => "none"
  | unknownCommand => "unknown command"
  | malformed => "malformed command"
  | unknownSuperCommand => "unknown super command"
  | failed => "execution error"

inductive Trial where
  | eventide
  | sword
deriving DecidableEq, Repr

def Trial.ofName? (name : String) : Option Trial :=
  match Text.lower name with
  | "eventide" => some eventide
  | "tots" => some sword
  | _ => none

/-- Slots are counted from 1, as they are written, except in a swap. -/
inductive Action where
  | nothing
  | hint (refusal : Refusal) (messages : List String)
  | start (lots : List Lot)
  | startGameData (lots : List Lot)
  | obtain (lots : List Lot)
  | remove (withdrawals : List Withdrawal) (slot : Nat) (eat : Bool)
  | dropAndPickUp (withdrawals : List Withdrawal) (slot : Nat)
  | removeKinds (kinds : List Kind)
  | equip (stack : Stack) (slot : Nat)
  | unequip (stack : Stack) (slot : Option Nat)
  | unequipKinds (kinds : List Kind)
  | shoot (count : Count)
  | write (stack : Stack) (slot : Nat) (edit : Edit)
  | swap (i j : Nat)
  | sortMaterials
  | addSlots (lots : List Lot) (slot : Nat)
  | trial (trial : Trial) (active : Bool)
  | save (name : Option String)
  | reload (name : Option String)
  | useSave (name : String)
  | breakSlots (n : Int) (withdrawals : List Withdrawal) (slot : Nat)
  | closeGame
  | sync
  | setFlag (flag : Flag) (value : Count)
deriving DecidableEq

namespace Action

def refusal : Action → Refusal
  | hint refusal _ => refusal
  | _ => .none

def messages : Action → List String
  | hint _ messages => messages
  | _ => []

def isHint : Action → Bool
  | hint .. => true
  | _ => false

def sameMeaning : Action → Action → Bool
  | hint a _, hint b _ => a = b
  | a, b => a = b

def removals (withdrawals : List Withdrawal) (slot : Nat) : List Operation :=
  withdrawals.map fun withdrawal => .remove withdrawal.stack withdrawal.amount (slot - 1)

def operations : Action → List Operation
  | nothing => []
  | hint .. => []
  | start lots => [.startWith (Lot.slotsOfAll lots)]
  | startGameData lots => [.initGameData (Lot.slotsOfAll lots)]
  | obtain lots => [.obtain (Lot.slotsOfAll lots)]
  | remove withdrawals slot eat =>
    if eat then
      withdrawals.map fun withdrawal => .eat withdrawal.stack withdrawal.amount (slot - 1)
    else removals withdrawals slot
  | dropAndPickUp withdrawals slot =>
    withdrawals.map fun withdrawal =>
      .dropAndPickUp withdrawal.stack withdrawal.amount (slot - 1)
  | removeKinds kinds => [.removeKinds kinds]
  | equip stack slot => [.equip stack.item (slot - 1)]
  | unequip stack slot => [.unequip stack.item (slot.map (· - 1))]
  | unequipKinds kinds => [.unequipKinds kinds]
  | shoot count => [.shoot count]
  | write stack slot edit => [.write stack (slot - 1) edit]
  | swap i j => [.swap i j]
  | sortMaterials => [.sortMaterials]
  | addSlots lots slot => [.insertSlots (slot - 1) (Lot.slotsOfAll lots)]
  | trial _ active => [.setTrial active]
  | save name => [.save name]
  | reload name => [.reload name]
  | useSave name => [.useSave name]
  | breakSlots n withdrawals slot => .breakSlots n :: removals withdrawals slot
  | closeGame => [.closeGame]
  | sync => [.sync]
  | setFlag flag value => [.setFlag flag value]

def execute (action : Action) (state : Simulation) : Simulation × Option Fault :=
  state.perform action.operations

end Action

end Inventory
