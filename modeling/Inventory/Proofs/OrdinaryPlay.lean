import Inventory.Simulation
import Inventory.Proofs.Restore

set_option autoImplicit false

namespace Inventory

/-- Whether an operation belongs to ordinary play, with stacks that do not come equipped. -/
def Operation.isOrdinary : Operation → Bool
  | obtain added => added.all fun stack => !stack.equipped
  | dropAndPickUp target _ _ => !target.equipped
  | remove .. | eat .. | removeKinds _ | unequipKinds _ | equip .. | unequip .. | shoot _
  | sortMaterials | save _ | reload _ | useSave _ | setTrial _ | closeGame | sync | setFlag .. => true
  | startWith _ | initGameData _ | breakSlots _ | write .. | swap .. | insertSlots .. => false

namespace Simulation

structure AllTidy (state : Simulation) : Prop where
  pouch : state.pouch.slots.Tidy
  gameData : state.gameData.slots.Tidy
  manual : ∀ data, state.manual = some data → data.slots.Tidy
  named : ∀ save ∈ state.named.entries, save.2.slots.Tidy

/-- What ordinary play keeps. With a broken slot a reload would find slots in its way. -/
structure Orderly (state : Simulation) : Prop extends state.AllTidy where
  whole : state.pouch.broken = 0

variable {state : Simulation}

theorem orderly_initial : initial.Orderly :=
  { pouch := Slots.tidy_nil
    gameData := Slots.tidy_nil
    manual := fun _ none => by cases none
    named := fun _ member => by cases member
    whole := rfl }

theorem Orderly.withPouch (orderly : state.Orderly) {pouch : Pouch} (tidy : pouch.slots.Tidy)
    (whole : pouch.broken = 0) : Orderly { state with pouch } :=
  { orderly with pouch := tidy, whole }

theorem Orderly.withSlots (orderly : state.Orderly) {slots : Slots} (tidy : slots.Tidy) :
    Orderly { state with pouch := { state.pouch with slots } } :=
  orderly.withPouch tidy orderly.whole

theorem Orderly.withGameData (orderly : state.Orderly) {gameData : GameData}
    (tidy : gameData.slots.Tidy) : Orderly { state with gameData } :=
  { orderly with gameData := tidy }

theorem Orderly.sync (orderly : state.Orderly) : state.sync.Orderly := by
  unfold Simulation.sync
  split
  next => exact orderly
  next =>
    apply orderly.withGameData
    unfold GameData.syncWith
    dsimp only
    split
    next => exact Slots.tidy_nil
    next => exact orderly.pouch

theorem Orderly.withdraw (orderly : state.Orderly) (target : Stack) (amount : Amount)
    (manner : Manner) : (state.withdraw target amount manner).1.Orderly :=
  (orderly.withSlots (orderly.pouch.leftOf (Slots.leftOf_withdraw _ target amount manner))).sync

theorem tidy_obtains {pouch : Pouch} (tidy : pouch.slots.Tidy) (whole : pouch.broken = 0)
    (added : List Stack) (plain : ∀ stack ∈ added, stack.equipped = false) :
    (added.foldl Pouch.obtain pouch).slots.Tidy ∧ (added.foldl Pouch.obtain pouch).broken = 0 := by
  induction added generalizing pouch with
  | nil => exact ⟨tidy, whole⟩
  | cons stack rest ih =>
    have first := Slots.tidy_obtain tidy (Pouch.counted_pos whole) (plain stack List.mem_cons_self) none
    exact ih first whole fun next member => plain next (List.mem_cons_of_mem _ member)

theorem Orderly.obtain (orderly : state.Orderly) {added : List Stack}
    (plain : ∀ stack ∈ added, stack.equipped = false) : (state.obtain added).Orderly := by
  obtain ⟨tidy, whole⟩ := tidy_obtains orderly.pouch orderly.whole added plain
  exact (orderly.withPouch tidy whole).sync

theorem equipped_of_mem_slots {lot : Lot} {stack : Stack} (member : stack ∈ lot.slots) :
    stack.equipped = lot.stack.equipped := by
  unfold Lot.slots at member
  split at member
  next =>
    obtain rfl := List.mem_singleton.1 member
    rfl
  next => rw [List.eq_of_mem_replicate member]

theorem Orderly.dropAndPickUp (orderly : state.Orderly) {target : Stack}
    (plain : target.equipped = false) (amount : Amount) (start : Nat) :
    (state.dropAndPickUp target amount start).1.Orderly := by
  have dropped : (state.remove target amount start).1.Orderly := orderly.withdraw _ _ _
  unfold Simulation.dropAndPickUp
  dsimp only
  split
  next => exact dropped.obtain fun stack member => (equipped_of_mem_slots member).trans plain
  next => exact dropped

theorem Orderly.equip (orderly : state.Orderly) (item : Item) (n : Nat) :
    (state.equip item n).Orderly :=
  (orderly.withSlots (Slots.tidy_equip orderly.pouch (Pouch.counted_pos orderly.whole) item n)).sync

theorem Orderly.shoot (orderly : state.Orderly) (count : Count) : (state.shoot count).1.Orderly := by
  unfold Simulation.shoot shootArrows
  cases shot : state.pouch.slots.shoot count with
  | none => exact orderly
  | some hit =>
    obtain ⟨i, slots⟩ := hit
    have left := orderly.withSlots (orderly.pouch.leftOf (Slots.leftOf_shoot shot))
    unfold GameData.updateLife
    dsimp only
    cases updated : state.gameData.slots.updateLife ((slots[i]?).map Stack.value |>.getD 0) i with
    | error fault => exact left
    | ok saved =>
      have tidy := orderly.gameData.leftOf (Slots.leftOf_updateLife updated)
      exact { left with gameData := tidy }

theorem Orderly.save (orderly : state.Orderly) (name : Option String) : (state.save name).Orderly := by
  cases name with
  | none => exact { orderly with manual := fun data same => Option.some.inj same ▸ orderly.gameData }
  | some name =>
    refine { orderly with named := fun save member => ?_ }
    rcases Saves.mem_insertEntry member with rfl | member
    · exact orderly.gameData
    · exact orderly.named save member

theorem Orderly.reloadFrom (orderly : state.Orderly) {data : GameData} (tidy : data.slots.Tidy) :
    (state.reloadFrom data).Orderly := by
  have empty : state.pouch.clearCounted.slots = [] := by
    rw [Pouch.clearCounted_of_whole orderly.whole]
    rfl
  obtain ⟨filled, whole⟩ := GameData.tidy_fill tidy empty orderly.whole
  exact { orderly with
    pouch := filled
    gameData := tidy.leftOf (GameData.leftOf_takeDurabilities data _)
    whole }

theorem Orderly.saveToReload (orderly : state.Orderly) {name : Option String} {data : GameData}
    (found : state.saveToReload name = some data) : data.slots.Tidy := by
  unfold Simulation.saveToReload at found
  split at found
  next =>
    obtain ⟨save, here, rfl⟩ := Option.map_eq_some_iff.1 found
    exact orderly.named save (List.mem_of_find?_eq_some here)
  next => exact orderly.manual data found

theorem Orderly.reload (orderly : state.Orderly) (name : Option String) :
    (state.reload name).1.Orderly := by
  unfold Simulation.reload
  split
  next found => exact orderly.reloadFrom (orderly.saveToReload found)
  next => exact orderly

theorem Orderly.setTrial (orderly : state.Orderly) (active : Bool) :
    (state.setTrial active).Orderly := by
  unfold Simulation.setTrial
  split
  next => exact orderly
  next =>
    split
    next =>
      have left := Slots.leftOf_removeKinds state.pouch.slots Pouch.trialKinds
      exact { orderly with pouch := orderly.pouch.leftOf left }
    next => exact orderly.reloadFrom orderly.gameData

theorem Orderly.closeGame (orderly : state.Orderly) : state.closeGame.Orderly :=
  { orderly with pouch := Slots.tidy_nil, gameData := Slots.tidy_nil, whole := rfl }

theorem Orderly.applyTo (orderly : state.Orderly) {operation : Operation}
    (ordinary : operation.isOrdinary) : (operation.applyTo state).Orderly := by
  cases operation with
  | obtain added => exact orderly.obtain (by simpa [Operation.isOrdinary] using ordinary)
  | remove target amount start => exact orderly.withdraw target amount (.drop start)
  | eat target amount start => exact orderly.withdraw target amount (.eat start)
  | dropAndPickUp target amount start =>
    exact orderly.dropAndPickUp (by simpa [Operation.isOrdinary] using ordinary) amount start
  | removeKinds kinds =>
    exact (orderly.withSlots (orderly.pouch.leftOf (Slots.leftOf_removeKinds _ kinds))).sync
  | unequipKinds kinds =>
    exact (orderly.withSlots (orderly.pouch.leftOf (Slots.leftOf_unequipKinds _ kinds))).sync
  | equip item n => exact orderly.equip item n
  | unequip item n =>
    exact (orderly.withSlots (orderly.pouch.leftOf (Slots.leftOf_unequip _ item n))).sync
  | shoot count => exact orderly.shoot count
  | sortMaterials => exact orderly.withSlots (Slots.tidy_sortMaterials orderly.pouch)
  | save name => exact orderly.save name
  | reload name => exact orderly.reload name
  | useSave name => exact { orderly with }
  | setTrial active => exact orderly.setTrial active
  | closeGame => exact orderly.closeGame
  | sync => exact orderly.sync
  | setFlag flag value => exact { orderly with }
  | startWith | initGameData | breakSlots | write | swap | insertSlots => cases ordinary

theorem Orderly.run (orderly : state.Orderly) {operations : List Operation}
    (ordinary : ∀ operation ∈ operations, operation.isOrdinary) : (state.run operations).Orderly := by
  induction operations generalizing state with
  | nil => exact orderly
  | cons operation rest ih =>
    exact ih (orderly.applyTo (ordinary operation List.mem_cons_self))
      fun next member => ordinary next (List.mem_cons_of_mem _ member)

theorem allTidy_of_ordinary (operations : List Operation)
    (ordinary : ∀ operation ∈ operations, operation.isOrdinary) : (initial.run operations).AllTidy :=
  (orderly_initial.run ordinary).toAllTidy

theorem allTidy_after_hunt :
    let bow := Stack.new (Item.new "BowA" .bow)
    let arrows := (Stack.new (Item.new "ArrowA" .arrow)).withValue 5
    let play : List Operation :=
      [.obtain [arrows, bow], .save none, .equip bow.item 0, .shoot 2, .setTrial true,
        .obtain [arrows, bow], .setTrial false, .dropAndPickUp bow .all 0, .reload none]
    (∀ operation ∈ play, operation.isOrdinary) ∧ (initial.run play).AllTidy := by
  intro bow arrows play
  have ordinary : ∀ operation ∈ play, operation.isOrdinary := by decide
  exact ⟨ordinary, allTidy_of_ordinary play ordinary⟩

end Simulation

end Inventory
