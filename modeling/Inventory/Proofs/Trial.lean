import Inventory.Simulation
import Inventory.Proofs.Patches

set_option autoImplicit false

namespace Inventory

namespace Operation

def isTrialMove : Operation → Bool
  | obtain _ | remove .. | eat .. | dropAndPickUp .. | removeKinds _ | unequipKinds _ | equip ..
  | unequip .. | shoot _ | write .. | swap .. | sortMaterials | insertSlots .. | breakSlots _
  | sync => true
  | startWith _ | initGameData _ | save _ | reload _ | useSave _ | closeGame | setTrial _
  | setFlag .. => false

def shot? (state : Simulation) : Operation → Option (Nat × Count)
  | shoot count =>
    (state.pouch.slots.shoot count).map fun (i, slots) =>
      (i, ((slots[i]?).map Stack.value).getD 0)
  | _ => none

end Operation

namespace Simulation

def shots (state : Simulation) : List Operation → List (Nat × Count)
  | [] => []
  | operation :: rest => (operation.shot? state).toList ++ shots (operation.applyTo state) rest

def writeShots (state : Simulation) (writes : List (Nat × Count)) : GameData :=
  { state.gameData with slots := writes.foldl Slots.writeLife state.gameData.slots }

variable {state : Simulation}

theorem withdraw_of_trial (trial : state.inTrial) (target : Stack) (amount : Amount)
    (manner : Manner) :
    (state.withdraw target amount manner).1.inTrial ∧
      (state.withdraw target amount manner).1.gameData = state.gameData := by
  simp [withdraw, sync, trial]

theorem dropAndPickUp_of_trial (trial : state.inTrial) (target : Stack) (amount : Amount)
    (start : Nat) :
    (state.dropAndPickUp target amount start).1.inTrial ∧
      (state.dropAndPickUp target amount start).1.gameData = state.gameData := by
  obtain ⟨dropped, same⟩ := withdraw_of_trial trial target amount (.drop start)
  unfold dropAndPickUp remove
  dsimp only
  split
  next => simp [obtain, sync, dropped, same]
  next => exact ⟨dropped, same⟩

theorem shoot_of_trial (trial : state.inTrial) (count : Count) :
    (state.shoot count).1.inTrial ∧
      (state.shoot count).1.gameData = state.writeShots ((Operation.shoot count).shot? state).toList := by
  simp only [shoot, shootArrows, Operation.shot?, writeShots]
  cases state.pouch.slots.shoot count with
  | none => exact ⟨trial, rfl⟩
  | some hit =>
    obtain ⟨i, slots⟩ := hit
    simp only [GameData.updateLife, Option.map_some, Option.toList_some, List.foldl_cons,
      List.foldl_nil, Slots.writeLife]
    cases state.gameData.slots.updateLife (((slots[i]?).map Stack.value).getD 0) i with
    | ok written => exact ⟨trial, rfl⟩
    | error fault => exact ⟨trial, rfl⟩

theorem applyTo_of_trial (trial : state.inTrial) {operation : Operation}
    (move : operation.isTrialMove) :
    (operation.applyTo state).inTrial ∧
      (operation.applyTo state).gameData = state.writeShots (operation.shot? state).toList := by
  cases operation with
  | shoot count => exact shoot_of_trial trial count
  | remove target amount start => exact withdraw_of_trial trial target amount (.drop start)
  | eat target amount start => exact withdraw_of_trial trial target amount (.eat start)
  | dropAndPickUp target amount start => exact dropAndPickUp_of_trial trial target amount start
  | obtain | removeKinds | unequipKinds | equip | unequip | sync =>
    simp [Operation.applyTo, obtain, removeKinds, unequipKinds, equip, unequip, changeSlots, sync,
      trial, Operation.shot?, writeShots]
  | write | swap | sortMaterials | insertSlots | breakSlots => exact ⟨trial, rfl⟩
  | startWith | initGameData | save | reload | useSave | closeGame | setTrial | setFlag => cases move

theorem run_of_trial (trial : state.inTrial) {operations : List Operation}
    (moves : ∀ operation ∈ operations, operation.isTrialMove) :
    (state.run operations).inTrial ∧
      (state.run operations).gameData = state.writeShots (state.shots operations) := by
  induction operations generalizing state with
  | nil => exact ⟨trial, rfl⟩
  | cons operation rest ih =>
    obtain ⟨still, first⟩ := applyTo_of_trial trial (moves operation List.mem_cons_self)
    obtain ⟨lasts, others⟩ := ih still fun next member => moves next (List.mem_cons_of_mem _ member)
    refine ⟨lasts, others.trans ?_⟩
    simp only [writeShots, shots, first, List.foldl_append]

/-- A trial lasts, and leaves the game data as they are exactly if the last shot at each place leaves
as many arrows as the game data have at the place already. -/
theorem frozen_iff_shots_spare (trial : state.inTrial) {operations : List Operation}
    (moves : ∀ operation ∈ operations, operation.isTrialMove) :
    (state.run operations).inTrial ∧
      (state.run operations).gameData.capacity = state.gameData.capacity ∧
      ((state.run operations).gameData = state.gameData ↔
        ∀ i stack life, state.gameData.slots[i]? = some stack →
          (state.shots operations).reverse.lookup i = some life →
            Slots.withLife stack life = stack) := by
  obtain ⟨still, same⟩ := run_of_trial trial moves
  refine ⟨still, by rw [same]; rfl, ?_⟩
  -- The capacity is the same in any case, so only the slots can differ.
  rw [same, ← Slots.foldl_writeLife_eq_iff]
  constructor
  · exact fun equal => congrArg GameData.slots equal
  · intro equal
    simp only [writeShots, equal]

theorem frozen_iff_second_shot_spares :
    let arrows := (Stack.new (Item.new "ArrowA" .arrow)).withValue 3
    let state := initial.run [.startWith [Stack.new (Item.new "WeaponA" .weapon)], .setTrial true]
    let play : List Operation := [.obtain [arrows], .shoot 1, .sync, .shoot 1]
    state.inTrial ∧ (∀ operation ∈ play, operation.isTrialMove) ∧ (state.run play).inTrial ∧
      (state.run play).gameData.capacity = state.gameData.capacity ∧
      ((state.run play).gameData = state.gameData ↔
        ∀ i stack life, state.gameData.slots[i]? = some stack →
          (state.shots play).reverse.lookup i = some life → Slots.withLife stack life = stack) := by
  intro arrows state play
  have moves : ∀ operation ∈ play, operation.isTrialMove := by decide
  exact ⟨rfl, moves, frozen_iff_shots_spare rfl moves⟩

theorem not_frozen_by_shot :
    ¬∀ (state : Simulation) (operations : List Operation), state.inTrial →
      (∀ operation ∈ operations, operation.isTrialMove) →
        (state.run operations).inTrial ∧ (state.run operations).gameData = state.gameData := by
  intro frozen
  let arrows := (Stack.new (Item.new "ArrowA" .arrow)).withValue 5
  let state := initial.run [.startWith [Stack.new (Item.new "WeaponA" .weapon)], .setTrial true]
  have same := (frozen state [.obtain [arrows], .shoot 1] rfl (by decide)).2
  revert same
  decide

end Simulation

end Inventory
