import Inventory.Simulation
import Inventory.Proofs.LeftOf

set_option autoImplicit false

namespace Inventory

theorem eq_append_cons_of_mem_last {α : Type} {x : α} {entries : List α} (member : x ∈ entries) :
    ∃ before after, entries = before ++ x :: after ∧ x ∉ after := by
  obtain ⟨after, before, split, fresh⟩ := List.eq_append_cons_of_mem (List.mem_reverse.2 member)
  refine ⟨before.reverse, after.reverse, ?_, by simpa using fresh⟩
  simpa using congrArg List.reverse split

namespace Saves

theorem find?_insertEntry (name other : String) (data : GameData) (entries : List Save) :
    ((insertEntry name data entries).find? fun entry => entry.1 = other).map Prod.snd =
      if other = name then some data
      else (entries.find? fun entry => entry.1 = other).map Prod.snd := by
  induction entries with
  | nil => by_cases same : other = name <;> simp [insertEntry, same, Ne.symm]
  | cons entry rest ih =>
    unfold insertEntry
    -- The new entry stands before this one, in its place, or after it.
    by_cases same : other = name
    next =>
      subst same
      rw [if_pos rfl] at ih ⊢
      split
      next => simp
      next =>
        split
        next => simp
        next different => simpa [List.find?_cons, Ne.symm different] using ih
    next =>
      rw [if_neg same] at ih ⊢
      split
      next => simp [Ne.symm same]
      next =>
        split
        next replaced => simp [Ne.symm same, ← replaced]
        next => by_cases here : entry.1 = other <;> simp [here, ih]

theorem find?_insert (saves : Saves) (name other : String) (data : GameData) :
    (saves.insert name data).find? other = if other = name then some data else saves.find? other :=
  find?_insertEntry name other data saves.entries

end Saves

namespace GameData

/-- Durabilities are the only thing that a reload may change in the game data. -/
def SameButValues (now saved : GameData) : Prop :=
  now.capacity = saved.capacity ∧ List.Forall₂ (fun a b => a.sameButValue b) now.slots saved.slots

theorem SameButValues.refl (data : GameData) : data.SameButValues data :=
  ⟨rfl, List.forall₂_same.2 fun stack _ => by simp [Stack.sameButValue]⟩

theorem SameButValues.takeDurability {now saved : GameData} (same : now.SameButValues saved)
    (pouch : Pouch) (kind : Kind) : (takeDurability pouch now kind).SameButValues saved := by
  obtain ⟨capacity, slots⟩ := same
  unfold GameData.takeDurability
  split
  next first last _ _ =>
    unfold updateLife Slots.updateLife
    cases here : now.slots[first]? with
    | none => exact ⟨capacity, slots⟩
    | some stack => exact ⟨capacity, forall₂_set slots here fun _ _ related => related⟩
  next => exact ⟨capacity, slots⟩

theorem sameButValues_takeDurabilities (data : GameData) (pouch : Pouch) :
    (data.takeDurabilities pouch).SameButValues data :=
  (((SameButValues.refl data).takeDurability pouch .weapon).takeDurability pouch .bow).takeDurability
    pouch .shield

end GameData

namespace Simulation

def saved (state : Simulation) : Option String → Option GameData
  | some name => state.named.find? name
  | none => state.manual

theorem saved_save (state : Simulation) (name other : Option String) :
    (state.save name).saved other =
      if other = name then some state.gameData else state.saved other := by
  cases name with
  | none => cases other <;> simp [save, saved]
  | some name =>
    cases other with
    | none => simp [save, saved]
    | some other => simp [save, saved, Saves.find?_insert]

theorem saveToReload_eq (state : Simulation) (name : Option String) :
    state.saveToReload name = state.saved (name.or state.nextReload) := by
  unfold saveToReload saved
  cases name.or state.nextReload <;> rfl

theorem run_append (state : Simulation) (before after : List Operation) :
    state.run (before ++ after) = (state.run before).run after :=
  List.foldl_append ..

/-- Two games with the same saves, of which the next reload takes the same one. -/
structure SameRecords (a b : Simulation) : Prop where
  manual : a.manual = b.manual
  named : a.named = b.named
  nextReload : a.nextReload = b.nextReload

theorem SameRecords.trans {a b c : Simulation} (first : a.SameRecords b) (second : b.SameRecords c) :
    a.SameRecords c :=
  ⟨first.manual.trans second.manual, first.named.trans second.named,
    first.nextReload.trans second.nextReload⟩

theorem SameRecords.saved {a b : Simulation} (same : a.SameRecords b) (name : Option String) :
    a.saved name = b.saved name := by
  cases name <;> simp [Simulation.saved, same.manual, same.named]

theorem sameRecords_sync (state : Simulation) : state.sync.SameRecords state := by
  unfold sync
  split <;> exact ⟨rfl, rfl, rfl⟩

theorem sameRecords_reload (state : Simulation) (name : Option String) :
    (state.reload name).1.SameRecords state := by
  unfold reload
  split <;> exact ⟨rfl, rfl, rfl⟩

theorem sameRecords_dropAndPickUp (state : Simulation) (target : Stack) (amount : Amount)
    (start : Nat) : (state.dropAndPickUp target amount start).1.SameRecords state := by
  obtain ⟨manual, named, nextReload⟩ :
      (state.remove target amount start).1.SameRecords state := by
    exact (sameRecords_sync _).trans ⟨rfl, rfl, rfl⟩
  unfold dropAndPickUp
  dsimp only
  split
  next => exact (sameRecords_sync _).trans ⟨manual, named, nextReload⟩
  next => exact ⟨manual, named, nextReload⟩

theorem sameRecords_shoot (state : Simulation) (count : Count) :
    (state.shoot count).1.SameRecords state := by
  unfold shoot
  split <;> exact ⟨rfl, rfl, rfl⟩

theorem sameRecords_setTrial (state : Simulation) (active : Bool) :
    (state.setTrial active).SameRecords state := by
  unfold setTrial
  split
  next => exact ⟨rfl, rfl, rfl⟩
  next => split <;> exact ⟨rfl, rfl, rfl⟩

theorem records_applyTo (state : Simulation) (operation : Operation) :
    (∃ name, operation = .save name) ∨ (∃ name, operation = .useSave name) ∨
      (operation.applyTo state).SameRecords state := by
  cases operation with
  | save name => exact .inl ⟨name, rfl⟩
  | useSave name => exact .inr (.inl ⟨name, rfl⟩)
  | reload name => exact .inr (.inr (sameRecords_reload state name))
  | dropAndPickUp target amount start =>
    exact .inr (.inr (sameRecords_dropAndPickUp state target amount start))
  | shoot count => exact .inr (.inr (sameRecords_shoot state count))
  | setTrial active => exact .inr (.inr (sameRecords_setTrial state active))
  | obtain | remove | eat | removeKinds | unequipKinds | equip | unequip | sync =>
    exact .inr (.inr ((sameRecords_sync _).trans ⟨rfl, rfl, rfl⟩))
  | startWith | initGameData | breakSlots | write | swap | sortMaterials | insertSlots | closeGame
  | setFlag => exact .inr (.inr ⟨rfl, rfl, rfl⟩)

theorem saves_applyTo (state : Simulation) {operation : Operation}
    (other : ∀ name, operation ≠ .save name) :
    (operation.applyTo state).manual = state.manual ∧
      (operation.applyTo state).named = state.named := by
  rcases records_applyTo state operation with ⟨name, rfl⟩ | ⟨name, rfl⟩ | same
  · exact absurd rfl (other name)
  · exact ⟨rfl, rfl⟩
  · exact ⟨same.manual, same.named⟩

theorem saved_applyTo (state : Simulation) (operation : Operation) (name : Option String) :
    (operation.applyTo state).saved name =
      if operation = .save name then some state.gameData else state.saved name := by
  rcases records_applyTo state operation with ⟨written, rfl⟩ | ⟨chosen, rfl⟩ | same
  · rw [Operation.applyTo, saved_save]
    simp only [Operation.save.injEq, eq_comm]
  · cases name <;> rfl
  · by_cases writes : operation = .save name
    next =>
      subst writes
      rw [if_pos rfl, Operation.applyTo, saved_save, if_pos rfl]
    next => rw [if_neg writes, same.saved]

theorem saved_run_of_unwritten (state : Simulation) {operations : List Operation}
    {name : Option String} (unwritten : .save name ∉ operations) :
    (state.run operations).saved name = state.saved name := by
  induction operations generalizing state with
  | nil => rfl
  | cons operation rest ih =>
    obtain ⟨other, later⟩ := List.ne_and_not_mem_of_not_mem_cons unwritten
    exact (ih _ later).trans ((saved_applyTo ..).trans (if_neg other.symm))

theorem saved_run_of_written (state : Simulation) (before : List Operation) {name : Option String}
    {after : List Operation} (last : .save name ∉ after) :
    (state.run (before ++ .save name :: after)).saved name = some (state.run before).gameData := by
  rw [run_append]
  exact (saved_run_of_unwritten _ last).trans ((saved_applyTo ..).trans (if_pos rfl))

/-- What the save of a name is after a run: the game data at its last writing, or what it was before
if the run did not write it. -/
def Snapshot (state : Simulation) (operations : List Operation) (name : Option String)
    (data : GameData) : Prop :=
  (∃ before after, operations = before ++ .save name :: after ∧ .save name ∉ after ∧
      data = (state.run before).gameData) ∨
    .save name ∉ operations ∧ state.saved name = some data

theorem saved_run_iff (state : Simulation) (operations : List Operation) (name : Option String)
    (data : GameData) :
    (state.run operations).saved name = some data ↔ state.Snapshot operations name data := by
  constructor
  · intro found
    by_cases written : .save name ∈ operations
    next =>
      obtain ⟨before, after, rfl, last⟩ := eq_append_cons_of_mem_last written
      rw [saved_run_of_written state before last] at found
      exact .inl ⟨before, after, rfl, last, (Option.some.inj found).symm⟩
    next => exact .inr ⟨written, (saved_run_of_unwritten state written).symm.trans found⟩
  · rintro (⟨before, after, rfl, last, rfl⟩ | ⟨unwritten, before⟩)
    · exact saved_run_of_written state before last
    · exact (saved_run_of_unwritten state unwritten).trans before

theorem saved_run_eq_none_iff (state : Simulation) (operations : List Operation)
    (name : Option String) :
    (state.run operations).saved name = none ↔
      state.saved name = none ∧ .save name ∉ operations := by
  by_cases written : .save name ∈ operations
  next =>
    obtain ⟨before, after, rfl, last⟩ := eq_append_cons_of_mem_last written
    simp [saved_run_of_written state before last]
  next => simp [saved_run_of_unwritten state written, written]

end Simulation

namespace Operation

def choice? : Operation → Option String
  | useSave name => some name
  | _ => none

end Operation

namespace Simulation

def choiceAfter (state : Simulation) (operations : List Operation) : Option String :=
  (operations.reverse.findSome? Operation.choice?).or state.nextReload

theorem nextReload_applyTo (state : Simulation) (operation : Operation) :
    (operation.applyTo state).nextReload = operation.choice?.or state.nextReload := by
  cases chooses : operation.choice? with
  | some name =>
    cases operation <;> cases chooses
    rfl
  | none =>
    rcases records_applyTo state operation with ⟨name, rfl⟩ | ⟨name, rfl⟩ | same
    · cases name <;> rfl
    · cases chooses
    · exact same.nextReload

theorem nextReload_run (state : Simulation) (operations : List Operation) :
    (state.run operations).nextReload = state.choiceAfter operations := by
  induction operations generalizing state with
  | nil => rfl
  | cons first rest ih =>
    refine (ih (first.applyTo state)).trans ?_
    rw [choiceAfter, choiceAfter, nextReload_applyTo, ← Option.or_assoc, List.reverse_cons,
      List.findSome?_append]
    cases chooses : first.choice? <;> simp [chooses]

theorem reload_of_saved (state : Simulation) (name : Option String) {data : GameData}
    (found : state.saved (name.or state.nextReload) = some data) :
    (state.reload name).2 = true ∧ (state.reload name).1.gameData.SameButValues data := by
  simp only [reload, saveToReload_eq, found]
  exact ⟨trivial, GameData.sameButValues_takeDurabilities _ _⟩

theorem reload_of_missing (state : Simulation) (name : Option String)
    (missing : state.saved (name.or state.nextReload) = none) : state.reload name = (state, false) := by
  simp only [reload, saveToReload_eq, missing]

theorem saves_are_snapshots (state : Simulation) (operations : List Operation) :
    let final := state.run operations
    (∀ name data, final.saved name = some data ↔ state.Snapshot operations name data) ∧
      (∀ operation : Operation, (∀ name, operation ≠ .save name) →
        (operation.applyTo final).manual = final.manual ∧
          (operation.applyTo final).named = final.named) ∧
      ∀ name,
        let chosen := name.or (state.choiceAfter operations)
        ((final.reload name).2 = true → ∃ data, state.Snapshot operations chosen data ∧
          (final.reload name).1.gameData.SameButValues data) ∧
        ((final.reload name).2 = false → (final.reload name).1 = final) ∧
        ((final.reload name).2 = false ↔
          state.saved chosen = none ∧ .save chosen ∉ operations) := by
  intro final
  refine ⟨saved_run_iff state operations, fun _ other => saves_applyTo final other, ?_⟩
  intro name chosen
  have choice : name.or final.nextReload = chosen := by rw [nextReload_run]
  rw [← saved_run_eq_none_iff]
  cases found : final.saved chosen with
  | none =>
    rw [reload_of_missing final name (choice ▸ found)]
    simp [final]
  | some data =>
    obtain ⟨succeeds, same⟩ := reload_of_saved final name (choice ▸ found)
    have snapshot := (saved_run_iff state operations chosen data).1 found
    refine ⟨fun _ => ⟨data, snapshot, same⟩, ?_, ?_⟩
    · simp [succeeds]
    · simp [succeeds, final]

theorem snapshots_of_camp :
    let soup := Stack.new (Item.new "FoodA" .food)
    let play : List Operation :=
      [.save (some "camp"), .obtain [soup], .save (some "camp"), .obtain [soup], .useSave "camp",
        .setTrial true, .closeGame]
    let final := initial.run play
    (∀ name, Operation.closeGame ≠ .save name) ∧
      (Operation.closeGame.applyTo final).named = final.named ∧ (final.reload none).2 = true ∧
      (∃ data, initial.Snapshot play (some "camp") data ∧
        (final.reload none).1.gameData.SameButValues data) ∧
      (final.reload (some "cave")).2 = false ∧ (final.reload (some "cave")).1 = final ∧
      initial.saved (some "cave") = none ∧ .save (some "cave") ∉ play := by
  intro soup play final
  obtain ⟨_, others, reloads⟩ := saves_are_snapshots initial play
  have other : ∀ name, Operation.closeGame ≠ .save name := by simp
  have succeeds : (final.reload none).2 = true := by decide
  have fails : (final.reload (some "cave")).2 = false := by decide
  obtain ⟨_, unchanged, missing⟩ := reloads (some "cave")
  exact ⟨other, (others .closeGame other).2, succeeds, (reloads none).1 succeeds, fails,
    unchanged fails, missing.1 fails⟩

end Simulation

end Inventory
