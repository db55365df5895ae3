import Inventory.Simulation
import Inventory.Proofs.LastEquipped
import Inventory.Proofs.Restore

set_option autoImplicit false

namespace Inventory

section Lists

variable {α : Type}

theorem index_eq_of_pairwise {p : α → Bool} {entries : List α}
    (one : entries.Pairwise fun a b => ¬(p a ∧ p b)) {i j : Nat} {x y : α}
    (first : entries[i]? = some x) (second : entries[j]? = some y) (both : p x ∧ p y) : i = j := by
  obtain ⟨_, rfl⟩ := List.getElem?_eq_some_iff.1 first
  obtain ⟨_, rfl⟩ := List.getElem?_eq_some_iff.1 second
  rcases Nat.lt_trichotomy i j with less | same | more
  · exact absurd both (List.pairwise_iff_getElem.1 one i j _ _ less)
  · exact same
  · exact absurd both.symm (List.pairwise_iff_getElem.1 one j i _ _ more)

end Lists

namespace Slots

theorem sameItemAt?_eq_none {slots : Slots} {stack : Stack}
    (absent : stack.item.stackable → ∀ other ∈ slots, other.item ≠ stack.item) :
    slots.sameItemAt? stack = none := by
  unfold sameItemAt?
  split
  next stackable => exact List.findIdx?_eq_none_iff.2 (by simpa using absent stackable)
  next => rfl

theorem uniqueAt?_eq_none {slots : Slots} {stack : Stack} (counted : Int)
    (absent : stack.item.repeatable = false → ∀ other ∈ slots, other.item ≠ stack.item) :
    slots.uniqueAt? stack counted = none := by
  unfold uniqueAt?
  split
  next => rfl
  next unique =>
    refine Option.bind_eq_none_iff.2 fun head _ => Option.map_eq_none_iff.2 ?_
    refine List.findIdx?_eq_none_iff.2 fun other member => ?_
    have inside := List.mem_of_mem_drop ((List.takeWhile_prefix _).subset member)
    simpa using absent (by simpa using unique) other inside

theorem updateLife_self {slots : Slots} {stack : Stack} {i : Nat} (here : slots[i]? = some stack)
    (uncapped : isCapped stack = false) : slots.updateLife stack.value i = .ok slots := by
  unfold updateLife
  rw [here]
  obtain ⟨within, rfl⟩ := List.getElem?_eq_some_iff.1 here
  have same : slots[i].withValue slots[i].value = slots[i] := rfl
  simp [uncapped, same]

end Slots

namespace GameData

structure Legal (data : GameData) : Prop where
  sorted : data.slots.Sorted
  countedOnce : data.slots.Pairwise fun a b => a.item.stackable → a.item ≠ b.item
  uniqueOnce : data.slots.Pairwise fun a b => a.item.repeatable = false → a.item ≠ b.item
  oneInHand : ∀ kind ∈ [Kind.weapon, .bow, .shield],
    data.slots.Pairwise fun a b => ¬(Slots.isEquipped kind a ∧ Slots.isEquipped kind b)
  fits : ∀ kind, (data.slots.countP fun stack => stack.kind.shelf = kind.shelf) ≤
    data.capacity.limit kind

variable {data : GameData}

theorem Filling.served_self {done rest : List Stack} {stack : Stack}
    (split : data.slots = done ++ stack :: rest) {filling : Filling}
    (turn : filling.dish = done.countP isFood) :
    filling.served (data.slots.filter isFood) stack = stack := by
  unfold Filling.served
  split
  next food =>
    have dish : isFood stack := by simpa [isFood] using food
    have own : (data.slots.filter isFood)[filling.dish]? = some stack := by
      rw [split, turn, List.countP_eq_length_filter, List.filter_append,
        List.getElem?_append_right (Nat.le_refl _), Nat.sub_self, List.filter_cons_of_pos dish]
      rfl
    rw [own]
    rfl
  next => rfl

theorem Legal.restore_next (legal : data.Legal) {done rest : List Stack} {stack : Stack}
    (split : data.slots = done ++ stack :: rest) (last : Option Nat) :
    ∃ added, Filling.restore (data.slots.filter isFood) data.capacity
        ⟨⟨done, 0⟩, last, done.countP isFood⟩ stack =
      ⟨⟨done ++ [stack], 0⟩, some added, (done ++ [stack]).countP isFood⟩ := by
  have before {R : Stack → Stack → Prop} (pairs : data.slots.Pairwise R) :
      ∀ other ∈ done, R other stack := by
    rw [split] at pairs
    exact fun other member => (List.pairwise_append.1 pairs).2.2 other member stack List.mem_cons_self
  have fresh : Slots.sameItemAt? done stack = none :=
    Slots.sameItemAt?_eq_none fun stackable other member same =>
      before legal.countedOnce other member (same ▸ stackable) same
  have unique (counted : Int) : Slots.uniqueAt? done stack counted = none :=
    Slots.uniqueAt?_eq_none counted fun single other member same =>
      before legal.uniqueOnce other member (same ▸ single) same
  have room : data.capacity.isFull done stack.kind = false := by
    have fits := legal.fits stack.kind
    rw [split, List.countP_append, List.countP_cons_of_pos (by simp)] at fits
    simp only [Capacity.isFull, decide_eq_false_iff_not]
    omega
  have sorted : Slots.Sorted (done ++ [stack]) := by
    have all : Slots.Sorted ((done ++ [stack]) ++ rest) := by simpa [split] using legal.sorted
    exact (List.pairwise_append.1 all).1
  rw [Filling.restore_eq, Filling.served_self split rfl,
    Slots.restore_of_room fresh (unique _) room]
  refine ⟨(Slots.place done stack (Pouch.counted ⟨done, 0⟩)).2, ?_⟩
  simp only [Prod.map, id, Slots.place_of_sorted _ sorted, Option.isSome_some, Bool.true_and,
    List.countP_append, List.countP_singleton]
  split <;> rfl

theorem Legal.fill_rest (legal : data.Legal) {done rest : List Stack}
    (split : data.slots = done ++ rest) (last : Option Nat) :
    (rest.foldl (Filling.restore (data.slots.filter isFood) data.capacity)
      ⟨⟨done, 0⟩, last, done.countP isFood⟩).pouch = ⟨data.slots, 0⟩ := by
  -- What was read is what the pouch holds, and its dishes are those that had their turn.
  induction rest generalizing done last with
  | nil => simp [split]
  | cons stack rest ih =>
    obtain ⟨added, step⟩ := legal.restore_next split last
    rw [List.foldl_cons, step]
    exact ih (by simpa using split) (some added)

theorem Legal.fill_empty (legal : data.Legal) : data.fill .empty = ⟨data.slots, 0⟩ :=
  legal.fill_rest (List.nil_append _).symm none

theorem Legal.takeDurability_self (legal : data.Legal) {kind : Kind}
    (tool : kind ∈ [Kind.weapon, .bow, .shield]) {pouch : Pouch} (same : pouch.slots = data.slots) :
    takeDurability pouch data kind = data := by
  unfold takeDurability
  split
  next first last start found =>
    rw [same] at start found
    obtain ⟨i, nearby, here⟩ := Option.bind_eq_some_iff.1 found
    obtain ⟨stack, there, equipped⟩ := Slots.lastEquippedNearby_spec nearby
    obtain rfl : last = stack := by simpa [here] using there
    obtain ⟨before, opening, after, whole, rfl, starts, _⟩ := split_of_findIdx? start
    have head : data.slots[before.length]? = some opening := by simp [whole]
    have index := index_eq_of_pairwise (legal.oneInHand kind tool) head here ⟨starts, equipped⟩
    have uncapped : Slots.isCapped last = false := by
      obtain ⟨_, rfl⟩ := Slots.isEquipped_iff.1 equipped
      unfold Slots.isCapped
      split <;> simp_all
    -- The last equipped slot is the first one, so it gets back the value that it has.
    rw [index]
    simp [updateLife, Slots.updateLife_self here uncapped, Except.map]
  next => rfl

theorem Legal.takeDurabilities_self (legal : data.Legal) {pouch : Pouch}
    (same : pouch.slots = data.slots) : data.takeDurabilities pouch = data := by
  simp only [takeDurabilities, List.foldl_cons, List.foldl_nil]
  rw [legal.takeDurability_self (by simp) same, legal.takeDurability_self (by simp) same,
    legal.takeDurability_self (by simp) same]

end GameData

namespace Simulation

theorem reload_of_legal (state : Simulation) (name : Option String) {data : GameData}
    (whole : state.pouch.broken = 0) (found : state.saveToReload name = some data)
    (legal : data.Legal) :
    state.reload name =
      ({ state with pouch := ⟨data.slots, 0⟩, gameData := data, inTrial := false }, true) := by
  have cleared := Pouch.clearCounted_of_whole whole
  simp [reload, found, reloadFrom, cleared, legal.fill_empty, legal.takeDurabilities_self]

theorem reload_of_feast :
    let sword := (Stack.new (Item.new "WeaponA" .weapon)).withEquipped true
    let arrows := ((Stack.new (Item.new "ArrowA" .arrow)).withValue 20).withEquipped true
    let soup : Stack := ⟨Item.new "FoodA" .food, 1, false, ⟨some 8, some 30, .none⟩⟩
    let stew : Stack := ⟨Item.new "FoodA" .food, 1, false, ⟨some 20, some 55, .none⟩⟩
    let feast : GameData := ⟨[sword, arrows, soup, stew], .initial⟩
    let state : Simulation :=
      { initial with
        named := Saves.empty.insert "feast" feast
        nextReload := some "feast"
        pouch := ⟨[stew, sword], 0⟩
        inTrial := true }
    state.pouch.broken = 0 ∧ state.saveToReload none = some feast ∧ feast.Legal ∧
      state.reload none =
        ({ state with pouch := ⟨feast.slots, 0⟩, gameData := feast, inTrial := false }, true) := by
  intro sword arrows soup stew feast state
  have found : state.saveToReload none = some feast := by decide
  have legal : feast.Legal :=
    { sorted := by decide
      countedOnce := by decide
      uniqueOnce := by decide
      oneInHand := by decide
      fits := fun kind => by cases kind <;> decide }
  exact ⟨rfl, found, legal, reload_of_legal state none rfl found legal⟩

end Simulation

end Inventory
