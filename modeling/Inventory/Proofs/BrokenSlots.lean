import Inventory.Simulation
import Inventory.Proofs.Restore

set_option autoImplicit false

namespace Inventory

/-- What a save may bring back for one of its stacks: food may come with the details of another of its
dishes. -/
def Stack.ServedFrom (saved : List Stack) (served stack : Stack) : Prop :=
  served = stack ∨ stack.kind = .food ∧
    ∃ dish ∈ saved, dish.kind = .food ∧ served = stack.withDetailsOf dish

theorem length_le_of_sublistForall₂ {α β : Type} {R : α → β → Prop} {after : List α} {before : List β}
    (left : List.SublistForall₂ R after before) : after.length ≤ before.length := by
  obtain ⟨kept, related, sublist⟩ := List.sublistForall₂_iff.1 left
  rw [related.length_eq]
  exact sublist.length_le

namespace GameData

theorem Filling.servedFrom (data : GameData) (filling : Filling) (stack : Stack) :
    (filling.served (data.slots.filter isFood) stack).ServedFrom data.slots stack := by
  unfold Filling.served
  split
  next food =>
    cases turn : (data.slots.filter isFood)[filling.dish]? with
    | none => exact .inl rfl
    | some dish =>
      obtain ⟨saved, dishFood⟩ := List.mem_filter.1 (List.mem_of_getElem? turn)
      exact .inr ⟨food, dish, saved, by simpa [isFood] using dishFood, rfl⟩
  next => exact .inl rfl

theorem Filling.isBrokenMasterSword_served (dishes : List Stack) (filling : Filling) (stack : Stack) :
    Slots.isBrokenMasterSword (filling.served dishes stack) = Slots.isBrokenMasterSword stack := by
  unfold Filling.served
  split <;> rfl

theorem Filling.restore_cases (dishes : List Stack) (capacity : Capacity) (filling : Filling)
    {stack : Stack} (sound : ¬Slots.isBrokenMasterSword stack) :
    let next := filling.restore dishes capacity stack
    next.pouch = filling.pouch ∧ next.last = filling.last ∨
      next.pouch.broken = filling.pouch.broken ∧ next.last.isSome ∧
        next.pouch.slots.Perm (filling.pouch.slots ++ [filling.served dishes stack]) := by
  dsimp only
  rw [Filling.restore_eq]
  rcases Slots.restore_cases filling.pouch.slots (filling.served dishes stack) filling.pouch.counted
    capacity filling.last with same | ⟨_, sword, _⟩ | ⟨_, _, _, placed⟩
  · simp [same]
  · rw [Filling.isBrokenMasterSword_served] at sword
    exact absurd sword sound
  · refine .inr ⟨rfl, by simp [placed], ?_⟩
    dsimp only
    rw [placed]
    exact Slots.place_perm _ _ _

theorem fill_rest_perm (data : GameData) {rest : List Stack}
    (sound : ∀ stack ∈ rest, ¬Slots.isBrokenMasterSword stack) (filling : Filling) :
    let filled := (rest.foldl (Filling.restore (data.slots.filter isFood) data.capacity) filling).pouch
    filled.broken = filling.pouch.broken ∧
      ∃ accepted, List.SublistForall₂ (Stack.ServedFrom data.slots) accepted rest ∧
        filled.slots.Perm (filling.pouch.slots ++ accepted) := by
  -- Every step leaves the row as it is or makes it longer by one; sorting only moves slots.
  induction rest generalizing filling with
  | nil => exact ⟨rfl, [], .nil, by simp⟩
  | cons stack rest ih =>
    obtain ⟨same, accepted, served, perm⟩ := ih (fun next member =>
      sound next (List.mem_cons_of_mem _ member))
      (filling.restore (data.slots.filter isFood) data.capacity stack)
    rw [List.foldl_cons]
    rcases filling.restore_cases (data.slots.filter isFood) data.capacity
      (sound stack List.mem_cons_self) with ⟨kept, -⟩ | ⟨broken, -, added⟩
    · rw [kept] at same perm
      exact ⟨same, accepted, served.cons_right, perm⟩
    · refine ⟨same.trans broken, _ :: accepted, .cons (filling.servedFrom data stack) served,
        perm.trans ?_⟩
      simpa using added.append_right accepted

end GameData

namespace Simulation

theorem reload_keeps_broken (state : Simulation) (name : Option String) {data : GameData}
    (nonneg : 0 ≤ state.pouch.broken.val) (within : state.pouch.broken.val ≤ state.pouch.slots.length)
    (found : state.saveToReload name = some data)
    (sound : ∀ stack ∈ data.slots, ¬Slots.isBrokenMasterSword stack) :
    let broken := state.pouch.slots.drop (state.pouch.slots.length - state.pouch.broken.val.toNat)
    let pouch := (state.reload name).1.pouch
    (state.reload name).2 ∧ pouch.broken = state.pouch.broken ∧
      ∃ accepted, List.SublistForall₂ (Stack.ServedFrom data.slots) accepted data.slots ∧
        pouch.slots.Perm (broken ++ accepted) ∧ pouch.counted = accepted.length ∧
        accepted.length ≤ data.slots.length := by
  intro broken pouch
  have cleared : state.pouch.clearCounted = ⟨broken, state.pouch.broken⟩ := by
    have counted := Pouch.counted_of_nonneg nonneg
    have index : state.pouch.counted.toNat =
        state.pouch.slots.length - state.pouch.broken.val.toNat := by omega
    simp only [Pouch.clearCounted, Pouch.mapSlots, index, broken]
  have filled : pouch = data.fill ⟨broken, state.pouch.broken⟩ := by
    simp only [pouch, reload, found, reloadFrom, cleared]
  obtain ⟨same, accepted, served, perm⟩ :=
    data.fill_rest_perm sound ⟨⟨broken, state.pouch.broken⟩, none, 0⟩
  have whole : pouch.broken = state.pouch.broken := by rw [filled]; exact same
  have slots : pouch.slots.Perm (broken ++ accepted) := by rw [filled]; exact perm
  refine ⟨by simp [reload, found], whole, accepted, served, slots, ?_,
    length_le_of_sublistForall₂ served⟩
  -- The broken slots are as many as before, so the others are what the game counts.
  have total := slots.length_eq
  rw [List.length_append, List.length_drop] at total
  rw [Pouch.counted_of_nonneg (by rwa [whole]), whole]
  omega

theorem reload_keeps_soup_and_key :
    let sword := Stack.new (Item.new "WeaponA" .weapon)
    let key := Stack.new (Item.new "KeyA" .key)
    let soup : Stack := ⟨Item.new "FoodA" .food, 1, false, ⟨some 8, some 30, .none⟩⟩
    let stew : Stack := ⟨Item.new "FoodA" .food, 1, false, ⟨some 20, some 55, .none⟩⟩
    let saved : GameData := ⟨[sword, soup, stew, key], .initial⟩
    let state : Simulation := { initial with manual := some saved, pouch := ⟨[sword, soup, key], 2⟩ }
    let pouch := (state.reload none).1.pouch
    0 ≤ state.pouch.broken.val ∧ state.pouch.broken.val ≤ state.pouch.slots.length ∧
      state.saveToReload none = some saved ∧
      (∀ stack ∈ saved.slots, ¬Slots.isBrokenMasterSword stack) ∧
      (state.reload none).2 ∧ pouch.broken = 2 ∧
      ∃ accepted, List.SublistForall₂ (Stack.ServedFrom saved.slots) accepted saved.slots ∧
        pouch.slots.Perm ([soup, key] ++ accepted) ∧ pouch.counted = accepted.length ∧
        accepted.length ≤ saved.slots.length := by
  intro sword key soup stew saved state pouch
  have nonneg : 0 ≤ state.pouch.broken.val := by decide
  have within : state.pouch.broken.val ≤ state.pouch.slots.length := by decide
  have found : state.saveToReload none = some saved := rfl
  have sound : ∀ stack ∈ saved.slots, ¬Slots.isBrokenMasterSword stack := by decide
  exact ⟨nonneg, within, found, sound, reload_keeps_broken state none nonneg within found sound⟩

end Simulation

end Inventory
