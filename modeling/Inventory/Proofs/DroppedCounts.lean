import Inventory.Proofs.Accounts
import Inventory.Proofs.DroppedStacks
import Inventory.Proofs.Trial
import Mathlib.Algebra.Order.Group.Int

set_option autoImplicit false

namespace Inventory

namespace Slots

variable {slots after : Slots} {item : Item} {target stack : Stack}

theorem valueIn_of_held (held : stack.item = item) (slots : Slots) :
    valueIn item (stack :: slots) = stack.value.val + valueIn item slots := by
  rw [valueIn_cons, if_pos held]

theorem valueIn_of_other (other : stack.item ≠ item) (slots : Slots) :
    valueIn item (stack :: slots) = valueIn item slots := by
  rw [valueIn_cons, if_neg other, Int.zero_add]

theorem valueIn_append (item : Item) (before after : Slots) :
    valueIn item (before ++ after) = valueIn item before + valueIn item after := by
  simp [valueIn, holders]

theorem valueIn_perm (item : Item) (perm : after.Perm slots) :
    valueIn item after = valueIn item slots :=
  ((perm.filter _).map _).sum_eq

theorem valueIn_map_bare (item : Item) (slots : Slots) :
    valueIn item (slots.map Stack.bare) = valueIn item slots := by
  induction slots with
  | nil => rfl
  | cons stack rest ih =>
    rw [List.map_cons, valueIn_cons, valueIn_cons, ih]
    rfl

theorem valueIn_nonneg (nonneg : ∀ stack ∈ slots.holders item, 0 ≤ stack.value.val) :
    0 ≤ valueIn item slots := by
  apply List.sum_nonneg
  simpa using nonneg

theorem value_le_valueIn (nonneg : ∀ stack ∈ slots.holders item, 0 ≤ stack.value.val)
    (held : stack ∈ slots.holders item) : stack.value.val ≤ valueIn item slots := by
  apply List.single_le_sum
  next => simpa using nonneg
  next => exact List.mem_map_of_mem held

/-- Slots after an item's value has changed by so much, and that of no other item. -/
structure Shifted (slots : Slots) (item : Item) (change : Int) (after : Slots) : Prop where
  value : valueIn item after = valueIn item slots + change
  others : ∀ other, other ≠ item → valueIn other after = valueIn other slots

theorem Shifted.trans {first second : Slots} {m n : Int} (before : slots.Shifted item m first)
    (after : first.Shifted item n second) : slots.Shifted item (m + n) second where
  value := by rw [after.value, before.value, Int.add_assoc]
  others other apart := (after.others other apart).trans (before.others other apart)

theorem valueIn_of_remnants {manner : Manner} {entries : List (Option Stack)}
    (remnants : List.Forall₂ (Remnant manner target.item) entries slots) {other : Item}
    (apart : other ≠ target.item) : valueIn other (entries.filterMap id) = valueIn other slots := by
  induction remnants with
  | nil => rfl
  | @cons entry before entries slots remnant rest ih =>
    by_cases held : before.item = target.item
    next =>
      have others : before.item ≠ other := fun same => apart (same.symm.trans held)
      cases entry with
      | none => simpa [valueIn_cons, others] using ih
      | some stack =>
        have same := remnant.item rfl
        simpa [valueIn_cons, others, same] using ih
    next =>
      rw [remnant.other held]
      simpa [valueIn_cons] using ih

theorem shifted_withdraw {manner : Manner} (amount : Amount) (counted : manner.counts target)
    (nonneg : ∀ stack ∈ slots.holders target.item, 0 ≤ stack.value.val) :
    ∃ paid : Int, 0 ≤ paid ∧ (slots.withdraw target amount manner).2.val = min paid 2147483647 ∧
      slots.Shifted target.item (-paid) (slots.withdraw target amount manner).1 ∧
      ∀ stack ∈ holders (slots.withdraw target amount manner).1 target.item, 0 ≤ stack.value.val := by
  obtain ⟨paid, balanced⟩ := balanced_served amount manner nonneg
  have worth := balanced.worth
  rw [worthIn_of_counts counted, worthIn_of_counts counted] at worth
  refine ⟨paid, balanced.nonneg, balanced.removed, ?shifted, ?left⟩
  case shifted =>
    constructor
    case value => rw [withdraw_eq, valueIn_remaining, worth, Int.sub_eq_add_neg]
    case others =>
      intro other apart
      rw [withdraw_eq, valueIn_remaining, valueIn_of_remnants balanced.remnants apart]
  case left =>
    intro stack left
    obtain ⟨_, before, -, there, held, remnant⟩ :=
      balanced.origin ((List.filter_sublist.filter _).subset left)
    exact (remnant.bounds (nonneg before (mem_holders there held)) rfl).1

theorem shifted_withValue (held : stack.item = item) (before after : Slots) (value : Count) :
    Shifted (before ++ stack :: after) item (value.val - stack.value.val)
      (before ++ stack.withValue value :: after) := by
  have same : (stack.withValue value).item = stack.item := rfl
  have rest : (stack.withValue value).value = value := rfl
  constructor
  case value =>
    rw [valueIn_append, valueIn_append, valueIn_of_held held, valueIn_of_held (same.trans held), rest]
    omega
  case others =>
    intro other apart
    have different : stack.item ≠ other := fun equal => apart (equal.symm.trans held)
    rw [valueIn_append, valueIn_append, valueIn_of_other different,
      valueIn_of_other (same ▸ different)]

theorem shifted_placeEquipping (slots : Slots) (stack : Stack) (counted : Int) :
    slots.Shifted stack.item stack.value.val (slots.placeEquipping stack counted).1 := by
  have placed (item : Item) := valueIn_perm item (slots.perm_placeEquipping stack counted)
  have nothing (item : Item) : valueIn item [] = 0 := rfl
  simp only [valueIn_map_bare, valueIn_append] at placed
  constructor
  case value =>
    rw [placed, valueIn_of_held stack.bare_item, nothing, Int.add_zero, Stack.bare_value]
  case others =>
    intro item apart
    rw [placed, valueIn_of_other (stack.bare_item ▸ Ne.symm apart), nothing, Int.add_zero]

theorem shifted_obtain (stack : Stack) (repeatable : stack.item.repeatable)
    (nonneg : ∀ other ∈ slots.holders stack.item, 0 ≤ other.value.val) (filled : 0 ≤ stack.value.val)
    (room : valueIn stack.item slots + stack.value.val ≤ 999) (counted : Int) (last : Option Nat) :
    slots.Shifted stack.item stack.value.val (slots.obtain stack counted last).1 := by
  unfold obtain
  split
  next i found =>
    obtain ⟨before, other, after, rfl, rfl, -, held, -⟩ := sameItemAt?_eq_some found
    have member : other ∈ holders (before ++ other :: after) stack.item := by simp [holders, held]
    have positive := nonneg other member
    have part := value_le_valueIn nonneg member
    -- The slot that is there holds no more than all slots do, so the sum stays below the cap.
    have sum : ((other.value.plus stack.value).atMost cap).val - other.value.val =
        stack.value.val := by
      rw [val_plus_atMost_cap]
      omega
    rw [modify_at]
    exact sum ▸ shifted_withValue held before after _
  next fresh =>
    have unmet : slots.uniqueAt? stack counted = none := by simp [uniqueAt?, repeatable]
    rw [unmet]
    exact shifted_placeEquipping slots stack counted

end Slots

namespace Simulation

/-- Whether the game data hold what the pouch does, or nothing if no item is counted. -/
def InSync (state : Simulation) : Prop :=
  state.gameData.slots = if state.pouch.counted ≤ 0 then [] else state.pouch.slots

@[simp] theorem inTrial_sync (state : Simulation) : state.sync.inTrial = state.inTrial := by
  unfold sync
  split <;> rfl

theorem inSync_sync {state : Simulation} (outside : state.inTrial = false) : state.sync.InSync := by
  rw [InSync, sync, outside]
  rfl

variable {state : Simulation} {target : Stack}

theorem inSync_dropAndPickUp (outside : state.inTrial = false) (target : Stack) (amount : Amount)
    (start : Nat) : (state.dropAndPickUp target amount start).1.InSync := by
  unfold dropAndPickUp
  split
  next dropped n removed =>
    obtain rfl : (state.remove target amount start).1 = dropped := congrArg Prod.fst removed
    split
    next => exact inSync_sync (by simp [remove, withdraw, outside])
    next => exact inSync_sync outside

theorem shifted_dropAndPickUp (state : Simulation) (amount : Amount) (start : Nat)
    (stackable : target.item.stackable) (repeatable : target.item.repeatable)
    (nonneg : ∀ stack ∈ state.pouch.slots.holders target.item, 0 ≤ stack.value.val)
    (few : Slots.valueIn target.item state.pouch.slots ≤ 999) :
    state.pouch.slots.Shifted target.item 0
        (state.dropAndPickUp target amount start).1.pouch.slots ∧
      0 ≤ (state.dropAndPickUp target amount start).2.val ∧
      (state.dropAndPickUp target amount start).2.val ≤
        Slots.valueIn target.item state.pouch.slots := by
  have counted : (Manner.drop start).counts target := by simp [Manner.counts, stackable]
  obtain ⟨paid, positive, told, lost, left⟩ := Slots.shifted_withdraw amount counted nonneg
  obtain ⟨pouch, n, dropped, same, picked⟩ := dropAndPickUp_eq state target amount start
  have one : (Lot.mk target n).slots = [target.withValue n] := if_pos stackable
  rw [dropped] at told lost left
  rw [same, picked, one]
  -- No more can be dropped than there was, so the count does not stop at its bound.
  have most := Slots.valueIn_nonneg left
  rw [lost.value] at most
  obtain rfl : n.val = paid := told.trans (by omega)
  refine ⟨?_, positive, by omega⟩
  split
  next some =>
    -- What is left and what comes back are together as many as before, so they fit one slot.
    have room : Slots.valueIn target.item pouch.slots + n.val ≤ 999 := by
      rw [lost.value]
      omega
    have back := Slots.shifted_obtain (target.withValue n) repeatable left positive room pouch.counted none
    have both : -n.val + (target.withValue n).value.val = 0 := Int.add_left_neg n.val
    exact both ▸ lost.trans back
  next none =>
    have nothing : -n.val = 0 := by omega
    exact nothing ▸ lost

theorem dropAndPickUp_conserves (state : Simulation) (target : Stack) (amount : Amount) (start : Nat)
    (stackable : target.item.stackable) (repeatable : target.item.repeatable)
    (nonneg : ∀ stack ∈ state.pouch.slots.holders target.item, 0 ≤ stack.value.val)
    (few : Slots.valueIn target.item state.pouch.slots ≤ 999) :
    let after := (state.dropAndPickUp target amount start).1
    let told := (state.dropAndPickUp target amount start).2
    Slots.valueIn target.item after.pouch.slots = Slots.valueIn target.item state.pouch.slots ∧
      0 ≤ told.val ∧ told.val ≤ Slots.valueIn target.item state.pouch.slots ∧
      (∀ item, item ≠ target.item →
        Slots.valueIn item after.pouch.slots = Slots.valueIn item state.pouch.slots) ∧
      (state.inTrial = false →
        after.gameData.slots = if after.pouch.counted ≤ 0 then [] else after.pouch.slots) ∧
      (state.inTrial → after.gameData = state.gameData) := by
  intro after told
  obtain ⟨shifted, least, most⟩ :=
    shifted_dropAndPickUp state amount start stackable repeatable nonneg few
  refine ⟨?_, least, most, shifted.others, ?_, ?_⟩
  next => rw [shifted.value, Int.add_zero]
  next => exact fun outside => inSync_dropAndPickUp outside target amount start
  next => exact fun trial => (dropAndPickUp_of_trial trial target amount start).2

theorem dropAndPickUp_conserves_apples :
    let apple := Stack.new (Item.new "MaterialA" .material)
    let herbs := Stack.new (Item.new "MaterialB" .material)
    let state := initial.run [.startWith [apple.withValue 3, herbs.withValue 0, herbs.withValue 2,
      apple.withValue 2]]
    apple.item.stackable ∧ apple.item.repeatable ∧
      (∀ stack ∈ state.pouch.slots.holders apple.item, 0 ≤ stack.value.val) ∧
      Slots.valueIn apple.item state.pouch.slots = 5 ∧
      Slots.valueIn apple.item (state.dropAndPickUp apple (.count 4) 1).1.pouch.slots = 5 ∧
      herbs.item ≠ apple.item ∧
      Slots.valueIn herbs.item (state.dropAndPickUp apple (.count 4) 1).1.pouch.slots = 2 ∧
      (state.dropAndPickUp apple (.count 4) 1).1.gameData.slots =
        (state.dropAndPickUp apple (.count 4) 1).1.pouch.slots := by
  intro apple herbs state
  have stackable : apple.item.stackable := by decide
  have repeatable : apple.item.repeatable := by decide
  have nonneg : ∀ stack ∈ state.pouch.slots.holders apple.item, 0 ≤ stack.value.val := by decide
  have five : Slots.valueIn apple.item state.pouch.slots = 5 := by decide
  have two : Slots.valueIn herbs.item state.pouch.slots = 2 := by decide
  have apart : herbs.item ≠ apple.item := by decide
  have counts : ¬(state.dropAndPickUp apple (.count 4) 1).1.pouch.counted ≤ 0 := by decide
  obtain ⟨apples, -, -, others, outside, -⟩ :=
    dropAndPickUp_conserves state apple (.count 4) 1 stackable repeatable nonneg (by omega)
  have synced := outside rfl
  rw [if_neg counts] at synced
  exact ⟨stackable, repeatable, nonneg, five, apples.trans five, apart,
    (others herbs.item apart).trans two, synced⟩

end Simulation

end Inventory
