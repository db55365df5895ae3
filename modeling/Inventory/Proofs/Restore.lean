import Inventory.Pouch
import Inventory.Proofs.Tidy

set_option autoImplicit false

namespace Inventory

namespace Slots

theorem restore_cases (slots : Slots) (stack : Stack) (counted : Int) (capacity : Capacity)
    (last : Option Nat) :
    slots.restore stack counted capacity last = (slots, last) ∨
      (∃ i, isBrokenMasterSword stack ∧ slots.restore stack counted capacity last =
        (slots.modify i fun other => (other.withValue 0).withEquipped false, none)) ∨
      slots.overflows stack counted = false ∧ slots.uniqueAt? stack counted = none ∧
        (slots.sameItemAt? stack = none → capacity.isFull slots stack.kind = false) ∧
        slots.restore stack counted capacity last = (slots.place stack counted).map id some := by
  unfold restore
  split
  next => exact .inl rfl
  next room =>
    split
    next i _ =>
      unfold meetUnique
      split
      next broken => exact .inr (.inl ⟨i, broken, rfl⟩)
      next => exact .inl rfl
    next unique =>
      split
      next => exact .inl rfl
      next open' =>
        refine .inr (.inr ⟨by simpa using room, unique, fun fresh => ?_, rfl⟩)
        simpa [fresh] using open'

theorem restore_of_room {slots : Slots} {stack : Stack} {counted : Int} {capacity : Capacity}
    (fresh : slots.sameItemAt? stack = none) (unique : slots.uniqueAt? stack counted = none)
    (room : capacity.isFull slots stack.kind = false) (last : Option Nat) :
    slots.restore stack counted capacity last = (slots.place stack counted).map id some := by
  have fits : slots.overflows stack counted = false := by simp [overflows, fresh]
  simp [restore, fits, unique, fresh, room]

theorem LeftOf.append {a a' b b' : Slots} (first : a.LeftOf a') (second : b.LeftOf b') :
    LeftOf (a ++ b) (a' ++ b') := by
  induction first with
  | nil =>
    exact second.trans (leftOf_of_sublist (List.sublist_append_right _ _))
  | cons related _ ih => exact .cons related ih
  | cons_right _ ih => exact .cons_right ih

theorem restore_leftOf (slots : Slots) (stack : Stack) (counted : Int) (capacity : Capacity)
    (last : Option Nat) :
    ∃ row, (slots.restore stack counted capacity last).1.Perm row ∧ LeftOf row (slots ++ [stack]) := by
  have without : LeftOf slots (slots ++ [stack]) :=
    leftOf_of_sublist (List.sublist_append_left _ _)
  rcases restore_cases slots stack counted capacity last with
    same | ⟨i, _, reset⟩ | ⟨_, _, _, placed⟩
  · exact ⟨slots, by rw [same], without⟩
  · rw [reset]
    exact ⟨_, .refl _, LeftOf.trans (leftOf_modify Stack.leftOf_reset slots i) without⟩
  · rw [placed]
    exact ⟨_, place_perm slots stack counted, .refl _⟩

theorem sorted_restore {slots : Slots} {counted : Int} (sorted : slots.Sorted)
    (counts : slots ≠ [] → 0 < counted) (stack : Stack) (capacity : Capacity) (last : Option Nat) :
    Sorted (slots.restore stack counted capacity last).1 := by
  rcases restore_cases slots stack counted capacity last with
    same | ⟨i, _, reset⟩ | ⟨_, _, _, placed⟩
  · rwa [same]
  · rw [reset]
    exact sorted.leftOf (leftOf_modify Stack.leftOf_reset slots i)
  · rw [placed]
    exact sorted_place stack counts

end Slots

namespace GameData

/-- The stack that a reload puts in the place of a saved one: food comes with the details of the dish
whose turn it is. -/
def Filling.served (dishes : List Stack) (filling : Filling) (stack : Stack) : Stack :=
  if stack.kind = .food then stack.withDetailsOf ((dishes[filling.dish]?).getD stack) else stack

theorem Filling.restore_eq (dishes : List Stack) (capacity : Capacity) (filling : Filling)
    (stack : Stack) :
    filling.restore dishes capacity stack =
      let restored := filling.pouch.slots.restore (filling.served dishes stack) filling.pouch.counted
        capacity filling.last
      { pouch := { filling.pouch with slots := restored.1 }
        last := restored.2
        dish := if restored.2.isSome && isFood stack then filling.dish + 1 else filling.dish } := by
  unfold Filling.restore Pouch.restore Filling.served isFood
  by_cases food : stack.kind = .food <;> simp [food]

theorem Filling.served_leftOf (dishes : List Stack) (filling : Filling) (stack : Stack) :
    (filling.served dishes stack).LeftOf stack := by
  unfold Filling.served
  split
  next => exact ⟨rfl, id⟩
  next => exact .refl stack

theorem tidy_filling (dishes : List Stack) (capacity : Capacity) (rest : List Stack)
    (filling : Filling) (whole : filling.pouch.broken = 0) (sorted : filling.pouch.slots.Sorted)
    (apart : (filling.pouch.slots ++ rest).Pairwise Stack.Apart) :
    (rest.foldl (Filling.restore dishes capacity) filling).pouch.slots.Tidy ∧
      (rest.foldl (Filling.restore dishes capacity) filling).pouch.broken = 0 := by
  -- The stacks still to come have to be apart from the row as well, so the invariant is on both.
  induction rest generalizing filling with
  | nil => exact ⟨Slots.tidy_iff.2 ⟨sorted, by simpa using apart⟩, whole⟩
  | cons stack rest ih =>
    have counts : filling.pouch.slots ≠ [] → 0 < filling.pouch.counted := Pouch.counted_pos whole
    rw [List.foldl_cons, Filling.restore_eq]
    refine ih _ whole (Slots.sorted_restore sorted counts _ _ _) ?_
    obtain ⟨row, perm, left⟩ := Slots.restore_leftOf filling.pouch.slots
      (filling.served dishes stack) filling.pouch.counted capacity filling.last
    have saved : Slots.LeftOf (filling.pouch.slots ++ [filling.served dishes stack])
        (filling.pouch.slots ++ [stack]) :=
      (Slots.LeftOf.refl _).append (.cons (filling.served_leftOf dishes stack) .nil)
    have before : Slots.LeftOf (row ++ rest) (filling.pouch.slots ++ stack :: rest) := by
      simpa using (left.trans saved).append (Slots.LeftOf.refl rest)
    exact Slots.pairwise_apart_of_perm (perm.append_right rest)
      (Slots.pairwise_apart_leftOf apart before)

theorem tidy_fill {data : GameData} {pouch : Pouch} (tidy : data.slots.Tidy)
    (empty : pouch.slots = []) (whole : pouch.broken = 0) :
    (data.fill pouch).slots.Tidy ∧ (data.fill pouch).broken = 0 := by
  refine tidy_filling _ _ data.slots ⟨pouch, none, 0⟩ whole ?_ ?_
  · rw [empty]
    exact .nil
  · rw [empty]
    exact (Slots.tidy_iff.1 tidy).2

theorem leftOf_takeDurability (pouch : Pouch) (data : GameData) (kind : Kind) :
    (takeDurability pouch data kind).slots.LeftOf data.slots := by
  unfold takeDurability
  split
  next first last _ _ =>
    unfold updateLife
    cases updated : data.slots.updateLife last.value first with
    | error fault => exact .refl _
    | ok slots => exact Slots.leftOf_updateLife updated
  next => exact .refl _

theorem leftOf_takeDurabilities (data : GameData) (pouch : Pouch) :
    (data.takeDurabilities pouch).slots.LeftOf data.slots :=
  (leftOf_takeDurability pouch _ .shield).trans
    ((leftOf_takeDurability pouch _ .bow).trans (leftOf_takeDurability pouch data .weapon))

end GameData

end Inventory
