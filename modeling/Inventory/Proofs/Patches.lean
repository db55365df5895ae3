import Inventory.Slots.Basic

set_option autoImplicit false

namespace Inventory

namespace Slots

def withLife (stack : Stack) (life : Count) : Stack :=
  stack.withValue (if isCapped stack then life.atMost cap else life)

def writeLife (slots : Slots) (write : Nat × Count) : Slots :=
  match slots.updateLife write.2 write.1 with
  | .ok written => written
  | .error _ => slots

variable (slots : Slots)

theorem updateLife_of_within {index : Nat} (within : index < slots.length) (life : Count) :
    slots.updateLife life index = .ok (slots.modify index fun stack => withLife stack life) := by
  simp [updateLife, within, withLife, List.modify_eq_take_cons_drop within,
    List.set_eq_take_append_cons_drop]

theorem updateLife_of_past {index : Nat} (past : slots.length ≤ index) (life : Count) :
    slots.updateLife life index = .error (.indexOutOfBounds index slots.length) := by
  simp [updateLife, List.getElem?_eq_none past]

theorem writeLife_eq_modify (write : Nat × Count) :
    slots.writeLife write = slots.modify write.1 fun stack => withLife stack write.2 := by
  unfold writeLife
  rcases Nat.lt_or_ge write.1 slots.length with within | past
  next => rw [updateLife_of_within slots within]
  next => rw [updateLife_of_past slots past, List.modify_eq_self past]

theorem getElem?_writeLife (write : Nat × Count) (i : Nat) :
    (slots.writeLife write)[i]? =
      if i = write.1 then (slots[i]?).map fun stack => withLife stack write.2 else slots[i]? := by
  rw [writeLife_eq_modify, List.getElem?_modify]
  by_cases same : write.1 = i
  next => simp [same]
  next => simp [same, Ne.symm same]

theorem withLife_withLife (stack : Stack) (first second : Count) :
    withLife (withLife stack first) second = withLife stack second := rfl

theorem getElem?_foldl_writeLife (writes : List (Nat × Count)) (i : Nat) :
    (writes.foldl writeLife slots)[i]? =
      (slots[i]?).map fun stack => ((writes.reverse.lookup i).map (withLife stack)).getD stack := by
  induction writes generalizing slots with
  | nil => simp
  | cons write rest ih =>
    obtain ⟨j, life⟩ := write
    rw [List.foldl_cons, ih, getElem?_writeLife, List.reverse_cons, List.lookup_append]
    by_cases here : i = j
    next =>
      -- A later write at the same place hides this one: the stack there has the same cap.
      subst here
      cases rest.reverse.lookup i <;> simp [withLife_withLife, Function.comp_def]
    next =>
      have other : (i == j) = false := by simpa using here
      simp [List.lookup_cons, here, other]

variable {slots}

theorem foldl_writeLife_eq_iff {writes : List (Nat × Count)} :
    writes.foldl writeLife slots = slots ↔
      ∀ i stack life, slots[i]? = some stack → writes.reverse.lookup i = some life →
        withLife stack life = stack := by
  constructor
  · intro same i stack life here last
    have after := getElem?_foldl_writeLife slots writes i
    rw [same, here, last] at after
    simpa using after.symm
  · intro spared
    refine List.ext_getElem? fun i => ?_
    rw [getElem?_foldl_writeLife]
    cases here : slots[i]? with
    | none => rfl
    | some stack =>
      cases last : writes.reverse.lookup i with
      | none => rfl
      | some life => simp [spared i stack life here last]

end Slots

end Inventory
