import Inventory.Proofs.Obtaining
import Inventory.Proofs.Restore
import Mathlib.Data.List.Dedup

set_option autoImplicit false

namespace Inventory

theorem Capacity.limit_of_shelf (capacity : Capacity) {kind other : Kind}
    (same : kind.shelf = other.shelf) : capacity.limit kind = capacity.limit other := by
  revert same
  cases kind <;> cases other <;>
    first
    | exact fun _ => rfl
    | exact fun same => absurd same (by decide)

namespace Slots

def shelf (slots : Slots) (kind : Kind) : List Item :=
  (slots.map Stack.item).filter fun item => item.kind.shelf = kind.shelf

/-- How many places items take up: one for each slot, but only one for all slots of a counted item. -/
def places (items : List Item) : Nat :=
  (items.filter fun item => !item.stackable).length + (items.filter Item.stackable).dedup.length

section Places

variable {items others : List Item} {item : Item}

theorem places_perm (perm : items.Perm others) : places items = places others := by
  rw [places, places, (perm.filter _).length_eq, (perm.filter _).dedup.length_eq]

theorem places_cons_of_held (stackable : item.stackable) (held : item ∈ items) :
    places (item :: items) = places items := by
  have known : item ∈ items.filter Item.stackable := List.mem_filter.2 ⟨held, stackable⟩
  simp [places, stackable, List.dedup_cons_of_mem known]

theorem places_of_nodup (nodup : (items.filter Item.stackable).Nodup) :
    places items = items.length := by
  have parts := List.length_eq_length_filter_add (l := items) Item.stackable
  rw [places, nodup.dedup]
  omega

theorem places_le_length (items : List Item) : places items ≤ items.length := by
  have distinct := (List.dedup_sublist (items.filter Item.stackable)).length_le
  have parts := List.length_eq_length_filter_add (l := items) Item.stackable
  rw [places]
  omega

end Places

section Shelf

variable {slots others : Slots} {kind : Kind}

theorem length_shelf (slots : Slots) (kind : Kind) :
    (slots.shelf kind).length = slots.countP fun stack => stack.kind.shelf = kind.shelf := by
  rw [shelf, ← List.countP_eq_length_filter, List.countP_map]
  rfl

theorem shelf_perm (perm : slots.Perm others) (kind : Kind) :
    (slots.shelf kind).Perm (others.shelf kind) :=
  (perm.map Stack.item).filter _

theorem shelf_modify {change : Stack → Stack} (same : ∀ stack, (change stack).item = stack.item)
    (slots : Slots) (i : Nat) (kind : Kind) : shelf (slots.modify i change) kind = slots.shelf kind := by
  have items : (slots.modify i change).map Stack.item = slots.map Stack.item := by
    apply List.ext_getElem?
    intro j
    rw [List.getElem?_map, List.getElem?_map, List.getElem?_modify]
    cases slots[j]? <;> by_cases here : i = j <;> simp [here, same]
  rw [shelf, items, shelf]

theorem shelf_place (slots : Slots) (stack : Stack) (counted : Int) (kind : Kind) :
    (shelf (slots.place stack counted).1 kind).Perm
      (if stack.kind.shelf = kind.shelf then stack.item :: slots.shelf kind else slots.shelf kind) := by
  have first := (place_perm slots stack counted).trans List.perm_append_comm
  have added := shelf_perm first kind
  have kinds : stack.item.kind = stack.kind := rfl
  by_cases same : stack.kind.shelf = kind.shelf <;> simpa [shelf, kinds, same] using added

end Shelf

def WithinLimits (slots : Slots) (capacity : Capacity) : Prop :=
  ∀ kind, places (slots.shelf kind) ≤ capacity.limit kind

theorem WithinLimits.place {slots : Slots} {capacity : Capacity} {stack : Stack}
    (within : slots.WithinLimits capacity)
    (room : slots.sameItemAt? stack = none → capacity.isFull slots stack.kind = false) (counted : Int) :
    WithinLimits (slots.place stack counted).1 capacity := by
  intro kind
  have before := within kind
  rw [places_perm (shelf_place slots stack counted kind)]
  split
  next same =>
    cases found : slots.sameItemAt? stack with
    | none =>
      -- A new item may take a place of its own, but then the shelf is not full.
      have few := room found
      have most := places_le_length (stack.item :: slots.shelf kind)
      rw [Capacity.isFull, same, ← length_shelf, decide_eq_false_iff_not,
        capacity.limit_of_shelf same] at few
      rw [List.length_cons] at most
      omega
    | some i =>
      -- The limit is not asked for here, and the item has its place already.
      obtain ⟨front, other, back, split, -, stackable, held, -⟩ := sameItemAt?_eq_some found
      have there : stack.item ∈ slots.shelf kind := by
        have shelved : stack.item.kind.shelf = kind.shelf := same
        simp [shelf, split, held, shelved]
      rwa [places_cons_of_held stackable there]
  next => exact before

theorem WithinLimits.restore {slots : Slots} {capacity : Capacity} (within : slots.WithinLimits capacity)
    (stack : Stack) (counted : Int) (last : Option Nat) :
    WithinLimits (slots.restore stack counted capacity last).1 capacity := by
  rcases restore_cases slots stack counted capacity last with
    same | ⟨i, -, reset⟩ | ⟨-, -, room, placed⟩
  · rwa [same]
  · rw [reset]
    intro kind
    rw [shelf_modify]
    next => exact within kind
    next => exact fun _ => rfl
  · rw [placed]
    exact within.place room counted

end Slots

namespace GameData

theorem withinLimits_filling (dishes : List Stack) (capacity : Capacity) (rest : List Stack)
    (filling : Filling) (within : filling.pouch.slots.WithinLimits capacity) :
    (rest.foldl (Filling.restore dishes capacity) filling).pouch.slots.WithinLimits capacity := by
  induction rest generalizing filling with
  | nil => exact within
  | cons stack rest ih =>
    rw [List.foldl_cons, Filling.restore_eq]
    exact ih _ (within.restore _ _ _)

/-- A reload fills no shelf beyond its limit, if a counted item is taken for one however many slots it
has. So a shelf on which no counted item has two slots has no more slots than its limit. -/
theorem fill_withinLimits (data : GameData) (kind : Kind) :
    let shelf := (data.fill .empty).slots.shelf kind
    Slots.places shelf ≤ data.capacity.limit kind ∧
      ((shelf.filter Item.stackable).Nodup →
        ((data.fill .empty).slots.countP fun stack => stack.kind.shelf = kind.shelf) ≤
          data.capacity.limit kind) := by
  have empty : Pouch.empty.slots.WithinLimits data.capacity := fun _ => Nat.zero_le _
  have within := withinLimits_filling (data.slots.filter isFood) data.capacity data.slots
    ⟨.empty, none, 0⟩ empty kind
  refine ⟨within, fun nodup => ?_⟩
  rw [← Slots.length_shelf, ← Slots.places_of_nodup nodup]
  exact within

theorem fill_withinLimits_of_bows :
    let bow := Stack.new (Item.new "BowA" .bow)
    let data : GameData := ⟨List.replicate 6 bow, .initial⟩
    (((data.fill .empty).slots.shelf .bow).filter Item.stackable).Nodup ∧
      ((data.fill .empty).slots.countP fun stack => stack.kind.shelf = Kind.bow.shelf) ≤ 5 := by
  intro bow data
  have nodup : (((data.fill .empty).slots.shelf .bow).filter Item.stackable).Nodup := by decide
  exact ⟨nodup, (fill_withinLimits data .bow).2 nodup⟩

theorem not_fill_within_limit :
    ¬∀ (data : GameData) (kind : Kind),
      ((data.fill .empty).slots.countP fun stack => stack.kind.shelf = kind.shelf) ≤
        data.capacity.limit kind := by
  intro within
  let arrow := Stack.new (Item.new "ArrowA" .arrow)
  have few := within ⟨List.replicate 7 arrow, .initial⟩ .arrow
  revert few
  decide

end GameData

end Inventory
