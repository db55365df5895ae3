import Inventory.Slots.Basic
import Inventory.Proofs.Sorting

set_option autoImplicit false

namespace Inventory

theorem Tab.number_injective {tab other : Tab} (same : tab.number = other.number) : tab = other := by
  revert same
  cases tab <;> cases other <;> decide

theorem Kind.shelf_eq_iff {kind other : Kind} :
    kind.shelf = other.shelf ↔ (kind = .arrow ↔ other = .arrow) ∧ kind.tab = other.tab := by
  cases kind <;> cases other <;> decide

theorem Kind.tab_number_le_of_shelf_le {kind other : Kind} (le : kind.shelf ≤ other.shelf) :
    kind.tab.number ≤ other.tab.number := by
  cases kind <;> cases other <;> revert le <;> decide

namespace Stack

theorem sortKey_le_iff {a b : Stack} :
    a.sortKey ≤ b.sortKey ↔ a.kind.shelf < b.kind.shelf ∨
      a.kind.shelf = b.kind.shelf ∧ (a.kind = .arrow → a.item.rank.val ≤ b.item.rank.val) := by
  have := a.item.rank.lo_le
  have := a.item.rank.le_hi
  have := b.item.rank.lo_le
  have := b.item.rank.le_hi
  unfold sortKey
  -- Ranks differ by less than 2 ^ 32, so they never make up for a step to the next shelf.
  by_cases same : a.kind.shelf = b.kind.shelf
  next =>
    have arrows := (Kind.shelf_eq_iff.1 same).1
    by_cases first : a.kind = .arrow
    · simp [arrows.1 first, first]
    · simp [mt arrows.2 first, first, same]
  next => split <;> split <;> omega

theorem shelf_le_of_sortKey_le {a b : Stack} (le : a.sortKey ≤ b.sortKey) :
    a.kind.shelf ≤ b.kind.shelf := by
  rcases sortKey_le_iff.1 le with less | ⟨same, _⟩ <;> omega

theorem tab_number_le_of_sortKey_le {a b : Stack} (le : a.sortKey ≤ b.sortKey) :
    a.tab.number ≤ b.tab.number :=
  Kind.tab_number_le_of_shelf_le (shelf_le_of_sortKey_le le)

/-- The order in which slots are shown: by tab, bows before arrows, and arrows by rank. -/
def InOrder (a b : Stack) : Prop :=
  a.tab.number < b.tab.number ∨
    a.tab = b.tab ∧ (a.tab = .bow → a.kind.number < b.kind.number ∨
      a.kind = b.kind ∧ (a.kind = .arrow → a.item.rank.val ≤ b.item.rank.val))

theorem inOrder_iff {a b : Stack} : a.InOrder b ↔ a.sortKey ≤ b.sortKey := by
  have tabs (stack : Stack) : stack.tab = stack.kind.tab := rfl
  simp only [sortKey_le_iff, InOrder, tabs]
  -- The ranks occur in the same way on both sides; what is left is a table of kinds.
  generalize a.kind = kind
  generalize b.kind = other
  cases kind <;> cases other <;> simp [Kind.tab, Tab.number, Kind.number, Kind.shelf]

end Stack

namespace Slots

def Sorted (slots : Slots) : Prop := slots.Pairwise fun a b => a.sortKey ≤ b.sortKey

instance (slots : Slots) : Decidable slots.Sorted :=
  inferInstanceAs (Decidable (slots.Pairwise fun a b => a.sortKey ≤ b.sortKey))

theorem Sorted.of_map_eq {slots others : Slots} (sorted : others.Sorted)
    (keys : slots.map Stack.sortKey = others.map Stack.sortKey) : slots.Sorted := by
  have := List.pairwise_map.2 sorted
  rw [← keys] at this
  exact List.pairwise_map.1 this

theorem sorted_iff_inOrder {slots : Slots} : slots.Sorted ↔ slots.Pairwise Stack.InOrder :=
  ⟨fun sorted => sorted.imp Stack.inOrder_iff.2, fun ordered => ordered.imp Stack.inOrder_iff.1⟩

theorem place_perm (slots : Slots) (stack : Stack) (counted : Int) :
    (slots.place stack counted).1.Perm (slots ++ [stack]) := by
  unfold place
  split
  next => exact sortBy_perm _ _
  next => exact .refl _

theorem sorted_place {slots : Slots} {counted : Int} (stack : Stack)
    (counts : slots ≠ [] → 0 < counted) : (slots.place stack counted).1.Sorted := by
  unfold place
  split
  next => exact sortBy_pairwise _ _
  next none =>
    obtain rfl : slots = [] := by_contra fun some => none (counts some)
    exact List.pairwise_singleton _ _

theorem place_of_sorted {slots : Slots} {stack : Stack} (counted : Int)
    (sorted : Sorted (slots ++ [stack])) : (slots.place stack counted).1 = slots ++ [stack] := by
  unfold place
  split
  next => exact sortBy_of_pairwise sorted
  next => rfl

end Slots

end Inventory
