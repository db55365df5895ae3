import Inventory.Proofs.FirstTab
import Inventory.Proofs.LeftOf
import Inventory.Proofs.Materials

set_option autoImplicit false

namespace Inventory

/-- Slots that can be in one row: not the same counted item, and not both equipped for one kind. -/
structure Stack.Apart (a b : Stack) : Prop where
  items : a.item.stackable → a.item ≠ b.item
  equipped : a.kind = b.kind → ¬(a.equipped ∧ b.equipped)

structure Slots.Tidy (slots : Slots) : Prop where
  ordered : slots.Pairwise Stack.InOrder
  once : slots.Pairwise fun a b => a.item.stackable → a.item ≠ b.item
  oneEquipped : slots.Pairwise fun a b => a.kind = b.kind → ¬(a.equipped ∧ b.equipped)

namespace Stack

theorem kind_of_item_eq {a b : Stack} (same : a.item = b.item) : a.kind = b.kind :=
  congrArg Item.kind same

theorem sortKey_of_item_eq {a b : Stack} (same : a.item = b.item) : a.sortKey = b.sortKey := by
  simp only [sortKey, kind_of_item_eq same, same]

theorem Apart.symm {a b : Stack} (apart : a.Apart b) : b.Apart a :=
  ⟨fun stackable same => apart.items (same ▸ stackable) same.symm,
    fun same both => apart.equipped same.symm both.symm⟩

theorem Apart.leftOf {a b a' b' : Stack} (apart : a'.Apart b') (first : a.LeftOf a')
    (second : b.LeftOf b') : a.Apart b := by
  constructor
  · rw [first.item, second.item]
    exact apart.items
  · rw [kind_of_item_eq first.item, kind_of_item_eq second.item]
    exact fun same both => apart.equipped same ⟨first.equipped both.1, second.equipped both.2⟩

end Stack

namespace Slots

theorem tidy_iff {slots : Slots} : slots.Tidy ↔ slots.Sorted ∧ slots.Pairwise Stack.Apart := by
  constructor
  · intro tidy
    exact ⟨sorted_iff_inOrder.2 tidy.ordered,
      tidy.once.imp₂ (fun _ _ items equipped => ⟨items, equipped⟩) tidy.oneEquipped⟩
  · rintro ⟨sorted, apart⟩
    exact ⟨sorted_iff_inOrder.1 sorted, apart.imp Stack.Apart.items, apart.imp Stack.Apart.equipped⟩

theorem pairwise_apart_of_perm {slots others : Slots} (perm : slots.Perm others)
    (apart : others.Pairwise Stack.Apart) : slots.Pairwise Stack.Apart :=
  (perm.pairwise_iff Stack.Apart.symm).2 apart

theorem Sorted.leftOf {after before : Slots} (sorted : before.Sorted) (left : after.LeftOf before) :
    after.Sorted := by
  refine pairwise_of_sublistForall₂ (fun a b a' b' first second le => ?_) left sorted
  rwa [Stack.sortKey_of_item_eq first.item, Stack.sortKey_of_item_eq second.item]

theorem pairwise_apart_leftOf {after before : Slots} (apart : before.Pairwise Stack.Apart)
    (left : after.LeftOf before) : after.Pairwise Stack.Apart :=
  pairwise_of_sublistForall₂ (fun _ _ _ _ first second apart => apart.leftOf first second) left apart

theorem tidy_nil : Tidy [] := ⟨.nil, .nil, .nil⟩

theorem Tidy.leftOf {after before : Slots} (tidy : before.Tidy) (left : after.LeftOf before) :
    after.Tidy := by
  obtain ⟨sorted, apart⟩ := tidy_iff.1 tidy
  exact tidy_iff.2 ⟨sorted.leftOf left, pairwise_apart_leftOf apart left⟩

theorem tidy_place {slots : Slots} {stack : Stack} {counted : Int} (tidy : slots.Tidy)
    (counts : slots ≠ [] → 0 < counted) (apart : ∀ other ∈ slots, other.Apart stack) :
    (slots.place stack counted).1.Tidy := by
  have added : List.Pairwise Stack.Apart (slots ++ [stack]) := by
    refine List.pairwise_append.2 ⟨(tidy_iff.1 tidy).2, List.pairwise_singleton _ _, ?_⟩
    intro other member new inside
    obtain rfl : new = stack := by simpa using inside
    exact apart other member
  exact tidy_iff.2 ⟨sorted_place stack counts,
    pairwise_apart_of_perm (place_perm slots stack counted) added⟩

theorem item_ne_of_sameItemAt? {slots : Slots} {stack : Stack}
    (absent : slots.sameItemAt? stack = none) {other : Stack} (member : other ∈ slots) :
    other.item.stackable → other.item ≠ stack.item := by
  intro stackable same
  rw [sameItemAt?, ← same, if_pos stackable, List.findIdx?_eq_none_iff] at absent
  simpa using absent other member

theorem equipped_of_unequipKinds {slots : Slots} {kind : Kind} {stack : Stack}
    (member : stack ∈ slots.unequipKinds [kind]) (same : stack.kind = kind) :
    stack.equipped = false := by
  obtain ⟨before, _, rfl⟩ := List.mem_map.1 member
  by_cases hit : before.kind ∈ [kind]
  · rw [if_pos hit]
    rfl
  · rw [if_neg hit] at same
    exact absurd (by simp [same]) hit

theorem unequipFirstArrows_of_counts {slots : Slots} {counted : Int} (sorted : slots.Sorted)
    (counts : slots ≠ [] → 0 < counted) :
    slots.unequipFirstArrows counted = slots.unequipKinds [.arrow] := by
  by_cases empty : slots = []
  · subst empty
    by_cases zero : counted = 0 <;> simp [unequipFirstArrows, firstTab, tabHead_nil, zero, unequipKinds]
  · exact unequipFirstArrows_of_sorted sorted (by have := counts empty; omega)

theorem unequipFirstTab_of_counts {slots : Slots} {counted : Int} (sorted : slots.Sorted)
    (counts : slots ≠ [] → 0 < counted) (kind : Kind) :
    slots.unequipFirstTab kind counted = slots.unequipKinds [kind] := by
  by_cases empty : slots = []
  · subst empty
    by_cases zero : counted = 0 <;> simp [unequipFirstTab, firstTab, tabHead_nil, zero, unequipKinds]
  · exact unequipFirstTab_of_sorted sorted kind (by have := counts empty; omega)

theorem tidy_placeEquipping {slots : Slots} {stack : Stack} {counted : Int} (tidy : slots.Tidy)
    (counts : slots ≠ [] → 0 < counted) (plain : stack.equipped = false)
    (fresh : slots.sameItemAt? stack = none) : (slots.placeEquipping stack counted).1.Tidy := by
  have items := fun other (member : other ∈ slots) => item_ne_of_sameItemAt? fresh member
  have sorted := (tidy_iff.1 tidy).1
  unfold placeEquipping
  split
  next equips =>
    dsimp only
    split
    next arrow =>
      -- The slots are cleared first, and in a sorted row the first tab holds all arrows.
      have cleared := unequipFirstArrows_of_counts sorted counts
      have left := leftOf_unequipKinds slots [.arrow]
      rw [cleared]
      refine tidy_place (tidy.leftOf left) (fun some => counts fun none => some ?_) ?_
      · rw [none]
        rfl
      · intro other member
        obtain ⟨before, inside, kept⟩ := mem_of_sublistForall₂ left member
        refine ⟨kept.item ▸ items before inside, fun same both => ?_⟩
        rw [equipped_of_unequipKinds member (same.trans arrow)] at both
        cases both.1
    next other =>
      refine tidy_place tidy counts fun other member => ⟨items other member, fun same both => ?_⟩
      -- The stack is equipped because nothing of its kind was.
      have equipment : stack.kind.isEquipment := by
        by_contra worn
        simp [equipsItself, *] at equips
      have none : ∀ other ∈ slots, ¬isEquipped stack.kind other := by
        simpa [equipsItself, equipment] using equips
      refine none other member ?_
      have kinds : other.kind = stack.kind := same
      simp [isEquipped, both.1, kinds]
  next =>
    refine tidy_place tidy counts fun other member => ⟨items other member, fun _ both => ?_⟩
    rw [plain] at both
    cases both.2

theorem tidy_obtain {slots : Slots} {stack : Stack} {counted : Int} (tidy : slots.Tidy)
    (counts : slots ≠ [] → 0 < counted) (plain : stack.equipped = false) (last : Option Nat) :
    (slots.obtain stack counted last).1.Tidy := by
  unfold obtain
  split
  next i _ => exact tidy.leftOf (leftOf_modify (fun other => other.leftOf_withValue _) slots i)
  next fresh =>
    split
    next i _ => exact tidy.leftOf (leftOf_meetUnique slots i stack last)
    next => exact tidy_placeEquipping tidy counts plain fresh

theorem split_of_occurrence {slots : Slots} {item : Item} {n i : Nat}
    (found : slots.occurrence item n = some i) :
    ∃ before stack after, slots = before ++ stack :: after ∧ before.length = i ∧
      stack.item = item := by
  induction slots generalizing n i with
  | nil => simp [occurrence] at found
  | cons stack rest ih =>
    have later {m j : Nat} (found : occurrence rest item m = some j) (next : j + 1 = i) :
        ∃ before other after, stack :: rest = before ++ other :: after ∧ before.length = i ∧
          other.item = item := by
      obtain ⟨before, other, after, rfl, rfl, same⟩ := ih found
      exact ⟨stack :: before, other, after, rfl, next, same⟩
    unfold occurrence at found
    split at found
    next same =>
      cases n with
      | zero => exact ⟨[], stack, rest, rfl, by simpa using found, same⟩
      | succ n =>
        obtain ⟨j, found, next⟩ := Option.map_eq_some_iff.1 found
        exact later found next
    next =>
      obtain ⟨j, found, next⟩ := Option.map_eq_some_iff.1 found
      exact later found next

theorem tidy_equip {slots : Slots} {counted : Int} (tidy : slots.Tidy)
    (counts : slots ≠ [] → 0 < counted) (item : Item) (n : Nat) :
    (slots.equip item n counted).Tidy := by
  obtain ⟨sorted, _⟩ := tidy_iff.1 tidy
  have cleared := tidy.leftOf (leftOf_unequipKinds slots [item.kind])
  have plain : ∀ stack ∈ slots.unequipKinds [item.kind], stack.kind = item.kind →
      stack.equipped = false := fun _ => equipped_of_unequipKinds
  unfold equip
  rw [unequipFirstTab_of_counts sorted counts]
  dsimp only
  split
  next => exact cleared
  next i found =>
    obtain ⟨before, stack, after, same, rfl, rfl⟩ := split_of_occurrence found
    rw [same] at cleared plain ⊢
    have changed : List.modify (before ++ stack :: after) before.length
        (fun stack => stack.withEquipped true) = before ++ stack.withEquipped true :: after := by
      simp [List.modify_eq_take_drop]
    rw [changed]
    -- Only the pairs with the equipped stack are new, so it is taken to the front.
    obtain ⟨sorted, apart⟩ := tidy_iff.1 cleared
    refine tidy_iff.2 ⟨?_, pairwise_apart_of_perm List.perm_middle ?_⟩
    · refine sorted.of_map_eq ?_
      simp only [List.map_append, List.map_cons]
      rfl
    · obtain ⟨first, others⟩ :=
        List.pairwise_cons.1 (pairwise_apart_of_perm List.perm_middle.symm apart)
      refine List.pairwise_cons.2 ⟨fun other member => ⟨(first other member).items, ?_⟩, others⟩
      intro kinds both
      have inside : other ∈ before ++ stack :: after := by
        rcases List.mem_append.1 member with member | member <;> simp [member]
      rw [plain other inside kinds.symm] at both
      cases both.2

theorem tidy_sortMaterials {slots : Slots} (tidy : slots.Tidy) : slots.sortMaterials.Tidy := by
  obtain ⟨sorted, apart⟩ := tidy_iff.1 tidy
  exact tidy_iff.2 ⟨sorted_sortMaterials sorted, pairwise_apart_of_perm (sortMaterials_perm slots) apart⟩

end Slots

end Inventory
