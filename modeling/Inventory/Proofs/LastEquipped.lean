import Inventory.Proofs.Order

set_option autoImplicit false

namespace Inventory

section Lists

variable {α : Type} {p : α → Bool} {entries : List α}

theorem getElem?_of_lastIndex? {i : Nat} (found : lastIndex? p entries = some i) :
    ∃ x, entries[i]? = some x ∧ p x := by
  induction entries generalizing i with
  | nil => cases found
  | cons x rest ih =>
    unfold lastIndex? at found
    split at found
    next j later =>
      obtain rfl : j + 1 = i := by simpa using found
      exact ih later
    next =>
      by_cases first : p x
      · obtain rfl : 0 = i := by simpa [first] using found
        exact ⟨x, rfl, first⟩
      · simp [first] at found

theorem lastIndex?_eq_none (absent : ∀ x ∈ entries, ¬p x) : lastIndex? p entries = none := by
  induction entries with
  | nil => rfl
  | cons x rest ih =>
    obtain ⟨first, later⟩ := List.forall_mem_cons.1 absent
    simp [lastIndex?, ih later, first]

theorem lastIndex?_append_cons {before after : List α} {x : α} (here : p x)
    (absent : ∀ y ∈ after, ¬p y) : lastIndex? p (before ++ x :: after) = some before.length := by
  induction before with
  | nil => simp [lastIndex?, lastIndex?_eq_none absent, here]
  | cons y rest ih => simp [lastIndex?, ih]

theorem lastIndex?_takeWhile {q : α → Bool} (absent : ∀ x ∈ entries.dropWhile q, ¬p x) :
    lastIndex? p (entries.takeWhile q) = lastIndex? p entries := by
  induction entries with
  | nil => rfl
  | cons x rest ih =>
    by_cases goesOn : q x
    next =>
      rw [List.dropWhile_cons_of_pos goesOn] at absent
      rw [List.takeWhile_cons_of_pos goesOn, lastIndex?, lastIndex?, ih absent]
    next =>
      rw [List.dropWhile_cons_of_neg goesOn] at absent
      rw [List.takeWhile_cons_of_neg goesOn, lastIndex?_eq_none absent]
      rfl

end Lists

/-- Past the kind after it, a kind has only later shelves. Lower armor is two kinds past upper armor, and
on the same shelf. -/
theorem Kind.shelf_lt_of_past {kind past : Kind} (other : kind ≠ .armorUpper)
    (far : kind.number + 1 < past.number) : kind.shelf < past.shelf := by
  revert other far
  cases kind <;> cases past <;> decide

namespace Slots

variable {slots : Slots} {kind : Kind}

theorem lastEquippedNearby_spec {i : Nat} (found : slots.lastEquippedNearby kind = some i) :
    ∃ stack, slots[i]? = some stack ∧ isEquipped kind stack := by
  obtain ⟨stack, here, equipped⟩ := getElem?_of_lastIndex? found
  obtain ⟨within, rfl⟩ := List.getElem?_eq_some_iff.1 here
  refine ⟨_, ?_, equipped⟩
  have nearby := List.takeWhile_prefix (l := slots) fun stack => stack.kind.number ≤ kind.number + 1
  rw [nearby.getElem within]
  exact List.getElem?_eq_getElem _

theorem shelf_lt_of_mem_dropWhile (sorted : slots.Sorted) (other : kind ≠ .armorUpper) {stack : Stack}
    (member : stack ∈ slots.dropWhile fun stack => stack.kind.number ≤ kind.number + 1) :
    kind.shelf < stack.kind.shelf := by
  induction slots with
  | nil => cases member
  | cons first rest ih =>
    obtain ⟨least, later⟩ := List.pairwise_cons.1 sorted
    by_cases near : first.kind.number ≤ kind.number + 1
    next => exact ih later (by simpa [near] using member)
    next =>
      have past : kind.shelf < first.kind.shelf := Kind.shelf_lt_of_past other (by omega)
      rw [List.dropWhile_cons_of_neg (by simpa using near)] at member
      -- The slot that ends the search is past the kind, and the order keeps all slots behind it there.
      cases List.mem_cons.1 member with
      | inl here => rwa [here]
      | inr behind =>
        have order : first.kind.shelf ≤ stack.kind.shelf :=
          Stack.shelf_le_of_sortKey_le (least stack behind)
        exact Nat.lt_of_lt_of_le past order

theorem lastEquippedNearby_of_sorted (sorted : slots.Sorted) (other : kind ≠ .armorUpper) :
    slots.lastEquippedNearby kind = slots.lastEquipped kind := by
  refine lastIndex?_takeWhile fun stack member equipped => ?_
  have later : kind.shelf < stack.kind.shelf := shelf_lt_of_mem_dropWhile sorted other member
  rw [(isEquipped_iff.1 equipped).2] at later
  exact Nat.lt_irrefl _ later

theorem lastEquippedNearby_of_bows_and_armor :
    let worn (name : String) (kind : Kind) : Stack := ⟨Item.new name kind, 1000, true, .plain⟩
    let slots : Slots := [worn "BowA" .bow, worn "BowB" .bow, worn "ArrowA" .arrow,
      worn "LegsA" .armorLower, worn "ChestA" .armorMiddle, worn "LegsB" .armorLower,
      worn "ChestB" .armorMiddle, Stack.new (Item.new "MaterialA" .material)]
    slots.Sorted ∧ slots.lastEquippedNearby .bow = slots.lastEquipped .bow ∧
      slots.lastEquippedNearby .armorMiddle = slots.lastEquipped .armorMiddle ∧
      slots.lastEquipped .bow = some 1 ∧ slots.lastEquipped .armorMiddle = some 6 := by
  intro worn slots
  have sorted : slots.Sorted := by decide
  exact ⟨sorted, lastEquippedNearby_of_sorted sorted (by decide),
    lastEquippedNearby_of_sorted sorted (by decide), by decide, by decide⟩

example :
    let worn (name : String) (kind : Kind) : Stack := ⟨Item.new name kind, 1000, true, .plain⟩
    let slots : Slots := [worn "LegsA" .armorLower, worn "HoodA" .armorUpper]
    slots.Sorted ∧ slots.lastEquippedNearby .armorUpper = none ∧
      slots.lastEquipped .armorUpper = some 1 := by
  decide

end Slots

end Inventory
