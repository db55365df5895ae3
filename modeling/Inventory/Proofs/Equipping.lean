import Inventory.Proofs.FirstTab
import Inventory.Proofs.Patches

set_option autoImplicit false

namespace Inventory

theorem Stack.withEquipped_eq_self_iff {stack : Stack} {equipped : Bool} :
    stack.withEquipped equipped = stack ↔ stack.equipped = equipped := by
  cases stack
  simp [withEquipped, eq_comm]

namespace Slots

def items (slots : Slots) : List Item := slots.map Stack.item

/-- A slot holds an item for the n-th time, counted from 0. -/
def IsOccurrence (slots : Slots) (item : Item) (n i : Nat) : Prop :=
  slots.items[i]? = some item ∧ (slots.items.take i).count item = n

def firstTabRow (slots : Slots) (kind : Kind) (counted : Int) : Slots :=
  match slots.firstTab kind counted with
  | none => []
  | some head => (slots.drop head).takeWhile fun stack => stack.tab = kind.tab

variable {slots others : Slots} {item : Item} {kind : Kind} {n i : Nat} {counted : Int}

theorem occurrence_eq_some_iff :
    slots.occurrence item n = some i ↔ slots.IsOccurrence item n i := by
  induction slots generalizing n i with
  | nil => simp [occurrence, IsOccurrence, items]
  | cons stack rest ih =>
    unfold occurrence
    split
    next same =>
      cases n with
      | zero => cases i <;> simp [IsOccurrence, items, same]
      | succ n => cases i <;> simp [IsOccurrence, items, same, ih]
    next other => cases i <;> simp [IsOccurrence, items, other, ih]

theorem occurrence_eq_none_iff :
    slots.occurrence item n = none ↔ slots.items.count item ≤ n := by
  induction slots generalizing n with
  | nil => simp [occurrence, items]
  | cons stack rest ih =>
    unfold occurrence
    split
    next same => cases n <;> simp [items, same, ih]
    next other => simp [items, other, ih]

theorem occurrence_of_items_eq (same : slots.items = others.items) :
    slots.occurrence item n = others.occurrence item n := by
  refine Option.ext fun i => ?_
  rw [occurrence_eq_some_iff, occurrence_eq_some_iff, IsOccurrence, IsOccurrence, same]

theorem items_append (slots others : Slots) : items (slots ++ others) = slots.items ++ others.items :=
  List.map_append

theorem items_unequipKinds (slots : Slots) (kinds : List Kind) :
    (slots.unequipKinds kinds).items = slots.items := by
  simp only [items, unequipKinds, List.map_map]
  refine List.map_congr_left fun stack _ => ?_
  simp only [Function.comp_apply]
  split <;> rfl

theorem unequipKinds_eq_self_iff :
    slots.unequipKinds [kind] = slots ↔ ∀ stack ∈ slots, ¬isEquipped kind stack := by
  have spared (stack : Stack) :
      (if stack.kind ∈ [kind] then stack.withEquipped false else stack) = stack ↔
        ¬isEquipped kind stack := by
    by_cases same : stack.kind = kind <;> simp [isEquipped, same, Stack.withEquipped_eq_self_iff]
  induction slots with
  | nil => simp [unequipKinds]
  | cons stack rest ih =>
    have cut : unequipKinds (stack :: rest) [kind] =
        (if stack.kind ∈ [kind] then stack.withEquipped false else stack) ::
          unequipKinds rest [kind] := rfl
    rw [cut, List.cons.injEq, spared, List.forall_mem_cons]
    exact and_congr_right fun _ => ih

theorem unequipTab_eq (slots : Slots) (kind : Kind) :
    slots.unequipTab kind =
      unequipKinds (slots.takeWhile fun stack => stack.tab = kind.tab) [kind] ++
        slots.dropWhile fun stack => stack.tab = kind.tab := by
  induction slots with
  | nil => rfl
  | cons stack rest ih =>
    unfold unequipTab
    split
    next inside => simp [inside, ih, unequipKinds]
    next outside => simp [outside, unequipKinds]

theorem unequipFirstTab_cut (slots : Slots) (kind : Kind) (counted : Int) :
    ∃ before after, slots = before ++ (slots.firstTabRow kind counted ++ after) ∧
      slots.unequipFirstTab kind counted =
        before ++ ((slots.firstTabRow kind counted).unequipKinds [kind] ++ after) := by
  unfold unequipFirstTab firstTabRow
  cases slots.firstTab kind counted with
  | none => exact ⟨slots, [], by simp, by simp [unequipKinds]⟩
  | some head =>
    refine ⟨slots.take head, (slots.drop head).dropWhile fun stack => stack.tab = kind.tab, ?_, ?_⟩
    · rw [List.takeWhile_append_dropWhile, List.take_append_drop]
    · dsimp only
      rw [unequipTab_eq]

theorem unequipFirstTab_eq_self_iff :
    slots.unequipFirstTab kind counted = slots ↔
      ∀ stack ∈ slots.firstTabRow kind counted, ¬isEquipped kind stack := by
  obtain ⟨before, after, whole, cleared⟩ := unequipFirstTab_cut slots kind counted
  rw [cleared, ← unequipKinds_eq_self_iff]
  -- The row itself depends on the slots, so it gets a name before they are cut.
  generalize slots.firstTabRow kind counted = row at whole ⊢
  rw [whole, List.append_right_inj, List.append_left_inj]

theorem items_unequipFirstTab (slots : Slots) (kind : Kind) (counted : Int) :
    (slots.unequipFirstTab kind counted).items = slots.items := by
  obtain ⟨before, after, whole, cleared⟩ := unequipFirstTab_cut slots kind counted
  rw [cleared]
  conv_rhs => rw [whole]
  simp only [items_append, items_unequipKinds]

theorem equip_of_missing (missing : slots.items.count item ≤ n) :
    slots.equip item n counted = slots.unequipFirstTab item.kind counted := by
  have none : (slots.unequipFirstTab item.kind counted).occurrence item n = none := by
    rwa [occurrence_eq_none_iff, items_unequipFirstTab]
  simp only [equip, none]

theorem equip_of_occurrence (found : slots.IsOccurrence item n i) :
    slots.equip item n counted =
      (slots.unequipFirstTab item.kind counted).modify i fun stack => stack.withEquipped true := by
  have there : (slots.unequipFirstTab item.kind counted).occurrence item n = some i := by
    rwa [occurrence_of_items_eq (items_unequipFirstTab slots item.kind counted),
      occurrence_eq_some_iff]
  simp only [equip, there]

theorem exchange_eq_none_iff {j : Nat} :
    slots.exchange i j = none ↔ slots.length ≤ i ∨ slots.length ≤ j := by
  unfold exchange
  split
  next first second =>
    have left := (List.getElem?_eq_some_iff.1 first).1
    have right := (List.getElem?_eq_some_iff.1 second).1
    simp only [reduceCtorEq, false_iff]
    omega
  next missing =>
    simp only [true_iff]
    by_contra within
    simp only [not_or, Nat.not_le] at within
    exact missing _ _ (List.getElem?_eq_getElem within.1) (List.getElem?_eq_getElem within.2)

theorem updateLife_eq_error_iff {life : Count} :
    slots.updateLife life i = .error (.indexOutOfBounds i slots.length) ↔ slots.length ≤ i := by
  rcases Nat.lt_or_ge i slots.length with within | past
  next => simp [updateLife_of_within slots within, Nat.not_le.2 within]
  next => simp [updateLife_of_past slots past, past]

/-- An operation whose target is missing changes nothing, except that equipping still unequips the kind in
its first tab: it changes nothing exactly if no slot of the kind is equipped there. -/
theorem missing_target_bares_first_tab (slots : Slots) :
    (∀ item n, slots.items.count item ≤ n →
        (∀ counted,
          (∃ before after, slots = before ++ (slots.firstTabRow item.kind counted ++ after) ∧
            slots.equip item n counted =
              before ++ ((slots.firstTabRow item.kind counted).unequipKinds [item.kind] ++ after)) ∧
          (slots.equip item n counted = slots ↔
            ∀ stack ∈ slots.firstTabRow item.kind counted, ¬isEquipped item.kind stack)) ∧
        slots.unequip item (some n) = slots ∧ ∀ edit, slots.editItem item n edit = none) ∧
      (∀ i j, slots.exchange i j = none ↔ slots.length ≤ i ∨ slots.length ≤ j) ∧
      ∀ life i, slots.updateLife life i = .error (.indexOutOfBounds i slots.length) ↔
        slots.length ≤ i := by
  refine ⟨fun item n missing => ⟨fun counted => ?equip, ?unequip, fun edit => ?edit⟩,
    fun i j => exchange_eq_none_iff, fun life i => updateLife_eq_error_iff⟩
  case equip =>
    rw [equip_of_missing missing]
    exact ⟨unequipFirstTab_cut slots item.kind counted, unequipFirstTab_eq_self_iff⟩
  case unequip => simp [unequip, occurrence_eq_none_iff.2 missing]
  case edit => simp [editItem, occurrence_eq_none_iff.2 missing]

theorem missing_targets_of_armed_row :
    let sword := (Stack.new (Item.new "WeaponA" .weapon)).withEquipped true
    let bow := (Stack.new (Item.new "BowA" .bow)).withEquipped true
    let slots : Slots := [sword, bow]
    let hammer := Item.new "WeaponB" .weapon
    let arrow := Item.new "ArrowA" .arrow
    slots.items.count arrow ≤ 0 ∧ slots.equip arrow 0 2 = slots ∧
      slots.items.count hammer ≤ 0 ∧ slots.equip hammer 0 2 ≠ slots ∧
      slots.items.count sword.item ≤ 1 ∧ slots.unequip sword.item (some 1) = slots ∧
      slots.editItem sword.item 1 .empty = none ∧ slots.exchange 0 2 = none ∧
      slots.updateLife 5 2 = .error (.indexOutOfBounds 2 2) := by
  intro sword bow slots hammer arrow
  have noArrow : slots.items.count arrow ≤ 0 := by decide
  have noHammer : slots.items.count hammer ≤ 0 := by decide
  have oneSword : slots.items.count sword.item ≤ 1 := by decide
  obtain ⟨aims, swaps, writes⟩ := missing_target_bares_first_tab slots
  have kept := ((aims arrow 0 noArrow).1 2).2.2 (by decide)
  have bared := mt ((aims hammer 0 noHammer).1 2).2.1 (by decide)
  obtain ⟨-, worn, plain⟩ := aims sword.item 1 oneSword
  exact ⟨noArrow, kept, noHammer, bared, oneSword, worn, plain .empty,
    (swaps 0 2).2 (by decide), (writes 5 2).2 (by decide)⟩

theorem not_missing_target_spared :
    ¬∀ (slots : Slots) (item : Item) (n : Nat) (counted : Int), slots.items.count item ≤ n →
      slots.equip item n counted = slots := by
  intro spared
  let sword := (Stack.new (Item.new "WeaponA" .weapon)).withEquipped true
  have same := spared [sword] (Item.new "WeaponB" .weapon) 0 1 (by decide)
  revert same
  decide

theorem equip_of_sorted (sorted : slots.Sorted) (counts : counted ≠ 0)
    (found : slots.IsOccurrence item n i) :
    slots.equip item n counted = slots.mapIdx fun j stack =>
      if stack.kind = item.kind then stack.withEquipped (j = i) else stack := by
  rw [equip_of_occurrence found, unequipFirstTab_of_sorted sorted item.kind counts]
  refine List.ext_getElem? fun j => ?_
  rw [List.getElem?_modify, List.getElem?_mapIdx, unequipKinds, List.getElem?_map]
  cases here : slots[j]? with
  | none => simp
  | some stack =>
    by_cases same : i = j
    next =>
      have held : stack.item = item := by simpa [same, items, here] using found.1
      have kind : stack.kind = item.kind := congrArg Item.kind held
      simp [same, kind, Stack.withEquipped]
    next => simp [same, Ne.symm same]

theorem equip_leaves_one_equipped (sorted : slots.Sorted) (counts : counted ≠ 0)
    (found : slots.IsOccurrence item n i) :
    let after := slots.equip item n counted
    after = slots.mapIdx (fun j stack =>
        if stack.kind = item.kind then stack.withEquipped (j = i) else stack) ∧
      (∃ stack, after[i]? = some stack ∧ stack.item = item ∧ stack.equipped) ∧
      ∀ j other, after[j]? = some other → isEquipped item.kind other → j = i := by
  intro after
  have same : after = slots.mapIdx _ := equip_of_sorted sorted counts found
  refine ⟨same, ?here, ?others⟩
  case here =>
    obtain ⟨stack, here, held⟩ : ∃ stack, slots[i]? = some stack ∧ stack.item = item := by
      simpa [items] using found.1
    have kind : stack.kind = item.kind := congrArg Item.kind held
    exact ⟨stack.withEquipped true, by simp [same, here, kind], held, rfl⟩
  case others =>
    intro j other there equipped
    rw [same, List.getElem?_mapIdx] at there
    obtain ⟨stack, -, rfl⟩ := Option.map_eq_some_iff.1 there
    obtain ⟨worn, kind⟩ := isEquipped_iff.1 equipped
    by_cases same : stack.kind = item.kind
    next =>
      rw [if_pos same] at worn
      exact of_decide_eq_true worn
    next =>
      rw [if_neg same] at kind
      exact absurd kind same

theorem equip_leaves_one_of_armor :
    let hood := (Stack.new (Item.new "ArmorUpperA" .armorUpper)).withEquipped true
    let robe := (Stack.new (Item.new "ArmorMiddleA" .armorMiddle)).withEquipped true
    let slots : Slots := [hood, robe, hood.withEquipped false]
    slots.Sorted ∧ (3 : Int) ≠ 0 ∧ slots.IsOccurrence hood.item 1 2 ∧
      slots.equip hood.item 1 3 = [hood.withEquipped false, robe, hood] ∧
      ∀ j other, (slots.equip hood.item 1 3)[j]? = some other → isEquipped .armorUpper other →
        j = 2 := by
  intro hood robe slots
  have sorted : slots.Sorted := by decide
  have found : slots.IsOccurrence hood.item 1 2 := ⟨by decide, by decide⟩
  obtain ⟨same, -, others⟩ := equip_leaves_one_equipped sorted (by decide : (3 : Int) ≠ 0) found
  exact ⟨sorted, by decide, found, same, others⟩

end Slots

end Inventory
