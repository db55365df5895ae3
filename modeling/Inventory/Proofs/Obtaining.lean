import Inventory.Proofs.FirstTab
import Inventory.Proofs.Visits
import Mathlib.Data.List.TakeWhile

set_option autoImplicit false

namespace Inventory

namespace Slots

/-- The slots around the first one with a stack's item, in the run of its kind that starts at the first
tab. -/
def Met (slots : Slots) (stack : Stack) (counted : Int) (before : Slots) (other : Stack)
    (after : Slots) : Prop :=
  slots = before ++ other :: after ∧ other.item = stack.item ∧
    ∃ head run, before = head ++ run ∧ slots.firstTab stack.kind counted = some head.length ∧
      ∀ earlier ∈ run, earlier.kind = stack.kind ∧ earlier.item ≠ stack.item

/-- The other slots and the new stack once the game has seen whether to equip it. -/
inductive Readied (slots : Slots) (stack : Stack) (counted : Int) : Slots → Stack → Prop
  | asItIs (worn : stack.kind.isEquipment ∨ stack.kind = .arrow →
      ∃ other ∈ slots, isEquipped stack.kind other ∧ (stack.kind = .arrow → 0 < other.value.val)) :
    Readied slots stack counted slots stack
  | equipment (equipment : stack.kind.isEquipment)
      (bare : ∀ other ∈ slots, ¬isEquipped stack.kind other) :
    Readied slots stack counted slots (stack.withEquipped true)
  | noFirstArrow (arrow : stack.kind = .arrow)
      (spent : ∀ other ∈ slots, isEquipped .arrow other → other.value.val ≤ 0)
      (none : slots.firstTab .arrow counted = none) :
    Readied slots stack counted slots (stack.withEquipped true)
  | arrows {head : Nat} {run after : Slots} (arrow : stack.kind = .arrow)
      (spent : ∀ other ∈ slots, isEquipped .arrow other → other.value.val ≤ 0)
      (starts : slots.firstTab .arrow counted = some head) (rest : slots.drop head = run ++ after)
      (arrows : ∀ other ∈ run, other.kind = .arrow) (ends : ∀ other ∈ after.head?, other.kind ≠ .arrow) :
    Readied slots stack counted
      (slots.take head ++ (run.map (fun other => other.withEquipped false) ++ after))
      (stack.withEquipped true)

/-- Where a stack ends up that is added to slots: at the end, or, if the game counts any items, behind
all slots of the sorted row that do not come after it. -/
structure Placed (slots : Slots) (stack : Stack) (counted : Int) (row : Slots) (index : Nat) :
    Prop where
  perm : row.Perm (slots ++ [stack])
  here : row[index]? = some stack
  appended : counted ≤ 0 → row = slots ++ [stack] ∧ index = slots.length
  ordered : 0 < counted → row.Pairwise Stack.InOrder
  stable : 0 < counted → ∀ key, (row.filter fun other => other.sortKey = key) =
    (slots ++ [stack]).filter fun other => other.sortKey = key
  last : 0 < counted → ∀ other ∈ row.drop (index + 1), stack.sortKey < other.sortKey

/-- What obtaining a stack leaves: the slots, and the slot that was added last. -/
inductive Obtained (slots : Slots) (stack : Stack) (counted : Int) (last : Option Nat) :
    Slots × Option Nat → Prop
  | merged {before after : Slots} {other : Stack} {value : Count} (stackable : stack.item.stackable)
      (split : slots = before ++ other :: after) (held : other.item = stack.item)
      (first : ∀ earlier ∈ before, earlier.item ≠ stack.item)
      (sum : value.val =
        min 999 (max (-2147483648) (min 2147483647 (other.value.val + stack.value.val)))) :
    Obtained slots stack counted last (before ++ other.withValue value :: after, last)
  | refused {before after : Slots} {other : Stack}
      (fresh : stack.item.stackable → ∀ other ∈ slots, other.item ≠ stack.item)
      (unique : stack.item.repeatable = false) (met : slots.Met stack counted before other after)
      (sound : ¬(stack.kind = .weapon ∧ stack.item.id = Item.masterSword ∧ stack.value.val ≤ 0)) :
    Obtained slots stack counted last (slots, last)
  | reset {before after : Slots} {other : Stack}
      (fresh : stack.item.stackable → ∀ other ∈ slots, other.item ≠ stack.item)
      (unique : stack.item.repeatable = false) (met : slots.Met stack counted before other after)
      (broken : stack.kind = .weapon ∧ stack.item.id = Item.masterSword ∧ stack.value.val ≤ 0) :
    Obtained slots stack counted last
      (before ++ (other.withValue 0).withEquipped false :: after, none)
  | added {kept row : Slots} {new : Stack} {index : Nat}
      (fresh : stack.item.stackable → ∀ other ∈ slots, other.item ≠ stack.item)
      (unmet : stack.item.repeatable = false →
        ∀ before other after, ¬slots.Met stack counted before other after)
      (readied : slots.Readied stack counted kept new) (placed : Placed kept new counted row index) :
    Obtained slots stack counted last (row, some index)

variable {slots : Slots} {stack : Stack} {counted : Int}

theorem modify_at (before : Slots) (other : Stack) (after : Slots) (change : Stack → Stack) :
    (before ++ other :: after).modify before.length change = before ++ change other :: after := by
  simp [List.modify_eq_take_drop]

theorem placed_place (slots : Slots) (stack : Stack) (counted : Int) :
    Placed slots stack counted (slots.place stack counted).1 (slots.place stack counted).2 := by
  have perm := place_perm slots stack counted
  by_cases counts : 0 < counted
  next =>
    have sorted := sortBy_pairwise Stack.sortKey slots
    have whole := sortBy_pairwise Stack.sortKey (slots ++ [stack])
    have order := sortBy_append_singleton Stack.sortKey slots stack
    -- The slots in front of the new one are those that the index counts.
    have index : ((sortBy Stack.sortKey slots).takeWhile fun other =>
        other.sortKey ≤ stack.sortKey).length =
          slots.countP fun other => other.sortKey ≤ stack.sortKey := by
      rw [takeWhile_of_pairwise sorted, ← List.countP_eq_length_filter]
      exact (sortBy_perm Stack.sortKey slots).countP_eq _
    simp only [place, gt_iff_lt, counts, if_true] at perm ⊢
    constructor
    case perm => exact perm
    case here => simp [sortByTab, order, ← index]
    case appended => intro none; omega
    case ordered => exact fun _ => sorted_iff_inOrder.1 whole
    case stable => exact fun _ => filter_sortBy Stack.sortKey (slots ++ [stack])
    case last =>
      intro _ other later
      apply lt_of_mem_dropWhile sorted
      simpa [sortByTab, order, ← index, List.drop_append, List.drop_eq_nil_of_le] using later
  next =>
    simp only [place, gt_iff_lt, counts, if_false] at perm ⊢
    exact {
      perm
      here := by simp
      appended := fun _ => ⟨rfl, rfl⟩
      ordered := fun some => absurd some counts
      stable := fun some => absurd some counts
      last := fun some => absurd some counts }

theorem sameItemAt?_eq_some {i : Nat} (found : slots.sameItemAt? stack = some i) :
    ∃ before other after, slots = before ++ other :: after ∧ before.length = i ∧
      stack.item.stackable ∧ other.item = stack.item ∧
      ∀ earlier ∈ before, earlier.item ≠ stack.item := by
  unfold sameItemAt? at found
  split at found
  next stackable =>
    obtain ⟨before, other, after, split, length, held, first⟩ := split_of_findIdx? found
    exact ⟨before, other, after, split, length, stackable, by simpa using held, by simpa using first⟩
  next => cases found

theorem fresh_of_sameItemAt? (none : slots.sameItemAt? stack = none) :
    stack.item.stackable → ∀ other ∈ slots, other.item ≠ stack.item := by
  intro stackable
  simpa [sameItemAt?, stackable] using none

theorem met_of_uniqueAt? {i : Nat} (found : slots.uniqueAt? stack counted = some i) :
    stack.item.repeatable = false ∧
      ∃ before other after, before.length = i ∧ slots.Met stack counted before other after := by
  unfold uniqueAt? at found
  split at found
  next => cases found
  next unique =>
    obtain ⟨head, start, inside⟩ := Option.bind_eq_some_iff.1 found
    obtain ⟨j, within, rfl⟩ := Option.map_eq_some_iff.1 inside
    obtain ⟨run, other, rest, whole, rfl, held, first⟩ := split_of_findIdx? within
    have kinds : ∀ earlier ∈ run, earlier.kind = stack.kind := by
      intro earlier member
      have inside := List.mem_append_left (other :: rest) member
      rw [← whole] at inside
      simpa using List.mem_takeWhile_imp inside
    -- The run is the beginning of the slots from the head on, so these split as the run does.
    have prior := List.takeWhile_prefix (l := slots.drop head) fun other => other.kind = stack.kind
    obtain ⟨after, tail⟩ := whole ▸ prior
    have split := List.take_append_drop head slots
    rw [← tail] at split
    have length : (slots.take head).length = head := by
      have some : (slots.drop head).length ≠ 0 := by simp [← tail]
      rw [List.length_drop] at some
      rw [List.length_take]
      omega
    refine ⟨by simpa using unique, slots.take head ++ run, other, rest ++ after, by simp [length], ?_⟩
    refine ⟨by simpa using split.symm, by simpa using held, slots.take head, run, rfl, ?_, ?_⟩
    next => rw [length, start]
    next => exact fun earlier member => ⟨kinds earlier member, by simpa using first earlier member⟩

theorem unmet_of_uniqueAt? (none : slots.uniqueAt? stack counted = none) :
    stack.item.repeatable = false →
      ∀ before other after, ¬slots.Met stack counted before other after := by
  rintro unique before other after ⟨split, held, head, run, rfl, start, earlier⟩
  have tail : slots.drop head.length = run ++ other :: after := by simp [split]
  have kind : other.kind = stack.kind := congrArg Item.kind held
  have inside : other ∈ (slots.drop head.length).takeWhile fun other => other.kind = stack.kind := by
    rw [tail, List.takeWhile_append_of_pos fun other member => by simpa using (earlier other member).1]
    simp [kind]
  simp only [uniqueAt?, unique, start, Bool.false_eq_true, if_false, Option.bind_some,
    Option.map_eq_none_iff, List.findIdx?_eq_none_iff] at none
  simpa [held] using none other inside

theorem unequipArrows_eq (slots : Slots) : slots.unequipArrows =
    (slots.takeWhile fun other => other.kind = .arrow).map (fun other => other.withEquipped false) ++
      slots.dropWhile fun other => other.kind = .arrow := by
  induction slots with
  | nil => rfl
  | cons other rest ih =>
    by_cases arrow : other.kind = .arrow
    next => simp [unequipArrows, arrow, ih]
    next => simp [unequipArrows, arrow]

theorem equipsItself_of_isEquipment {kind : Kind} (equipment : kind.isEquipment) :
    slots.equipsItself kind ↔ ∀ other ∈ slots, ¬isEquipped kind other := by
  simp [equipsItself, equipment]

theorem equipsItself_arrow : slots.equipsItself .arrow ↔
    ∀ other ∈ slots, isEquipped .arrow other → other.value.val ≤ 0 := by
  simp only [equipsItself, Kind.isEquipment, Bool.false_eq_true, if_false, decide_true,
    Bool.true_and, List.all_eq_true, List.mem_filter, decide_eq_true_eq, and_imp]

theorem readied_of_isEquipment (slots : Slots) (equipment : stack.kind.isEquipment) (counted : Int) :
    ∃ kept new, slots.Readied stack counted kept new ∧
      slots.placeEquipping stack counted = kept.place new counted := by
  have noArrow : stack.kind ≠ .arrow := by
    intro arrow
    rw [arrow] at equipment
    cases equipment
  unfold placeEquipping
  by_cases equips : slots.equipsItself stack.kind
  next =>
    have bare := (equipsItself_of_isEquipment equipment).1 equips
    exact ⟨slots, _, .equipment equipment bare, by simp [equips, noArrow]⟩
  next =>
    refine ⟨slots, stack, .asItIs fun _ => ?_, by simp [equips]⟩
    rw [equipsItself_of_isEquipment equipment] at equips
    push Not at equips
    obtain ⟨other, member, worn⟩ := equips
    exact ⟨other, member, worn, fun arrow => absurd arrow noArrow⟩

theorem readied_of_arrow (slots : Slots) (arrow : stack.kind = .arrow) (counted : Int) :
    ∃ kept new, slots.Readied stack counted kept new ∧
      slots.placeEquipping stack counted = kept.place new counted := by
  unfold placeEquipping
  by_cases equips : slots.equipsItself stack.kind
  next =>
    have spent := equipsItself_arrow.1 (arrow ▸ equips)
    rw [if_pos equips, if_pos arrow]
    unfold unequipFirstArrows
    split
    next none => exact ⟨slots, _, .noFirstArrow arrow spent none, rfl⟩
    next head start =>
      -- The arrows that are unequipped reach from the first one to the first slot of another kind.
      have rest := List.takeWhile_append_dropWhile (p := fun other => other.kind = .arrow)
        (l := slots.drop head)
      refine ⟨_, _, .arrows arrow spent start rest.symm ?arrows ?ends, by rw [unequipArrows_eq]⟩
      case arrows => exact fun other member => by simpa using List.mem_takeWhile_imp member
      case ends =>
        intro other first
        have ends := List.head?_dropWhile_not (fun other => other.kind = .arrow) (slots.drop head)
        rw [Option.mem_def.1 first] at ends
        simpa using ends
  next =>
    refine ⟨slots, stack, .asItIs fun _ => ?_, by simp [equips]⟩
    rw [arrow, equipsItself_arrow] at equips
    push Not at equips
    obtain ⟨other, member, worn, filled⟩ := equips
    exact ⟨other, member, arrow ▸ worn, fun _ => filled⟩

theorem readied_placeEquipping (slots : Slots) (stack : Stack) (counted : Int) :
    ∃ kept new, slots.Readied stack counted kept new ∧
      slots.placeEquipping stack counted = kept.place new counted := by
  by_cases equipment : stack.kind.isEquipment
  next => exact readied_of_isEquipment slots equipment counted
  next =>
    by_cases arrow : stack.kind = .arrow
    next => exact readied_of_arrow slots arrow counted
    next =>
      have equips : slots.equipsItself stack.kind = false := by simp [equipsItself, equipment, arrow]
      exact ⟨slots, stack, .asItIs (by simp [equipment, arrow]), by simp [placeEquipping, equips]⟩

theorem val_plus_atMost_cap (a b : Count) : ((a.plus b).atMost cap).val =
    min 999 (max (-2147483648) (min 2147483647 (a.val + b.val))) := by
  rw [Count.val_atMost, Count.val_plus]
  rfl

theorem obtain_outcome (slots : Slots) (stack : Stack) (counted : Int) (last : Option Nat) :
    Obtained slots stack counted last (slots.obtain stack counted last) := by
  unfold obtain
  split
  next i found =>
    obtain ⟨before, other, after, rfl, rfl, stackable, held, first⟩ := sameItemAt?_eq_some found
    rw [modify_at]
    exact .merged stackable rfl held first (val_plus_atMost_cap other.value stack.value)
  next none =>
    have fresh := fresh_of_sameItemAt? none
    split
    next i found =>
      obtain ⟨unique, before, other, after, rfl, met⟩ := met_of_uniqueAt? found
      unfold meetUnique isBrokenMasterSword
      split
      next broken =>
        conv in slots.modify _ _ => rw [met.1, modify_at]
        exact .reset fresh unique met (by simpa [and_assoc] using broken)
      next sound => exact .refused fresh unique met (by simpa using sound)
    next unmet =>
      obtain ⟨kept, new, readied, same⟩ := readied_placeEquipping slots stack counted
      rw [same]
      exact .added fresh (unmet_of_uniqueAt? unmet) readied (placed_place kept new counted)

end Slots

end Inventory
