import Inventory.Slots.Obtain
import Inventory.Proofs.Order
import Inventory.Proofs.TabNotes

set_option autoImplicit false

namespace Inventory

variable {α : Type}

theorem findIdx?_of_imp {p q : α → Bool} (imp : ∀ x, p x → q x) (entries : List α) :
    entries.findIdx? p =
      (entries.findIdx? q).bind fun i => ((entries.drop i).findIdx? p).map (i + ·) := by
  induction entries with
  | nil => rfl
  | cons x rest ih =>
    by_cases outer : q x
    · simp [List.findIdx?_cons, outer]
    · have inner : ¬p x := mt (imp x) outer
      simp only [List.findIdx?_cons, inner, outer, if_false, ih, Option.map_bind, Option.bind_map,
        Bool.false_eq_true]
      congr 1
      funext i
      simp [Function.comp_def, Nat.add_right_comm]

theorem split_of_findIdx? {p : α → Bool} {entries : List α} {i : Nat}
    (found : entries.findIdx? p = some i) :
    ∃ before x after, entries = before ++ x :: after ∧ before.length = i ∧ p x ∧
      ∀ y ∈ before, ¬p y := by
  induction entries generalizing i with
  | nil => simp at found
  | cons x rest ih =>
    by_cases first : p x
    · have zero : i = 0 := by simpa [List.findIdx?_cons, first] using found.symm
      exact ⟨[], x, rest, rfl, zero.symm, first, by simp⟩
    · simp only [List.findIdx?_cons, first, if_false, Bool.false_eq_true] at found
      obtain ⟨j, later, rfl⟩ := Option.map_eq_some_iff.1 found
      obtain ⟨before, y, after, rfl, rfl, holds, none⟩ := ih later
      exact ⟨x :: before, y, after, rfl, rfl, holds, by simpa [first] using none⟩

namespace Slots

theorem tabHead_of_sorted {slots : Slots} (sorted : slots.Sorted) (tab : Tab) :
    slots.tabHead tab = slots.findIdx? fun stack => stack.tab = tab := by
  induction slots with
  | nil => rfl
  | cons stack rest ih =>
    obtain ⟨least, later⟩ := List.pairwise_cons.1 sorted
    rw [tabHead_cons]
    split
    next less =>
      have other : stack.tab ≠ tab := by rintro rfl; exact absurd less (Nat.lt_irrefl _)
      simp [List.findIdx?_cons, other, ih later]
    next notLess =>
      split
      next same => simp [List.findIdx?_cons, same]
      next other =>
        -- The row has passed the tab: what follows belongs to this tab or to later ones.
        have past : ∀ next ∈ rest, next.tab ≠ tab := by
          rintro next member rfl
          have le := Stack.tab_number_le_of_sortKey_le (least next member)
          have same : stack.tab = next.tab := Tab.number_injective (by omega)
          exact other same
        simp only [List.findIdx?_cons, other, decide_false, Bool.false_eq_true, if_false]
        rw [List.findIdx?_eq_none_iff.2 (by simpa using past)]
        rfl

theorem firstArrow_of_sorted {slots : Slots} (sorted : slots.Sorted) :
    slots.firstArrow = slots.findIdx? fun stack => stack.kind = .arrow := by
  induction slots with
  | nil => rfl
  | cons stack rest ih =>
    obtain ⟨least, later⟩ := List.pairwise_cons.1 sorted
    unfold firstArrow
    split
    next arrow => simp [List.findIdx?_cons, arrow]
    next other =>
      split
      next => simp [List.findIdx?_cons, other, ih later]
      next notLess =>
        have past : ∀ next ∈ rest, next.kind ≠ .arrow := by
          intro next member arrow
          have le := Stack.shelf_le_of_sortKey_le (least next member)
          rw [arrow] at le
          revert other notLess le
          cases stack.kind <;> decide
        simp only [List.findIdx?_cons, other, decide_false, Bool.false_eq_true, if_false]
        rw [List.findIdx?_eq_none_iff.2 (by simpa using past)]
        rfl

def opens (kind : Kind) (stack : Stack) : Bool :=
  if kind = .arrow then stack.kind = .arrow else stack.tab = kind.tab

theorem opens_of_kind {kind : Kind} {stack : Stack} (same : stack.kind = kind) :
    opens kind stack := by
  subst same
  unfold opens
  split
  next arrow => simpa using arrow
  next => exact decide_eq_true rfl

theorem shelf_le_of_opens {kind : Kind} {stack : Stack} (starts : opens kind stack) :
    kind.tab.number ≤ stack.tab.number ∧ (kind = .arrow → kind.shelf ≤ stack.kind.shelf) := by
  unfold opens at starts
  split at starts
  next arrow =>
    have same : stack.kind = .arrow := by simpa using starts
    have tabs : stack.tab = stack.kind.tab := rfl
    rw [tabs, arrow, same]
    exact ⟨Nat.le_refl _, fun _ => Nat.le_refl _⟩
  next other =>
    have same : stack.tab = kind.tab := by simpa using starts
    exact ⟨by rw [same], fun arrow => absurd arrow other⟩

theorem opens_of_ne_arrow {kind : Kind} (other : kind ≠ .arrow) :
    opens kind = fun stack => decide (stack.tab = kind.tab) := by
  funext stack
  simp [opens, other]

theorem firstTab_of_ne_arrow {slots : Slots} {kind : Kind} {counted : Int} (counts : counted ≠ 0)
    (other : kind ≠ .arrow) : slots.firstTab kind counted = slots.tabHead kind.tab := by
  unfold firstTab
  rw [if_neg counts]
  cases slots.tabHead kind.tab with
  | none => rfl
  | some head => simp [other]

theorem firstTab_arrow {slots : Slots} {counted : Int} (counts : counted ≠ 0) :
    slots.firstTab .arrow counted = (slots.tabHead Kind.arrow.tab).bind fun head =>
      (firstArrow (slots.drop head)).map (head + ·) := by
  unfold firstTab
  rw [if_neg counts]
  cases slots.tabHead Kind.arrow.tab <;> rfl

theorem firstTab_of_sorted {slots : Slots} (sorted : slots.Sorted) (kind : Kind) {counted : Int}
    (counts : counted ≠ 0) : slots.firstTab kind counted = slots.findIdx? (opens kind) := by
  by_cases arrow : kind = .arrow
  next =>
    subst arrow
    rw [firstTab_arrow counts, tabHead_of_sorted sorted,
      findIdx?_of_imp (p := opens .arrow) (q := fun stack => stack.tab = Kind.arrow.tab)
      (fun stack starts => by
        have same : stack.kind = .arrow := by simpa [opens] using starts
        have tabs : stack.tab = stack.kind.tab := rfl
        simp [tabs, same])]
    congr 1
    funext head
    have rest : Sorted (slots.drop head) := sorted.sublist (List.drop_sublist _ _)
    rw [firstArrow_of_sorted rest]
    rfl
  next =>
    rw [firstTab_of_ne_arrow counts arrow, tabHead_of_sorted sorted, opens_of_ne_arrow arrow]

/-- A kind starts at a slot of its tab that has only slots of earlier tabs before it. Arrows start at an arrow
from there on that has only weapons and bows between. In sorted slots that is the first slot of the tab,
and the first arrow. -/
theorem firstTab_closed_form (slots : Slots) {counted : Int} (counts : counted ≠ 0) :
    (∀ kind ≠ Kind.arrow,
        (∀ i, slots.firstTab kind counted = some i ↔ slots.StartsTab kind.tab i) ∧
          ((∀ i, ¬slots.StartsTab kind.tab i) → slots.firstTab kind counted = none)) ∧
      (∀ i, slots.firstTab .arrow counted = some i ↔
        ∃ head, slots.StartsTab .bow head ∧ head ≤ i ∧ (slots[i]?).map Stack.kind = some .arrow ∧
          ∀ other ∈ (slots.take i).drop head, other.kind = .weapon ∨ other.kind = .bow) ∧
      (slots.Sorted →
        slots.firstTab .arrow counted = slots.findIdx? (fun stack => stack.kind = .arrow) ∧
          ∀ kind ≠ Kind.arrow, slots.firstTab kind counted =
            slots.findIdx? fun stack => stack.tab = kind.tab) := by
  refine ⟨fun kind other => ?tab, fun i => ?arrow, fun sorted => ?sorted⟩
  case tab =>
    have starts (i : Nat) : slots.firstTab kind counted = some i ↔ slots.StartsTab kind.tab i := by
      rw [firstTab_of_ne_arrow counts other, tabHead_eq_some_iff]
    exact ⟨starts, fun absent =>
      Option.eq_none_iff_forall_ne_some.2 fun i found => absent i ((starts i).1 found)⟩
  case arrow =>
    simp only [firstTab_arrow counts, Option.bind_eq_some_iff, Option.map_eq_some_iff,
      tabHead_eq_some_iff, firstArrow_eq_some_iff, List.getElem?_drop]
    constructor
    · rintro ⟨head, starts, j, ⟨arrow, between⟩, rfl⟩
      exact ⟨head, starts, Nat.le_add_right head j, arrow, by
        rwa [List.drop_take, Nat.add_sub_cancel_left]⟩
    · rintro ⟨head, starts, after, arrow, between⟩
      obtain ⟨j, rfl⟩ := Nat.exists_eq_add_of_le after
      rw [List.drop_take, Nat.add_sub_cancel_left] at between
      exact ⟨head, starts, j, ⟨arrow, between⟩, rfl⟩
  case sorted =>
    refine ⟨firstTab_of_sorted sorted .arrow counts, fun kind other => ?_⟩
    rw [firstTab_of_sorted sorted kind counts, opens_of_ne_arrow other]

theorem firstTab_of_shuffled_row :
    let sword := Stack.new (Item.new "WeaponA" .weapon)
    let bow := Stack.new (Item.new "BowA" .bow)
    let arrow := Stack.new (Item.new "ArrowA" .arrow)
    let shield := Stack.new (Item.new "ShieldA" .shield)
    let apple := Stack.new (Item.new "MaterialA" .material)
    let shuffled : Slots := [sword, bow, sword, arrow, apple, shield]
    let row : Slots := [sword, bow, arrow, shield]
    (6 : Int) ≠ 0 ∧ Kind.bow ≠ .arrow ∧ Kind.shield ≠ .arrow ∧
      shuffled.StartsTab .bow 1 ∧ shuffled.firstTab .bow 6 = some 1 ∧
      (∀ i, ¬shuffled.StartsTab .shield i) ∧ shuffled.firstTab .shield 6 = none ∧
      shuffled.firstTab .arrow 6 = some 3 ∧ row.Sorted ∧
      row.firstTab .arrow 6 = row.findIdx? fun stack => stack.kind = .arrow := by
  intro sword bow arrow shield apple shuffled row
  have counts : (6 : Int) ≠ 0 := by decide
  obtain ⟨tabs, arrows, -⟩ := firstTab_closed_form shuffled counts
  obtain ⟨-, -, ordered⟩ := firstTab_closed_form row counts
  have starts : shuffled.StartsTab .bow 1 := ⟨by decide, by decide⟩
  have late : ∀ i, ¬shuffled.StartsTab .shield i := fun i found => by
    have none : shuffled.tabHead .shield = none := by decide
    simp [tabHead_eq_some_iff.2 found] at none
  have sorted : row.Sorted := by decide
  exact ⟨counts, by decide, by decide, starts, ((tabs .bow (by decide)).1 1).2 starts, late,
    (tabs .shield (by decide)).2 late, (arrows 3).2 ⟨1, starts, by decide, by decide, by decide⟩,
    sorted, (ordered sorted).1⟩

theorem unequipKinds_of_absent {slots : Slots} {kind : Kind}
    (absent : ∀ stack ∈ slots, stack.kind ≠ kind) : slots.unequipKinds [kind] = slots := by
  unfold unequipKinds
  refine (List.map_congr_left fun stack member => ?_).trans (List.map_id slots)
  simp [absent stack member]

theorem unequipKinds_append (slots others : Slots) (kinds : List Kind) :
    unequipKinds (slots ++ others) kinds = slots.unequipKinds kinds ++ others.unequipKinds kinds :=
  List.map_append

theorem unequipTab_of_sorted {slots : Slots} {kind : Kind} (sorted : slots.Sorted)
    (start : ∀ stack ∈ slots, kind.tab.number ≤ stack.tab.number) :
    slots.unequipTab kind = slots.unequipKinds [kind] := by
  induction slots with
  | nil => rfl
  | cons stack rest ih =>
    obtain ⟨least, later⟩ := List.pairwise_cons.1 sorted
    unfold unequipTab
    split
    next =>
      rw [ih later fun next member => start next (List.mem_cons_of_mem _ member)]
      simp [unequipKinds]
    next other =>
      have past : ∀ next ∈ stack :: rest, next.kind ≠ kind := by
        rintro next member rfl
        have le : stack.tab.number ≤ next.tab.number := by
          rcases List.mem_cons.1 member with rfl | member
          · exact Nat.le_refl _
          · exact Stack.tab_number_le_of_sortKey_le (least next member)
        have ge : next.tab.number ≤ stack.tab.number := start stack List.mem_cons_self
        have tabs : next.kind.tab = next.tab := rfl
        rw [tabs] at other
        have same : stack.tab = next.tab := Tab.number_injective (by omega)
        exact other same
      exact (unequipKinds_of_absent past).symm

theorem unequipArrows_of_sorted {slots : Slots} (sorted : slots.Sorted)
    (start : ∀ stack ∈ slots, Kind.arrow.shelf ≤ stack.kind.shelf) :
    slots.unequipArrows = slots.unequipKinds [.arrow] := by
  induction slots with
  | nil => rfl
  | cons stack rest ih =>
    obtain ⟨least, later⟩ := List.pairwise_cons.1 sorted
    unfold unequipArrows
    split
    next arrow =>
      rw [ih later fun next member => start next (List.mem_cons_of_mem _ member)]
      simp [unequipKinds, arrow]
    next other =>
      have past : ∀ next ∈ stack :: rest, next.kind ≠ .arrow := by
        intro next member arrow
        have le : stack.kind.shelf ≤ next.kind.shelf := by
          rcases List.mem_cons.1 member with rfl | member
          · exact Nat.le_refl _
          · exact Stack.shelf_le_of_sortKey_le (least next member)
        have ge := start stack List.mem_cons_self
        rw [arrow] at le
        exact other ((Kind.shelf_eq_iff.1 (Nat.le_antisymm le ge)).1.2 rfl)
      exact (unequipKinds_of_absent past).symm

theorem firstTab_split {slots : Slots} (sorted : slots.Sorted) (kind : Kind) {counted : Int}
    (counts : counted ≠ 0) :
    (slots.firstTab kind counted = none ∧ ∀ stack ∈ slots, stack.kind ≠ kind) ∨
      ∃ head, slots.firstTab kind counted = some head ∧
        (∀ stack ∈ slots.take head, ¬opens kind stack) ∧ Sorted (slots.drop head) ∧
        ∀ stack ∈ slots.drop head, kind.tab.number ≤ stack.tab.number ∧
          (kind = .arrow → kind.shelf ≤ stack.kind.shelf) := by
  rw [firstTab_of_sorted sorted kind counts]
  cases found : slots.findIdx? (opens kind) with
  | none =>
    refine .inl ⟨rfl, fun stack member same => ?_⟩
    have closed := List.findIdx?_eq_none_iff.1 found stack member
    simp [opens_of_kind same] at closed
  | some head =>
    obtain ⟨before, stack, after, rfl, rfl, starts, closed⟩ := split_of_findIdx? found
    have rest : Sorted (stack :: after) := (List.pairwise_append.1 sorted).2.1
    have least := (List.pairwise_cons.1 rest).1
    refine .inr ⟨before.length, rfl, ?_, by simpa using rest, ?_⟩
    · simpa using closed
    · obtain ⟨tab, shelf⟩ := shelf_le_of_opens starts
      intro next member
      rcases List.mem_cons.1 (by simpa using member) with rfl | member
      · exact ⟨tab, shelf⟩
      · have above := least next member
        exact ⟨tab.trans (Stack.tab_number_le_of_sortKey_le above),
          fun arrow => (shelf arrow).trans (Stack.shelf_le_of_sortKey_le above)⟩

theorem unequipFirstTab_of_sorted {slots : Slots} (sorted : slots.Sorted) (kind : Kind)
    {counted : Int} (counts : counted ≠ 0) :
    slots.unequipFirstTab kind counted = slots.unequipKinds [kind] := by
  unfold unequipFirstTab
  rcases firstTab_split sorted kind counts with ⟨none, absent⟩ | ⟨head, some, closed, rest, start⟩
  · simp only [none, unequipKinds_of_absent absent]
  · have absent : ∀ stack ∈ slots.take head, stack.kind ≠ kind :=
      fun stack member same => closed stack member (opens_of_kind same)
    simp only [some]
    rw [unequipTab_of_sorted rest fun stack member => (start stack member).1]
    conv_rhs => rw [← List.take_append_drop head slots, unequipKinds_append,
      unequipKinds_of_absent absent]

theorem unequipFirstArrows_of_sorted {slots : Slots} (sorted : slots.Sorted) {counted : Int}
    (counts : counted ≠ 0) :
    slots.unequipFirstArrows counted = slots.unequipKinds [.arrow] := by
  unfold unequipFirstArrows
  rcases firstTab_split sorted .arrow counts with ⟨none, absent⟩ | ⟨head, some, closed, rest, start⟩
  · simp only [none, unequipKinds_of_absent absent]
  · have absent : ∀ stack ∈ slots.take head, stack.kind ≠ .arrow :=
      fun stack member same => closed stack member (opens_of_kind same)
    simp only [some]
    rw [unequipArrows_of_sorted rest fun stack member => (start stack member).2 rfl]
    conv_rhs => rw [← List.take_append_drop head slots, unequipKinds_append,
      unequipKinds_of_absent absent]

end Slots

end Inventory
