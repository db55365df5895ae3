import Inventory.Proofs.DroppedStacks
import Inventory.Proofs.Tidy

set_option autoImplicit false

namespace Inventory

section Lists

variable {α : Type} {front middle back : List α}

theorem findIdx?_middle {p : α → Bool} (before : ∀ x ∈ front, ¬p x) (after : ∀ x ∈ back, ¬p x) :
    (front ++ (middle ++ back)).findIdx? p = (middle.findIdx? p).map (front.length + ·) := by
  have first : front.findIdx? p = none := List.findIdx?_eq_none_iff.2 (by simpa using before)
  have last : back.findIdx? p = none := List.findIdx?_eq_none_iff.2 (by simpa using after)
  simp only [List.findIdx?_append, first, last, Option.map_none, Option.or_none, Option.none_or,
    Nat.add_comm]

theorem drop_middle {i : Nat} (within : i ≤ middle.length) :
    (front ++ (middle ++ back)).drop (front.length + i) = middle.drop i ++ back := by
  rw [List.drop_length_add_append, List.drop_append_of_le_length within]

theorem modify_middle {i : Nat} (within : i < middle.length) (change : α → α) :
    (front ++ (middle ++ back)).modify (front.length + i) change =
      front ++ (middle.modify i change ++ back) := by
  have some : middle.drop i ≠ [] := by simpa using within
  obtain ⟨x, rest, split⟩ := List.exists_cons_of_ne_nil some
  have start : (front ++ (middle ++ back)).take (front.length + i) = front ++ middle.take i := by
    rw [List.take_length_add_append, List.take_append_of_le_length within.le]
  rw [List.modify_eq_take_drop, start, drop_middle within.le, List.modify_eq_take_drop, split]
  simp

theorem takeWhile_append_of_stop {p : α → Bool} (stops : ∀ x ∈ back, ¬p x) :
    (middle ++ back).takeWhile p = middle.takeWhile p := by
  have none : back.takeWhile p = [] := by
    cases back with
    | nil => rfl
    | cons x rest => exact List.takeWhile_cons_of_neg (stops x List.mem_cons_self)
  rw [List.takeWhile_append]
  split
  next whole => rw [none, List.append_nil, (List.takeWhile_sublist p).eq_of_length whole]
  next => rfl

theorem dropWhile_append_of_stop {p : α → Bool} (stops : ∀ x ∈ back, ¬p x) :
    (middle ++ back).dropWhile p = middle.dropWhile p ++ back := by
  have all : back.dropWhile p = back := by
    cases back with
    | nil => rfl
    | cons x rest => exact List.dropWhile_cons_of_neg (stops x List.mem_cons_self)
  rw [List.dropWhile_append]
  split
  next none => rw [all, List.isEmpty_iff.1 none, List.nil_append]
  next => rfl

end Lists

theorem Stack.tab_of_kind_eq {a b : Stack} (same : a.kind = b.kind) : a.tab = b.tab :=
  congrArg Kind.tab same

namespace Slots

theorem tab_of_opens {stack other : Stack} (starts : opens stack.kind other) :
    other.tab = stack.tab := by
  unfold opens at starts
  split at starts
  next arrow => exact Stack.tab_of_kind_eq (by simpa [arrow] using starts)
  next => exact of_decide_eq_true starts

structure Around (front back : Slots) (tab : Tab) : Prop where
  before : ∀ other ∈ front, other.tab.number < tab.number
  after : ∀ other ∈ back, tab.number < other.tab.number

theorem Sorted.cut {slots : Slots} (sorted : slots.Sorted) (tab : Tab) :
    ∃ front middle back, slots = front ++ (middle ++ back) ∧ Around front back tab ∧
      ∀ other ∈ middle, other.tab = tab := by
  have tabs : slots.Pairwise fun a b => (a.tab.number : Int) ≤ b.tab.number :=
    sorted.imp fun le => Int.ofNat_le.2 (Stack.tab_number_le_of_sortKey_le le)
  refine ⟨_, _, _, eq_filter_append_filter tabs tab.number, ⟨?_, ?_⟩, ?_⟩
  all_goals
    intro other member
    have bound := (List.mem_filter.1 member).2
  · simpa using bound
  · simpa using bound
  · exact Tab.number_injective (Int.ofNat_inj.1 (by simpa using bound))

section Counts

variable {slots : Slots} {counted : Int} (sorted : slots.Sorted) (counts : slots ≠ [] → 0 < counted)

include sorted counts

theorem firstTab_of_counts (kind : Kind) :
    slots.firstTab kind counted = slots.findIdx? (opens kind) := by
  by_cases empty : slots = []
  · subst empty
    by_cases zero : counted = 0 <;> simp [firstTab, tabHead_nil, zero]
  · exact firstTab_of_sorted sorted kind (by have := counts empty; omega)

theorem place_of_counts (stack : Stack) :
    (slots.place stack counted).1 =
      slots.takeWhile (fun other => other.sortKey ≤ stack.sortKey) ++
        stack :: slots.dropWhile fun other => other.sortKey ≤ stack.sortKey := by
  unfold place
  split
  next =>
    have same : sortBy Stack.sortKey slots = slots := sortBy_of_pairwise sorted
    simp only [sortByTab, sortBy_append_singleton, same]
  next none =>
    obtain rfl : slots = [] := by_contra fun some => none (counts some)
    rfl

theorem sorted_placeEquipping (stack : Stack) : (slots.placeEquipping stack counted).1.Sorted := by
  unfold placeEquipping
  rw [unequipFirstArrows_of_counts sorted counts]
  have some : slots.unequipKinds [.arrow] ≠ [] → 0 < counted :=
    fun some => counts (by simpa [unequipKinds] using some)
  split
  next =>
    dsimp only
    split
    next => exact sorted_place _ some
    next => exact sorted_place _ counts
  next => exact sorted_place _ counts

theorem sorted_obtain (stack : Stack) (last : Option Nat) :
    (slots.obtain stack counted last).1.Sorted := by
  unfold obtain
  split
  next i _ => exact sorted.leftOf (leftOf_modify (fun other => other.leftOf_withValue _) slots i)
  next =>
    split
    next i _ => exact sorted.leftOf (leftOf_meetUnique slots i stack last)
    next => exact sorted_placeEquipping sorted counts stack

end Counts

theorem sorted_middle {front middle back : Slots} (sorted : Sorted (front ++ (middle ++ back))) :
    middle.Sorted :=
  sorted.sublist ((List.sublist_append_left middle back).trans (List.sublist_append_right _ _))

section Around

variable {front middle back : Slots} {stack : Stack} {counted inner : Int}
  (around : Around front back stack.tab) (sorted : Sorted (front ++ (middle ++ back)))
  (counts : front ++ (middle ++ back) ≠ [] → 0 < counted) (countsInner : middle ≠ [] → 0 < inner)

include around

theorem Around.absent {p : Stack → Bool} (own : ∀ other, p other → other.tab = stack.tab) :
    (∀ other ∈ front, ¬p other) ∧ ∀ other ∈ back, ¬p other := by
  constructor
  · intro other member holds
    exact absurd (own other holds ▸ around.before other member) (Nat.lt_irrefl _)
  · intro other member holds
    exact absurd (own other holds ▸ around.after other member) (Nat.lt_irrefl _)

theorem findIdx?_around {p : Stack → Bool} (own : ∀ other, p other → other.tab = stack.tab) :
    (front ++ (middle ++ back)).findIdx? p = (middle.findIdx? p).map (front.length + ·) :=
  findIdx?_middle (around.absent own).1 (around.absent own).2

theorem sameItemAt?_around :
    sameItemAt? (front ++ (middle ++ back)) stack =
      (middle.sameItemAt? stack).map (front.length + ·) := by
  unfold sameItemAt?
  split
  next =>
    apply findIdx?_around around
    intro other same
    exact Stack.tab_of_kind_eq (Stack.kind_of_item_eq (of_decide_eq_true same))
  next => rfl

include sorted counts countsInner

theorem firstTab_around :
    firstTab (front ++ (middle ++ back)) stack.kind counted =
      (middle.firstTab stack.kind inner).map (front.length + ·) := by
  rw [firstTab_of_counts sorted counts, firstTab_of_counts (sorted_middle sorted) countsInner]
  exact findIdx?_around around fun _ => tab_of_opens

theorem uniqueAt?_around :
    uniqueAt? (front ++ (middle ++ back)) stack counted =
      (middle.uniqueAt? stack inner).map (front.length + ·) := by
  unfold uniqueAt?
  split
  next => rfl
  next =>
    rw [firstTab_around around sorted counts countsInner]
    cases found : middle.firstTab stack.kind inner with
    | none => rfl
    | some head =>
      have within : head ≤ middle.length := by
        rw [firstTab_of_counts (sorted_middle sorted) countsInner] at found
        exact (List.findIdx?_eq_some_iff_getElem.1 found).1.le
      have kinds : ∀ other ∈ back, ¬decide (other.kind = stack.kind) :=
        (around.absent fun other same => Stack.tab_of_kind_eq (of_decide_eq_true same)).2
      simp only [Option.map_some, Option.bind_some, drop_middle within,
        takeWhile_append_of_stop kinds, Option.map_map, Function.comp_def, Nat.add_assoc]

omit sorted counts countsInner in
theorem equipsItself_around :
    equipsItself (front ++ (middle ++ back)) stack.kind = middle.equipsItself stack.kind := by
  have other := around.absent (p := isEquipped stack.kind) fun other worn =>
    Stack.tab_of_kind_eq (isEquipped_iff.1 worn).2
  have first : front.any (isEquipped stack.kind) = false := by simpa using other.1
  have last : back.any (isEquipped stack.kind) = false := by simpa using other.2
  have before : front.filter (isEquipped stack.kind) = [] := List.filter_eq_nil_iff.2 other.1
  have after : back.filter (isEquipped stack.kind) = [] := List.filter_eq_nil_iff.2 other.2
  simp only [equipsItself, List.any_append, List.filter_append, first, last, before, after,
    Bool.false_or, Bool.or_false, List.nil_append, List.append_nil]

theorem place_around :
    (place (front ++ (middle ++ back)) stack counted).1 =
      front ++ ((middle.place stack inner).1 ++ back) := by
  have before : ∀ other ∈ front, decide (other.sortKey ≤ stack.sortKey) := by
    intro other member
    have less := around.before other member
    apply decide_eq_true
    by_contra greater
    have := Stack.tab_number_le_of_sortKey_le (Int.le_of_not_le greater)
    omega
  have after : ∀ other ∈ back, ¬decide (other.sortKey ≤ stack.sortKey) := by
    intro other member
    have greater := around.after other member
    rw [decide_eq_true_eq]
    intro le
    have := Stack.tab_number_le_of_sortKey_le le
    omega
  rw [place_of_counts sorted counts, place_of_counts (sorted_middle sorted) countsInner]
  rw [List.takeWhile_append_of_pos before, List.dropWhile_append_of_pos before,
    takeWhile_append_of_stop after, dropWhile_append_of_stop after]
  simp

theorem placeEquipping_around :
    (placeEquipping (front ++ (middle ++ back)) stack counted).1 =
      front ++ ((middle.placeEquipping stack inner).1 ++ back) := by
  unfold placeEquipping
  rw [equipsItself_around around]
  split
  next =>
    dsimp only
    split
    next arrow =>
      have none := around.absent (p := fun other => other.kind = .arrow) fun other same =>
        Stack.tab_of_kind_eq ((of_decide_eq_true same).trans arrow.symm)
      have cleared : unequipKinds (front ++ (middle ++ back)) [.arrow] =
          front ++ (middle.unequipKinds [.arrow] ++ back) := by
        have first := unequipKinds_of_absent (by simpa using none.1)
        have last := unequipKinds_of_absent (by simpa using none.2)
        rw [unequipKinds_append, unequipKinds_append, first, last]
      have left := sorted.leftOf (leftOf_unequipKinds _ [.arrow])
      rw [unequipFirstArrows_of_counts sorted counts, cleared,
        unequipFirstArrows_of_counts (sorted_middle sorted) countsInner]
      rw [cleared] at left
      have around' : Around front back (stack.withEquipped true).tab := around
      apply place_around around' left
      · simpa [unequipKinds] using counts
      · simpa [unequipKinds] using countsInner
    next => exact place_around around sorted counts countsInner
  next => exact place_around around sorted counts countsInner

theorem obtain_around (last : Option Nat) :
    (obtain (front ++ (middle ++ back)) stack counted last).1 =
      front ++ ((middle.obtain stack inner last).1 ++ back) := by
  unfold obtain
  rw [sameItemAt?_around around, uniqueAt?_around around sorted counts countsInner]
  cases same : middle.sameItemAt? stack with
  | some i =>
    obtain ⟨before, other, after, rfl, rfl, -⟩ := sameItemAt?_eq_some same
    exact modify_middle (by simp) _
  | none =>
    simp only [Option.map_none]
    cases met : middle.uniqueAt? stack inner with
    | some i =>
      obtain ⟨-, before, other, after, rfl, rfl, -⟩ := met_of_uniqueAt? met
      simp only [Option.map_some, meetUnique]
      split
      next => exact modify_middle (by simp) _
      next => rfl
    | none => exact placeEquipping_around around sorted counts countsInner

end Around

theorem tab_of_mem_obtain {slots : Slots} {stack : Stack} (own : ∀ other ∈ slots, other.tab = stack.tab)
    (counted : Int) (last : Option Nat) :
    ∀ other ∈ (slots.obtain stack counted last).1, other.tab = stack.tab := by
  have kept {after : Slots} (left : after.LeftOf slots) : ∀ other ∈ after, other.tab = stack.tab := by
    intro other member
    obtain ⟨before, inside, related⟩ := mem_of_sublistForall₂ left member
    exact (Stack.tab_of_kind_eq (Stack.kind_of_item_eq related.item)).trans (own before inside)
  unfold obtain
  split
  next i _ => exact kept (leftOf_modify (fun other => other.leftOf_withValue _) slots i)
  next =>
    split
    next i _ => exact kept (leftOf_meetUnique slots i stack last)
    next =>
      intro other member
      have inside : other.bare ∈ slots.map Stack.bare ++ [stack.bare] :=
        (perm_placeEquipping slots stack counted).mem_iff.1 (List.mem_map_of_mem member)
      rcases List.mem_append.1 inside with inside | inside
      next =>
        obtain ⟨before, inside, same⟩ := List.mem_map.1 inside
        have tabs : before.bare.tab = other.bare.tab := congrArg Stack.tab same
        exact tabs.symm.trans (own before inside)
      next =>
        have tabs : other.bare.tab = stack.bare.tab :=
          congrArg Stack.tab (List.mem_singleton.1 inside)
        exact tabs

end Slots

namespace Pouch

variable {pouch : Pouch} {a b : Stack}

theorem sorted_obtain_of_whole (whole : pouch.broken = 0) (sorted : pouch.slots.Sorted)
    (stack : Stack) : (pouch.obtain stack).slots.Sorted :=
  Slots.sorted_obtain sorted (counted_pos whole) stack none

theorem obtain_around (whole : pouch.broken = 0) (sorted : pouch.slots.Sorted) {stack : Stack}
    {front middle back : Slots} (around : Slots.Around front back stack.tab)
    (split : pouch.slots = front ++ (middle ++ back)) :
    (pouch.obtain stack).slots =
      front ++ ((middle.obtain stack middle.length none).1 ++ back) := by
  have counts := counted_pos whole
  rw [split] at sorted counts
  have inner : middle ≠ [] → 0 < (middle.length : Int) := fun some =>
    Int.natCast_pos.2 (List.length_pos_iff.2 some)
  change (Slots.obtain pouch.slots stack pouch.counted none).1 = _
  rw [split]
  exact Slots.obtain_around around sorted counts inner none

theorem obtain_comm_of_lt (whole : pouch.broken = 0) (sorted : pouch.slots.Sorted)
    (less : a.tab.number < b.tab.number) :
    (pouch.obtain a).obtain b = (pouch.obtain b).obtain a := by
  obtain ⟨front, first, rest, split, around, own⟩ := sorted.cut a.tab
  have later : Slots.Sorted rest := by
    rw [split] at sorted
    exact (List.pairwise_append.1 (List.pairwise_append.1 sorted).2.1).2.1
  obtain ⟨between, second, back, rfl, around', own'⟩ := later.cut b.tab
  -- The tab of either stack may have changed already when the other stack comes.
  have outer (second : Slots) (own' : ∀ other ∈ second, other.tab = b.tab) :
      Slots.Around front (between ++ (second ++ back)) a.tab := by
    refine ⟨around.before, fun other member => ?_⟩
    simp only [List.mem_append] at member
    rcases member with inside | inside | inside
    · exact around.after other (by simp [inside])
    · rwa [own' other inside]
    · exact around.after other (by simp [inside])
  have inner (first : Slots) (own : ∀ other ∈ first, other.tab = a.tab) :
      Slots.Around (front ++ (first ++ between)) back b.tab := by
    refine ⟨fun other member => ?_, around'.after⟩
    simp only [List.mem_append] at member
    rcases member with inside | inside | inside
    · exact (around.before other inside).trans less
    · rwa [own other inside]
    · exact around'.before other inside
  have ab : ((pouch.obtain a).obtain b).slots =
      front ++ ((first.obtain a first.length none).1 ++
        (between ++ ((second.obtain b second.length none).1 ++ back))) := by
    have one := obtain_around whole sorted (outer second own') split
    have whole' : (pouch.obtain a).broken = 0 := whole
    have other := obtain_around whole' (sorted_obtain_of_whole whole sorted a)
      (inner _ (Slots.tab_of_mem_obtain own _ _)) (by simpa using one)
    simpa using other
  have ba : ((pouch.obtain b).obtain a).slots =
      front ++ ((first.obtain a first.length none).1 ++
        (between ++ ((second.obtain b second.length none).1 ++ back))) := by
    have one := obtain_around whole sorted (inner first own) (by simpa using split)
    have whole' : (pouch.obtain b).broken = 0 := whole
    exact obtain_around whole' (sorted_obtain_of_whole whole sorted b)
      (outer _ (Slots.tab_of_mem_obtain own' _ _)) (by simpa using one)
  exact congrArg (Pouch.mk · pouch.broken) (ab.trans ba.symm)

theorem obtain_comm_of_tabs (whole : pouch.broken = 0) (sorted : pouch.slots.Sorted)
    (apart : a.tab ≠ b.tab) : (pouch.obtain a).obtain b = (pouch.obtain b).obtain a := by
  rcases Nat.lt_or_gt_of_ne (mt Tab.number_injective apart) with less | greater
  · exact obtain_comm_of_lt whole sorted less
  · exact (obtain_comm_of_lt whole sorted greater).symm

theorem obtain_comm_of_arrow_and_apple :
    let bow := (Stack.new (Item.new "BowA" .bow)).withEquipped true
    let spent := ((Stack.new (Item.new "ArrowA" .arrow)).withValue 0).withEquipped true
    let arrow := Stack.new (Item.new "ArrowB" .arrow)
    let apple := Stack.new (Item.new "MaterialA" .material)
    let pouch : Pouch := ⟨[bow, spent, apple], 0⟩
    pouch.broken = 0 ∧ pouch.slots.Sorted ∧ arrow.tab ≠ apple.tab ∧
      (pouch.obtain arrow).obtain apple = (pouch.obtain apple).obtain arrow ∧
      (pouch.obtain arrow).obtain apple =
        ⟨[bow, spent.withEquipped false, arrow.withEquipped true, apple.withValue 2], 0⟩ := by
  intro bow spent arrow apple pouch
  have sorted : pouch.slots.Sorted := by decide
  have apart : arrow.tab ≠ apple.tab := by decide
  exact ⟨rfl, sorted, apart, obtain_comm_of_tabs rfl sorted apart, by decide⟩

end Pouch

end Inventory
