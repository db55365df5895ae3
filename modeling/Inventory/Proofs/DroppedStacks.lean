import Inventory.Proofs.ClosestFirst
import Inventory.Proofs.Obtaining
import Inventory.Simulation

set_option autoImplicit false

namespace Inventory

theorem perm_filterMap_set {α : Type} {entries : List (Option α)} {i : Nat} {x : α}
    (here : entries[i]? = some (some x)) :
    (x :: (entries.set i none).filterMap id).Perm (entries.filterMap id) := by
  induction entries generalizing i with
  | nil => cases here
  | cons entry rest ih =>
    cases i with
    | zero =>
      obtain rfl : entry = some x := by simpa using here
      simp
    | succ i =>
      have later := ih (by simpa using here)
      cases entry with
      | none => simpa using later
      | some y => simpa using (List.Perm.swap y x _).trans (later.cons y)

namespace Stack

def bare (stack : Stack) : Stack := stack.withEquipped false

@[simp] theorem bare_item (stack : Stack) : stack.bare.item = stack.item := rfl

@[simp] theorem bare_value (stack : Stack) : stack.bare.value = stack.value := rfl

@[simp] theorem bare_withEquipped (stack : Stack) (equipped : Bool) :
    (stack.withEquipped equipped).bare = stack.bare := rfl

/-- Whether a slot is counted and empty. Those of arrows may stay empty. -/
def isSpent (stack : Stack) : Bool :=
  stack.value = 0 && stack.kind ≠ .arrow && stack.item.stackable

end Stack

namespace Slots

theorem remains_drop (start : Nat) : remains (.drop start) = fun stack => !stack.isSpent := by
  funext stack
  simp [remains, Manner.counts, Manner.drop, Stack.isSpent, Bool.not_and, Bool.or_assoc]

def takenStacks (slots : Slots) (target : Stack) (amount : Amount) (manner : Manner) : List Stack :=
  (slots.taken target amount manner).filterMap fun i => slots[i]?

/-- Slots of which each is gone or holds what it held. -/
def Whole (entries : List (Option Stack)) (slots : Slots) : Prop :=
  List.Forall₂ (fun entry before => ∀ stack ∈ entry, stack = before) entries slots

theorem whole_self (slots : Slots) : Whole (slots.map some) slots := by
  rw [Whole, List.forall₂_map_left_iff, List.forall₂_same]
  simp

theorem Whole.before {entries : List (Option Stack)} {slots : Slots} {i : Nat} {stack : Stack}
    (whole : Whole entries slots) (here : entries[i]? = some (some stack)) :
    slots[i]? = some stack := by
  have within : i < slots.length := by
    rw [← whole.length_eq]
    exact (List.getElem?_eq_some_iff.1 here).1
  have there := List.getElem?_eq_getElem within
  rw [there, related_of_getElem? whole here there stack rfl]

section Taking

variable {slots : Slots} {target : Stack} {amount : Amount} {manner : Manner} {serving : Serving}

theorem Serving.Draws.eq_of_single {i : Nat} {stack : Stack} {entry : Option Stack} {n : Count}
    (draws : serving.Draws manner i stack entry n) (single : manner.counts stack = false) :
    entry = none ∧ n.val = 1 := by
  have gone : entry = none := by
    refine draws.change.resolve_right fun other => ?_
    rw [single] at other
    cases other.1
  have worth := draws.worth
  rw [gone, Manner.worth_of_single single, Manner.worthOf] at worth
  simp only [Option.map_none, Option.getD_none] at worth
  exact ⟨gone, by omega⟩

theorem perm_visitAll_of_single {visits : List Nat} (whole : Whole serving.slots slots)
    (single : ∀ i ∈ visits, ∀ stack, slots[i]? = some stack → manner.counts stack = false) :
    ((serving.visitAll manner visits).slots.filterMap id ++
        (serving.takings manner visits).filterMap fun i => slots[i]?).Perm
          (serving.slots.filterMap id) ∧
      (serving.visitAll manner visits).removed.val =
        min (serving.removed.val +
          ((serving.takings manner visits).filterMap fun i => slots[i]?).length) 2147483647 := by
  induction visits generalizing serving with
  | nil =>
    have bound := serving.removed.le_hi
    simp only [Serving.visitAll, Serving.takings, List.foldl_nil, List.filterMap_nil, List.append_nil,
      List.length_nil]
    exact ⟨.refl _, by omega⟩
  | cons i rest ih =>
    obtain ⟨first, later⟩ := List.forall_mem_cons.1 single
    obtain ⟨idle, -⟩ | ⟨stack, entry, n, draws, next⟩ := Serving.visit_cases manner serving i
    next => simpa [Serving.visitAll, Serving.takings, idle] using ih whole later
    next =>
      have there := whole.before draws.here
      obtain ⟨rfl, one⟩ := draws.eq_of_single (first stack there)
      -- The slot is empty now and stays so; its stack is the first of those that are taken.
      have kept : Whole (serving.draw i none n).slots slots :=
        forall₂_set whole draws.here (by simp)
      obtain ⟨perm, removed⟩ := ih kept later
      have round : serving.visitAll manner (i :: rest) =
          (serving.draw i none n).visitAll manner rest := by
        rw [← next]
        rfl
      have taken : (serving.takings manner (i :: rest)).filterMap (fun i => slots[i]?) =
          stack :: ((serving.draw i none n).takings manner rest).filterMap fun i => slots[i]? := by
        rw [Serving.takings_of_draw draws next]
        exact List.filterMap_cons_some there
      have told : (serving.draw i none n).removed.val =
          max (-2147483648) (min 2147483647 (serving.removed.val + 1)) := by
        rw [Serving.draw, Count.val_plus, one]
      have least := serving.removed.lo_le
      rw [round, taken, List.length_cons, removed, told]
      refine ⟨List.perm_middle.trans ((perm.cons stack).trans (perm_filterMap_set draws.here)), ?_⟩
      omega

theorem withdraw_of_single (slots : Slots) (amount : Amount)
    (single : manner.counts target = false) :
    ((slots.withdraw target amount manner).1 ++ slots.takenStacks target amount manner).Perm
        (slots.filter (remains manner)) ∧
      (∀ stack ∈ slots.takenStacks target amount manner, stack ∈ slots ∧ stack.item = target.item) ∧
      (slots.withdraw target amount manner).2.val =
        min ((slots.takenStacks target amount manner).length : Int) 2147483647 := by
  have held : ∀ stack ∈ slots.takenStacks target amount manner,
      stack ∈ slots ∧ stack.item = target.item := by
    intro stack taken
    obtain ⟨i, turn, here⟩ := List.mem_filterMap.1 taken
    have asked := (Serving.takings_sublist manner _ _).subset turn
    exact ⟨List.mem_of_getElem? here, item_of_visited asked here⟩
  have asked : ∀ i ∈ slots.visits target manner.start, ∀ stack, slots[i]? = some stack →
      manner.counts stack = false := by
    intro i asked stack here
    rw [Manner.counts_of_item (item_of_visited asked here) manner, single]
  have start : Whole (Serving.mk (slots.map some) amount 0).slots slots := whole_self slots
  obtain ⟨perm, removed⟩ := perm_visitAll_of_single start asked
  refine ⟨?_, held, ?_⟩
  next =>
    -- No stack that is taken would have been swept away.
    have stay : (slots.takenStacks target amount manner).filter (remains manner) =
        slots.takenStacks target amount manner := by
      apply List.filter_eq_self.2
      intro stack taken
      have other := Manner.counts_of_item (held stack taken).2 manner
      simp [remains, other, single]
    have remaining := perm.filter (remains manner)
    rw [List.filter_append, List.filterMap_map, Function.id_comp, List.filterMap_some] at remaining
    rwa [← stay, withdraw_eq]
  next =>
    rw [withdraw_eq, served, removed, Count.val_zero, Int.zero_add]
    rfl

end Taking

theorem Readied.map_bare {slots kept : Slots} {stack new : Stack} {counted : Int}
    (readied : slots.Readied stack counted kept new) :
    kept.map Stack.bare = slots.map Stack.bare ∧ new.bare = stack.bare := by
  cases readied with
  | asItIs => exact ⟨rfl, rfl⟩
  | equipment => exact ⟨rfl, rfl⟩
  | noFirstArrow => exact ⟨rfl, rfl⟩
  | @arrows head run after _ _ _ rest =>
    have split := List.take_append_drop head slots
    rw [rest] at split
    have unequipped : (run.map fun other => other.withEquipped false).map Stack.bare =
        run.map Stack.bare := by simp
    refine ⟨?_, rfl⟩
    conv_rhs => rw [← split]
    simp only [List.map_append, unequipped]

theorem perm_placeEquipping (slots : Slots) (stack : Stack) (counted : Int) :
    ((slots.placeEquipping stack counted).1.map Stack.bare).Perm
      (slots.map Stack.bare ++ [stack.bare]) := by
  obtain ⟨kept, new, readied, same⟩ := readied_placeEquipping slots stack counted
  obtain ⟨others, self⟩ := readied.map_bare
  have placed := (place_perm kept new counted).map Stack.bare
  rwa [List.map_append, List.map_singleton, others, self, ← same] at placed

end Slots

namespace Pouch

theorem perm_obtain_of_single {stack : Stack} (single : stack.item.stackable = false)
    (repeatable : stack.item.repeatable) (pouch : Pouch) :
    ((pouch.obtain stack).slots.map Stack.bare).Perm
      (pouch.slots.map Stack.bare ++ [stack.bare]) := by
  have fresh : pouch.slots.sameItemAt? stack = none := by simp [Slots.sameItemAt?, single]
  have unmet : pouch.slots.uniqueAt? stack pouch.counted = none := by
    simp [Slots.uniqueAt?, repeatable]
  have placed := pouch.slots.perm_placeEquipping stack pouch.counted
  simpa [obtain, mapSlots, Slots.obtain, fresh, unmet] using placed

theorem perm_obtain_copies {stack : Stack} (single : stack.item.stackable = false)
    (repeatable : stack.item.repeatable) (n : Nat) (pouch : Pouch) :
    (((List.replicate n stack).foldl obtain pouch).slots.map Stack.bare).Perm
      (pouch.slots.map Stack.bare ++ List.replicate n stack.bare) := by
  induction n generalizing pouch with
  | zero => simp
  | succ n ih =>
    rw [List.replicate_succ, List.foldl_cons, List.replicate_succ, List.append_cons]
    exact (ih (pouch.obtain stack)).trans ((perm_obtain_of_single single repeatable pouch).append_right _)

end Pouch

namespace Simulation

@[simp] theorem pouch_sync (state : Simulation) : state.sync.pouch = state.pouch := by
  unfold sync
  split <;> rfl

theorem dropAndPickUp_eq (state : Simulation) (target : Stack) (amount : Amount) (start : Nat) :
    ∃ (pouch : Pouch) (n : Count),
      state.pouch.slots.withdraw target amount (.drop start) = (pouch.slots, n) ∧
        (state.dropAndPickUp target amount start).2 = n ∧
        (state.dropAndPickUp target amount start).1.pouch =
          if 0 < n.val then (Lot.mk target n).slots.foldl Pouch.obtain pouch else pouch := by
  refine ⟨(state.pouch.withdraw target amount (.drop start)).1,
    (state.pouch.withdraw target amount (.drop start)).2, rfl, ?_⟩
  unfold dropAndPickUp remove withdraw
  by_cases some : 0 < (state.pouch.withdraw target amount (.drop start)).2.val <;>
    simp [some, obtain]

theorem perm_dropAndPickUp_of_single (state : Simulation) {target : Stack} (amount : Amount)
    (start : Nat) (single : target.item.stackable = false) (repeatable : target.item.repeatable) :
    ((state.dropAndPickUp target amount start).1.pouch.slots.map Stack.bare).Perm
      ((state.pouch.slots.withdraw target amount (.drop start)).1.map Stack.bare ++
        List.replicate (min 999 (state.pouch.slots.takenStacks target amount (.drop start)).length)
          target.bare) := by
  have alone : (Manner.drop start).counts target = false := by
    simp [Manner.counts, Manner.drop, single]
  obtain ⟨-, -, told⟩ := Slots.withdraw_of_single state.pouch.slots amount alone
  obtain ⟨pouch, n, dropped, -, picked⟩ := dropAndPickUp_eq state target amount start
  rw [dropped] at told ⊢
  change n.val = _ at told
  rw [picked]
  split
  next =>
    -- The count that is told stops far above the most that are picked up.
    have bound : Lot.maxCopies.val = 999 := rfl
    have copies : (Lot.mk target n).slots = List.replicate
        (min 999 (state.pouch.slots.takenStacks target amount (.drop start)).length) target := by
      rw [Lot.slots, single, if_neg Bool.false_ne_true, Count.val_atMost, bound, told]
      congr 1
      omega
    rw [copies]
    exact Pouch.perm_obtain_copies single repeatable _ pouch
  next none =>
    have nothing : (state.pouch.slots.takenStacks target amount (.drop start)).length = 0 := by
      omega
    rw [nothing, Nat.min_zero, List.replicate_zero, List.append_nil]

/-- When an item that is not counted is dropped and picked up, copies of the target take the place of
the stacks that were taken, up to the most that are picked up. So the pouch has the same stacks
as before exactly if those were such copies, and not too many. -/
theorem same_stacks_iff_copies_dropped (state : Simulation) (target : Stack) (amount : Amount)
    (start : Nat) (single : target.item.stackable = false) (repeatable : target.item.repeatable) :
    let held := state.pouch.slots.filter fun stack => !stack.isSpent
    let kept := (state.remove target amount start).1.pouch.slots
    let dropped := state.pouch.slots.takenStacks target amount (.drop start)
    let after := (state.dropAndPickUp target amount start).1.pouch.slots
    held.Perm (kept ++ dropped) ∧ (∀ stack ∈ dropped, stack.item = target.item) ∧
      (after.map Stack.bare).Perm
        (kept.map Stack.bare ++ List.replicate (min 999 dropped.length) target.bare) ∧
      ((after.map Stack.bare).Perm (held.map Stack.bare) ↔
        dropped.length ≤ 999 ∧ ∀ stack ∈ dropped, stack.bare = target.bare) := by
  intro held kept dropped after
  have alone : (Manner.drop start).counts target = false := by
    simp [Manner.counts, Manner.drop, single]
  obtain ⟨parts, items, -⟩ := Slots.withdraw_of_single state.pouch.slots amount alone
  have picked := perm_dropAndPickUp_of_single state amount start single repeatable
  have same : (state.pouch.slots.withdraw target amount (.drop start)).1 = kept := by
    simp [kept, remove, withdraw, Pouch.withdraw]
  rw [Slots.remains_drop, same] at parts
  rw [same] at picked
  refine ⟨parts.symm, fun stack taken => (items stack taken).2, picked, ?_⟩
  have before := parts.symm.map Stack.bare
  rw [List.map_append] at before
  -- What is kept is on both sides, so only the stacks that were taken and the copies are compared.
  calc (after.map Stack.bare).Perm (held.map Stack.bare)
    _ ↔ (kept.map Stack.bare ++ List.replicate (min 999 dropped.length) target.bare).Perm
          (kept.map Stack.bare ++ dropped.map Stack.bare) := by
      rw [picked.congr_left, before.congr_right]
    _ ↔ (dropped.map Stack.bare).Perm (List.replicate (min 999 dropped.length) target.bare) := by
      rw [List.perm_append_left_iff, List.perm_comm]
    _ ↔ dropped.length ≤ 999 ∧ ∀ stack ∈ dropped, stack.bare = target.bare := by
      rw [List.perm_replicate, List.eq_replicate_iff]
      simp

theorem same_stacks_of_new_swords :
    let sword := Stack.new (Item.new "WeaponA" .weapon)
    let herbs := Stack.new (Item.new "MaterialA" .material)
    let state := initial.run [.startWith [sword.withEquipped true, herbs.withValue 0, sword,
      herbs.withValue 3]]
    let dropped := state.pouch.slots.takenStacks sword .all (.drop 1)
    let after := (state.dropAndPickUp sword .all 1).1.pouch.slots
    sword.item.stackable = false ∧ sword.item.repeatable ∧
      dropped = [sword, sword.withEquipped true] ∧
      (after.map Stack.bare).Perm [sword, sword, herbs.withValue 3] := by
  intro sword herbs state dropped after
  have single : sword.item.stackable = false := by decide
  have repeatable : sword.item.repeatable := by decide
  obtain ⟨-, -, -, same⟩ := same_stacks_iff_copies_dropped state sword .all 1 single repeatable
  exact ⟨single, repeatable, by decide, same.2 (by decide)⟩

theorem not_same_stacks_after_worn_sword :
    ¬∀ (state : Simulation) (target : Stack) (amount : Amount) (start : Nat),
      target.item.stackable = false → target.item.repeatable →
        ((state.dropAndPickUp target amount start).1.pouch.slots.map Stack.bare).Perm
          ((state.pouch.slots.filter fun stack => !stack.isSpent).map Stack.bare) := by
  intro unchanged
  let sword := Stack.new (Item.new "WeaponA" .weapon)
  let worn := sword.withValue 50
  have same := unchanged (initial.run [.startWith [worn]]) sword (.count 1) 0 (by decide) (by decide)
  have there := same.mem_iff.2 (show worn ∈ _ by decide)
  revert there
  decide

end Simulation

end Inventory
