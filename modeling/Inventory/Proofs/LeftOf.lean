import Inventory.Proofs.Visits
import Inventory.Slots.Obtain
import Mathlib.Data.List.Forall2

set_option autoImplicit false

namespace Inventory

section Lists

variable {α β : Type} {R : α → β → Prop}

theorem mem_of_sublistForall₂ {after : List α} {before : List β}
    (left : List.SublistForall₂ R after before) {x : α} (member : x ∈ after) :
    ∃ y ∈ before, R x y := by
  induction left with
  | nil => cases member
  | cons related _ ih =>
    rcases List.mem_cons.1 member with rfl | member
    · exact ⟨_, List.mem_cons_self, related⟩
    · obtain ⟨y, inside, related⟩ := ih member
      exact ⟨y, List.mem_cons_of_mem _ inside, related⟩
  | cons_right _ ih =>
    obtain ⟨y, inside, related⟩ := ih member
    exact ⟨y, List.mem_cons_of_mem _ inside, related⟩

theorem pairwise_of_sublistForall₂ {S : β → β → Prop} {T : α → α → Prop}
    (imp : ∀ a b a' b', R a a' → R b b' → S a' b' → T a b) {after : List α} {before : List β}
    (left : List.SublistForall₂ R after before) (pairs : before.Pairwise S) :
    after.Pairwise T := by
  induction left with
  | nil => exact .nil
  | cons related rest ih =>
    obtain ⟨first, later⟩ := List.pairwise_cons.1 pairs
    refine List.pairwise_cons.2 ⟨fun b member => ?_, ih later⟩
    obtain ⟨b', inside, related'⟩ := mem_of_sublistForall₂ rest member
    exact imp _ _ _ _ related related' (first b' inside)
  | cons_right _ ih => exact ih pairs.of_cons

theorem forall₂_set {after : List α} {before : List β} (related : List.Forall₂ R after before)
    {i : Nat} {x x' : α} (here : after[i]? = some x)
    (imp : ∀ y, before[i]? = some y → R x y → R x' y) :
    List.Forall₂ R (after.set i x') before := by
  induction related generalizing i with
  | nil => exact .nil
  | cons first rest ih =>
    cases i with
    | zero =>
      obtain rfl : _ = x := by simpa using here
      exact .cons (imp _ rfl first) rest
    | succ i => exact .cons first (ih (by simpa using here) (by simpa using imp))

theorem related_of_getElem? {after : List α} {before : List β} (related : List.Forall₂ R after before)
    {i : Nat} {x : α} {y : β} (here : after[i]? = some x) (there : before[i]? = some y) : R x y := by
  obtain ⟨within, rfl⟩ := List.getElem?_eq_some_iff.1 here
  obtain ⟨within', rfl⟩ := List.getElem?_eq_some_iff.1 there
  exact related.get within within'

theorem sublistForall₂_filterMap_id {after : List (Option α)} {before : List β}
    (left : List.Forall₂ (fun entry y => ∀ x ∈ entry, R x y) after before) :
    List.SublistForall₂ R (after.filterMap id) before := by
  induction left with
  | nil => exact .nil
  | @cons entry _ _ _ related _ ih =>
    cases entry with
    | none => simpa using ih.cons_right
    | some x => simpa using .cons (related x rfl) ih

end Lists

/-- What may become of a stack that gains nothing: its value may change, and it may be unequipped. -/
structure Stack.LeftOf (after before : Stack) : Prop where
  item : after.item = before.item
  equipped : after.equipped → before.equipped

namespace Stack

theorem LeftOf.refl (stack : Stack) : stack.LeftOf stack := ⟨rfl, id⟩

theorem LeftOf.trans {a b c : Stack} (first : a.LeftOf b) (second : b.LeftOf c) : a.LeftOf c :=
  ⟨first.item.trans second.item, second.equipped ∘ first.equipped⟩

instance : Std.Refl Stack.LeftOf := ⟨LeftOf.refl⟩

instance : IsTrans Stack Stack.LeftOf := ⟨fun _ _ _ => LeftOf.trans⟩

theorem leftOf_withValue (stack : Stack) (value : Count) : (stack.withValue value).LeftOf stack :=
  ⟨rfl, id⟩

theorem leftOf_unequipped (stack : Stack) : (stack.withEquipped false).LeftOf stack :=
  ⟨rfl, fun equipped => by cases equipped⟩

theorem leftOf_reset (stack : Stack) : ((stack.withValue 0).withEquipped false).LeftOf stack :=
  (stack.withValue 0).leftOf_unequipped.trans (stack.leftOf_withValue 0)

end Stack

namespace Slots

def LeftOf (after before : Slots) : Prop := List.SublistForall₂ Stack.LeftOf after before

theorem LeftOf.refl (slots : Slots) : slots.LeftOf slots := List.SublistForall₂.is_refl.refl slots

theorem LeftOf.trans {a b c : Slots} (first : a.LeftOf b) (second : b.LeftOf c) : a.LeftOf c :=
  List.SublistForall₂.is_trans.trans _ _ _ first second

theorem leftOf_of_sublist {after before : Slots} (sublist : after.Sublist before) :
    after.LeftOf before :=
  sublist.sublistForall₂

theorem leftOf_map {change : Stack → Stack} (loses : ∀ stack, (change stack).LeftOf stack)
    (slots : Slots) : LeftOf (slots.map change) slots := by
  induction slots with
  | nil => exact .nil
  | cons stack rest ih => exact .cons (loses stack) ih

theorem leftOf_modify {change : Stack → Stack} (loses : ∀ stack, (change stack).LeftOf stack)
    (slots : Slots) (i : Nat) : LeftOf (slots.modify i change) slots := by
  induction slots generalizing i with
  | nil => simpa using LeftOf.refl []
  | cons stack rest ih =>
    cases i with
    | zero => exact .cons (loses stack) (LeftOf.refl rest)
    | succ i => exact .cons (Stack.LeftOf.refl stack) (ih i)

theorem leftOf_set {slots : Slots} {i : Nat} {stack next : Stack} (here : slots[i]? = some stack)
    (loses : next.LeftOf stack) : LeftOf (slots.set i next) slots := by
  have same : List.Forall₂ Stack.LeftOf slots slots := List.forall₂_same.2 fun stack _ => .refl stack
  have changed := forall₂_set same here fun _ _ related => loses.trans related
  exact List.sublistForall₂_iff.2 ⟨slots, changed, .refl slots⟩

theorem leftOf_removeKinds (slots : Slots) (kinds : List Kind) :
    (slots.removeKinds kinds).LeftOf slots :=
  leftOf_of_sublist List.filter_sublist

theorem leftOf_unequipKinds (slots : Slots) (kinds : List Kind) :
    (slots.unequipKinds kinds).LeftOf slots := by
  refine leftOf_map (fun stack => ?_) slots
  split
  next => exact stack.leftOf_unequipped
  next => exact .refl stack

theorem leftOf_unequip (slots : Slots) (item : Item) (n : Option Nat) :
    (slots.unequip item n).LeftOf slots := by
  unfold unequip
  split
  next => exact .refl slots
  next =>
    dsimp only
    split
    next => exact .refl slots
    next => exact leftOf_modify Stack.leftOf_unequipped slots _

theorem leftOf_shoot {slots after : Slots} {count : Count} {i : Nat}
    (shot : slots.shoot count = some (i, after)) : after.LeftOf slots := by
  unfold shoot at shot
  split at shot
  next => cases shot
  next =>
    obtain ⟨j, _, same⟩ := Option.map_eq_some_iff.1 shot
    obtain ⟨rfl, rfl⟩ := Prod.mk.inj same
    exact leftOf_modify (fun stack => stack.leftOf_withValue _) slots _

theorem leftOf_updateLife {slots after : Slots} {life : Count} {i : Nat}
    (updated : slots.updateLife life i = .ok after) : after.LeftOf slots := by
  unfold updateLife at updated
  split at updated
  next => cases updated
  next stack here =>
    obtain rfl : _ = after := by simpa using updated
    exact leftOf_set here (stack.leftOf_withValue _)

theorem leftOf_meetUnique (slots : Slots) (i : Nat) (stack : Stack) (last : Option Nat) :
    (slots.meetUnique i stack last).1.LeftOf slots := by
  unfold meetUnique
  split
  next =>
    exact leftOf_modify Stack.leftOf_reset slots i
  next => exact .refl slots

theorem forall₂_visitAll {manner : Manner} {R : Option Stack → Stack → Prop} {slots : Slots}
    {visits : List Nat} {serving : Serving} (related : List.Forall₂ R serving.slots slots)
    (keeps : ∀ i ∈ visits, ∀ (now : Serving) stack entry n, now.Draws manner i stack entry n →
      ∀ before, slots[i]? = some before → R (some stack) before → R entry before) :
    List.Forall₂ R (serving.visitAll manner visits).slots slots := by
  induction visits generalizing serving with
  | nil => exact related
  | cons i rest ih =>
    obtain ⟨first, later⟩ := List.forall_mem_cons.1 keeps
    have next : List.Forall₂ R (serving.visit manner i).slots slots := by
      obtain ⟨same, -⟩ | ⟨stack, entry, n, draws, same⟩ := Serving.visit_cases manner serving i
      next => rwa [same]
      next =>
        rw [same]
        exact forall₂_set related draws.here (first serving stack entry n draws)
    exact ih next later

-- A slot may be visited again after it has changed, so every visit is compared with the start.
theorem leftOf_served (slots : Slots) (target : Stack) (amount : Amount) (manner : Manner) :
    List.Forall₂ (fun entry before => ∀ stack ∈ entry, Stack.LeftOf stack before)
      (slots.served target amount manner).slots slots := by
  have start : List.Forall₂ (fun entry before => ∀ stack ∈ entry, Stack.LeftOf stack before)
      (slots.map some) slots := by
    rw [List.forall₂_map_left_iff, List.forall₂_same]
    intro stack _ other inside
    obtain rfl : stack = other := by simpa using inside
    exact .refl stack
  refine forall₂_visitAll start fun i _ now stack entry n draws before _ related => ?_
  rcases draws.change with rfl | ⟨-, value, rfl⟩
  next => simp
  next =>
    rintro _ ⟨⟩
    exact (stack.leftOf_withValue value).trans (related stack rfl)

theorem leftOf_withdraw (slots : Slots) (target : Stack) (amount : Amount) (manner : Manner) :
    (slots.withdraw target amount manner).1.LeftOf slots :=
  (leftOf_of_sublist List.filter_sublist).trans
    (sublistForall₂_filterMap_id (slots.leftOf_served target amount manner))

end Slots

end Inventory
