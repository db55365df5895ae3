import Inventory.Proofs.DroppedStacks
import Inventory.Proofs.Tidy

set_option autoImplicit false

namespace Inventory

section Lists

variable {α : Type} {entries : List α}

theorem findIdx?_takeWhile_eq_none_iff {p q : α → Bool} (imp : ∀ x, q x → p x)
    (held : ∃ x ∈ entries, q x) :
    (entries.takeWhile p).findIdx? q = none ↔ ∃ x ∈ entries.takeWhile (!q ·), ¬p x := by
  induction entries with
  | nil => simp at held
  | cons x rest ih =>
    by_cases hit : q x
    next =>
      have inside : p x := imp x hit
      simp [hit, inside, List.findIdx?_cons]
    next =>
      have later : ∃ y ∈ rest, q y := by simpa [hit] using held
      by_cases inside : p x
      next => simpa [hit, inside, List.findIdx?_cons] using ih later
      next => simp [hit, inside]

theorem rel_of_mem_takeWhile {R : α → α → Prop} {p : α → Bool} {x y : α} (pairs : entries.Pairwise R)
    (before : x ∈ entries.takeWhile p) (member : y ∈ entries) (ends : ¬p y) : R x y := by
  rw [← List.takeWhile_append_dropWhile (p := p) (l := entries)] at pairs member
  have later : y ∈ entries.dropWhile p :=
    (List.mem_append.1 member).resolve_left fun front => ends (List.mem_takeWhile_imp front)
  exact (List.pairwise_append.1 pairs).2.2 x before y later

end Lists

theorem Kind.armor_of_between {kind other : Kind} (differ : other ≠ kind)
    (tab : kind.tab.number ≤ other.tab.number) (arrow : kind = .arrow → kind.shelf ≤ other.shelf)
    (shelf : other.shelf ≤ kind.shelf) : kind.tab = .armor ∧ other.tab = .armor := by
  revert differ tab arrow shelf
  cases kind <;> cases other <;> decide

namespace Slots

def beforeItem (slots : Slots) (item : Item) : Slots :=
  slots.takeWhile fun other => !decide (other.item = item)

/-- Whether armor of another kind stands before the first slot with the item of a piece of armor. -/
def isScreened (slots : Slots) (stack : Stack) : Bool :=
  stack.tab = .armor &&
    (slots.beforeItem stack.item).any fun other => other.tab = .armor && other.kind ≠ stack.kind

variable {slots : Slots} {stack : Stack} {counted : Int}

theorem isScreened_iff_of_tab {head : Nat} (closed : ∀ other ∈ slots.take head, ¬opens stack.kind other)
    (between : ∀ other ∈ beforeItem (slots.drop head) stack.item, other.kind ≠ stack.kind →
      stack.tab = .armor ∧ other.tab = .armor) :
    slots.isScreened stack ↔
      ∃ other ∈ beforeItem (slots.drop head) stack.item, other.kind ≠ stack.kind := by
  have front : ∀ other ∈ slots.take head, !decide (other.item = stack.item) := by
    intro other member
    have differ : other.item ≠ stack.item := fun same =>
      closed other member (opens_of_kind (Stack.kind_of_item_eq same))
    simpa using differ
  have split : slots.beforeItem stack.item =
      slots.take head ++ beforeItem (slots.drop head) stack.item := by
    unfold beforeItem
    conv_lhs => rw [← List.take_append_drop head slots]
    exact List.takeWhile_append_of_pos front
  have tabs : stack.kind.tab = stack.tab := rfl
  simp only [isScreened, split, Bool.and_eq_true, decide_eq_true_eq, List.any_eq_true,
    List.mem_append]
  constructor
  · intro screened
    obtain ⟨armor, other, member | member, tab, differ⟩ := screened
    next =>
      have start : opens stack.kind other := by
        unfold opens
        split
        next arrow => rw [← tabs, arrow] at armor; cases armor
        next => simpa [tabs, armor] using tab
      exact absurd start (closed other member)
    next => exact ⟨other, member, differ⟩
  · intro screened
    obtain ⟨other, member, differ⟩ := screened
    have armor := between other member differ
    exact ⟨armor.1, other, .inr member, armor.2, differ⟩

theorem uniqueAt?_eq_none_iff (sorted : slots.Sorted) (counts : counted ≠ 0)
    (unique : stack.item.repeatable = false) (held : ∃ other ∈ slots, other.item = stack.item) :
    slots.uniqueAt? stack counted = none ↔ slots.isScreened stack := by
  obtain ⟨copy, member, same⟩ := held
  have kind : copy.kind = stack.kind := Stack.kind_of_item_eq same
  rcases firstTab_split sorted stack.kind counts with ⟨-, absent⟩ | ⟨head, start, closed, rest, bounds⟩
  next => exact absurd kind (absent copy member)
  next =>
    have later : copy ∈ slots.drop head := by
      rw [← List.take_append_drop head slots] at member
      exact (List.mem_append.1 member).resolve_left fun front =>
        closed copy front (opens_of_kind kind)
    have between : ∀ other ∈ beforeItem (slots.drop head) stack.item, other.kind ≠ stack.kind →
        stack.tab = .armor ∧ other.tab = .armor := by
      intro other before differ
      have order := rel_of_mem_takeWhile rest before later (by simp [same])
      have shelf := Stack.shelf_le_of_sortKey_le order
      have inside := bounds other ((List.takeWhile_prefix _).subset before)
      rw [kind] at shelf
      exact Kind.armor_of_between differ inside.1 inside.2 shelf
    rw [isScreened_iff_of_tab closed between]
    simp only [uniqueAt?, unique, start, Bool.false_eq_true, if_false, Option.bind_some,
      Option.map_eq_none_iff]
    rw [findIdx?_takeWhile_eq_none_iff]
    · simp [beforeItem]
    · simpa using fun other same => Stack.kind_of_item_eq same
    · exact ⟨copy, later, by simpa using same⟩

theorem length_meetUnique (slots : Slots) (i : Nat) (stack : Stack) (last : Option Nat) :
    (slots.meetUnique i stack last).1.length = slots.length := by
  unfold meetUnique
  split <;> simp

theorem length_place (slots : Slots) (stack : Stack) (counted : Int) :
    (slots.place stack counted).1.length = slots.length + 1 := by
  simpa using (place_perm slots stack counted).length_eq

theorem length_placeEquipping (slots : Slots) (stack : Stack) (counted : Int) :
    (slots.placeEquipping stack counted).1.length = slots.length + 1 := by
  simpa using (perm_placeEquipping slots stack counted).length_eq

/-- A second copy of an item that cannot be had twice takes a slot exactly if the first one is screened,
and in a reload only if its shelf is not full. -/
theorem grows_iff_screened (sorted : slots.Sorted) (counts : counted ≠ 0)
    (single : stack.item.stackable = false) (unique : stack.item.repeatable = false)
    (held : ∃ other ∈ slots, other.item = stack.item) (last : Option Nat) :
    (slots.obtain stack counted last).1.length =
        slots.length + (if slots.isScreened stack then 1 else 0) ∧
      ∀ capacity : Capacity, (slots.restore stack counted capacity last).1.length =
        slots.length + if slots.isScreened stack ∧ ¬capacity.isFull slots stack.kind then 1 else 0 := by
  have overlooked := uniqueAt?_eq_none_iff sorted counts unique held
  have fresh : slots.sameItemAt? stack = none := by simp [sameItemAt?, single]
  have fits : slots.overflows stack counted = false := by simp [overflows, fresh]
  cases met : slots.uniqueAt? stack counted with
  | some i =>
    have seen : ¬slots.isScreened stack := by simp [← overlooked, met]
    simp [obtain, restore, fresh, fits, met, length_meetUnique, seen]
  | none =>
    have screened : slots.isScreened stack := overlooked.1 met
    constructor
    case left => simp [obtain, fresh, met, length_placeEquipping, screened]
    case right =>
      intro capacity
      by_cases full : capacity.isFull slots stack.kind
      next => simp [restore, fits, met, fresh, full]
      next => simp [restore, fits, met, fresh, full, screened, length_place]

theorem one_robe_before_hood :
    let robe := Stack.new { Item.new "ArmorMiddleA" .armorMiddle with repeatable := false }
    let hood := Stack.new (Item.new "ArmorUpperA" .armorUpper)
    let slots : Slots := [robe, hood]
    slots.Sorted ∧ (2 : Int) ≠ 0 ∧ robe.item.stackable = false ∧ robe.item.repeatable = false ∧
      (∃ other ∈ slots, other.item = robe.item) ∧ (slots.obtain robe 2 none).1.length = 2 ∧
      ∀ capacity : Capacity, (slots.restore robe 2 capacity none).1.length = 2 := by
  intro robe hood slots
  have sorted : slots.Sorted := by decide
  have held : ∃ other ∈ slots, other.item = robe.item := ⟨robe, by simp [slots], rfl⟩
  have seen : slots.isScreened robe = false := by decide
  have kept := grows_iff_screened sorted (by decide : (2 : Int) ≠ 0) rfl rfl held none
  exact ⟨sorted, by decide, rfl, rfl, held, by simpa [seen, slots] using kept⟩

theorem not_one_robe_after_hood :
    ¬∀ (slots : Slots) (stack : Stack) (counted : Int) (last : Option Nat), slots.Sorted →
      counted ≠ 0 → stack.item.stackable = false → stack.item.repeatable = false →
        (∃ other ∈ slots, other.item = stack.item) →
          (slots.obtain stack counted last).1.length = slots.length ∧
            ∀ capacity : Capacity,
              (slots.restore stack counted capacity last).1.length = slots.length := by
  intro kept
  let robe := Stack.new { Item.new "ArmorMiddleA" .armorMiddle with repeatable := false }
  let hood := Stack.new (Item.new "ArmorUpperA" .armorUpper)
  obtain ⟨same, -⟩ := kept [hood, robe] robe 2 none (by decide) (by decide) rfl rfl
    ⟨robe, by simp, rfl⟩
  revert same
  decide

end Slots

end Inventory
