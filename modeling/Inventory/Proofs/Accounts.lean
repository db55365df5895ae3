import Inventory.Proofs.LeftOf
import Mathlib.Algebra.Order.BigOperators.Group.List
import Mathlib.Algebra.Ring.Int.Defs

set_option autoImplicit false

namespace Inventory

def Amount.share (total : Int) : Amount → Int
  | count n => if n.val < 0 then 0 else min n.val total
  | all => total

inductive Amount.Lessened (paid : Int) : Amount → Amount → Prop
  | count {n m : Count} (rest : m.val = n.val - paid) (within : 0 ≤ m.val ∨ paid = 0) :
    Lessened paid (.count n) (.count m)
  | all : Lessened paid .all .all

namespace Amount

theorem lessened_zero (amount : Amount) : Lessened 0 amount amount := by
  cases amount with
  | count n => exact .count (by omega) (.inr rfl)
  | all => exact .all

theorem Lessened.minus {paid : Int} {amount left : Amount} (lessened : Lessened paid amount left)
    {n : Count} (positive : 0 < n.val) (within : ∀ m, left = .count m → n.val ≤ m.val) :
    Lessened (paid + n.val) amount (left.minus n) := by
  cases lessened with
  | @count total m rest _ =>
    have enough := within m rfl
    have bound := m.le_hi
    have next : (m.minus n).val = m.val - n.val := by
      rw [Count.val_minus]
      omega
    exact .count (by omega) (.inl (by omega))
  | all => exact .all

theorem Lessened.paid_eq {paid total : Int} {amount left : Amount}
    (lessened : Lessened paid amount left) (nonneg : 0 ≤ paid) (most : paid ≤ total)
    (ends : left.isExhausted ∨ paid = total) : paid = amount.share total := by
  cases lessened with
  | @count n m rest within =>
    have stops : m.val ≤ 0 ∨ paid = total := by simpa [isExhausted] using ends
    rw [share]
    split <;> omega
  | all => simpa [isExhausted, share] using ends

end Amount

namespace Slots

def worthIn (manner : Manner) (item : Item) (slots : Slots) : Int :=
  ((slots.holders item).map manner.worth).sum

def valueIn (item : Item) (slots : Slots) : Int :=
  ((slots.holders item).map fun stack => stack.value.val).sum

section Worth

variable {manner : Manner} {item : Item} {slots : Slots} {target : Stack}

theorem item_of_holder {stack : Stack} (held : stack ∈ slots.holders item) : stack.item = item :=
  of_decide_eq_true (List.mem_filter.1 held).2

theorem sum_holders_cons (f : Stack → Int) (item : Item) (stack : Stack) (slots : Slots) :
    ((holders (stack :: slots) item).map f).sum =
      (if stack.item = item then f stack else 0) + ((slots.holders item).map f).sum := by
  by_cases same : stack.item = item <;> simp [holders, same]

theorem worthIn_cons (stack : Stack) (slots : Slots) : worthIn manner item (stack :: slots) =
    (if stack.item = item then manner.worth stack else 0) + worthIn manner item slots :=
  sum_holders_cons manner.worth item stack slots

theorem valueIn_cons (item : Item) (stack : Stack) (slots : Slots) :
    valueIn item (stack :: slots) =
      (if stack.item = item then stack.value.val else 0) + valueIn item slots :=
  sum_holders_cons (fun stack => stack.value.val) item stack slots

theorem worthIn_of_counts (counted : manner.counts target) (slots : Slots) :
    worthIn manner target.item slots = valueIn target.item slots := by
  rw [worthIn, valueIn]
  congr 1
  apply List.map_congr_left
  intro stack held
  have same := Manner.counts_of_item (item_of_holder held) manner
  exact Manner.worth_of_counts (same.trans counted)

theorem worthIn_of_single (single : manner.counts target = false) (slots : Slots) :
    worthIn manner target.item slots = (slots.holders target.item).length := by
  have ones : (slots.holders target.item).map manner.worth =
      (slots.holders target.item).map fun _ => 1 := by
    apply List.map_congr_left
    intro stack held
    have same := Manner.counts_of_item (item_of_holder held) manner
    exact Manner.worth_of_single (same.trans single)
  simp [worthIn, ones]

theorem worthIn_nonneg (nonneg : ∀ stack ∈ slots.holders item, 0 ≤ stack.value.val) :
    0 ≤ worthIn manner item slots := by
  apply List.sum_nonneg
  simp only [List.mem_map]
  rintro _ ⟨stack, held, rfl⟩
  exact Manner.worth_nonneg (nonneg stack held)

theorem worthIn_eq_zero (nothing : ∀ stack ∈ slots.holders item, manner.worth stack = 0) :
    worthIn manner item slots = 0 := by
  apply List.sum_eq_zero
  simp only [List.mem_map]
  rintro _ ⟨stack, held, rfl⟩
  exact nothing stack held

theorem sum_holders_remaining {f : Stack → Int}
    (nothing : ∀ stack, stack.value = 0 → manner.counts stack → f stack = 0) (item : Item)
    (slots : Slots) :
    ((holders (slots.filter (remains manner)) item).map f).sum =
      ((slots.holders item).map f).sum := by
  induction slots with
  | nil => rfl
  | cons stack rest ih =>
    by_cases stays : remains manner stack
    next => rw [List.filter_cons_of_pos stays, sum_holders_cons, sum_holders_cons, ih]
    next =>
      obtain ⟨⟨empty, -⟩, counted⟩ : (stack.value = 0 ∧ stack.kind ≠ .arrow) ∧
        manner.counts stack := by simpa [remains] using stays
      rw [List.filter_cons_of_neg stays, sum_holders_cons, nothing stack empty counted, ih]
      simp

theorem worthIn_remaining (manner : Manner) (item : Item) (slots : Slots) :
    worthIn manner item (slots.filter (remains manner)) = worthIn manner item slots := by
  apply sum_holders_remaining
  intro stack empty counted
  rw [Manner.worth_of_counts counted, empty, Count.val_zero]

theorem valueIn_remaining (manner : Manner) (item : Item) (slots : Slots) :
    valueIn item (slots.filter (remains manner)) = valueIn item slots :=
  sum_holders_remaining (fun _ empty _ => Count.eq_zero_iff.1 empty) item slots

theorem worthIn_set (manner : Manner) {entries : List (Option Stack)} {i : Nat} {stack : Stack}
    {entry : Option Stack} (here : entries[i]? = some (some stack)) (held : stack.item = item)
    (same : ∀ rest ∈ entry, rest.item = item) :
    worthIn manner item ((entries.set i entry).filterMap id) =
      worthIn manner item (entries.filterMap id) - manner.worth stack + manner.worthOf entry := by
  induction entries generalizing i with
  | nil => cases here
  | cons first rest ih =>
    cases i with
    | zero =>
      obtain rfl : first = some stack := by simpa using here
      cases entry with
      | none => simp [worthIn_cons, held, Manner.worthOf]
      | some next =>
        have next_held := same next rfl
        simp [worthIn_cons, held, next_held, Manner.worthOf]
        omega
    | succ i =>
      have later := ih (by simpa using here)
      cases first with
      | none => simpa using later
      | some other =>
        change worthIn manner item (other :: (rest.set i entry).filterMap id) =
          worthIn manner item (other :: rest.filterMap id) - manner.worth stack +
            manner.worthOf entry
        rw [worthIn_cons, worthIn_cons, later]
        omega

end Worth

section Withdrawal

variable {slots : Slots} {target : Stack} {amount : Amount} {manner : Manner} {serving : Serving}

/-- What there may be of a stack while its item, or another one, is asked for. -/
structure Remnant (manner : Manner) (target : Item) (entry : Option Stack) (before : Stack) : Prop where
  other : before.item ≠ target → entry = some before
  lowered : ∀ stack ∈ entry, stack = before ∨ manner.counts before ∧ ∃ value : Count,
    stack = before.withValue value ∧ 0 ≤ value.val ∧ value.val ≤ before.value.val

section Remnant

variable {entry : Option Stack} {before : Stack}

theorem remnant_self (manner : Manner) (target : Item) (stack : Stack) :
    Remnant manner target (some stack) stack := by
  constructor
  next => exact fun _ => rfl
  next =>
    rintro _ ⟨⟩
    exact .inl rfl

theorem Remnant.item (remnant : Remnant manner target.item entry before) {stack : Stack}
    (left : stack ∈ entry) : stack.item = before.item := by
  obtain rfl | ⟨-, value, rfl, -⟩ := remnant.lowered stack left <;> rfl

theorem Remnant.bounds (remnant : Remnant manner target.item entry before)
    (nonneg : 0 ≤ before.value.val) {stack : Stack} (left : stack ∈ entry) :
    0 ≤ stack.value.val ∧ stack.value.val ≤ before.value.val := by
  obtain rfl | ⟨-, value, rfl, lowered⟩ := remnant.lowered stack left
  next => exact ⟨nonneg, Int.le_refl _⟩
  next => exact lowered

theorem Remnant.positive {i : Nat} {stack : Stack} {n : Count}
    (remnant : Remnant manner target.item (some stack) before) (nonneg : 0 ≤ before.value.val)
    (draws : serving.Draws manner i stack entry n) : 0 < n.val :=
  draws.positive (Manner.worth_nonneg (remnant.bounds nonneg rfl).1)

theorem Remnant.draw {i : Nat} {stack : Stack} {n : Count}
    (remnant : Remnant manner target.item (some stack) before) (held : before.item = target.item)
    (nonneg : 0 ≤ before.value.val) (draws : serving.Draws manner i stack entry n) :
    Remnant manner target.item entry before := by
  constructor
  next => exact fun other => absurd held other
  next =>
    intro rest left
    obtain rfl | ⟨counted, value, rfl⟩ := draws.change
    next => cases left
    next =>
      cases left
      have positive := remnant.positive nonneg draws
      have bounds := remnant.bounds nonneg rfl
      have most := draws.most
      have paid := draws.worth
      rw [Manner.worthOf_withValue counted] at paid
      rw [Manner.worth_of_counts counted] at paid most
      have counts := (Manner.counts_of_item (remnant.item rfl) manner).symm.trans counted
      obtain rfl | ⟨-, _, rfl, -⟩ := remnant.lowered stack rfl
      all_goals exact .inr ⟨counts, value, rfl, by omega, by omega⟩

end Remnant

structure Balanced (slots : Slots) (target : Stack) (amount : Amount) (manner : Manner) (paid : Int)
    (serving : Serving) : Prop where
  remnants : List.Forall₂ (Remnant manner target.item) serving.slots slots
  worth : worthIn manner target.item (serving.slots.filterMap id) =
    worthIn manner target.item slots - paid
  nonneg : 0 ≤ paid
  left : amount.Lessened paid serving.left
  removed : serving.removed.val = min paid 2147483647

theorem balanced_start (slots : Slots) (target : Stack) (amount : Amount) (manner : Manner) :
    Balanced slots target amount manner 0 ⟨slots.map some, amount, 0⟩ where
  remnants := by
    rw [List.forall₂_map_left_iff, List.forall₂_same]
    exact fun stack _ => remnant_self manner target.item stack
  worth := by simp [List.filterMap_map]
  nonneg := by omega
  left := amount.lessened_zero
  removed := rfl

theorem Balanced.draw {paid : Int} (balanced : Balanced slots target amount manner paid serving)
    {i : Nat} {before stack : Stack} {entry : Option Stack} {n : Count}
    (there : slots[i]? = some before) (held : before.item = target.item)
    (nonneg : 0 ≤ before.value.val) (draws : serving.Draws manner i stack entry n) :
    Balanced slots target amount manner (paid + n.val) (serving.draw i entry n) := by
  have remnant := related_of_getElem? balanced.remnants draws.here there
  have next := remnant.draw held nonneg draws
  have positive := remnant.positive nonneg draws
  have paidBefore := balanced.nonneg
  constructor
  case remnants =>
    refine forall₂_set balanced.remnants draws.here fun origin here _ => ?_
    obtain rfl : before = origin := by simpa [there] using here
    exact next
  case worth =>
    -- Only this slot counts for less, and it keeps its item.
    have item : stack.item = target.item := (remnant.item rfl).trans held
    have changed := worthIn_set manner draws.here item fun rest left => (next.item left).trans held
    have before := balanced.worth
    have after := draws.worth
    rw [Serving.draw, changed]
    omega
  case nonneg => omega
  case left => exact balanced.left.minus positive draws.within
  case removed =>
    have before := balanced.removed
    have bound := n.le_hi
    rw [Serving.draw, Count.val_plus]
    omega

theorem Balanced.visitAll {paid : Int} (balanced : Balanced slots target amount manner paid serving)
    {visits : List Nat} (nonneg : ∀ stack ∈ slots.holders target.item, 0 ≤ stack.value.val)
    (asked : ∀ i ∈ visits, ∃ stack, slots[i]? = some stack ∧ stack.item = target.item) :
    ∃ paid, Balanced slots target amount manner paid (serving.visitAll manner visits) := by
  -- Each visit either changes nothing or draws, so the balance goes on to the next one.
  induction visits generalizing serving paid with
  | nil => exact ⟨paid, balanced⟩
  | cons i rest ih =>
    obtain ⟨⟨before, there, held⟩, later⟩ := List.forall_mem_cons.1 asked
    have holder := nonneg before (mem_holders there held)
    have next : ∃ paid, Balanced slots target amount manner paid (serving.visit manner i) := by
      obtain ⟨same, -⟩ | ⟨stack, entry, n, draws, same⟩ := Serving.visit_cases manner serving i
      next => exact ⟨paid, by rwa [same]⟩
      next =>
        rw [same]
        exact ⟨_, balanced.draw there held holder draws⟩
    obtain ⟨paid, next⟩ := next
    exact ih next later

theorem balanced_served (amount : Amount) (manner : Manner)
    (nonneg : ∀ stack ∈ slots.holders target.item, 0 ≤ stack.value.val) :
    ∃ paid, Balanced slots target amount manner paid (slots.served target amount manner) :=
  (balanced_start slots target amount manner).visitAll nonneg fun _ asked => (mem_visits_iff.1 asked).2

theorem Balanced.origin {paid : Int} (balanced : Balanced slots target amount manner paid serving)
    {stack : Stack} (left : stack ∈ holders (serving.slots.filterMap id) target.item) :
    ∃ (i : Nat) (before : Stack), serving.slots[i]? = some (some stack) ∧ slots[i]? = some before ∧
      before.item = target.item ∧ Remnant manner target.item (some stack) before := by
  obtain ⟨present, held⟩ := List.mem_filter.1 left
  obtain ⟨i, here⟩ := List.mem_iff_getElem?.1 (by simpa using present)
  have within : i < slots.length := by
    rw [← balanced.remnants.length_eq]
    exact (List.getElem?_eq_some_iff.1 here).1
  have there := List.getElem?_eq_getElem within
  have remnant := related_of_getElem? balanced.remnants here there
  have item := (remnant.item rfl).symm.trans (of_decide_eq_true held)
  exact ⟨i, slots[i], here, there, item, remnant⟩

theorem gives_served (within : manner.start < (slots.holders target.item).length)
    (wanted : ¬(slots.served target amount manner).left.isExhausted) {i : Nat} {before stack : Stack}
    (there : slots[i]? = some before) (held : before.item = target.item)
    (here : (slots.served target amount manner).slots[i]? = some (some stack)) :
    manner.gives stack = false := by
  have asked : i ∈ slots.visits target manner.start :=
    mem_visits_iff.2 ⟨within, before, there, held⟩
  have spent := (Serving.spent_visitAll asked).resolve_right wanted
  exact spent stack here

theorem Balanced.paid_served {paid : Int}
    (balanced : Balanced slots target amount manner paid (slots.served target amount manner))
    (nonneg : ∀ stack ∈ slots.holders target.item, 0 ≤ stack.value.val)
    (within : manner.start < (slots.holders target.item).length) :
    paid = amount.share (worthIn manner target.item slots) := by
  have worth := balanced.worth
  have rest : 0 ≤ worthIn manner target.item
      ((slots.served target amount manner).slots.filterMap id) := by
    apply worthIn_nonneg
    intro stack left
    obtain ⟨_, before, -, there, held, remnant⟩ := balanced.origin left
    exact (remnant.bounds (nonneg before (mem_holders there held)) rfl).1
  apply balanced.left.paid_eq balanced.nonneg (by omega)
  by_cases wanted : (slots.served target amount manner).left.isExhausted
  next => exact .inl wanted
  next =>
    have nothing : worthIn manner target.item
        ((slots.served target amount manner).slots.filterMap id) = 0 := by
      apply worthIn_eq_zero
      intro stack left
      obtain ⟨i, before, here, there, held, -⟩ := balanced.origin left
      have idle := gives_served within wanted there held here
      obtain ⟨counted, empty⟩ := Manner.gives_eq_false_iff.1 idle
      rw [Manner.worth_of_counts counted, empty, Count.val_zero]
    exact .inr (by omega)

/-- What may become of a stack when an item is taken out. -/
inductive Fate (manner : Manner) (target : Item) : Option Stack → Stack → Prop
  | kept {stack : Stack} (stays : stack.item ≠ target →
      stack.value ≠ 0 ∨ stack.kind = .arrow ∨ manner.counts stack = false) :
    Fate manner target (some stack) stack
  | lowered {stack : Stack} {value : Count} (held : stack.item = target)
      (counted : manner.counts stack) (nonneg : 0 ≤ value.val) (less : value.val ≤ stack.value.val) :
    Fate manner target (some (stack.withValue value)) stack
  | taken {stack : Stack} (held : stack.item = target) : Fate manner target none stack
  | cleared {stack : Stack} (other : stack.item ≠ target) (empty : stack.value = 0)
      (noArrow : stack.kind ≠ .arrow) (counted : manner.counts stack) :
    Fate manner target none stack

theorem Remnant.fate {target : Item} {entry : Option Stack} {before : Stack}
    (remnant : Remnant manner target entry before) :
    Fate manner target (entry.filter (remains manner)) before := by
  by_cases held : before.item = target
  case neg =>
    rw [remnant.other held]
    cases stays : remains manner before with
    | true =>
      rw [Option.filter_some_pos stays]
      exact .kept fun _ => by simpa [remains, or_assoc] using stays
    | false =>
      rw [Option.filter_some_neg stays]
      obtain ⟨⟨empty, noArrow⟩, counted⟩ : (before.value = 0 ∧ before.kind ≠ .arrow) ∧
        manner.counts before := by simpa [remains] using stays
      exact .cleared held empty noArrow counted
  case pos =>
    cases rest : entry.filter (remains manner) with
    | none => exact .taken held
    | some stack =>
      have left := (Option.filter_eq_some_iff.1 rest).1
      obtain rfl | ⟨counted, value, rfl, nonneg, less⟩ := remnant.lowered stack left
      next => exact .kept fun other => absurd held other
      next => exact .lowered held counted nonneg less

theorem withdraw_of_past (amount : Amount)
    (past : (slots.holders target.item).length ≤ manner.start) :
    slots.withdraw target amount manner = (slots.filter (remains manner), 0) := by
  have nobody : slots.visits target manner.start = [] := by
    apply List.eq_nil_iff_forall_not_mem.2
    intro i asked
    have within := (mem_visits_iff.1 asked).1
    omega
  rw [withdraw_eq, served, nobody]
  simp [Serving.visitAll, List.filterMap_map]

end Withdrawal

/-- A withdrawal leaves the other slots alone, but for the emptied ones. From the slots of the item
it takes what is asked for, as far as they have so much, and it tells how much that was. It tells so
in a count that stops at its greatest value. -/
theorem withdraw_accounts (slots : Slots) (target : Stack) (amount : Amount) (manner : Manner)
    (nonneg : ∀ stack ∈ slots.holders target.item, 0 ≤ stack.value.val) :
    (∃ fates, List.Forall₂ (Fate manner target.item) fates slots ∧
      (slots.withdraw target amount manner).1 = fates.filterMap id) ∧
    ((slots.holders target.item).length ≤ manner.start →
      slots.withdraw target amount manner = (slots.filter (remains manner), 0)) ∧
    (manner.start < (slots.holders target.item).length → manner.counts target →
      (slots.withdraw target amount manner).2.val =
        min (amount.share (valueIn target.item slots)) 2147483647 ∧
      valueIn target.item (slots.withdraw target amount manner).1 =
        valueIn target.item slots - amount.share (valueIn target.item slots)) ∧
    (manner.start < (slots.holders target.item).length → manner.counts target = false →
      (slots.withdraw target amount manner).2.val =
        min (amount.share (slots.holders target.item).length) 2147483647 ∧
      (holders (slots.withdraw target amount manner).1 target.item).length =
        (slots.holders target.item).length - amount.share (slots.holders target.item).length) := by
  obtain ⟨paid, balanced⟩ := balanced_served amount manner nonneg
  have worth : worthIn manner target.item (slots.withdraw target amount manner).1 =
      worthIn manner target.item slots - paid := by
    rw [withdraw_eq, worthIn_remaining]
    exact balanced.worth
  have removed : (slots.withdraw target amount manner).2.val = min paid 2147483647 :=
    balanced.removed
  refine ⟨?fates, withdraw_of_past amount, fun within counted => ?counted,
    fun within single => ?single⟩
  case fates =>
    refine ⟨(slots.served target amount manner).slots.map (Option.filter (remains manner)), ?_, ?_⟩
    next =>
      rw [List.forall₂_map_left_iff]
      exact balanced.remnants.imp fun _ _ => Remnant.fate
    next => simp [withdraw_eq, List.filter_filterMap, List.filterMap_map]
  case counted =>
    have share := balanced.paid_served nonneg within
    rw [worthIn_of_counts counted, worthIn_of_counts counted] at worth
    rw [worthIn_of_counts counted] at share
    exact ⟨share ▸ removed, share ▸ worth⟩
  case single =>
    have share := balanced.paid_served nonneg within
    rw [worthIn_of_single single, worthIn_of_single single] at worth
    rw [worthIn_of_single single] at share
    exact ⟨share ▸ removed, share ▸ worth⟩

theorem withdraw_accounts_of_quiver :
    let arrow := Stack.new (Item.new "ArrowA" .arrow)
    let fairy : Stack := (Stack.new (Item.new "MaterialA" .material)).withValue 0
    let sword := Stack.new (Item.new "WeaponA" .weapon)
    let slots : Slots := [arrow.withValue 5, fairy, sword, arrow.withValue 3, sword]
    let shots := slots.withdraw arrow (.count 6) (.drop 1)
    let swords := slots.withdraw sword .all (.drop 1)
    (∀ stack ∈ slots.holders arrow.item, 0 ≤ stack.value.val) ∧
      1 < (slots.holders arrow.item).length ∧ (Manner.drop 1).counts arrow ∧
      shots.2.val = 6 ∧ valueIn arrow.item shots.1 = 2 ∧
      (∃ fates, List.Forall₂ (Fate (.drop 1) arrow.item) fates slots ∧
        shots.1 = fates.filterMap id) ∧
      (∀ stack ∈ slots.holders sword.item, 0 ≤ stack.value.val) ∧
      1 < (slots.holders sword.item).length ∧ (Manner.drop 1).counts sword = false ∧
      swords.2.val = 2 ∧ holders swords.1 sword.item = [] ∧
      (slots.holders sword.item).length ≤ 2 ∧
      slots.withdraw sword .all (.drop 2) = (slots.filter (remains (.drop 2)), 0) := by
  intro arrow fairy sword slots shots swords
  have arrows : ∀ stack ∈ slots.holders arrow.item, 0 ≤ stack.value.val := by decide
  have blades : ∀ stack ∈ slots.holders sword.item, 0 ≤ stack.value.val := by decide
  obtain ⟨fates, -, counted, -⟩ := withdraw_accounts slots arrow (.count 6) (.drop 1) arrows
  obtain ⟨-, -, -, single⟩ := withdraw_accounts slots sword .all (.drop 1) blades
  obtain ⟨-, past, -, -⟩ := withdraw_accounts slots sword .all (.drop 2) blades
  obtain ⟨shot, rest⟩ := counted (by decide) (by decide)
  obtain ⟨taken, none⟩ := single (by decide) (by decide)
  have total : valueIn arrow.item slots = 8 := by decide
  have two : (slots.holders sword.item).length = 2 := by decide
  have six : Amount.share 8 (.count 6) = 6 := by decide
  have both : Amount.share (2 : Nat) .all = 2 := rfl
  rw [total, six] at shot rest
  rw [two, both] at taken none
  have gone := Int.natCast_eq_zero.1 (none.trans (by decide))
  exact ⟨arrows, by decide, by decide, shot, rest, fates, blades, by decide, by decide, taken,
    List.eq_nil_of_length_eq_zero gone, by decide, past (by decide)⟩

end Slots

end Inventory
