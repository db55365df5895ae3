import Inventory.Proofs.LeftOf

set_option autoImplicit false

namespace Inventory

namespace Slots

section Rounds

variable {manner : Manner} {serving : Serving} {second : List Nat} {i j : Nat}

theorem Serving.mem_takings_append (first : List Nat)
    (taken : i ∈ serving.takings manner (first ++ second)) (other : i ∉ first) :
    i ∈ (serving.visitAll manner first).takings manner second := by
  rw [takings_append, List.mem_append] at taken
  exact taken.resolve_left fun early => other ((takings_sublist manner serving first).subset early)

theorem Serving.spent_before_taking (first : List Nat)
    (taken : i ∈ serving.takings manner (first ++ second)) (other : i ∉ first) (asked : j ∈ first) :
    (serving.visitAll manner (first ++ second)).Spent manner j := by
  have later := mem_takings_append first taken other
  have wanted : ¬(serving.visitAll manner first).left.isExhausted := by
    intro exhausted
    rw [takings_of_exhausted exhausted] at later
    cases later
  have spent : (serving.visitAll manner first).Spent manner j :=
    (spent_visitAll asked).resolve_right wanted
  rw [visitAll_append]
  exact spent.of_eq (slots_visitAll_of_spent spent second)

theorem Serving.not_mem_takings_of_asked {first : List Nat} (asked : j ∈ first) :
    j ∉ (serving.visitAll manner first).takings manner second := by
  have ends : (serving.visitAll manner first).Spent manner j ∨
    (serving.visitAll manner first).left.isExhausted := spent_visitAll asked
  cases ends with
  | inl spent =>
    rw [mem_takings_iff, not_not]
    exact slots_visitAll_of_spent spent second
  | inr exhausted => simp [takings_of_exhausted exhausted]

theorem Serving.pairwise_spent (manner : Manner) (serving : Serving) {first : List Nat}
    (nodup : first.Nodup) (second : List Nat) :
    first.Pairwise fun i j => j ∈ serving.takings manner (first ++ second) →
      (serving.visitAll manner (first ++ second)).Spent manner i := by
  induction first generalizing serving with
  | nil => exact .nil
  | cons i rest ih =>
    obtain ⟨absent, nodup⟩ := List.nodup_cons.1 nodup
    have other : ∀ j ∈ rest, j ∉ [i] := by
      intro j inside same
      exact absent (List.mem_singleton.1 same ▸ inside)
    refine List.pairwise_cons.2 ⟨fun j inside taken => ?_, ?_⟩
    next => exact spent_before_taking [i] taken (other j inside) List.mem_cons_self
    next =>
      apply List.Pairwise.imp_of_mem _ (ih (serving.visit manner i) nodup)
      intro a b _ inside spent taken
      exact spent (mem_takings_append [i] taken (other b inside))

end Rounds

def matchesOf (slots : Slots) (target : Stack) (matcher : Stack → Stack → Bool) : List Nat :=
  positions (matcher · target) slots

def taken (slots : Slots) (target : Stack) (amount : Amount) (manner : Manner) : List Nat :=
  Serving.takings manner ⟨slots.map some, amount, 0⟩ (slots.visits target manner.start)

/-- A slot for a counted target is emptied at value zero, any other when it is taken away. -/
def Emptied (manner : Manner) (target : Stack) (entries : List (Option Stack)) (i : Nat) : Prop :=
  if manner.counts target then ∀ stack, entries[i]? = some (some stack) → stack.value = 0
  else entries[i]? = some none

section Matching

variable {slots : Slots} {target : Stack} {amount : Amount} {manner : Manner} {start : Nat}
  {matcher : Stack → Stack → Bool} {i : Nat}

theorem mem_matchesOf_iff :
    i ∈ slots.matchesOf target matcher ↔ ∃ stack, slots[i]? = some stack ∧ matcher stack target :=
  mem_positions_iff

theorem matchers_pairwise : matchers.Pairwise fun closer wider =>
    ∀ stack target, closer stack target → wider stack target := by
  simp only [matchers, List.pairwise_cons, List.mem_cons, List.not_mem_nil, or_false, forall_eq_or_imp,
    forall_eq, false_imp_iff, implies_true, List.Pairwise.nil, and_true, decide_eq_true_eq]
  simp_all [Stack.sameButValue, Stack.sameButValueAndEquipped, Stack.sameItem]

theorem matchesOf_pairwise (slots : Slots) (target : Stack) :
    matchers.Pairwise fun closer wider =>
      slots.matchesOf target closer ⊆ slots.matchesOf target wider := by
  refine matchers_pairwise.imp fun {closer wider} implies i => ?_
  rw [mem_matchesOf_iff, mem_matchesOf_iff]
  exact Exists.imp fun stack => And.imp_right (implies stack target)

theorem visits_eq {before after : List (Stack → Stack → Bool)}
    (split : matchers = before ++ matcher :: after) (slots : Slots) (target : Stack) (start : Nat) :
    slots.visits target start =
      ((before.flatMap fun closer => rotated start (slots.matchesOf target closer)) ++
        rotated start (slots.matchesOf target matcher)) ++
        after.flatMap fun wider => rotated start (slots.matchesOf target wider) := by
  rw [visits, split, List.flatMap_append, List.flatMap_cons, List.append_assoc]
  rfl

theorem matched_of_asked {before after : List (Stack → Stack → Bool)}
    (split : matchers = before ++ matcher :: after)
    (asked : i ∈ (before.flatMap fun closer => rotated start (slots.matchesOf target closer)) ++
      rotated start (slots.matchesOf target matcher)) :
    i ∈ slots.matchesOf target matcher := by
  rw [List.mem_append, List.mem_flatMap] at asked
  obtain ⟨closer, known, early⟩ | here := asked
  next =>
    -- What matches more closely matches this way, too.
    have nested := matchesOf_pairwise slots target
    rw [split, List.pairwise_append] at nested
    exact nested.2.2 closer known matcher List.mem_cons_self (mem_rotated_iff.1 early).2
  next => exact (mem_rotated_iff.1 here).2

theorem emptied_of_spent (known : matcher ∈ matchers) (matched : i ∈ slots.matchesOf target matcher)
    (spent : (slots.served target amount manner).Spent manner i) :
    Emptied manner target (slots.served target amount manner).slots i := by
  obtain ⟨before, there, found⟩ := mem_matchesOf_iff.1 matched
  have kept := slots.leftOf_served target amount manner
  have idle : ∀ stack, (slots.served target amount manner).slots[i]? = some (some stack) →
      manner.counts target ∧ stack.value = 0 := by
    intro stack here
    obtain ⟨counted, empty⟩ := Manner.gives_eq_false_iff.1 (spent stack here)
    have same := (related_of_getElem? kept here there stack rfl).item
    have held := same.trans (item_of_matcher known found)
    exact ⟨(Manner.counts_of_item held manner).symm.trans counted, empty⟩
  rw [Emptied]
  split
  next => exact fun stack here => (idle stack here).2
  next single =>
    have within : i < (slots.served target amount manner).slots.length := by
      rw [kept.length_eq]
      exact (List.getElem?_eq_some_iff.1 there).1
    have here := List.getElem?_eq_getElem within
    cases entry : (slots.served target amount manner).slots[i] with
    | none => rw [here, entry]
    | some stack =>
      rw [entry] at here
      exact absurd (idle stack here).1 single

theorem emptied_of_taken_outside (known : matcher ∈ matchers)
    (within : manner.start < (slots.matchesOf target matcher).length)
    (taken : i ∈ slots.taken target amount manner) (outside : i ∉ slots.matchesOf target matcher)
    {j : Nat} (matched : j ∈ slots.matchesOf target matcher) :
    Emptied manner target (slots.served target amount manner).slots j := by
  obtain ⟨before, after, split⟩ := List.append_of_mem known
  have order := visits_eq split slots target manner.start
  apply emptied_of_spent known matched
  rw [Slots.taken, order] at taken
  rw [served, order]
  apply Serving.spent_before_taking _ taken
  next => exact fun asked => outside (matched_of_asked split asked)
  next => exact List.mem_append_right _ (mem_rotated_iff.2 ⟨within, matched⟩)

section FirstTurn

variable {before after : List (Stack → Stack → Bool)} (split : matchers = before ++ matcher :: after)
  (few : ∀ closer ∈ before, (slots.matchesOf target closer).length ≤ manner.start)
  (within : manner.start < (slots.matchesOf target matcher).length)

include split few within

theorem visits_of_first : slots.visits target manner.start =
    (slots.matchesOf target matcher).rotate manner.start ++
      after.flatMap fun wider => rotated manner.start (slots.matchesOf target wider) := by
  -- A way of matching without enough matches has no turn.
  have none : (before.flatMap fun closer =>
      rotated manner.start (slots.matchesOf target closer)) = [] :=
    List.flatMap_eq_nil_iff.2 fun closer known => rotated_of_le (few closer known)
  rw [visits_eq split, none, List.nil_append, rotated_of_lt within]

theorem filter_taken_sublist :
    ((slots.taken target amount manner).filter (· ∈ slots.matchesOf target matcher)).Sublist
      ((slots.matchesOf target matcher).rotate manner.start) := by
  rw [taken, visits_of_first split few within, Serving.takings_append, List.filter_append]
  have later : (Serving.takings manner
      (Serving.visitAll manner ⟨slots.map some, amount, 0⟩
        ((slots.matchesOf target matcher).rotate manner.start))
      (after.flatMap fun wider => rotated manner.start (slots.matchesOf target wider))).filter
        (· ∈ slots.matchesOf target matcher) = [] := by
    apply List.filter_eq_nil_iff.2
    intro i again matched
    have asked : i ∈ (slots.matchesOf target matcher).rotate manner.start := by
      simpa using matched
    exact Serving.not_mem_takings_of_asked asked again
  rw [later, List.append_nil]
  exact List.filter_sublist.trans (Serving.takings_sublist manner _ _)

theorem pairwise_emptied :
    ((slots.matchesOf target matcher).rotate manner.start).Pairwise fun i j =>
      j ∈ slots.taken target amount manner →
        Emptied manner target (slots.served target amount manner).slots i := by
  have known : matcher ∈ matchers := by simp [split]
  have nodup : ((slots.matchesOf target matcher).rotate manner.start).Nodup :=
    List.nodup_rotate.2 (nodup_positions _ slots)
  have turns := Serving.pairwise_spent manner ⟨slots.map some, amount, 0⟩ nodup
    (after.flatMap fun wider => rotated manner.start (slots.matchesOf target wider))
  rw [← visits_of_first split few within] at turns
  apply List.Pairwise.imp_of_mem _ turns
  intro i j asked _ spent taken
  exact emptied_of_spent known (List.mem_rotate.1 asked) (spent taken)

end FirstTurn

end Matching

theorem closest_matches_first (slots : Slots) (target : Stack) (amount : Amount) (manner : Manner) :
    let served := (slots.served target amount manner).slots
    let taken := slots.taken target amount manner
    (slots.withdraw target amount manner).1 = (served.filterMap id).filter (remains manner) ∧
    (∀ i, i ∈ taken ↔ served[i]? ≠ (slots.map some)[i]?) ∧
    (matchers.Pairwise fun closer wider =>
      slots.matchesOf target closer ⊆ slots.matchesOf target wider) ∧
    (∀ matcher ∈ matchers, manner.start < (slots.matchesOf target matcher).length →
      ∀ i ∈ taken, i ∉ slots.matchesOf target matcher →
        ∀ j ∈ slots.matchesOf target matcher, Emptied manner target served j) ∧
    ∀ before matcher after, matchers = before ++ matcher :: after →
      (∀ closer ∈ before, (slots.matchesOf target closer).length ≤ manner.start) →
      manner.start < (slots.matchesOf target matcher).length →
      (taken.filter (· ∈ slots.matchesOf target matcher)).Sublist
        ((slots.matchesOf target matcher).rotate manner.start) ∧
      ((slots.matchesOf target matcher).rotate manner.start).Pairwise fun i j =>
        j ∈ taken → Emptied manner target served i := by
  intro served taken
  refine ⟨rfl, fun i => Serving.mem_takings_iff, slots.matchesOf_pairwise target, ?closer, ?circle⟩
  case closer =>
    intro matcher known within i taken outside j matched
    exact emptied_of_taken_outside known within taken outside matched
  case circle =>
    intro before matcher after split few within
    exact ⟨filter_taken_sublist split few within, pairwise_emptied split few within⟩

theorem closest_matches_first_of_swords :
    let sword := Stack.new (Item.new "WeaponA" .weapon)
    let worn := sword.withValue 50
    let slots : Slots := [worn, sword, worn, sword, worn.withEquipped true]
    let same : Stack → Stack → Bool := fun stack target => stack = target
    let served := (slots.served sword (.count 3) (.drop 1)).slots
    let taken := slots.taken sword (.count 3) (.drop 1)
    same ∈ matchers ∧ matchers = [] ++ same :: matchers.tail ∧
      1 < (slots.matchesOf sword same).length ∧ 2 ∈ taken ∧ 2 ∉ slots.matchesOf sword same ∧
      slots.matchesOf sword same = [1, 3] ∧ Emptied (.drop 1) sword served 1 ∧
      Emptied (.drop 1) sword served 3 ∧
      (taken.filter (· ∈ slots.matchesOf sword same)).Sublist ([1, 3].rotate 1) ∧
      ([1, 3].rotate 1).Pairwise fun i j => j ∈ taken → Emptied (.drop 1) sword served i := by
  intro sword worn slots same served taken
  obtain ⟨-, -, -, closer, circle⟩ := closest_matches_first slots sword (.count 3) (.drop 1)
  have matched : slots.matchesOf sword same = [1, 3] := by decide
  have within : 1 < (slots.matchesOf sword same).length := by decide
  have last : 2 ∈ taken := by decide
  have other : 2 ∉ slots.matchesOf sword same := by decide
  have emptied := closer same List.mem_cons_self within 2 last other
  have turns := circle [] same matchers.tail rfl (by simp) within
  rw [matched] at emptied turns
  exact ⟨List.mem_cons_self, rfl, within, last, other, matched, emptied 1 (by simp),
    emptied 3 (by simp), turns⟩

end Slots

end Inventory
