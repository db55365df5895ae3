import Inventory.Slots.Withdraw
import Mathlib.Data.List.Rotate
import Mathlib.Data.List.Sigma

set_option autoImplicit false

namespace Inventory

@[simp] theorem Count.val_zero : (0 : Count).val = 0 := rfl

theorem Count.eq_zero_iff {n : Count} : n = 0 ↔ n.val = 0 :=
  ⟨fun same => congrArg Bounded.val same, fun zero => Bounded.ext (zero : n.val = (0 : Count).val)⟩

theorem Count.val_minus (a b : Count) :
    (a.minus b).val = max (-2147483648) (min 2147483647 (a.val - b.val)) := rfl

theorem Count.minus_self (n : Count) : n.minus n = 0 := by
  rw [Count.eq_zero_iff, Count.val_minus]
  omega

theorem Count.val_plus (a b : Count) :
    (a.plus b).val = max (-2147483648) (min 2147483647 (a.val + b.val)) := rfl

theorem Count.val_atMost (a limit : Count) : (a.atMost limit).val = min limit.val a.val := by
  unfold Count.atMost
  split <;> omega

namespace Manner

/-- What a slot counts for: its value if it is counted, and else one. -/
def worth (manner : Manner) (stack : Stack) : Int :=
  if manner.counts stack then stack.value.val else 1

def worthOf (manner : Manner) (entry : Option Stack) : Int := (entry.map manner.worth).getD 0

def gives (manner : Manner) (stack : Stack) : Bool := !manner.counts stack || stack.value ≠ 0

variable {manner : Manner} {stack : Stack}

theorem counts_of_item {a b : Stack} (same : a.item = b.item) (manner : Manner) :
    manner.counts a = manner.counts b := by
  rw [counts, counts, Stack.kind, Stack.kind, same]

theorem gives_eq_false_iff : manner.gives stack = false ↔ manner.counts stack ∧ stack.value = 0 := by
  simp [gives]

theorem worth_of_counts (counted : manner.counts stack) : manner.worth stack = stack.value.val :=
  if_pos counted

theorem worth_of_single (single : manner.counts stack = false) : manner.worth stack = 1 := by
  rw [worth, single]
  rfl

theorem worth_nonneg (nonneg : 0 ≤ stack.value.val) : 0 ≤ manner.worth stack := by
  rw [worth]
  split
  next => exact nonneg
  next => decide

theorem worthOf_withValue (counted : manner.counts stack) (value : Count) :
    manner.worthOf (some (stack.withValue value)) = value.val :=
  if_pos counted

end Manner

namespace Slots.Serving

variable {manner : Manner} {serving : Serving} {i : Nat}

def Spent (serving : Serving) (manner : Manner) (i : Nat) : Prop :=
  ∀ stack, serving.slots[i]? = some (some stack) → manner.gives stack = false

def draw (serving : Serving) (i : Nat) (entry : Option Stack) (n : Count) : Serving :=
  ⟨serving.slots.set i entry, serving.left.minus n, serving.removed.plus n⟩

/-- Whether a visit may take `n` from a stack in a slot, and leave `entry` of it. -/
structure Draws (serving : Serving) (manner : Manner) (i : Nat) (stack : Stack)
    (entry : Option Stack) (n : Count) : Prop where
  here : serving.slots[i]? = some (some stack)
  wanted : serving.left.isExhausted = false
  gives : manner.gives stack
  change : entry = none ∨ manner.counts stack ∧ ∃ value, entry = some (stack.withValue value)
  worth : manner.worthOf entry = manner.worth stack - n.val
  nonzero : n.val ≠ 0
  most : n.val ≤ manner.worth stack
  positive : 0 ≤ manner.worth stack → 0 < n.val
  within : ∀ m, serving.left = .count m → n.val ≤ m.val
  ends : (∀ rest ∈ entry, manner.gives rest = false) ∨ (serving.left.minus n).isExhausted

section Visit

variable {stack : Stack} (here : serving.slots[i]? = some (some stack))
  (wanted : serving.left.isExhausted = false)

include here wanted

theorem draws_part {n : Count} (counted : manner.counts stack) (left : serving.left = .count n)
    (less : n.val < stack.value.val) :
    serving.Draws manner i stack (some (stack.withValue (stack.value.minus n))) n := by
  have positive : 0 < n.val := by simpa [left, Amount.isExhausted] using wanted
  have filled : stack.value ≠ 0 := fun empty => by rw [Count.eq_zero_iff] at empty; omega
  have bound := stack.value.le_hi
  have worth := Manner.worth_of_counts counted
  have rest : (stack.value.minus n).val = stack.value.val - n.val := by
    rw [Count.val_minus]
    omega
  exact {
    here, wanted
    gives := by simp [Manner.gives, filled]
    change := .inr ⟨counted, _, rfl⟩
    worth := by rw [Manner.worthOf_withValue counted, worth, rest]
    nonzero := by omega
    most := by omega
    positive := fun _ => positive
    within := by simp [left]
    ends := .inr (by simp [left, Amount.minus, Amount.isExhausted, Count.minus_self]) }

theorem draws_whole (counted : manner.counts stack) (filled : stack.value ≠ 0)
    (covered : ∀ n, serving.left = .count n → stack.value.val ≤ n.val) :
    serving.Draws manner i stack (if manner.clearsEmptied then none else some (stack.withValue 0))
      stack.value := by
  have nonzero : stack.value.val ≠ 0 := fun zero => filled (Count.eq_zero_iff.2 zero)
  have worth := Manner.worth_of_counts counted
  have empty : manner.gives (stack.withValue 0) = false := Manner.gives_eq_false_iff.2 ⟨counted, rfl⟩
  have nothing := Manner.worthOf_withValue counted 0
  exact {
    here, wanted, nonzero
    gives := by simp [Manner.gives, filled]
    change := by
      split
      next => exact .inl rfl
      next => exact .inr ⟨counted, 0, rfl⟩
    worth := by
      rw [worth, Int.sub_self]
      split
      next => rfl
      next => exact nothing
    most := by omega
    positive := by omega
    within := covered
    ends := by
      left
      split
      next => simp
      next => simpa using empty }

theorem draws_slot (single : manner.counts stack = false) :
    serving.Draws manner i stack none 1 := by
  have worth := Manner.worth_of_single single
  have one : (1 : Count).val = 1 := rfl
  exact {
    here, wanted
    gives := by simp [Manner.gives, single]
    change := .inl rfl
    worth := by rw [worth, one]; rfl
    nonzero := by omega
    most := by omega
    positive := by omega
    within := by
      intro m left
      have positive : 0 < m.val := by simpa [left, Amount.isExhausted] using wanted
      omega
    ends := by simp }

end Visit

theorem visit_cases (manner : Manner) (serving : Serving) (i : Nat) :
    serving.visit manner i = serving ∧ (serving.left.isExhausted ∨ serving.Spent manner i) ∨
      ∃ stack entry n, serving.Draws manner i stack entry n ∧
        serving.visit manner i = serving.draw i entry n := by
  rw [visit]
  split
  next exhausted => exact .inl ⟨rfl, .inl exhausted⟩
  next wanted =>
    simp only [Bool.not_eq_true] at wanted
    split
    next stack here =>
      split
      next counted =>
        split
        next empty =>
          refine .inl ⟨rfl, .inr fun other same => ?_⟩
          obtain rfl : stack = other := by simpa [here] using same
          exact Manner.gives_eq_false_iff.2 ⟨counted, empty⟩
        next filled =>
          split
          next n left =>
            split
            next less =>
              refine .inr ⟨stack, _, n, draws_part here wanted counted left less, ?_⟩
              rw [draw, left, Amount.minus, Count.minus_self]
              rfl
            next more =>
              refine .inr ⟨stack, _, _, draws_whole here wanted counted filled ?_, rfl⟩
              intro m same
              obtain rfl : n = m := by simpa [left] using same
              omega
          next left =>
            refine .inr ⟨stack, _, _, draws_whole here wanted counted filled ?_, rfl⟩
            intro m same
            simp [left] at same
      next single =>
        exact .inr ⟨stack, none, 1, draws_slot here wanted (by simpa using single), rfl⟩
    next gone =>
      refine .inl ⟨rfl, .inr fun stack here => ?_⟩
      exact absurd here (gone stack)

theorem visit_of_exhausted (exhausted : serving.left.isExhausted) (i : Nat) :
    serving.visit manner i = serving :=
  if_pos exhausted

theorem slots_draw (serving : Serving) (entry : Option Stack) (n : Count) (j : Nat) :
    (serving.draw i entry n).slots[j]? =
      if i = j then serving.slots[j]?.map fun _ => entry else serving.slots[j]? := by
  rw [draw, List.getElem?_set']
  rfl

section Draw

variable {stack : Stack} {entry : Option Stack} {n : Count}

theorem Draws.here_draw (draws : serving.Draws manner i stack entry n) :
    (serving.draw i entry n).slots[i]? = some entry := by
  rw [slots_draw, if_pos rfl, draws.here]
  rfl

theorem Draws.entry_ne (draws : serving.Draws manner i stack entry n) : entry ≠ some stack := by
  rintro rfl
  have worth : manner.worth stack = manner.worth stack - n.val := draws.worth
  have nonzero := draws.nonzero
  omega

theorem Draws.slots_ne (draws : serving.Draws manner i stack entry n) :
    (serving.draw i entry n).slots ≠ serving.slots := by
  intro unchanged
  have here := draws.here_draw
  rw [unchanged, draws.here] at here
  exact draws.entry_ne (Option.some.inj here).symm

theorem Draws.not_spent (draws : serving.Draws manner i stack entry n) :
    ¬serving.Spent manner i := by
  intro spent
  have none := spent stack draws.here
  rw [draws.gives] at none
  cases none

theorem Draws.spent_draw (draws : serving.Draws manner i stack entry n) :
    (serving.draw i entry n).Spent manner i ∨ (serving.draw i entry n).left.isExhausted := by
  refine draws.ends.imp (fun spent other there => ?_) id
  rw [draws.here_draw] at there
  exact spent other (Option.some.inj there)

end Draw

theorem slots_visit_of_ne (manner : Manner) (serving : Serving) {j : Nat} (other : i ≠ j) :
    (serving.visit manner i).slots[j]? = serving.slots[j]? := by
  obtain ⟨same, -⟩ | ⟨stack, entry, n, -, same⟩ := visit_cases manner serving i
  next => rw [same]
  next => rw [same, slots_draw, if_neg other]

theorem visit_of_spent (spent : serving.Spent manner i) : serving.visit manner i = serving := by
  obtain ⟨same, -⟩ | ⟨stack, entry, n, draws, -⟩ := visit_cases manner serving i
  next => exact same
  next => exact absurd spent draws.not_spent

theorem spent_visit (manner : Manner) (serving : Serving) (i : Nat) :
    (serving.visit manner i).Spent manner i ∨ (serving.visit manner i).left.isExhausted := by
  obtain ⟨same, idle⟩ | ⟨stack, entry, n, draws, same⟩ := visit_cases manner serving i
  next => rw [same]; exact idle.symm
  next => rw [same]; exact draws.spent_draw

theorem slots_visit_of_spent (spent : serving.Spent manner i) (j : Nat) :
    (serving.visit manner j).slots[i]? = serving.slots[i]? := by
  by_cases same : j = i
  next => rw [same, visit_of_spent spent]
  next => exact slots_visit_of_ne manner serving same

theorem Spent.of_eq {other : Serving} (spent : serving.Spent manner i)
    (same : other.slots[i]? = serving.slots[i]?) : other.Spent manner i :=
  fun stack here => spent stack (same ▸ here)

section Rounds

variable {visits : List Nat}

def visitAll (manner : Manner) (serving : Serving) (visits : List Nat) : Serving :=
  visits.foldl (Serving.visit manner) serving

theorem visitAll_append (manner : Manner) (serving : Serving) (first second : List Nat) :
    visitAll manner serving (first ++ second) =
      visitAll manner (visitAll manner serving first) second :=
  List.foldl_append

theorem visitAll_of_exhausted (manner : Manner) (exhausted : serving.left.isExhausted)
    (visits : List Nat) :
    visitAll manner serving visits = serving := by
  induction visits with
  | nil => rfl
  | cons i rest ih => rwa [visitAll, List.foldl_cons, visit_of_exhausted exhausted]

theorem slots_visitAll_of_spent (spent : serving.Spent manner i) (visits : List Nat) :
    (visitAll manner serving visits).slots[i]? = serving.slots[i]? := by
  induction visits generalizing serving with
  | nil => rfl
  | cons j rest ih =>
    have same := slots_visit_of_spent spent j
    exact (ih (spent.of_eq same)).trans same

theorem spent_visitAll (member : i ∈ visits) :
    (visitAll manner serving visits).Spent manner i ∨
      (visitAll manner serving visits).left.isExhausted := by
  induction visits generalizing serving with
  | nil => cases member
  | cons j rest ih =>
    by_cases later : i ∈ rest
    next => exact ih later
    next =>
      obtain rfl : i = j := (List.mem_cons.1 member).resolve_right later
      refine (spent_visit manner serving i).imp (fun spent => ?_) fun exhausted => ?_
      next => exact spent.of_eq (slots_visitAll_of_spent spent rest)
      next =>
        have still := visitAll_of_exhausted manner exhausted rest
        exact still.symm ▸ exhausted

theorem slots_visitAll_visit (manner : Manner) (serving : Serving) (i : Nat) (rest : List Nat) :
    (visitAll manner (serving.visit manner i) rest).slots[i]? =
      (serving.visit manner i).slots[i]? := by
  obtain spent | exhausted := spent_visit manner serving i
  next => exact slots_visitAll_of_spent spent rest
  next => rw [visitAll_of_exhausted manner exhausted]

def takings (manner : Manner) : Serving → List Nat → List Nat
  | _, [] => []
  | serving, i :: rest =>
    let after := serving.visit manner i
    if after.slots = serving.slots then takings manner after rest
    else i :: takings manner after rest

theorem takings_of_draw {stack : Stack} {entry : Option Stack} {n : Count}
    (draws : serving.Draws manner i stack entry n)
    (same : serving.visit manner i = serving.draw i entry n) (rest : List Nat) :
    takings manner serving (i :: rest) = i :: takings manner (serving.draw i entry n) rest := by
  simp [takings, same, draws.slots_ne]

theorem takings_append (manner : Manner) (serving : Serving) (first second : List Nat) :
    takings manner serving (first ++ second) =
      takings manner serving first ++ takings manner (visitAll manner serving first) second := by
  induction first generalizing serving with
  | nil => rfl
  | cons i rest ih =>
    simp only [List.cons_append, takings, ih]
    split <;> rfl

theorem takings_sublist (manner : Manner) (serving : Serving) (visits : List Nat) :
    (takings manner serving visits).Sublist visits := by
  induction visits generalizing serving with
  | nil => exact .slnil
  | cons i rest ih =>
    rw [takings]
    split
    next => exact (ih _).cons i
    next => exact (ih _).cons_cons i

theorem takings_of_exhausted (exhausted : serving.left.isExhausted) (visits : List Nat) :
    takings manner serving visits = [] := by
  induction visits with
  | nil => rfl
  | cons i rest ih => simp [takings, visit_of_exhausted exhausted, ih]

theorem mem_takings_iff : i ∈ takings manner serving visits ↔
    (visitAll manner serving visits).slots[i]? ≠ serving.slots[i]? := by
  induction visits generalizing serving with
  | nil => simp [takings, visitAll]
  | cons j rest ih =>
    have later : i ∈ takings manner (serving.visit manner j) rest ↔
      (visitAll manner serving (j :: rest)).slots[i]? ≠ (serving.visit manner j).slots[i]? := ih
    rw [takings]
    by_cases same : (serving.visit manner j).slots = serving.slots
    next => rw [if_pos same, later, same]
    next =>
      rw [if_neg same, List.mem_cons]
      by_cases here : i = j
      next =>
        subst here
        have changed : (serving.visit manner i).slots[i]? ≠ serving.slots[i]? := by
          intro unchanged
          apply same
          apply List.ext_getElem?
          intro k
          by_cases other : i = k
          next => rwa [← other]
          next => exact slots_visit_of_ne manner serving other
        have last : (visitAll manner serving (i :: rest)).slots[i]? =
            (serving.visit manner i).slots[i]? := slots_visitAll_visit manner serving i rest
        simp [last, changed]
      next => simp [here, later, slots_visit_of_ne manner serving (Ne.symm here)]

end Rounds

end Slots.Serving

namespace Slots

variable {slots : Slots} {target : Stack} {i start : Nat}

section Positions

variable {p : Stack → Bool} {entries : List Nat}

theorem mem_positions_iff :
    i ∈ positions p slots ↔ ∃ stack, slots[i]? = some stack ∧ p stack := by
  simp [positions, List.mem_zipIdx_iff_getElem?]

theorem length_positions (p : Stack → Bool) (slots : Slots) :
    (positions p slots).length = (slots.filter p).length := by
  conv_rhs => rw [← List.zipIdx_map_fst 0 slots, List.filter_map, List.length_map]
  rw [positions, List.length_map]
  rfl

theorem nodup_positions (p : Stack → Bool) (slots : Slots) : (positions p slots).Nodup :=
  slots.nodup_zipIdx_map_snd.sublist (List.filter_sublist.map Prod.snd)

theorem rotated_of_lt (within : start < entries.length) :
    rotated start entries = entries.rotate start := by
  rw [rotated, if_pos within, List.rotate_eq_drop_append_take (Nat.le_of_lt within)]

theorem rotated_of_le (past : entries.length ≤ start) : rotated start entries = [] :=
  if_neg (Nat.not_lt.2 past)

theorem mem_rotated_iff : i ∈ rotated start entries ↔ start < entries.length ∧ i ∈ entries := by
  by_cases within : start < entries.length
  next => simp [rotated_of_lt within, within]
  next => simp [rotated_of_le (Nat.not_lt.1 within), within]

end Positions

def holders (slots : Slots) (item : Item) : Slots := slots.filter fun stack => stack.item = item

theorem mem_holders {stack : Stack} {item : Item} (here : slots[i]? = some stack)
    (held : stack.item = item) : stack ∈ slots.holders item :=
  List.mem_filter.2 ⟨List.mem_of_getElem? here, decide_eq_true held⟩

theorem item_of_matcher {matcher : Stack → Stack → Bool} (known : matcher ∈ matchers) {stack : Stack}
    (found : matcher stack target) : stack.item = target.item := by
  simp only [matchers, List.mem_cons, List.not_mem_nil, or_false] at known
  obtain rfl | rfl | rfl | rfl := known
  next => rw [of_decide_eq_true found]
  next => simp_all [Stack.sameButValue]
  next => simp_all [Stack.sameButValueAndEquipped]
  next => simpa [Stack.sameItem] using found

theorem length_matches_le {matcher : Stack → Stack → Bool} (known : matcher ∈ matchers)
    (slots : Slots) (target : Stack) :
    (positions (matcher · target) slots).length ≤ (slots.holders target.item).length := by
  rw [length_positions, holders, ← List.countP_eq_length_filter, ← List.countP_eq_length_filter]
  apply List.countP_mono_left
  intro stack _ found
  exact decide_eq_true (item_of_matcher known found)

theorem mem_visits_iff : i ∈ slots.visits target start ↔
    start < (slots.holders target.item).length ∧
      ∃ stack, slots[i]? = some stack ∧ stack.item = target.item := by
  simp only [visits, List.mem_flatMap, mem_rotated_iff, mem_positions_iff]
  constructor
  next =>
    rintro ⟨matcher, known, within, stack, here, found⟩
    have enough := length_matches_le known slots target
    exact ⟨by omega, stack, here, item_of_matcher known found⟩
  next =>
    rintro ⟨within, stack, here, same⟩
    refine ⟨Stack.sameItem, by simp [matchers], ?_, stack, here, decide_eq_true same⟩
    rw [length_positions]
    exact within

theorem item_of_visited {stack : Stack} (asked : i ∈ slots.visits target start)
    (here : slots[i]? = some stack) : stack.item = target.item := by
  obtain ⟨-, other, there, held⟩ := mem_visits_iff.1 asked
  obtain rfl : stack = other := by simpa [here] using there
  exact held

def served (slots : Slots) (target : Stack) (amount : Amount) (manner : Manner) : Serving :=
  Serving.visitAll manner ⟨slots.map some, amount, 0⟩ (slots.visits target manner.start)

theorem withdraw_eq (slots : Slots) (target : Stack) (amount : Amount) (manner : Manner) :
    slots.withdraw target amount manner =
      (((slots.served target amount manner).slots.filterMap id).filter (remains manner),
        (slots.served target amount manner).removed) := rfl

end Slots

end Inventory
