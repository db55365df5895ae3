import Inventory.Proofs.BrokenSlots

/-!
Whose details a dish gets in a reload. The saved dishes have their turns in order, and the turn passes on
unless no slot is known to have been added after a dish. So a dish comes with the details of a dish that
is not later in the save, as many turns before it as earlier dishes kept the turn.
-/

set_option autoImplicit false

namespace Inventory

theorem split_of_lt_countP {α : Type} {p : α → Bool} {entries : List α} {j : Nat}
    (less : j < entries.countP p) :
    ∃ front x back, entries = front ++ x :: back ∧ p x ∧ front.countP p = j ∧
      (entries.filter p)[j]? = some x := by
  induction entries generalizing j with
  | nil => simp at less
  | cons x rest ih =>
    by_cases holds : p x
    next =>
      cases j with
      | zero => exact ⟨[], x, rest, rfl, holds, rfl, by simp [holds]⟩
      | succ j =>
        obtain ⟨front, y, back, rfl, found, count, here⟩ := ih (j := j) (by simpa [holds] using less)
        exact ⟨x :: front, y, back, rfl, found, by simp [holds, count], by simpa [holds] using here⟩
    next =>
      obtain ⟨front, y, back, rfl, found, count, here⟩ := ih (j := j) (by simpa [holds] using less)
      exact ⟨x :: front, y, back, rfl, found, by simp [holds, count], by simpa [holds] using here⟩

namespace GameData

namespace Filling

/-- How many of the dishes among saved stacks keep the turn when they are brought back. -/
def lag (dishes : List Stack) (capacity : Capacity) (filling : Filling) : List Stack → Nat
  | [] => 0
  | stack :: rest =>
    let next := filling.restore dishes capacity stack
    (if isFood stack && next.last.isNone then 1 else 0) + next.lag dishes capacity rest

variable (dishes : List Stack) (capacity : Capacity) (filling : Filling)

theorem lag_append (saved others : List Stack) :
    filling.lag dishes capacity (saved ++ others) = filling.lag dishes capacity saved +
      (saved.foldl (Filling.restore dishes capacity) filling).lag dishes capacity others := by
  induction saved generalizing filling with
  | nil => simp [lag]
  | cons stack rest ih => simp only [List.cons_append, lag, ih, List.foldl_cons, Nat.add_assoc]

theorem dish_add_lag (saved : List Stack) :
    (saved.foldl (Filling.restore dishes capacity) filling).dish + filling.lag dishes capacity saved =
      filling.dish + saved.countP isFood := by
  induction saved generalizing filling with
  | nil => rfl
  | cons stack rest ih =>
    have later := ih (filling.restore dishes capacity stack)
    have turn : (filling.restore dishes capacity stack).dish =
        if (filling.restore dishes capacity stack).last.isSome && isFood stack then filling.dish + 1
        else filling.dish := rfl
    rw [List.foldl_cons, lag, List.countP_cons]
    -- A dish either passes the turn on or keeps it, and what is no dish does neither.
    cases food : isFood stack <;> cases added : (filling.restore dishes capacity stack).last <;>
      simp [food, added] at turn ⊢ <;> omega

variable {dishes capacity filling}

theorem lag_eq_zero {saved : List Stack} (sound : ∀ stack ∈ saved, ¬Slots.isBrokenMasterSword stack)
    (added : filling.last.isSome) : filling.lag dishes capacity saved = 0 := by
  induction saved generalizing filling with
  | nil => rfl
  | cons stack rest ih =>
    obtain ⟨first, others⟩ := List.forall_mem_cons.1 sound
    have still : (filling.restore dishes capacity stack).last.isSome := by
      rcases filling.restore_cases dishes capacity first with ⟨-, same⟩ | ⟨-, some, -⟩
      next => rwa [same]
      next => exact some
    simp [lag, ih others still, Option.isNone_eq_false_iff.2 still]

theorem isSome_last_of_longer {stack : Stack} (sound : ¬Slots.isBrokenMasterSword stack)
    (longer : filling.pouch.slots.length <
      (filling.restore dishes capacity stack).pouch.slots.length) :
    (filling.restore dishes capacity stack).last.isSome := by
  rcases filling.restore_cases dishes capacity sound with ⟨kept, -⟩ | ⟨-, some, -⟩
  next =>
    rw [kept] at longer
    exact absurd longer (Nat.lt_irrefl _)
  next => exact some

end Filling

def fillingAfter (data : GameData) (pouch : Pouch) (done : List Stack) : Filling :=
  done.foldl (Filling.restore (data.slots.filter isFood) data.capacity) ⟨pouch, none, 0⟩

def lag (data : GameData) (pouch : Pouch) (done : List Stack) : Nat :=
  Filling.lag (data.slots.filter isFood) data.capacity ⟨pouch, none, 0⟩ done

variable (data : GameData) (pouch : Pouch)

theorem fillingAfter_append_singleton (done : List Stack) (stack : Stack) :
    data.fillingAfter pouch (done ++ [stack]) =
      (data.fillingAfter pouch done).restore (data.slots.filter isFood) data.capacity stack := by
  simp [fillingAfter]

theorem lag_append (done others : List Stack) :
    data.lag pouch (done ++ others) = data.lag pouch done +
      (data.fillingAfter pouch done).lag (data.slots.filter isFood) data.capacity others :=
  Filling.lag_append _ _ _ done others

theorem dish_add_lag (done : List Stack) :
    (data.fillingAfter pouch done).dish + data.lag pouch done = done.countP isFood := by
  have turns := Filling.dish_add_lag (data.slots.filter isFood) data.capacity ⟨pouch, none, 0⟩ done
  rwa [Nat.zero_add] at turns

theorem dish_of_turn {done rest : List Stack} {food : Stack}
    (split : data.slots = done ++ food :: rest) (isDish : isFood food) :
    ∃ front dish back, done ++ [food] = front ++ dish :: back ∧ isFood dish ∧
      front.countP isFood + data.lag pouch done = done.countP isFood ∧
      (data.slots.filter isFood)[(data.fillingAfter pouch done).dish]? = some dish := by
  have turn := data.dish_add_lag pouch done
  have less : (data.fillingAfter pouch done).dish < (done ++ [food]).countP isFood := by
    simp only [List.countP_append, List.countP_singleton, isDish, if_true]
    omega
  obtain ⟨front, dish, back, whole, holds, count, here⟩ := split_of_lt_countP less
  refine ⟨front, dish, back, whole, holds, by omega, ?_⟩
  have cut : data.slots = (done ++ [food]) ++ rest := by simpa using split
  rw [cut, List.filter_append, List.getElem?_append_left (List.getElem?_eq_some_iff.1 here).1]
  exact here

variable {data pouch}

theorem lag_steady {earlier later : List Stack} (before : earlier <+: later)
    (within : later <+: data.slots)
    (sound : ∀ stack ∈ data.slots, ¬Slots.isBrokenMasterSword stack)
    (added : (data.fillingAfter pouch earlier).last.isSome) :
    data.lag pouch later = data.lag pouch earlier := by
  obtain ⟨others, rfl⟩ := before
  have safe : ∀ stack ∈ others, ¬Slots.isBrokenMasterSword stack :=
    fun stack member => sound stack (within.subset (List.mem_append_right _ member))
  rw [lag_append, Filling.lag_eq_zero safe added, Nat.add_zero]

theorem lag_of_no_food {done : List Stack} (none : ∀ stack ∈ done, ¬isFood stack) :
    data.lag pouch done = 0 := by
  have turn := data.dish_add_lag pouch done
  rw [List.countP_eq_zero.2 none] at turn
  omega

theorem lag_of_accepted {done : List Stack} {stack : Stack} (within : done ++ [stack] <+: data.slots)
    (sound : ∀ stack ∈ data.slots, ¬Slots.isBrokenMasterSword stack)
    (none : ∀ other ∈ done ++ [stack], ¬isFood other)
    (longer : (data.fillingAfter pouch done).pouch.slots.length <
      (data.fillingAfter pouch (done ++ [stack])).pouch.slots.length)
    {earlier : List Stack} (before : earlier <+: data.slots) : data.lag pouch earlier = 0 := by
  have added : (data.fillingAfter pouch (done ++ [stack])).last.isSome := by
    rw [fillingAfter_append_singleton] at longer ⊢
    exact Filling.isSome_last_of_longer (sound stack (within.subset (by simp))) longer
  rcases List.prefix_or_prefix_of_prefix before within with first | later
  next => exact lag_of_no_food fun other member => none other (first.subset member)
  next => rw [lag_steady later before sound added, lag_of_no_food none]

/-- In a reload every dish takes the details of a saved dish, as many turns before its own as earlier
dishes kept the turn. If no broken Master Sword is saved, none does so after a slot was added. -/
theorem dishes_take_turns (data : GameData) (pouch : Pouch) :
    (data.fillingAfter pouch data.slots).pouch = data.fill pouch ∧
      (∀ done food rest, data.slots = done ++ food :: rest → isFood food →
        let before := data.fillingAfter pouch done
        let after := data.fillingAfter pouch (done ++ [food])
        ∃ front dish back, done ++ [food] = front ++ dish :: back ∧ isFood dish ∧
          front.countP isFood + data.lag pouch done = done.countP isFood ∧
          (data.slots.filter isFood)[before.dish]? = some dish ∧
          (after.pouch.slots, after.last) = before.pouch.slots.restore (food.withDetailsOf dish)
            before.pouch.counted data.capacity before.last) ∧
      ((∀ stack ∈ data.slots, ¬Slots.isBrokenMasterSword stack) →
        (∀ earlier later, earlier <+: later → later <+: data.slots →
          (data.fillingAfter pouch earlier).last.isSome →
            data.lag pouch later = data.lag pouch earlier) ∧
        ∀ done stack, done ++ [stack] <+: data.slots → (∀ other ∈ done ++ [stack], ¬isFood other) →
          (data.fillingAfter pouch done).pouch.slots.length <
              (data.fillingAfter pouch (done ++ [stack])).pouch.slots.length →
            ∀ earlier, earlier <+: data.slots → data.lag pouch earlier = 0) := by
  refine ⟨rfl, ?turns, fun sound => ⟨?steady, ?accepted⟩⟩
  case turns =>
    intro done food rest split isDish before after
    obtain ⟨front, dish, back, whole, holds, count, here⟩ := data.dish_of_turn pouch split isDish
    have served : before.served (data.slots.filter isFood) food = food.withDetailsOf dish := by
      have kind : food.kind = .food := by simpa [isFood] using isDish
      simp [before, Filling.served, kind, here]
    refine ⟨front, dish, back, whole, holds, count, here, ?_⟩
    simp only [after, fillingAfter_append_singleton, Filling.restore_eq]
    rw [served]
  case steady => exact fun _ _ before within added => lag_steady before within sound added
  case accepted => exact fun _ _ within none longer _ => lag_of_accepted within sound none longer

theorem turns_of_known_soup :
    let soup : Stack :=
      ⟨{ Item.new "FoodA" .food with repeatable := false }, 1, false, ⟨some 8, some 30, .none⟩⟩
    let stew : Stack := ⟨Item.new "FoodB" .food, 1, false, ⟨some 20, some 55, .none⟩⟩
    let sword := Stack.new (Item.new "WeaponA" .weapon)
    let pouch : Pouch := ⟨[soup], 0⟩
    let meals : GameData := ⟨[soup, stew], .initial⟩
    let armed : GameData := ⟨[sword, soup, stew], .initial⟩
    let before := meals.fillingAfter pouch [soup]
    let after := meals.fillingAfter pouch ([soup] ++ [stew])
    meals.slots = [soup] ++ stew :: [] ∧ isFood stew ∧ meals.lag pouch [soup] = 1 ∧
      (∃ front dish back, [soup] ++ [stew] = front ++ dish :: back ∧ isFood dish ∧
        front.countP isFood + meals.lag pouch [soup] = [soup].countP isFood ∧
        (meals.slots.filter isFood)[before.dish]? = some dish ∧
        (after.pouch.slots, after.last) = before.pouch.slots.restore (stew.withDetailsOf dish)
          before.pouch.counted meals.capacity before.last) ∧
      (∀ stack ∈ armed.slots, ¬Slots.isBrokenMasterSword stack) ∧
      [sword] <+: [sword, soup] ∧ [sword, soup] <+: armed.slots ∧
      (armed.fillingAfter pouch [sword]).last.isSome ∧
      armed.lag pouch [sword, soup] = armed.lag pouch [sword] ∧
      [] ++ [sword] <+: armed.slots ∧ (∀ other ∈ [] ++ [sword], ¬isFood other) ∧
      (armed.fillingAfter pouch []).pouch.slots.length <
        (armed.fillingAfter pouch ([] ++ [sword])).pouch.slots.length ∧
      armed.lag pouch [sword, soup] = 0 := by
  intro soup stew sword pouch meals armed before after
  obtain ⟨-, turns, -⟩ := dishes_take_turns meals pouch
  have sound : ∀ stack ∈ armed.slots, ¬Slots.isBrokenMasterSword stack := by decide
  obtain ⟨-, -, lags⟩ := dishes_take_turns armed pouch
  obtain ⟨steady, accepted⟩ := lags sound
  have more : [sword] <+: [sword, soup] := by simp
  have within : [sword, soup] <+: armed.slots := by simp [armed]
  have first : [] ++ [sword] <+: armed.slots := by simp [armed]
  have added : (armed.fillingAfter pouch [sword]).last.isSome := by decide
  have none : ∀ other ∈ [] ++ [sword], ¬isFood other := by decide
  have longer : (armed.fillingAfter pouch []).pouch.slots.length <
      (armed.fillingAfter pouch ([] ++ [sword])).pouch.slots.length := by decide
  exact ⟨rfl, rfl, by decide, turns [soup] stew [] rfl rfl, sound, more, within, added,
    steady _ _ more within added, first, none, longer, accepted _ _ first none longer _ within⟩

end GameData

end Inventory
