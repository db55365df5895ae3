import Inventory.Simulation
import Inventory.Proofs.LastEquipped
import Inventory.Proofs.Obtaining
import Inventory.Proofs.Patches

set_option autoImplicit false

namespace Inventory

section Lists

variable {α : Type} {p : α → Bool}

theorem exists_last_of_exists {entries : List α} (any : ∃ x ∈ entries, p x) :
    ∃ before x after, entries = before ++ x :: after ∧ p x ∧ ∀ y ∈ after, ¬p y := by
  induction entries with
  | nil => simp at any
  | cons x rest ih =>
    by_cases later : ∃ y ∈ rest, p y
    next =>
      obtain ⟨before, last, after, rfl, holds, absent⟩ := ih later
      exact ⟨x :: before, last, after, rfl, holds, absent⟩
    next =>
      have absent : ∀ y ∈ rest, ¬p y := fun y member holds => later ⟨y, member, holds⟩
      have here : p x := by
        rcases (List.exists_mem_cons_iff ..).1 any with here | more
        next => exact here
        next => exact absurd more later
      exact ⟨[], x, rest, rfl, here, absent⟩

theorem findIdx?_append_cons {before after : List α} {x : α} (here : p x)
    (absent : ∀ y ∈ before, ¬p y) : (before ++ x :: after).findIdx? p = some before.length := by
  have none : before.findIdx? p = none := List.findIdx?_eq_none_iff.2 (by simpa using absent)
  simp [List.findIdx?_append, none, List.findIdx?_cons, here]

end Lists

theorem Count.val_atLeast (a limit : Count) : (a.atLeast limit).val = max limit.val a.val := by
  unfold Count.atLeast
  split <;> omega

namespace Stack

def shot (stack : Stack) (count : Count) : Stack :=
  stack.withValue ((stack.value.minus count).atLeast 0)

theorem val_shot {count : Count} (nonneg : 0 ≤ count.val) (stack : Stack) :
    (stack.shot count).value.val = max 0 (stack.value.val - count.val) := by
  have high := stack.value.le_hi
  rw [shot, withValue, Count.val_atLeast, Count.val_minus, Count.val_zero]
  omega

end Stack

namespace Slots

def Nocked (slots : Slots) (arrow : Stack) : Prop :=
  ∃ before after, slots = before ++ arrow :: after ∧ isEquipped .arrow arrow ∧
    ∀ other ∈ after, ¬isEquipped .arrow other

/-- The slot that a shot takes arrows from: the first one that holds what the arrow in hand is. -/
structure ShotFrom (slots front : Slots) (first : Stack) (back : Slots) : Prop where
  split : slots = front ++ first :: back
  nocked : ∃ arrow, slots.Nocked arrow ∧ first.item = arrow.item
  absent : ∀ other ∈ front, other.item ≠ first.item

variable {slots front back : Slots} {first : Stack}

theorem shoot_of_unarmed (unarmed : ∀ stack ∈ slots, ¬isEquipped .arrow stack) (count : Count) :
    slots.shoot count = none := by
  simp [shoot, lastEquipped, lastIndex?_eq_none unarmed]

theorem exists_shotFrom (armed : ∃ stack ∈ slots, isEquipped .arrow stack) :
    ∃ front first back, slots.ShotFrom front first back := by
  obtain ⟨before, arrow, after, split, equipped, last⟩ := exists_last_of_exists armed
  have nocked : slots.Nocked arrow := ⟨before, after, split, equipped, last⟩
  have member : arrow ∈ slots := by simp [split]
  cases found : slots.findIdx? fun stack => stack.item = arrow.item with
  | none => simpa using List.findIdx?_eq_none_iff.1 found arrow member
  | some i =>
    obtain ⟨front, first, back, whole, -, same, absent⟩ := split_of_findIdx? found
    have item : first.item = arrow.item := by simpa using same
    exact ⟨front, first, back, whole, ⟨arrow, nocked, item⟩, by simpa [item] using absent⟩

theorem ShotFrom.kind (shot : slots.ShotFrom front first back) : first.kind = .arrow := by
  obtain ⟨arrow, ⟨_, _, _, equipped, _⟩, item⟩ := shot.nocked
  rw [Stack.kind, item]
  exact (isEquipped_iff.1 equipped).2

theorem ShotFrom.withLife (shot : slots.ShotFrom front first back) (life : Count) :
    Slots.withLife first life = first.withValue life := by
  simp [Slots.withLife, isCapped, shot.kind]

theorem ShotFrom.shoot (shot : slots.ShotFrom front first back) (count : Count) :
    slots.shoot count = some (front.length, front ++ first.shot count :: back) := by
  obtain ⟨arrow, ⟨before, after, cut, equipped, last⟩, item⟩ := shot.nocked
  have nocked : slots.lastEquipped .arrow = some before.length := by
    rw [lastEquipped, cut, lastIndex?_append_cons equipped last]
  have hand : slots[before.length]? = some arrow := by simp [cut]
  have start : (slots.findIdx? fun stack => stack.item = arrow.item) = some front.length := by
    rw [shot.split]
    exact findIdx?_append_cons (by simp [item]) (by simpa [← item] using shot.absent)
  simp only [Slots.shoot, nocked, Option.bind_some, hand, start, Option.map_some]
  rw [shot.split, modify_at]
  rfl

end Slots

theorem GameData.syncWith_eq_self_iff {data : GameData} {pouch : Pouch} :
    data.syncWith pouch = data ↔ data.slots = if pouch.counted ≤ 0 then [] else pouch.slots := by
  constructor
  · exact fun same => (congrArg GameData.slots same).symm
  · intro same
    rw [syncWith, ← same]

namespace Simulation

variable {state : Simulation} {front back : Slots} {first : Stack}

theorem shoot_of_unarmed (unarmed : ∀ stack ∈ state.pouch.slots, ¬Slots.isEquipped .arrow stack)
    (count : Count) : state.shoot count = (state, .ok ()) := by
  simp [shoot, shootArrows, Slots.shoot_of_unarmed unarmed]

theorem shoot_of_shotFrom (shot : state.pouch.slots.ShotFrom front first back) (count : Count) :
    state.shoot count =
      ({ state with
          pouch := { state.pouch with slots := front ++ first.shot count :: back }
          gameData := { state.gameData with
            slots := state.gameData.slots.modify front.length fun old =>
              Slots.withLife old (first.shot count).value } },
        if front.length < state.gameData.slots.length then .ok ()
        else .error (.indexOutOfBounds front.length state.gameData.slots.length)) := by
  rcases Nat.lt_or_ge front.length state.gameData.slots.length with within | past
  next =>
    simp [shoot, shootArrows, shot.shoot, GameData.updateLife, Slots.updateLife_of_within _ within,
      Except.map, within]
  next =>
    simp [shoot, shootArrows, shot.shoot, GameData.updateLife, Slots.updateLife_of_past _ past,
      Except.map, List.modify_eq_self past, Nat.not_lt.2 past]

theorem shoot_cases (state : Simulation) (count : Count) :
    state.shoot count = (state, .ok ()) ∨
      ∃ front first back, state.pouch.slots.ShotFrom front first back := by
  by_cases armed : ∃ stack ∈ state.pouch.slots, Slots.isEquipped .arrow stack
  next => exact .inr (Slots.exists_shotFrom armed)
  next => exact .inl (shoot_of_unarmed (by simpa using armed) count)

theorem shoot_slots (state : Simulation) (count : Count) :
    ∃ slots saved, slots.length = state.pouch.slots.length ∧
      (state.shoot count).1 = { state with
        pouch := { state.pouch with slots }
        gameData := { state.gameData with slots := saved } } := by
  rcases state.shoot_cases count with same | ⟨front, first, back, shot⟩
  next => exact ⟨_, _, rfl, by rw [same]⟩
  next =>
    have length : (front ++ first.shot count :: back).length = state.pouch.slots.length := by
      simp [shot.split]
    exact ⟨_, _, length, by rw [shoot_of_shotFrom shot]⟩

theorem counted_shoot (state : Simulation) (count : Count) :
    (state.shoot count).1.pouch.counted = state.pouch.counted := by
  obtain ⟨slots, saved, length, same⟩ := state.shoot_slots count
  simp [same, Pouch.counted, length]

theorem shoot_of_equal (equal : state.gameData.slots = state.pouch.slots) (count : Count) :
    (state.shoot count).2 = .ok () ∧
      (state.shoot count).1.gameData.slots = (state.shoot count).1.pouch.slots := by
  rcases state.shoot_cases count with same | ⟨front, first, back, shot⟩
  next =>
    rw [same]
    exact ⟨rfl, equal⟩
  next =>
    have within : front.length < state.pouch.slots.length := by simp [shot.split]
    -- Arrows have no cap, so both sides get the same value.
    rw [shoot_of_shotFrom shot, equal, if_pos within, shot.split, Slots.modify_at, shot.withLife]
    exact ⟨rfl, rfl⟩

theorem shoot_of_synced (synced : state.gameData.syncWith state.pouch = state.gameData)
    (count : Count) :
    (state.shoot count).1.gameData.syncWith (state.shoot count).1.pouch =
      (state.shoot count).1.gameData := by
  rw [GameData.syncWith_eq_self_iff] at synced ⊢
  rw [counted_shoot]
  by_cases none : state.pouch.counted ≤ 0
  next =>
    rw [if_pos none] at synced ⊢
    -- A pouch without counted items leaves the game data empty, so there is no slot to write.
    rcases state.shoot_cases count with same | ⟨front, first, back, shot⟩
    next => rw [same, synced]
    next => simp [shoot_of_shotFrom shot, synced]
  next =>
    rw [if_neg none] at synced ⊢
    exact (shoot_of_equal synced count).2

/-- A shot takes arrows from one slot of the pouch and writes what is left there to the same place of the
game data. It fails exactly if they have no such place, and then leaves them as they are. Game data that
are equal to the pouch stay equal to it, and what a sync would not change before it does not change after. -/
theorem shoot_is_faithful (state : Simulation) (count : Count) (nonneg : 0 ≤ count.val) :
    let after := (state.shoot count).1
    let outcome := (state.shoot count).2
    ((∀ stack ∈ state.pouch.slots, ¬Slots.isEquipped .arrow stack) →
        state.shoot count = (state, .ok ())) ∧
      ((∃ stack ∈ state.pouch.slots, Slots.isEquipped .arrow stack) →
        ∃ front first back, state.pouch.slots.ShotFrom front first back) ∧
      (∀ front first back, state.pouch.slots.ShotFrom front first back →
        ∃ left : Count, left.val = max 0 (first.value.val - count.val) ∧
          after.pouch.slots = front ++ first.withValue left :: back ∧
          (state.gameData.slots.length ≤ front.length →
            outcome = .error (.indexOutOfBounds front.length state.gameData.slots.length) ∧
              after.gameData = state.gameData) ∧
          (front.length < state.gameData.slots.length → outcome = .ok () ∧
            after.gameData.slots = state.gameData.slots.modify front.length fun old =>
              Slots.withLife old left)) ∧
      (state.gameData.slots = state.pouch.slots →
        outcome = .ok () ∧ after.gameData.slots = after.pouch.slots) ∧
      (state.gameData.syncWith state.pouch = state.gameData →
        after.gameData.syncWith after.pouch = after.gameData) ∧
      after = { state with
        pouch := { state.pouch with slots := after.pouch.slots }
        gameData := { state.gameData with slots := after.gameData.slots } } := by
  intro after outcome
  refine ⟨fun unarmed => shoot_of_unarmed unarmed count, Slots.exists_shotFrom, ?shot,
    fun equal => shoot_of_equal equal count, fun synced => shoot_of_synced synced count, ?frame⟩
  case shot =>
    intro front first back shot
    have hit := shoot_of_shotFrom shot count
    have told : outcome = if front.length < state.gameData.slots.length then .ok ()
        else .error (.indexOutOfBounds front.length state.gameData.slots.length) :=
      congrArg Prod.snd hit
    rw [told, show after = _ from congrArg Prod.fst hit]
    refine ⟨(first.shot count).value, Stack.val_shot nonneg first, rfl, fun past => ?_, fun within => ?_⟩
    next =>
      rw [if_neg (Nat.not_lt.2 past), List.modify_eq_self past]
      exact ⟨rfl, rfl⟩
    next => exact ⟨if_pos within, rfl⟩
  case frame =>
    obtain ⟨slots, saved, -, same⟩ := state.shoot_slots count
    simp only [after, same]

theorem shoot_is_faithful_of_two_quivers :
    let sword := Stack.new (Item.new "WeaponA" .weapon)
    let spare := (Stack.new (Item.new "ArrowA" .arrow)).withValue 5
    let held := ((Stack.new (Item.new "ArrowA" .arrow)).withValue 3).withEquipped true
    let state := initial.startWith [sword, spare, held]
    let stripped := state.initGameData [sword]
    0 ≤ (2 : Count).val ∧
      (∀ stack ∈ initial.pouch.slots, ¬Slots.isEquipped .arrow stack) ∧
      initial.shoot 2 = (initial, .ok ()) ∧
      (∃ stack ∈ state.pouch.slots, Slots.isEquipped .arrow stack) ∧
      state.pouch.slots.ShotFrom [sword] spare [held] ∧
      (state.shoot 2).1.pouch.slots = [sword, spare.withValue 3, held] ∧
      state.gameData.slots = state.pouch.slots ∧ (state.shoot 2).2 = .ok () ∧
      (state.shoot 2).1.gameData.slots = (state.shoot 2).1.pouch.slots ∧
      stripped.gameData.slots.length ≤ 1 ∧
      (stripped.shoot 2).2 = .error (.indexOutOfBounds 1 1) ∧
      (stripped.shoot 2).1.gameData = stripped.gameData := by
  intro sword spare held state stripped
  have nonneg : 0 ≤ (2 : Count).val := by decide
  have unarmed : ∀ stack ∈ initial.pouch.slots, ¬Slots.isEquipped .arrow stack := by decide
  have armed : ∃ stack ∈ state.pouch.slots, Slots.isEquipped .arrow stack := by decide
  have shot : state.pouch.slots.ShotFrom [sword] spare [held] :=
    { split := rfl
      nocked := ⟨held, ⟨[sword, spare], [], rfl, rfl, by simp⟩, rfl⟩
      absent := by decide }
  have equal : state.gameData.slots = state.pouch.slots := rfl
  have past : stripped.gameData.slots.length ≤ 1 := by decide
  obtain ⟨alone, -⟩ := shoot_is_faithful initial 2 nonneg
  obtain ⟨-, -, shots, equals, -⟩ := shoot_is_faithful state 2 nonneg
  obtain ⟨-, -, misses, -⟩ := shoot_is_faithful stripped 2 nonneg
  obtain ⟨left, value, pouch, -⟩ := shots [sword] spare [held] shot
  obtain rfl : left = 3 := Bounded.ext value
  obtain ⟨_, -, -, fails, -⟩ := misses [sword] spare [held] shot
  exact ⟨nonneg, unarmed, alone unarmed, armed, shot, pouch, equal, (equals equal).1, (equals equal).2,
    past, fails past⟩

end Simulation

end Inventory
