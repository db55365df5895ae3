import Inventory.Proofs.Patches
import Inventory.Proofs.Snapshots

/-!
What a reload changes in the game data that it takes from a save. The durability of the weapon, the bow
and the shield in hand is written to the place that each has in the pouch. The pouch may hold it at
another place than the save: slots are sorted and left out as they come back, and broken slots stay in
front of them. Then the durability goes to whatever the save holds there.
-/

set_option autoImplicit false

namespace Inventory

namespace Kind

def tools : List Kind := [weapon, bow, shield]

end Kind

theorem lookup_of_mem {α β : Type} [BEq α] [LawfulBEq α] {entries : List (α × β)}
    (agree : ∀ key x y, (key, x) ∈ entries → (key, y) ∈ entries → x = y) {key : α} {x : β}
    (member : (key, x) ∈ entries) : entries.lookup key = some x := by
  cases found : entries.lookup key with
  | none => simpa using List.lookup_eq_none_iff.1 found _ member
  | some y =>
    obtain ⟨front, back, rfl, -⟩ := List.lookup_eq_some_iff.1 found
    rw [agree key x y member (by simp)]

namespace Slots

/-- The durability that slots report of a kind: the place of the first equipped slot, and the value of
the last one nearby. -/
def durability? (slots : Slots) (kind : Kind) : Option (Nat × Count) :=
  match slots.findIdx? (isEquipped kind),
      (slots.lastEquippedNearby kind).bind fun i => slots[i]? with
  | some first, some last => some (first, last.value)
  | _, _ => none

variable {slots : Slots}

theorem kind_of_findIdx? {kind : Kind} {i : Nat} {stack : Stack} (here : slots[i]? = some stack)
    (first : slots.findIdx? (isEquipped kind) = some i) : stack.kind = kind := by
  obtain ⟨_, equipped, -⟩ := List.findIdx?_eq_some_iff_getElem.1 first
  obtain ⟨_, rfl⟩ := List.getElem?_eq_some_iff.1 here
  exact (isEquipped_iff.1 equipped).2

theorem findIdx?_of_durability? {kind : Kind} {i : Nat} {life : Count}
    (reported : slots.durability? kind = some (i, life)) :
    slots.findIdx? (isEquipped kind) = some i := by
  unfold durability? at reported
  split at reported
  next first _ start _ =>
    cases reported
    exact start
  next => cases reported

theorem durability?_agree {kind other : Kind} {i : Nat} {life another : Count}
    (first : slots.durability? kind = some (i, life))
    (second : slots.durability? other = some (i, another)) : life = another := by
  have start := findIdx?_of_durability? first
  obtain ⟨within, -⟩ := List.findIdx?_eq_some_iff_getElem.1 start
  have here := List.getElem?_eq_getElem within
  obtain rfl := (kind_of_findIdx? here start).symm.trans
    (kind_of_findIdx? here (findIdx?_of_durability? second))
  rw [first] at second
  exact congrArg Prod.snd (Option.some.inj second)

/-- Of the slots that have another value than before, each is the first one in hand of its kind. -/
def WornInHand (slots before : Slots) : Prop :=
  ∀ i now was, slots[i]? = some now → before[i]? = some was → now.value ≠ was.value →
    ∃ kind ∈ Kind.tools, slots.findIdx? (isEquipped kind) = some i

theorem isEquipped_of_sameButValue {a b : Stack} (same : a.sameButValue b) (kind : Kind) :
    isEquipped kind a = isEquipped kind b := by
  simp only [Stack.sameButValue, Bool.and_eq_true, decide_eq_true_eq] at same
  obtain ⟨⟨item, equipped⟩, -⟩ := same
  rw [isEquipped, isEquipped, Stack.kind, Stack.kind, item, equipped]

theorem findIdx?_isEquipped_of_sameButValue {before : Slots}
    (same : List.Forall₂ (fun a b => a.sameButValue b) slots before) (kind : Kind) :
    slots.findIdx? (isEquipped kind) = before.findIdx? (isEquipped kind) := by
  induction same with
  | nil => rfl
  | cons head _ ih => rw [List.findIdx?_cons, List.findIdx?_cons, ih, isEquipped_of_sameButValue head]

end Slots

namespace GameData

variable (data : GameData) (pouch : Pouch)

theorem foldl_takeDurability (kinds : List Kind) :
    kinds.foldl (takeDurability pouch) data =
      { data with slots := (kinds.filterMap pouch.slots.durability?).foldl Slots.writeLife data.slots } := by
  induction kinds generalizing data with
  | nil => rfl
  | cons kind rest ih =>
    have step : takeDurability pouch data kind =
        { data with slots := (pouch.slots.durability? kind).toList.foldl Slots.writeLife data.slots } := by
      unfold takeDurability Slots.durability?
      cases pouch.slots.findIdx? (Slots.isEquipped kind) with
      | none => rfl
      | some first =>
        cases (pouch.slots.lastEquippedNearby kind).bind fun i => pouch.slots[i]? with
        | none => rfl
        | some last =>
          simp only [updateLife, Option.toList_some, List.foldl_cons, List.foldl_nil, Slots.writeLife]
          cases data.slots.updateLife last.value first <;> rfl
    rw [List.foldl_cons, step, ih]
    cases reported : pouch.slots.durability? kind <;> simp [reported]

theorem takeDurabilities_eq :
    data.takeDurabilities pouch = { data with slots :=
      (Kind.tools.filterMap pouch.slots.durability?).foldl Slots.writeLife data.slots } :=
  data.foldl_takeDurability pouch Kind.tools

variable {pouch}

theorem getElem?_takeDurabilities_of_reported {kind : Kind} (tool : kind ∈ Kind.tools) {i : Nat}
    {life : Count} (reported : pouch.slots.durability? kind = some (i, life)) :
    (data.takeDurabilities pouch).slots[i]? =
      (data.slots[i]?).map fun stack => Slots.withLife stack life := by
  have last : (Kind.tools.filterMap pouch.slots.durability?).reverse.lookup i = some life := by
    refine lookup_of_mem (fun key x y first second => ?_) ?_
    next =>
      simp only [List.mem_reverse, List.mem_filterMap] at first second
      obtain ⟨_, -, first⟩ := first
      obtain ⟨_, -, second⟩ := second
      exact Slots.durability?_agree first second
    next => exact List.mem_reverse.2 (List.mem_filterMap.2 ⟨kind, tool, reported⟩)
  rw [takeDurabilities_eq, Slots.getElem?_foldl_writeLife, last]
  rfl

theorem getElem?_takeDurabilities_of_unreported {i : Nat}
    (unreported : ∀ kind ∈ Kind.tools, ∀ life, pouch.slots.durability? kind ≠ some (i, life)) :
    (data.takeDurabilities pouch).slots[i]? = data.slots[i]? := by
  have none : (Kind.tools.filterMap pouch.slots.durability?).reverse.lookup i = none := by
    refine List.lookup_eq_none_iff.2 fun write member => ?_
    obtain ⟨kind, tool, reported⟩ := List.mem_filterMap.1 (List.mem_reverse.1 member)
    have other : i ≠ write.1 := fun same => unreported kind tool write.2 (same ▸ reported)
    simpa using other
  rw [takeDurabilities_eq, Slots.getElem?_foldl_writeLife, none]
  simp

variable (pouch)

theorem wornInHand_takeDurabilities_iff :
    (data.takeDurabilities pouch).slots.WornInHand data.slots ↔
      ∀ kind ∈ Kind.tools, ∀ i life was, pouch.slots.durability? kind = some (i, life) →
        data.slots[i]? = some was → (Slots.withLife was life).value ≠ was.value →
          ∃ tool ∈ Kind.tools, data.slots.findIdx? (Slots.isEquipped tool) = some i := by
  have same := Slots.findIdx?_isEquipped_of_sameButValue (data.sameButValues_takeDurabilities pouch).2
  constructor
  · intro worn kind tool i life was reported here changes
    have now := data.getElem?_takeDurabilities_of_reported tool reported
    rw [here] at now
    simpa only [same] using worn i _ was now here changes
  · intro lined i now was there here changes
    -- A slot with another value was written, so its place is one that the pouch reports.
    by_cases reported : ∃ kind ∈ Kind.tools, ∃ life, pouch.slots.durability? kind = some (i, life)
    next =>
      obtain ⟨kind, tool, life, reported⟩ := reported
      have written := data.getElem?_takeDurabilities_of_reported tool reported
      obtain rfl : now = Slots.withLife was life := by simpa [there, here] using written
      simpa only [same] using lined kind tool i life was reported here changes
    next =>
      have kept : (data.takeDurabilities pouch).slots[i]? = data.slots[i]? :=
        data.getElem?_takeDurabilities_of_unreported fun kind tool life known =>
          reported ⟨kind, tool, life, known⟩
      obtain rfl : now = was := by simpa [there, here] using kept
      exact absurd rfl changes

end GameData

namespace Simulation

/-- Besides the values that the pouch reports, a reload changes nothing in the game data of the save. Each
value goes to the place that the pouch reports, so it may go to a slot that is not in hand. -/
theorem reload_wears_reported_slots (state : Simulation) (name : Option String) {saved : GameData}
    (found : state.saveToReload name = some saved) :
    let after := (state.reload name).1
    after.gameData.SameButValues saved ∧
      (∀ kind ∈ Kind.tools, ∀ i life, after.pouch.slots.durability? kind = some (i, life) →
        after.gameData.slots[i]? = (saved.slots[i]?).map fun stack => Slots.withLife stack life) ∧
      (∀ i, (∀ kind ∈ Kind.tools, ∀ life, after.pouch.slots.durability? kind ≠ some (i, life)) →
        after.gameData.slots[i]? = saved.slots[i]?) ∧
      (after.gameData.slots.WornInHand saved.slots ↔
        ∀ kind ∈ Kind.tools, ∀ i life was, after.pouch.slots.durability? kind = some (i, life) →
          saved.slots[i]? = some was → (Slots.withLife was life).value ≠ was.value →
            ∃ tool ∈ Kind.tools, saved.slots.findIdx? (Slots.isEquipped tool) = some i) ∧
      ((∀ kind ∈ Kind.tools, after.pouch.slots.findIdx? (Slots.isEquipped kind) =
          saved.slots.findIdx? (Slots.isEquipped kind)) →
        after.gameData.slots.WornInHand saved.slots) := by
  intro after
  have written : after.gameData = saved.takeDurabilities after.pouch := by
    simp only [after, reload, found, reloadFrom]
  have worn := saved.wornInHand_takeDurabilities_iff after.pouch
  rw [written]
  refine ⟨saved.sameButValues_takeDurabilities _, ?reported, ?unreported, worn, ?lined⟩
  case reported =>
    exact fun kind tool i life known => saved.getElem?_takeDurabilities_of_reported tool known
  case unreported =>
    exact fun i unknown => saved.getElem?_takeDurabilities_of_unreported unknown
  case lined =>
    refine fun lined => worn.2 fun kind tool i life was known _ _ => ⟨kind, tool, ?_⟩
    rw [← lined kind tool, Slots.findIdx?_of_durability? known]

theorem reload_wears_first_of_two_swords :
    let sword : Stack := ⟨Item.new "WeaponA" .weapon, 1000, true, .plain⟩
    let axe : Stack := ⟨Item.new "WeaponB" .weapon, 2500, true, .plain⟩
    let saved : GameData := ⟨[sword, axe], .initial⟩
    let state := initial.run [.initGameData [sword, axe], .save none]
    let after := (state.reload none).1
    state.saveToReload none = some saved ∧
      after.pouch.slots.durability? .weapon = some (0, 2500) ∧
      after.gameData.slots[0]? = some (Slots.withLife sword 2500) ∧
      (∀ kind ∈ Kind.tools, ∀ life, after.pouch.slots.durability? kind ≠ some (1, life)) ∧
      after.gameData.slots[1]? = some axe ∧
      (∀ kind ∈ Kind.tools, after.pouch.slots.findIdx? (Slots.isEquipped kind) =
        saved.slots.findIdx? (Slots.isEquipped kind)) ∧
      after.gameData.slots.WornInHand saved.slots := by
  intro sword axe saved state after
  have found : state.saveToReload none = some saved := rfl
  obtain ⟨-, reported, unreported, -, lined⟩ := reload_wears_reported_slots state none found
  have known : after.pouch.slots.durability? .weapon = some (0, 2500) := by decide
  have unknown : ∀ kind ∈ Kind.tools, ∀ life, after.pouch.slots.durability? kind ≠ some (1, life) := by
    intro kind tool life other
    have second := Slots.findIdx?_of_durability? other
    clear other
    revert kind
    decide
  have places : ∀ kind ∈ Kind.tools, after.pouch.slots.findIdx? (Slots.isEquipped kind) =
      saved.slots.findIdx? (Slots.isEquipped kind) := by decide
  exact ⟨found, known, reported .weapon (by decide) 0 2500 known, unknown, unreported 1 unknown, places,
    lined places⟩

theorem not_worn_in_hand_of_unsorted_save :
    ¬∀ (state : Simulation) (name : Option String) (saved : GameData),
      state.saveToReload name = some saved →
        (state.reload name).1.gameData.slots.WornInHand saved.slots := by
  intro worn
  let apple := Stack.new (Item.new "MaterialA" .material)
  let sword : Stack := ⟨Item.new "WeaponA" .weapon, 50, true, .plain⟩
  let state := initial.run [.initGameData [apple, sword], .save none]
  obtain ⟨kind, tool, first⟩ :=
    worn state none ⟨[apple, sword], .initial⟩ rfl 0 (apple.withValue 50) apple (by decide) rfl
      (by decide)
  revert kind
  decide

end Simulation

end Inventory
