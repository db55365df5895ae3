import Inventory.Proofs.PackFormat
import Inventory.StateFile.Layout
import Mathlib.Algebra.Group.Nat.Defs
import Mathlib.Data.List.Nodup

set_option autoImplicit false

namespace Inventory

theorem Text.utf8_injective {a b : String} (same : utf8 a = utf8 b) : a = b := by
  have read := ofUtf8?_utf8 a
  rw [same, ofUtf8?_utf8] at read
  exact (Option.some.inj read).symm

namespace Pack

section Parts

variable {α : Type}

@[simp] theorem toString?_ofString (text : String) : toString? (ofString text) = some text :=
  Text.ofUtf8?_utf8 text

@[simp] theorem toBool?_bool (value : Bool) : toBool? (.bool value) = some value := rfl

@[simp] theorem toBounded?_ofBounded {lo hi : Int} (n : Bounded lo hi) :
    toBounded? (ofBounded n) = some n := by
  unfold ofBounded ofInt
  by_cases negative : n.val < 0
  · simp [negative, toBounded?]
  · have same : (n.val.toNat : Int) = n.val := by omega
    simp [negative, toBounded?, same]

theorem ofBounded_ne_nil {lo hi : Int} (n : Bounded lo hi) : ofBounded n ≠ .nil := by
  unfold ofBounded ofInt
  split <;> simp

theorem optionalField_ofOption {pack : α → Pack} {read : Pack → Option α}
    (restores : ∀ value, read (pack value) = some value) (filled : ∀ value, pack value ≠ .nil)
    (value : Option α) : optionalField read (some (ofOption pack value)) = some value := by
  cases value with
  | none => rfl
  | some value =>
    have inside : toOption? read (pack value) = (read (pack value)).map some := by
      have := filled value
      unfold toOption?
      split
      next => contradiction
      next => rfl
    change toOption? read (pack value) = _
    rw [inside, restores]
    rfl

theorem nameIndex?_ofString {names : List String} (distinct : names.Nodup) {k : Nat} {name : String}
    (here : names[k]? = some name) : nameIndex? names (ofString name) = some (some k) := by
  obtain ⟨bound, rfl⟩ := List.getElem?_eq_some_iff.1 here
  have found : names.findIdx? (fun other => Text.utf8 other = Text.utf8 names[k]) = some k := by
    rw [List.findIdx?_eq_some_iff_getElem]
    refine ⟨bound, by simp, fun j before => ?_⟩
    have other : names[j] ≠ names[k] := fun same =>
      absurd ((List.Nodup.getElem_inj_iff distinct).1 same) (by omega)
    simpa using fun same => other (Text.utf8_injective same)
  exact congrArg some found

theorem toFields?_ofFields {names : List String} {fields : List (String × Pack)}
    (same : fields.map Prod.fst = names) (distinct : names.Nodup) :
    toFields? names (ofFields fields) = some (fields.map fun field => some field.2) := by
  have put (done rest : List (String × Pack)) (split : (done ++ rest).map Prod.fst = names) :
      (rest.map fun field => (ofString field.1, field.2)).foldlM (putField names)
          ((done.map fun field => some field.2) ++ List.replicate rest.length none) =
        some ((done ++ rest).map fun field => some field.2) := by
    -- The fields before are filled, those from here on are still empty.
    induction rest generalizing done with
    | nil => simp
    | cons field rest ih =>
      have here : names[done.length]? = some field.1 := by simp [← split]
      have next := ih (done ++ [field]) (by simpa using split)
      simp only [List.map_cons, List.foldlM_cons, putField, nameIndex?_ofString distinct here]
      simpa [List.replicate_succ] using next
  have all := put [] fields same
  have length : names.length = fields.length := by simp [← same]
  simpa [toFields?, ofFields, length] using all

theorem toList?_map {pack : α → Pack} {read : Pack → Option α}
    (restores : ∀ value, read (pack value) = some value) (values : List α) :
    toList? read (.array (values.map pack)) = some values := by
  induction values with
  | nil => rfl
  | cons value rest ih =>
    simp only [toList?] at ih
    simp [toList?, restores, ih]

end Parts

section Records

@[simp] theorem ofPack?_packedName (kind : Kind) :
    Kind.ofPack? (ofString kind.packedName) = some kind := by
  cases kind <;> decide

@[simp] theorem ofPack?_name (effect : Effect) :
    Effect.ofPack? (ofString effect.name) = some effect := by
  cases effect <;> decide

@[simp] theorem ofPack?_pack_item (item : Item) : Item.ofPack? item.pack = some item := by
  rw [Item.ofPack?, Item.pack, toFields?_ofFields]
  · simp
  · rfl
  · decide

@[simp] theorem ofPack?_pack_details (details : Details) :
    Details.ofPack? details.pack = some details := by
  rw [Details.ofPack?, Details.pack, toFields?_ofFields]
  · simp [optionalField_ofOption toBounded?_ofBounded ofBounded_ne_nil]
  · rfl
  · decide

@[simp] theorem ofPack?_pack_stack (stack : Stack) : Stack.ofPack? stack.pack = some stack := by
  rw [Stack.ofPack?, Stack.pack, toFields?_ofFields]
  · simp
  · rfl
  · decide

@[simp] theorem ofPack?_pack_slots (slots : Slots) : Slots.ofPack? (Slots.pack slots) = some slots :=
  toList?_map ofPack?_pack_stack slots

@[simp] theorem ofPack?_pack_capacity (capacity : Capacity) :
    Capacity.ofPack? capacity.pack = some capacity := by
  have fields : Capacity.fields? capacity.pack =
      toFields? ["weapon_slots", "bow_slots", "shield_slots"] capacity.pack := rfl
  rw [Capacity.ofPack?, fields, Capacity.pack, toFields?_ofFields]
  · simp
  · rfl
  · decide

@[simp] theorem ofPack?_pack_gameData (data : GameData) : GameData.ofPack? data.pack = some data := by
  rw [GameData.ofPack?, GameData.pack, toFields?_ofFields]
  · simp
  · rfl
  · decide

@[simp] theorem ofPack?_pack_pouch (pouch : Pouch) : Pouch.ofPack? pouch.pack = some pouch := by
  rw [Pouch.ofPack?, Pouch.pack, toFields?_ofFields]
  · simp
  · rfl
  · decide

theorem insertEntry_last {name : String} {data : GameData} {entries : List Save}
    (last : ∀ entry ∈ entries, entry.1 < name) :
    Saves.insertEntry name data entries = entries ++ [(name, data)] := by
  induction entries with
  | nil => rfl
  | cons entry rest ih =>
    obtain ⟨first, others⟩ := List.forall_mem_cons.1 last
    have later : ¬name < entry.1 := fun before =>
      String.lt_irrefl name (String.lt_trans before first)
    have other : name ≠ entry.1 := fun same => String.lt_irrefl name (same ▸ first)
    simp [Saves.insertEntry, later, other, ih others]

@[simp] theorem ofPack?_pack_saves (saves : Saves) : Saves.ofPack? saves.pack = some saves := by
  have insert (done : Saves) (rest : List Save)
      (ordered : (done.entries ++ rest).Pairwise fun a b => a.1 < b.1) :
      (rest.map fun entry => (ofString entry.1, entry.2.pack)).foldlM
          (fun saves entry => do
            pure (saves.insert (← toString? entry.1) (← GameData.ofPack? entry.2))) done =
        some (⟨done.entries ++ rest, ordered⟩ : Saves) := by
    -- Names come in their order, so each entry goes to the end.
    induction rest generalizing done with
    | nil => simp
    | cons entry rest ih =>
      have last : ∀ other ∈ done.entries, other.1 < entry.1 := fun other member =>
        (List.pairwise_append.1 ordered).2.2 other member entry List.mem_cons_self
      have entries : (done.insert entry.1 entry.2).entries = done.entries ++ [entry] :=
        insertEntry_last last
      have next := ih (done.insert entry.1 entry.2) (by simpa [entries] using ordered)
      simpa [entries] using next
  exact insert .empty saves.entries saves.ordered

theorem ofPack?_pack (state : Simulation) : Simulation.ofPack? state.pack = some state := by
  have gameData : ∀ data : GameData, data.pack ≠ .nil := fun data => Pack.noConfusion
  have name : ∀ name : String, ofString name ≠ .nil := fun name => Pack.noConfusion
  rw [Simulation.ofPack?, Simulation.pack, toFields?_ofFields]
  · simp [optionalField_ofOption ofPack?_pack_gameData gameData,
      optionalField_ofOption toString?_ofString name]
  · rfl
  · decide

end Records

end Pack

def Text.Short (text : String) : Prop := (utf8 text).length < 2 ^ 32

instance (text : String) : Decidable (Text.Short text) := inferInstanceAs (Decidable (_ < _))

def Slots.Small (slots : Slots) : Prop :=
  slots.length < 2 ^ 32 ∧ ∀ stack ∈ slots, Text.Short stack.item.id

instance (slots : Slots) : Decidable (Slots.Small slots) := inferInstanceAs (Decidable (_ ∧ _))

/-- Texts and rows have lengths of 32 bits. -/
structure Simulation.Small (state : Simulation) : Prop where
  gameData : Slots.Small state.gameData.slots
  pouch : Slots.Small state.pouch.slots
  manual : ∀ data ∈ state.manual, Slots.Small data.slots
  count : state.named.entries.length < 2 ^ 32
  named : ∀ entry ∈ state.named.entries, Text.Short entry.1 ∧ Slots.Small entry.2.slots
  nextReload : ∀ name ∈ state.nextReload, Text.Short name

namespace Pack

variable {depth : Nat}

theorem fits_ofString {text : String} (short : Text.Short text) : Fits depth (ofString text) :=
  .text short

theorem fits_ofBounded {lo hi : Int} (low : -9223372036854775808 ≤ lo)
    (high : hi < 18446744073709551616) (n : Bounded lo hi) : Fits depth (ofBounded n) := by
  have above := n.lo_le
  have below := n.le_hi
  have count : wordCount 8 = 18446744073709551616 := rfl
  unfold ofBounded ofInt
  split
  next negative => exact .signed (by omega) negative
  next => exact .unsigned (by omega)

theorem fits_count (n : Count) : Fits depth (ofBounded n) := fits_ofBounded (by decide) (by decide) n

theorem fits_price (n : Price) : Fits depth (ofBounded n) := fits_ofBounded (by decide) (by decide) n

theorem fits_rank (n : Rank) : Fits depth (ofBounded n) := fits_ofBounded (by decide) (by decide) n

theorem fits_ofOption {α : Type} {pack : α → Pack} {value : Option α}
    (fits : ∀ inside ∈ value, Fits depth (pack inside)) : Fits depth (ofOption pack value) := by
  cases value with
  | none => exact .nil
  | some inside => exact fits inside rfl

theorem fits_array {α : Type} {pack : α → Pack} {values : List α} (few : values.length < 2 ^ 32)
    (parts : ∀ value ∈ values, Fits depth (pack value)) :
    Fits (depth + 1) (.array (values.map pack)) := by
  apply Fits.array
  · rw [List.length_map]
    exact few
  · simpa using parts

theorem fits_map {α : Type} {key value : α → Pack} {entries : List α}
    (few : entries.length < 2 ^ 32) (keys : ∀ entry ∈ entries, Fits depth (key entry))
    (values : ∀ entry ∈ entries, Fits depth (value entry)) :
    Fits (depth + 1) (.map (entries.map fun entry => (key entry, value entry))) := by
  apply Fits.map
  · rw [List.length_map]
    exact few
  · simpa using keys
  · simpa using values

theorem fits_ofFields {fields : List (String × Pack)} (few : fields.length < 2 ^ 32)
    (short : (fields.map Prod.fst).all fun name => Text.Short name)
    (values : ∀ field ∈ fields, Fits depth field.2) : Fits (depth + 1) (ofFields fields) := by
  apply fits_map few
  · intro field member
    exact fits_ofString (by simpa using List.all_eq_true.1 short _ (List.mem_map_of_mem member))
  · exact values

theorem fits_item {item : Item} (short : Text.Short item.id) : Fits (depth + 1) item.pack := by
  have kind : Text.Short item.kind.packedName := by cases item.kind <;> decide
  refine fits_ofFields (by simp) rfl ?_
  simp [fits_ofString, short, kind, fits_rank, fits_count, Fits.bool]

theorem fits_details (details : Details) : Fits (depth + 1) details.pack := by
  have effect : Text.Short details.effect.name := by cases details.effect <;> decide
  refine fits_ofFields (by simp) rfl ?_
  simp [fits_ofString, effect, fits_ofOption, fits_count, fits_price]

theorem fits_stack {stack : Stack} (short : Text.Short stack.item.id) :
    Fits (depth + 2) stack.pack := by
  refine fits_ofFields (by simp) rfl ?_
  simp [fits_item short, fits_count, fits_details, Fits.bool]

theorem fits_slots {slots : Slots} (small : Slots.Small slots) :
    Fits (depth + 3) (Slots.pack slots) :=
  fits_array small.1 fun stack member => fits_stack (small.2 stack member)

theorem fits_gameData {data : GameData} (small : Slots.Small data.slots) :
    Fits (depth + 4) data.pack := by
  have capacity : Fits (depth + 3) data.capacity.pack := by
    refine fits_ofFields (by simp) rfl ?_
    simp [fits_count]
  refine fits_ofFields (by simp) rfl ?_
  simp [fits_slots small, capacity]

theorem fits_pouch {pouch : Pouch} (small : Slots.Small pouch.slots) :
    Fits (depth + 4) pouch.pack := by
  refine fits_ofFields (by simp) rfl ?_
  simp [fits_slots small, fits_price]

theorem fits_saves {saves : Saves} (few : saves.entries.length < 2 ^ 32)
    (small : ∀ entry ∈ saves.entries, Text.Short entry.1 ∧ Slots.Small entry.2.slots) :
    Fits (depth + 5) saves.pack :=
  fits_map few (fun entry member => fits_ofString (small entry member).1)
    fun entry member => fits_gameData (small entry member).2

theorem fits_pack {state : Simulation} (small : state.Small) : Fits (depth + 6) state.pack := by
  have name : Fits (depth + 5) (ofOption ofString state.nextReload) :=
    fits_ofOption fun name here => fits_ofString (small.nextReload name here)
  have manual : Fits (depth + 5) (ofOption GameData.pack state.manual) :=
    fits_ofOption fun data here => fits_gameData (small.manual data here)
  refine fits_ofFields (by simp) rfl ?_
  simp [fits_gameData small.gameData, fits_pouch small.pouch, manual, name,
    fits_saves small.count small.named, Fits.bool]

end Pack

namespace StateFile

theorem lossless (state : Simulation) (small : state.Small) :
    ofBytes? (toBytes state) = some state ∧
      ∀ kept lost, kept ++ lost = toBytes state → lost ≠ [] → ofBytes? kept = none := by
  have fits : Pack.Fits maxDepth state.pack := Pack.fits_pack small
  constructor
  · have read := Pack.decode_encode fits []
    rw [List.append_nil] at read
    rw [ofBytes?, toBytes, read, Option.bind_some, Pack.ofPack?_pack]
  · intro kept lost whole some
    rw [ofBytes?, Pack.decode_of_cut fits whole some, Option.bind_none]

theorem lossless_of_camp :
    let spear := (Stack.new (.named "weaponA")).edit { Edit.empty with price := some (.clamp (-1)) }
    let data : GameData := ⟨[spear, .new (.named "arrowB")], ⟨20, 14, .clamp (-7)⟩⟩
    let saves := (Saves.empty.insert "é" data).insert "camp" .initial
    let state : Simulation := ⟨data, ⟨[spear], .clamp (-40000)⟩, some data, saves, some "é", true⟩
    state.Small ∧ ofBytes? (toBytes state) = some state ∧
      ofBytes? ((toBytes state).take 500) = none := by
  intro spear data saves state
  have small : state.Small := by
    constructor <;> decide
  obtain ⟨whole, cut⟩ := lossless state small
  exact ⟨small, whole, cut _ _ (List.take_append_drop 500 _) (by decide +kernel)⟩

end StateFile

end Inventory
