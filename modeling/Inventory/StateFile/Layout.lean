import Inventory.Simulation
import Inventory.StateFile.Pack

set_option autoImplicit false

namespace Inventory

namespace Pack

def ofString (text : String) : Pack := .text (Text.utf8 text)

def ofInt (n : Int) : Pack := if n < 0 then .signed n else .unsigned n.toNat

def ofBounded {lo hi : Int} (n : Bounded lo hi) : Pack := ofInt n.val

def ofOption {α : Type} (pack : α → Pack) : Option α → Pack
  | none => .nil
  | some value => pack value

def ofFields (fields : List (String × Pack)) : Pack :=
  .map (fields.map fun field => (ofString field.1, field.2))

end Pack

def Kind.packedName : Kind → String
  | .weapon => "Weapon"
  | .bow => "Bow"
  | .arrow => "Arrow"
  | .shield => "Shield"
  | .armorUpper => "ArmorUpper"
  | .armorMiddle => "ArmorMiddle"
  | .armorLower => "ArmorLower"
  | .material => "Material"
  | .food => "Food"
  | .key => "Key"

open Pack in
def Item.pack (item : Item) : Pack :=
  ofFields
    [("id", ofString item.id), ("item_type", ofString item.kind.packedName),
     ("stackable", .bool item.stackable), ("repeatable", .bool item.repeatable),
     ("sort_order", ofBounded item.rank), ("default_life", ofBounded item.life)]

open Pack in
def Details.pack (details : Details) : Pack :=
  ofFields
    [("hp", ofOption ofBounded details.hp), ("price", ofOption ofBounded details.price),
     ("cook_effect", ofString details.effect.name)]

open Pack in
def Stack.pack (stack : Stack) : Pack :=
  ofFields
    [("item", stack.item.pack), ("value", ofBounded stack.value),
     ("equipped", .bool stack.equipped), ("meta", stack.details.pack)]

def Slots.pack (slots : Slots) : Pack := .array (slots.map Stack.pack)

open Pack in
def Capacity.pack (capacity : Capacity) : Pack :=
  ofFields
    [("weapon_slots", ofBounded capacity.weapon), ("bow_slots", ofBounded capacity.bow),
     ("shield_slots", ofBounded capacity.shield)]

open Pack in
def GameData.pack (data : GameData) : Pack :=
  ofFields [("slots", Slots.pack data.slots), ("flags", data.capacity.pack)]

open Pack in
def Pouch.pack (pouch : Pouch) : Pack :=
  ofFields [("slots", Slots.pack pouch.slots), ("offset", ofBounded pouch.broken)]

open Pack in
def Saves.pack (saves : Saves) : Pack :=
  .map (saves.entries.map fun entry => (ofString entry.1, entry.2.pack))

open Pack in
def Simulation.pack (state : Simulation) : Pack :=
  ofFields
    [("game_data", state.gameData.pack), ("pouch", state.pouch.pack),
     ("manual_save", ofOption GameData.pack state.manual), ("named_saves", state.named.pack),
     ("next_reload_name", ofOption ofString state.nextReload), ("in_trial", .bool state.inTrial)]

namespace Pack

def toBool? : Pack → Option Bool
  | bool value => some value
  | _ => none

def toBounded? {lo hi : Int} : Pack → Option (Bounded lo hi)
  | unsigned n => Bounded.ofInt? n
  | signed n => Bounded.ofInt? n
  | _ => none

def toString? : Pack → Option String
  | text bytes => Text.ofUtf8? bytes
  | binary bytes => Text.ofUtf8? bytes
  | _ => none

def toList? {α : Type} (read : Pack → Option α) : Pack → Option (List α)
  | array items => items.mapM read
  | binary bytes => bytes.mapM fun byte => read (unsigned byte.toNat)
  | _ => none

def toOption? {α : Type} (read : Pack → Option α) : Pack → Option (Option α)
  | nil => some none
  | pack => (read pack).map some

def nameIndex? (names : List String) : Pack → Option (Option Nat)
  | text bytes => some (names.findIdx? fun name => Text.utf8 name = bytes)
  | binary bytes => some (names.findIdx? fun name => Text.utf8 name = bytes)
  | unsigned n => some (if n < names.length then some n else none)
  | _ => none

def toName? (names : List String) : Pack → Option Nat
  | map [(key, nil)] => (nameIndex? names key).bind id
  | pack => (nameIndex? names pack).bind id

def putField (names : List String) (fields : List (Option Pack)) (entry : Pack × Pack) :
    Option (List (Option Pack)) :=
  match nameIndex? names entry.1 with
  | none => none
  | some none => some fields
  | some (some i) =>
    match fields[i]? with
    | some none => some (fields.set i (some entry.2))
    | _ => none

def toFields? (names : List String) : Pack → Option (List (Option Pack))
  | array items => if items.length = names.length then some (items.map some) else none
  | map entries => entries.foldlM (putField names) (List.replicate names.length none)
  | _ => none

def optionalField {α : Type} (read : Pack → Option α) : Option Pack → Option (Option α)
  | none => some none
  | some pack => toOption? read pack

end Pack

open Pack

def Kind.ofPack? (pack : Pack) : Option Kind :=
  (toName? (Kind.all.map Kind.packedName) pack).bind fun i => Kind.all[i]?

def Effect.ofPack? (pack : Pack) : Option Effect :=
  (toName? (Effect.all.map Effect.name) pack).bind fun i => Effect.all[i]?

def Item.ofPack? (pack : Pack) : Option Item := do
  let fields ← toFields?
    ["id", "item_type", "stackable", "repeatable", "sort_order", "default_life"] pack
  match fields with
  | [some id, some kind, some stackable, some repeatable, some rank, some life] =>
    pure ⟨← toString? id, ← Kind.ofPack? kind, ← toBool? stackable, ← toBool? repeatable,
      ← toBounded? rank, ← toBounded? life⟩
  | _ => none

def Details.ofPack? (pack : Pack) : Option Details := do
  match ← toFields? ["hp", "price", "cook_effect"] pack with
  | [hp, price, some effect] =>
    pure ⟨← optionalField toBounded? hp, ← optionalField toBounded? price, ← Effect.ofPack? effect⟩
  | _ => none

def Stack.ofPack? (pack : Pack) : Option Stack := do
  match ← toFields? ["item", "value", "equipped", "meta"] pack with
  | [some item, some value, some equipped, some details] =>
    pure ⟨← Item.ofPack? item, ← toBounded? value, ← toBool? equipped, ← Details.ofPack? details⟩
  | _ => none

def Slots.ofPack? (pack : Pack) : Option Slots := toList? Stack.ofPack? pack

/-- The numbers of slots by name, or in their order as the first bytes of a binary value. -/
def Capacity.fields? : Pack → Option (List (Option Pack))
  | .binary (weapon :: bow :: shield :: _) =>
    some ([weapon, bow, shield].map fun byte => some (.unsigned byte.toNat))
  | pack => toFields? ["weapon_slots", "bow_slots", "shield_slots"] pack

def Capacity.ofPack? (pack : Pack) : Option Capacity := do
  match ← Capacity.fields? pack with
  | [some weapon, some bow, some shield] =>
    pure ⟨← toBounded? weapon, ← toBounded? bow, ← toBounded? shield⟩
  | _ => none

def GameData.ofPack? (pack : Pack) : Option GameData := do
  match ← toFields? ["slots", "flags"] pack with
  | [some slots, some capacity] => pure ⟨← Slots.ofPack? slots, ← Capacity.ofPack? capacity⟩
  | _ => none

def Pouch.ofPack? (pack : Pack) : Option Pouch := do
  match ← toFields? ["slots", "offset"] pack with
  | [some slots, some broken] => pure ⟨← Slots.ofPack? slots, ← toBounded? broken⟩
  | _ => none

def Saves.ofPack? : Pack → Option Saves
  | .map entries =>
    entries.foldlM
      (fun saves entry => do
        pure (saves.insert (← toString? entry.1) (← GameData.ofPack? entry.2)))
      Saves.empty
  | _ => none

def Simulation.ofPack? (pack : Pack) : Option Simulation := do
  let fields ← toFields?
    ["game_data", "pouch", "manual_save", "named_saves", "next_reload_name", "in_trial"] pack
  match fields with
  | [some gameData, some pouch, manual, some named, nextReload, some inTrial] =>
    pure ⟨← GameData.ofPack? gameData, ← Pouch.ofPack? pouch,
      ← optionalField GameData.ofPack? manual, ← Saves.ofPack? named,
      ← optionalField toString? nextReload, ← toBool? inTrial⟩
  | _ => none

namespace StateFile

def maxDepth : Nat := 1023

def toBytes (state : Simulation) : Bytes := state.pack.encode

def ofBytes? (bytes : Bytes) : Option Simulation :=
  (Pack.decode maxDepth bytes).bind fun read => Simulation.ofPack? read.1

end StateFile

end Inventory
