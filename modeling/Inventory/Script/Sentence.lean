import Inventory.Script.Action
import Inventory.Script.ItemPhrase

set_option autoImplicit false

namespace Inventory

inductive RemoveVerb where
  | remove
  | eat
  | dropAndPickUp
deriving DecidableEq, Repr

structure Removal where
  items : List ItemPhrase
  slot : Option SlotClause
deriving DecidableEq

structure WithClause where
  keyword : Keyword
  removal : Removal
deriving DecidableEq

inductive Sentence where
  | start (verb : Keyword) (items : List ItemPhrase)
  | startGameData (verb gameData : Keyword) (items : List ItemPhrase)
  | write (verb toWord : Keyword) (clause : MetaClause) (item : ItemPhrase) (slot : Option SlotClause)
  | swap (verb : Keyword) (first second : Numeral)
  | sortMaterials (verb target : Keyword)
  | addSlots (verb slot : Keyword) (items : List ItemPhrase) (place : SlotClause)
  | trial (verb : Keyword) (active : Bool) (name : Word) (trial : Trial)
  | obtain (verb : Keyword) (items : List ItemPhrase)
  | remove (verb : Keyword) (action : RemoveVerb) (removal : Removal)
  | removeKinds (verb all : Keyword) (words : List Word) (kinds : List Kind)
  | unequipKinds (verb all : Keyword) (words : List Word) (kinds : List Kind)
  | equip (verb : Keyword) (item : ItemPhrase) (slot : Option SlotClause)
  | unequip (verb : Keyword) (item : ItemPhrase) (slot : Option SlotClause)
  | shoot (verb : Keyword) (amount : Option Numeral) (arrows : Keyword)
  | save (verb : Keyword) (as : Option Keyword) (name : List Word)
  | reload (verb : Keyword) (name : List Word)
  | useSave (verb : Keyword) (name : List Word)
  | breakSlots (verb slots : Keyword) (count : Numeral) (along : Option WithClause)
  | closeGame (phrase : Keyword)
  | sync (phrase : Keyword)
  | has (verb : Keyword) (not : Option Keyword) (value : Option Numeral) (flag : List Word)
deriving DecidableEq

def slotMarks (slot : Option SlotClause) : List Block := slot.toList.flatMap SlotClause.marks

def itemMarks (items : List ItemPhrase) : List Block := items.flatMap ItemPhrase.marks

def slotIndex (slot : Option SlotClause) : Nat := (slot.map SlotClause.index).getD 1

def saveName? (words : List Word) : Option String :=
  if words.isEmpty then none else some (Word.joined words)

namespace Removal

def marks (removal : Removal) : List Block := itemMarks removal.items ++ slotMarks removal.slot

def withdrawals (removal : Removal) (resolver : Resolver) :
    Except (List Complaint) (List Withdrawal) :=
  ItemPhrase.resolveAll (ItemPhrase.withdrawal resolver) removal.items

end Removal

namespace Sentence

def marks : Sentence → List Block
  | start verb items => verb.marks ++ itemMarks items
  | startGameData verb gameData items => verb.marks ++ gameData.marks ++ itemMarks items
  | write verb toWord clause item slot =>
    verb.marks ++ toWord.marks ++ clause.marks ++ item.marks ++ slotMarks slot
  | swap verb first second =>
    verb.marks ++ first.marks .slotNumber ++ second.marks .slotNumber
  | sortMaterials verb target => verb.marks ++ target.marks
  | addSlots verb slot items place => verb.marks ++ slot.marks ++ itemMarks items ++ place.marks
  | trial verb _ name _ => verb.marks ++ Word.marks .metaConst [name]
  | obtain verb items => verb.marks ++ itemMarks items
  | remove verb _ removal => verb.marks ++ removal.marks
  | removeKinds verb all words _ => verb.marks ++ all.marks ++ Word.marks .itemName words
  | unequipKinds verb all words _ => verb.marks ++ all.marks ++ Word.marks .itemName words
  | equip verb item slot => verb.marks ++ item.marks ++ slotMarks slot
  | unequip verb item slot => verb.marks ++ item.marks ++ slotMarks slot
  | shoot verb amount arrows =>
    verb.marks ++ amount.toList.flatMap (Numeral.marks .amount) ++ arrows.marks
  | save verb as name => verb.marks ++ as.toList.flatMap Keyword.marks ++ Word.marks .metaConst name
  | reload verb name => verb.marks ++ Word.marks .metaConst name
  | useSave verb name => verb.marks ++ Word.marks .metaConst name
  | breakSlots verb slots count along =>
    verb.marks ++ slots.marks ++ count.marks .amount ++
      along.toList.flatMap fun along => along.keyword.marks ++ along.removal.marks
  | closeGame phrase => phrase.marks
  | sync phrase => phrase.marks
  | has verb not value flag =>
    verb.marks ++ not.toList.flatMap Keyword.marks ++
      value.toList.flatMap (Numeral.marks .amount) ++ Word.marks .metaKey flag

def blocks (sentence : Sentence) : List Block := Block.inOrder sentence.marks

def lots (resolver : Resolver) (items : List ItemPhrase) : Except (List Complaint) (List Lot) :=
  ItemPhrase.resolveAll (ItemPhrase.lot resolver) items

def alone {α : Type} : Except Complaint α → Except (List Complaint) α
  | .ok node => .ok node
  | .error complaint => .error [complaint]

def slotPosition (n : Numeral) : Except Complaint Nat :=
  if n.value < 0 then .error (.badSlotIndex n.value) else .ok n.value.toNat

def shots : Option Numeral → Except Complaint Count
  | none => .ok 1
  | some n =>
    match Bounded.ofInt? n.value with
    | some count => if n.value < 0 then .error (.badAmount n.value) else .ok count
    | none => .error (.badAmount n.value)

def flagValue (flag : Flag) (negated : Bool) : Option Numeral → Except Complaint Count
  | none => if negated then .ok 0 else .error (.flagNeedsValue flag.name)
  | some n =>
    if negated then .ok 0
    else
      match Bounded.ofInt? n.value with
      | some value => .ok value
      | none => .error (.badFlagValue n.value)

def flagNamed (words : List Word) : Except Complaint Flag :=
  match Flag.ofStart? (Word.run words) with
  | some flag => .ok flag
  | none => .error (.badFlag (Word.joined words))

def meaning (resolver : Resolver) : Sentence → Except (List Complaint) Action
  | start _ items => (lots resolver items).map .start
  | startGameData _ _ items => (lots resolver items).map .startGameData
  | write _ _ clause item slot => do
    let edit ← match clause.edit with
      | .ok edit => pure edit
      | .error fault => .error [.metadata fault]
    let lot ← alone (item.lot resolver)
    pure (.write lot.stack (slotIndex slot) edit)
  | swap _ first second => do
    let i ← alone (slotPosition first)
    let j ← alone (slotPosition second)
    pure (.swap i j)
  | sortMaterials .. => .ok .sortMaterials
  | addSlots _ _ items place => (lots resolver items).map fun lots => .addSlots lots place.index
  | trial _ active _ which => .ok (.trial which active)
  | obtain _ items => (lots resolver items).map .obtain
  | remove _ action removal => do
    let withdrawals ← removal.withdrawals resolver
    let slot := slotIndex removal.slot
    pure <| match action with
      | .remove => .remove withdrawals slot false
      | .eat => .remove withdrawals slot true
      | .dropAndPickUp => .dropAndPickUp withdrawals slot
  | removeKinds _ _ _ kinds => .ok (.removeKinds kinds)
  | unequipKinds _ _ _ kinds => .ok (.unequipKinds kinds)
  | equip _ item slot => do
    let lot ← alone (item.lot resolver)
    pure (.equip lot.stack (slotIndex slot))
  | unequip _ item slot => do
    let lot ← alone (item.lot resolver)
    pure (.unequip lot.stack (slot.map SlotClause.index))
  | shoot _ amount _ => (alone (shots amount)).map .shoot
  | save _ _ name => .ok (.save (saveName? name))
  | reload _ name => .ok (.reload (saveName? name))
  | useSave _ name => .ok (.useSave (Word.joined name))
  | breakSlots _ _ count along =>
    match along with
    | none => .ok (.breakSlots count.value [] 1)
    | some along => do
      let withdrawals ← along.removal.withdrawals resolver
      pure (.breakSlots count.value withdrawals (slotIndex along.removal.slot))
  | closeGame _ => .ok .closeGame
  | sync _ => .ok .sync
  | has _ not value words => do
    let flag ← alone (flagNamed words)
    let value ← alone (flagValue flag not.isSome value)
    pure (.setFlag flag value)

end Sentence

end Inventory
