import Inventory.Script.Sentence

set_option autoImplicit false

namespace Inventory

/-- Where the starts and the stops of spans go. -/
structure Motion where
  start : Nat → Nat
  stop : Nat → Nat

namespace Motion

variable (motion : Motion)

def span (span : Span) : Span := ⟨motion.start span.start, motion.stop span.stop⟩

def token (token : Token) : Token := { token with span := motion.span token.span }

def block (block : Block) : Block := { block with span := motion.span block.span }

def numeral (numeral : Numeral) : Numeral := { numeral with span := motion.span numeral.span }

def word (word : Word) : Word := { word with span := motion.span word.span }

def keyword (keyword : Keyword) : Keyword := { keyword with span := motion.span keyword.span }

def slotClause (clause : SlotClause) : SlotClause :=
  ⟨motion.keyword clause.preposition, motion.keyword clause.slot, motion.numeral clause.number⟩

def metaValue (value : MetaValue) : MetaValue := { value with span := motion.span value.span }

def metaPair (pair : MetaPair) : MetaPair :=
  ⟨motion.word pair.key, pair.separator.map motion.span, pair.value.map motion.metaValue⟩

def metaClause (clause : MetaClause) : MetaClause :=
  ⟨clause.delimiters.map motion.span, clause.pairs.map motion.metaPair⟩

def itemPhrase (phrase : ItemPhrase) : ItemPhrase :=
  ⟨phrase.amount.map motion.numeral, phrase.all.map motion.keyword, phrase.words.map motion.word,
    phrase.clause.map motion.metaClause⟩

def removal (removal : Removal) : Removal :=
  ⟨removal.items.map motion.itemPhrase, removal.slot.map motion.slotClause⟩

def withClause (along : WithClause) : WithClause :=
  ⟨motion.keyword along.keyword, motion.removal along.removal⟩

def sentence : Sentence → Sentence
  | .start verb items => .start (motion.keyword verb) (items.map motion.itemPhrase)
  | .startGameData verb gameData items =>
    .startGameData (motion.keyword verb) (motion.keyword gameData) (items.map motion.itemPhrase)
  | .write verb toWord clause item slot =>
    .write (motion.keyword verb) (motion.keyword toWord) (motion.metaClause clause)
      (motion.itemPhrase item) (slot.map motion.slotClause)
  | .swap verb first second =>
    .swap (motion.keyword verb) (motion.numeral first) (motion.numeral second)
  | .sortMaterials verb target => .sortMaterials (motion.keyword verb) (motion.keyword target)
  | .addSlots verb slot items place =>
    .addSlots (motion.keyword verb) (motion.keyword slot) (items.map motion.itemPhrase)
      (motion.slotClause place)
  | .trial verb active name trial => .trial (motion.keyword verb) active (motion.word name) trial
  | .obtain verb items => .obtain (motion.keyword verb) (items.map motion.itemPhrase)
  | .remove verb action removal => .remove (motion.keyword verb) action (motion.removal removal)
  | .removeKinds verb all words kinds =>
    .removeKinds (motion.keyword verb) (motion.keyword all) (words.map motion.word) kinds
  | .unequipKinds verb all words kinds =>
    .unequipKinds (motion.keyword verb) (motion.keyword all) (words.map motion.word) kinds
  | .equip verb item slot =>
    .equip (motion.keyword verb) (motion.itemPhrase item) (slot.map motion.slotClause)
  | .unequip verb item slot =>
    .unequip (motion.keyword verb) (motion.itemPhrase item) (slot.map motion.slotClause)
  | .shoot verb amount arrows =>
    .shoot (motion.keyword verb) (amount.map motion.numeral) (motion.keyword arrows)
  | .save verb as name =>
    .save (motion.keyword verb) (as.map motion.keyword) (name.map motion.word)
  | .reload verb name => .reload (motion.keyword verb) (name.map motion.word)
  | .useSave verb name => .useSave (motion.keyword verb) (name.map motion.word)
  | .breakSlots verb slots count along =>
    .breakSlots (motion.keyword verb) (motion.keyword slots) (motion.numeral count)
      (along.map motion.withClause)
  | .closeGame phrase => .closeGame (motion.keyword phrase)
  | .sync phrase => .sync (motion.keyword phrase)
  | .has verb not value flag =>
    .has (motion.keyword verb) (not.map motion.keyword) (value.map motion.numeral)
      (flag.map motion.word)

section Marks

theorem toList_flatMap_map {α : Type} {f : α → α} {marks : α → List Block}
    (same : ∀ node, marks (f node) = (marks node).map motion.block) (node : Option α) :
    (node.map f).toList.flatMap marks = (node.toList.flatMap marks).map motion.block := by
  cases node <;> simp [same]

theorem flatMap_map {α : Type} {f : α → α} {marks : α → List Block}
    (same : ∀ node, marks (f node) = (marks node).map motion.block) (nodes : List α) :
    (nodes.map f).flatMap marks = (nodes.flatMap marks).map motion.block := by
  simp [List.flatMap_map, List.map_flatMap, same]

@[simp] theorem marks_numeral (shade : Shade) (numeral : Numeral) :
    (motion.numeral numeral).marks shade = (numeral.marks shade).map motion.block := rfl

@[simp] theorem marks_keyword (keyword : Keyword) :
    (motion.keyword keyword).marks = keyword.marks.map motion.block := rfl

@[simp] theorem marks_words (shade : Shade) (words : List Word) :
    Word.marks shade (words.map motion.word) = (Word.marks shade words).map motion.block := by
  simp [Word.marks, word, block, Function.comp_def]

@[simp] theorem marks_slotClause (clause : SlotClause) :
    (motion.slotClause clause).marks = clause.marks.map motion.block := by
  simp [SlotClause.marks, slotClause]

theorem marks_metaPair (pair : MetaPair) :
    (motion.metaPair pair).marks = pair.marks.map motion.block := by
  obtain ⟨key, separator, value⟩ := pair
  cases separator <;> cases value <;> rfl

@[simp] theorem marks_metaClause (clause : MetaClause) :
    (motion.metaClause clause).marks = clause.marks.map motion.block := by
  have delimiters : (clause.delimiters.map motion.span).map (fun span => ⟨span, .delimiter⟩) =
      (clause.delimiters.map fun span => (⟨span, .delimiter⟩ : Block)).map motion.block := by
    simp [block, Function.comp_def]
  simp only [MetaClause.marks, metaClause, delimiters, List.map_append,
    motion.flatMap_map motion.marks_metaPair]

@[simp] theorem marks_itemPhrase (phrase : ItemPhrase) :
    (motion.itemPhrase phrase).marks = phrase.marks.map motion.block := by
  simp only [ItemPhrase.marks, itemPhrase, List.map_append, marks_words,
    motion.toList_flatMap_map (motion.marks_numeral .amount),
    motion.toList_flatMap_map motion.marks_keyword,
    motion.toList_flatMap_map motion.marks_metaClause]

@[simp] theorem marks_slot (slot : Option SlotClause) :
    slotMarks (slot.map motion.slotClause) = (slotMarks slot).map motion.block :=
  motion.toList_flatMap_map motion.marks_slotClause slot

@[simp] theorem marks_items (items : List ItemPhrase) :
    itemMarks (items.map motion.itemPhrase) = (itemMarks items).map motion.block :=
  motion.flatMap_map motion.marks_itemPhrase items

@[simp] theorem marks_removal (removal : Removal) :
    (motion.removal removal).marks = removal.marks.map motion.block := by
  simp [Removal.marks, Motion.removal]

theorem marks_sentence (sentence : Sentence) :
    (motion.sentence sentence).marks = sentence.marks.map motion.block := by
  cases sentence with
  | trial verb active name trial =>
    simp only [Motion.sentence, Sentence.marks, List.map_append, marks_keyword]
    rfl
  | breakSlots verb slots count along =>
    cases along <;> simp [Motion.sentence, Sentence.marks, withClause]
  | shoot | save | has =>
    simp only [Motion.sentence, Sentence.marks, List.map_append, marks_keyword, marks_words,
      motion.toList_flatMap_map (motion.marks_numeral .amount),
      motion.toList_flatMap_map motion.marks_keyword]
  | _ => simp [Motion.sentence, Sentence.marks]

end Marks

section Meaning

@[simp] theorem joined_words (words : List Word) :
    Word.joined (words.map motion.word) = Word.joined words := by
  simp [Word.joined, word, Function.comp_def]

@[simp] theorem run_words (words : List Word) :
    Word.run (words.map motion.word) = Word.run words := by
  simp [Word.run, word, Function.comp_def]

@[simp] theorem edit_metaClause (clause : MetaClause) :
    (motion.metaClause clause).edit = clause.edit := by
  have pairs (pair : MetaPair) :
      ((motion.metaPair pair).key.text, (motion.metaPair pair).value.map MetaValue.text) =
        (pair.key.text, pair.value.map MetaValue.text) := by
    obtain ⟨key, separator, _ | value⟩ := pair <;> rfl
  simp only [MetaClause.edit, metaClause, List.map_map, Function.comp_def, pairs]

@[simp] theorem stack_itemPhrase (resolver : Resolver) (phrase : ItemPhrase) :
    (motion.itemPhrase phrase).stack resolver = phrase.stack resolver := by
  obtain ⟨amount, all, words, clause⟩ := phrase
  simp only [ItemPhrase.stack, ItemPhrase.query, ItemPhrase.name, itemPhrase, run_words,
    joined_words]
  cases clause <;> simp

@[simp] theorem count_itemPhrase (phrase : ItemPhrase) :
    (motion.itemPhrase phrase).count = phrase.count := by
  obtain ⟨_ | amount, all, words, clause⟩ := phrase <;> rfl

@[simp] theorem name_itemPhrase (phrase : ItemPhrase) :
    (motion.itemPhrase phrase).name = phrase.name :=
  motion.joined_words phrase.words

@[simp] theorem isSome_all_itemPhrase (phrase : ItemPhrase) :
    (motion.itemPhrase phrase).all.isSome = phrase.all.isSome := by
  simp [itemPhrase]

@[simp] theorem lot_itemPhrase (resolver : Resolver) (phrase : ItemPhrase) :
    (motion.itemPhrase phrase).lot resolver = phrase.lot resolver := by
  simp [ItemPhrase.lot]

@[simp] theorem withdrawal_itemPhrase (resolver : Resolver) (phrase : ItemPhrase) :
    (motion.itemPhrase phrase).withdrawal resolver = phrase.withdrawal resolver := by
  simp [ItemPhrase.withdrawal]

theorem resolveAll_items {α : Type} {resolve : ItemPhrase → Except Complaint α}
    (same : ∀ phrase, resolve (motion.itemPhrase phrase) = resolve phrase)
    (items : List ItemPhrase) :
    ItemPhrase.resolveAll resolve (items.map motion.itemPhrase) =
      ItemPhrase.resolveAll resolve items := by
  induction items with
  | nil => rfl
  | cons phrase rest ih => simp [ItemPhrase.resolveAll, same, ih]

@[simp] theorem lots_items (resolver : Resolver) (items : List ItemPhrase) :
    Sentence.lots resolver (items.map motion.itemPhrase) = Sentence.lots resolver items :=
  motion.resolveAll_items (motion.lot_itemPhrase resolver) items

@[simp] theorem withdrawals_removal (resolver : Resolver) (removal : Removal) :
    (motion.removal removal).withdrawals resolver = removal.withdrawals resolver :=
  motion.resolveAll_items (motion.withdrawal_itemPhrase resolver) removal.items

@[simp] theorem slotIndex_slot (slot : Option SlotClause) :
    slotIndex (slot.map motion.slotClause) = slotIndex slot := by
  cases slot <;> rfl

@[simp] theorem saveName?_words (words : List Word) :
    saveName? (words.map motion.word) = saveName? words := by
  simp [saveName?]

theorem meaning_sentence (resolver : Resolver) (sentence : Sentence) :
    (motion.sentence sentence).meaning resolver = sentence.meaning resolver := by
  cases sentence with
  | swap | trial => rfl
  | unequip verb item slot =>
    cases slot <;> simp only [Motion.sentence, Sentence.meaning, lot_itemPhrase] <;> rfl
  | remove verb action removal =>
    simp only [Motion.sentence, Sentence.meaning, withdrawals_removal]
    simp only [Motion.removal, slotIndex_slot]
  | shoot verb amount arrows => cases amount <;> rfl
  | breakSlots verb slots count along =>
    cases along with
    | none => rfl
    | some along =>
      simp only [Motion.sentence, Sentence.meaning, Option.map_some, withClause,
        withdrawals_removal]
      simp only [Motion.removal, Motion.numeral, slotIndex_slot]
  | has verb not value flag =>
    have flag : Sentence.flagNamed (flag.map motion.word) = Sentence.flagNamed flag := by
      simp [Sentence.flagNamed]
    simp only [Motion.sentence, Sentence.meaning, flag, Option.isSome_map]
    cases value <;> rfl
  | _ => simp [Motion.sentence, Sentence.meaning, SlotClause.index, Motion.slotClause,
      Motion.numeral]

end Meaning

end Motion

end Inventory
