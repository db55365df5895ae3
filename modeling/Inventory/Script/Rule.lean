import Inventory.Script.Sentence

set_option autoImplicit false

namespace Inventory

inductive Rule where
  | startGameData
  | start
  | write
  | swap
  | sortMaterials
  | addSlots
  | trial
  | obtain
  | removeKinds
  | remove
  | unequipKinds
  | equip
  | shoot
  | save
  | reload
  | useSave
  | breakSlots
  | closeGame
  | sync
  | setFlag
deriving DecidableEq, Repr

namespace Parser

def anItem : Parser ItemPhrase := itemPhrase .number

def aNamedItem : Parser ItemPhrase := itemPhrase .nothing

def aRemovedItem : Parser ItemPhrase := itemPhrase .numberOrAll

def superKeyword (name : String) : Parser Keyword := attempt do
  let bang ← symbol '!'
  let rest ← keyword [name] .superCommand
  pure ⟨bang.through rest.span, .superCommand⟩

def startVerb : Parser Keyword := keyword ["init", "initialize"] .command

def startSentence : Parser Sentence := do
  let verb ← startVerb
  let items ← many anItem
  pure (.start verb items)

def startGameDataSentence : Parser Sentence := do
  let verb ← startVerb
  let gameData ← keyword ["gamedata"] .command
  let items ← many anItem
  pure (.startGameData verb gameData items)

def writeSentence : Parser Sentence := do
  let verb ← keyword ["write"] .command
  let clause ← metaClause
  let toWord ← keyword ["to"] .keyword
  let item ← aNamedItem
  let slot ← maybe (slotClause ["in"])
  pure (.write verb toWord clause item slot)

def swapSentence : Parser Sentence := do
  let verb ← superKeyword "swap"
  let first ← numeral
  let second ← numeral
  pure (.swap verb first second)

def sortSentence : Parser Sentence := do
  let verb ← superKeyword "sort"
  let target ← keyword ["material", "materials"] .keyword
  pure (.sortMaterials verb target)

def addSlotsSentence : Parser Sentence := do
  let verb ← superKeyword "add"
  let slot ← keyword ["slot", "slots"] .superCommand
  let items ← many1 anItem
  let place ← slotClause ["from"]
  pure (.addSlots verb slot items place)

def trialVerb : Parser (Keyword × Bool) :=
  orElse
    (do
      let verb ← keyword ["enter"] .command
      pure (verb, true))
    (do
      let verb ← keyword ["exit", "leave"] .command
      pure (verb, false))

def trialSentence : Parser Sentence := do
  let (verb, active) ← trialVerb
  let name ← word
  let trial ← ofOption (Trial.ofName? name.text)
  pure (.trial verb active name trial)

def obtainVerb : Parser Keyword :=
  orElse (keyword ["get", "add", "buy", "cook"] .command) (phrase ["pick", "up"] .command)

def obtainSentence : Parser Sentence := do
  let verb ← obtainVerb
  let items ← many1 anItem
  pure (.obtain verb items)

def removeVerb : Parser (Keyword × RemoveVerb) :=
  let verb (words : List String) (action : RemoveVerb) : Parser (Keyword × RemoveVerb) := do
    let verb ← keyword words .command
    pure (verb, action)
  orElse (verb ["remove", "sell", "drop"] .remove)
    (orElse (verb ["eat"] .eat) (verb ["dnp", "d&p"] .dropAndPickUp))

def removal : Parser Removal := do
  let items ← many1 aRemovedItem
  let slot ← maybe (slotClause ["from"])
  pure ⟨items, slot⟩

def removeSentence : Parser Sentence := do
  let (verb, action) ← removeVerb
  let removal ← removal
  pure (.remove verb action removal)

def singular (word : String) : String :=
  let lowered := (Text.lower word).toList
  String.ofList (if lowered.getLast? = some 's' then lowered.dropLast else lowered)

def kindsNamed? (word : String) : Option (List Kind) :=
  match singular word with
  | "weapon" => some [.weapon]
  | "bow" => some [.bow]
  | "arrow" => some [.arrow]
  | "shield" => some [.shield]
  | "armor" => some [.armorUpper, .armorMiddle, .armorLower]
  | "material" => some [.material]
  | "food" => some [.food]
  | _ => none

def kindWords : Parser (List Word × List Kind) := attempt do
  let first ← word
  if singular first.text = "key" then
    let second ← word
    if singular second.text = "item" then pure ([first, second], [.key]) else fail
  else
    let kinds ← ofOption (kindsNamed? first.text)
    pure ([first], kinds)

def byKind (name : String) (sentence : Keyword → Keyword → List Word → List Kind → Sentence) :
    Parser Sentence := do
  let verb ← keyword [name] .command
  let all ← keyword ["all"] .keyword
  let (words, kinds) ← kindWords
  pure (sentence verb all words kinds)

def equipVerb : Parser (Keyword × Bool) :=
  orElse
    (do
      let verb ← keyword ["equip"] .command
      pure (verb, true))
    (do
      let verb ← keyword ["unequip"] .command
      pure (verb, false))

def equipSentence : Parser Sentence := do
  let (verb, equips) ← equipVerb
  let item ← aNamedItem
  let slot ← maybe (slotClause ["in"])
  pure (if equips then .equip verb item slot else .unequip verb item slot)

def shootSentence : Parser Sentence := do
  let verb ← keyword ["shoot"] .command
  let amount ← maybe numeral
  let arrows ← keyword ["arrow", "arrows"] .keyword
  pure (.shoot verb amount arrows)

def saveSentence : Parser Sentence := do
  let verb ← keyword ["save"] .command
  match ← maybe (keyword ["as"] .keyword) with
  | none => pure (.save verb none [])
  | some as => do
    let name ← many1 word
    pure (.save verb (some as) name)

def reloadSentence : Parser Sentence := do
  let verb ← keyword ["reload"] .command
  let name ← many word
  pure (.reload verb name)

def useSentence : Parser Sentence := do
  let verb ← keyword ["use"] .command
  let name ← many1 word
  pure (.useSave verb name)

def withClause : Parser WithClause := do
  let keyword ← keyword ["with"] .keyword
  let removal ← removal
  pure ⟨keyword, removal⟩

def breakSentence : Parser Sentence := do
  let verb ← keyword ["break"] .command
  let count ← numeral
  let slots ← keyword ["slot", "slots"] .keyword
  let along ← maybe withClause
  pure (.breakSlots verb slots count along)

def closeSentence : Parser Sentence := do
  let phrase ← orElse (phrase ["close", "game"] .command) (phrase ["exit", "game"] .command)
  pure (.closeGame phrase)

def syncSentence : Parser Sentence := do
  let phrase ← phrase ["sync", "gamedata"] .command
  pure (.sync phrase)

def hasSentence : Parser Sentence := do
  let verb ← keyword ["has"] .command
  let not ← maybe (keyword ["not"] .keyword)
  let value ← maybe numeral
  let flag ← many1 word
  pure (.has verb not value flag)

end Parser

namespace Rule

def all : List Rule :=
  [startGameData, start, write, swap, sortMaterials, addSlots, trial, obtain, removeKinds, remove,
   unequipKinds, equip, shoot, save, reload, useSave, breakSlots, closeGame, sync, setFlag]

def sentence : Rule → Parser Sentence
  | startGameData => Parser.startGameDataSentence
  | start => Parser.startSentence
  | write => Parser.writeSentence
  | swap => Parser.swapSentence
  | sortMaterials => Parser.sortSentence
  | addSlots => Parser.addSlotsSentence
  | trial => Parser.trialSentence
  | obtain => Parser.obtainSentence
  | removeKinds => Parser.byKind "remove" .removeKinds
  | remove => Parser.removeSentence
  | unequipKinds => Parser.byKind "unequip" .unequipKinds
  | equip => Parser.equipSentence
  | shoot => Parser.shootSentence
  | save => Parser.saveSentence
  | reload => Parser.reloadSentence
  | useSave => Parser.useSentence
  | breakSlots => Parser.breakSentence
  | closeGame => Parser.closeSentence
  | sync => Parser.syncSentence
  | setFlag => Parser.hasSentence

def read (rule : Rule) : Parser Sentence := fun cursor =>
  Parser.attempt
    (do
      let sentence ← rule.sentence
      Parser.done
      pure sentence)
    cursor.reset

end Rule

def firstSentence? : List Rule → Cursor → Option Sentence
  | [], _ => none
  | rule :: rest, cursor =>
    match rule.read cursor with
    | (.found sentence, _) => some sentence
    | (_, after) => firstSentence? rest after

def Sentence.ofTokens? (tokens : List Token) : Option Sentence :=
  firstSentence? Rule.all (.ofTokens tokens)

end Inventory
