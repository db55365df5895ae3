import Inventory.Proofs.Openings

set_option autoImplicit false

namespace Inventory

namespace WrittenItem

def stack? (resolver : Resolver) (item : WrittenItem) : Option Stack :=
  match resolver item.query with
  | none => none
  | some stack =>
    if item.pairs.isEmpty then some stack
    else
      match Metadata.ofPairs (item.pairs.map pairSaid) with
      | .ok edit => some (stack.edit edit)
      | .error _ => none

structure Means (resolver : Resolver) (item : WrittenItem) (lot : Lot) : Prop where
  named : item.Named
  count : ∃ figure, item.amount = .count figure ∧ figure.value.val = lot.count.val
  stack : item.stack? resolver = some lot.stack
  few : lot.stack.item.stackable = false → lot.count.val ≤ 999

end WrittenItem

namespace ItemPhrase

variable {resolver : Resolver} {phrase : ItemPhrase} {item : WrittenItem}

theorem query_of_says (written : phrase.Says item) : phrase.query = item.query := by
  rw [query, Word.run, written.words, WrittenItem.query]

theorem stack_of_says (written : phrase.Says item) {stack : Stack}
    (found : item.stack? resolver = some stack) : phrase.stack resolver = .ok stack := by
  have clause := written.clause
  rw [WrittenItem.stack?, ← query_of_says written] at found
  rw [ItemPhrase.stack]
  cases look : resolver phrase.query with
  | none => simp [look] at found
  | some known =>
    by_cases bare : item.pairs.isEmpty
    · simp only [look, if_pos bare, Option.some.injEq] at found
      rw [if_pos bare, Option.map_eq_none_iff] at clause
      simp only [clause, found]
    · simp only [look, if_neg bare] at found
      rw [if_neg bare] at clause
      obtain ⟨edits, same, edit⟩ := Option.map_eq_some_iff.1 clause
      simp only [same, edit]
      cases pairs : Metadata.ofPairs (item.pairs.map WrittenItem.pairSaid) with
      | error fault => simp [pairs] at found
      | ok edit => simpa [pairs] using found

theorem count_of_says (written : phrase.Says item) {figure : Figure} {count : Count}
    (amount : item.amount = .count figure) (same : figure.value.val = count.val) :
    phrase.count = .ok count := by
  have number := written.amount
  rw [amount, WrittenAmount.number?, same] at number
  obtain ⟨n, found, value⟩ := Option.map_eq_some_iff.1 number
  rw [ItemPhrase.count, found]
  simp only [value, Bounded.ofInt?_val]

theorem lot_of_says {lot : Lot} (written : phrase.Says item) (means : item.Means resolver lot) :
    phrase.lot resolver = .ok lot := by
  obtain ⟨figure, amount, same⟩ := means.count
  have counted : phrase.all.isSome = false := by rw [written.all, amount]; rfl
  have few : (!lot.stack.item.stackable && decide (Lot.maxCopies.val < lot.count.val)) = false := by
    have most : Lot.maxCopies.val = 999 := rfl
    cases stackable : lot.stack.item.stackable with
    | true => rfl
    | false => simpa [most] using means.few stackable
  rw [ItemPhrase.lot, counted, count_of_says written amount same, stack_of_says written means.stack]
  change (if !lot.stack.item.stackable && decide (Lot.maxCopies.val < lot.count.val) then _ else _) = _
  rw [few]
  rfl

theorem resolveAll_of_forall₂ {α β : Type} {resolve : ItemPhrase → Except Complaint α}
    {phrases : List ItemPhrase} {items : List β} {nodes : List α} {agrees : ItemPhrase → β → Prop}
    {means : β → α → Prop} (first : List.Forall₂ agrees phrases items)
    (second : List.Forall₂ means items nodes)
    (each : ∀ phrase item node, agrees phrase item → means item node → resolve phrase = .ok node) :
    resolveAll resolve phrases = .ok nodes := by
  induction first generalizing nodes with
  | nil =>
    cases second
    rfl
  | cons one _ ih =>
    cases second with
    | cons other rest => rw [resolveAll, each _ _ _ one other, ih rest]

theorem length_of_resolveAll {α : Type} {resolve : ItemPhrase → Except Complaint α}
    {phrases : List ItemPhrase} {nodes : List α} (resolved : resolveAll resolve phrases = .ok nodes) :
    nodes.length = phrases.length := by
  induction phrases generalizing nodes with
  | nil =>
    cases resolved
    rfl
  | cons phrase rest ih =>
    rw [resolveAll] at resolved
    split at resolved
    next found =>
      cases resolved
      simp [ih found]
    all_goals cases resolved

end ItemPhrase

inductive ListVerb where
  | obtain
  | start
  | startGameData

namespace ListVerb

def texts : ListVerb → List String
  | obtain => ["get"]
  | start => ["initialize"]
  | startGameData => ["init", "gamedata"]

def action : ListVerb → List Lot → Action
  | obtain => .obtain
  | start => .start
  | startGameData => .startGameData

def rule : ListVerb → Rule
  | obtain => .obtain
  | start => .start
  | startGameData => .startGameData

open Inventory.Parser

def Puts (verb : ListVerb) (items : List WrittenItem) (sentence : Sentence) : Prop :=
  ∃ phrases, List.Forall₂ ItemPhrase.Says phrases items ∧
    ∀ resolver, sentence.meaning resolver = (Sentence.lots resolver phrases).map verb.action

theorem misses_startGameData {items : List WrittenItem}
    (counted : ∀ item ∈ items, ∃ figure, item.amount = .count figure) :
    Misses Rule.startGameData.sentence ("initialize" :: items.flatMap WrittenItem.texts) := by
  apply Takes.bind_misses (takes_keyword ⟨"initialize", by decide, by decide⟩ _)
  intro verb _
  apply Misses.bind
  apply misses_keyword
  intro word member text first
  cases items with
  | nil => cases first
  | cons item rest =>
    obtain ⟨figure, count⟩ := counted item List.mem_cons_self
    obtain rfl : word = "gamedata" := by simpa using member
    obtain rfl : figure.text = text := by
      simpa [WrittenItem.texts, WrittenAmount.text, count] using first
    exact Text.not_sameWord_of_letter (by decide) figure.not_beginsName

variable {items : List WrittenItem} (nonempty : items ≠ []) (named : ∀ item ∈ items, item.Named)
  (counted : ∀ item ∈ items, ∃ figure, item.amount = .count figure)

include named counted

theorem takes_counted :
    Takes (many anItem) (items.flatMap WrittenItem.texts) []
      (List.Forall₂ ItemPhrase.Says · items) := by
  apply takes_items
  · intro item member
    obtain ⟨figure, count⟩ := counted item member
    rw [count]
    rfl
  · exact named
  · exact fun item member => counted item (List.mem_of_mem_tail member)
  · exact endsItem_of_other (by simp) (by simp)
  · exact misses_itemPhrase (misses_keyword (by simp) _) (misses_numeral (by simp))
      (.inl (misses_word (by simp)))

include nonempty

theorem takes_sentence (verb : ListVerb) :
    Takes verb.rule.sentence (verb.texts ++ items.flatMap WrittenItem.texts) [] (verb.Puts items) := by
  have counts := takes_counted named counted
  cases verb with
  | obtain =>
    apply ((takes_keyword ⟨"get", by decide, by decide⟩ _).orElse (goesBack_keyword _ _) _).bind
    intro verb _
    exact (counts.many1 nonempty).map fun phrases same => ⟨phrases, same, fun _ => rfl⟩
  | start =>
    apply (takes_keyword ⟨"initialize", by decide, by decide⟩ _).bind
    intro verb _
    exact counts.map fun phrases same => ⟨phrases, same, fun _ => rfl⟩
  | startGameData =>
    apply (takes_keyword ⟨"init", by decide, by decide⟩ _).bind
    intro verb _
    apply (takes_keyword ⟨"gamedata", by decide, by decide⟩ _).bind
    intro gameData _
    exact counts.map fun phrases same => ⟨phrases, same, fun _ => rfl⟩

theorem ofTokens?_of_texts (verb : ListVerb) {tokens : List Token}
    (texts : tokens.map Token.text = verb.texts ++ items.flatMap WrittenItem.texts) :
    ∃ sentence, Sentence.ofTokens? tokens = some sentence ∧ verb.Puts items sentence := by
  have takes := takes_sentence nonempty named counted verb
  rw [← texts] at takes
  obtain ⟨sentence, read, puts⟩ := Rule.sentence?_of_takes takes
  refine ⟨sentence, ?_, puts⟩
  cases verb with
  | obtain => exact (Sentence.ofTokens?_of_opening texts (by decide)).trans read
  | startGameData =>
    rw [Sentence.ofTokens?_eq, Rule.all, List.findSome?_cons]
    simp only [rule] at read
    rw [read]
  | start =>
    rw [← read]
    apply Sentence.ofTokens?_of_misses
    intro other ne
    rw [texts]
    by_cases longer : other = .startGameData
    · rw [longer]
      exact misses_startGameData counted
    · have own : ∀ other ∈ Rule.all, other ≠ .start → other ≠ .startGameData →
          ∀ opening ∈ other.openings, ¬Text.sameWord opening "initialize" := by decide
      apply other.misses_sentence
      rintro opening member text ⟨⟩
      exact own other other.mem_all ne longer opening member

end ListVerb

theorem Command.item_lists_parse (resolver : Resolver) (verb : ListVerb) {items : List WrittenItem}
    {lots : List Lot} {line : String} (nonempty : items ≠ [])
    (means : List.Forall₂ (WrittenItem.Means resolver) items lots)
    (spaced : Spaced (verb.texts ++ items.flatMap WrittenItem.texts) line.toList) :
    (ofLine resolver line).action = verb.action lots := by
  have texts := spaced_iff.1 spaced
  have named : ∀ item ∈ items, item.Named :=
    ((List.forall₂_and_left _ _).1 (means.imp fun _ _ meant => ⟨meant.named, meant⟩)).1
  have counted : ∀ item ∈ items, ∃ figure, item.amount = .count figure := by
    refine ((List.forall₂_and_left _ _).1 (means.imp fun item lot meant => ⟨?_, meant⟩)).1
    obtain ⟨figure, count, -⟩ := meant.count
    exact ⟨figure, count⟩
  obtain ⟨sentence, found, phrases, written, meaning⟩ :=
    ListVerb.ofTokens?_of_texts nonempty named counted verb texts
  have resolved : Sentence.lots resolver phrases = .ok lots :=
    ItemPhrase.resolveAll_of_forall₂ written means fun _ _ _ => ItemPhrase.lot_of_says
  have meant : sentence.meaning resolver = .ok (verb.action lots) := by
    rw [meaning, resolved]
    rfl
  cases verb with
  | obtain => exact action_ofLine texts (by decide) found meant
  | start => exact action_ofLine texts (by decide) found meant
  | startGameData => exact action_ofLine texts (by decide) found meant

def WrittenItem.swords : WrittenItem where
  amount := .count (.ofText "+2" 2 (by decide))
  words := [⟨"weapon", by decide⟩, ⟨"A", by decide⟩]
  pairs := [(⟨"life", by decide⟩, .number (.ofText "007" 7 (by decide))),
    (⟨"equip", by decide⟩, .word ⟨"true", by decide⟩)]

def WrittenItem.arrows : WrittenItem where
  amount := .count (.ofText "-1" (.clamp (-1)) (by decide))
  words := [⟨"ArrowB", by decide⟩]
  pairs := []

theorem Command.swords_and_arrows_parse :
    (ofLine .anything "initialize +2 weapon A [life=007, equip = true]\t-1  ArrowB").action =
      .start [⟨((Stack.new (.named "weaponA")).withValue 7).withEquipped true, 2⟩,
        ⟨.new (.named "ArrowB"), .clamp (-1)⟩] := by
  have swords : WrittenItem.Means .anything .swords
      ⟨((Stack.new (.named "weaponA")).withValue 7).withEquipped true, 2⟩ :=
    ⟨⟨by decide, by decide⟩, ⟨_, rfl, rfl⟩, by decide, by decide⟩
  have arrows : WrittenItem.Means .anything .arrows ⟨.new (.named "ArrowB"), .clamp (-1)⟩ :=
    ⟨⟨by decide, by decide⟩, ⟨_, rfl, rfl⟩, by decide, by decide⟩
  exact item_lists_parse .anything .start (List.cons_ne_nil _ _) (.cons swords (.cons arrows .nil))
    (spaced_iff.2 (by decide))

end Inventory
