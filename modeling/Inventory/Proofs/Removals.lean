import Inventory.Proofs.Regrouping

set_option autoImplicit false

namespace Inventory

structure WrittenSlot where
  text : String
  number : Int
  spelled : Text.Spells text.toList number

namespace WrittenSlot

def texts (slot : Option WrittenSlot) : List String :=
  slot.elim [] fun slot => ["from", "slot", slot.text]

def meant (slot : Option WrittenSlot) : Nat := (slot.map fun slot => slot.number.toNat).getD 1

def Fits (slot : WrittenSlot) : Prop := slot.number ≤ maxLong

theorem readLong?_text {slot : WrittenSlot} (positive : 1 ≤ slot.number) (fits : slot.Fits) :
    Text.readLong? slot.text = some slot.number := by
  have bounds : -9223372036854775808 ≤ slot.number ∧ slot.number ≤ 9223372036854775807 :=
    ⟨by omega, fits⟩
  simp [Text.readLong?_of_spells slot.spelled, Bounded.ofInt?, bounds]

def third : WrittenSlot := ⟨"3", 3, Text.readInt?_eq_some_iff.1 (by decide)⟩

end WrittenSlot

inductive WrittenAmount.Means : WrittenAmount → Amount → Prop
  | count {figure : Figure} {n : Count} (same : figure.value.val = n.val) :
    Means (.count figure) (.count n)
  | all : Means .all .all

structure WrittenItem.Withdraws (resolver : Resolver) (item : WrittenItem) (withdrawal : Withdrawal) :
    Prop where
  named : item.Named
  bare : item.pairs = []
  amount : item.amount.Means withdrawal.amount
  stack : resolver item.query = some withdrawal.stack

namespace ItemPhrase

variable {resolver : Resolver} {phrase : ItemPhrase} {item : WrittenItem}

theorem withdrawal_of_says {withdrawal : Withdrawal} (written : phrase.Says item)
    (withdraws : item.Withdraws resolver withdrawal) :
    phrase.withdrawal resolver = .ok withdrawal := by
  have known : item.stack? resolver = some withdrawal.stack := by
    simp [WrittenItem.stack?, withdraws.stack, withdraws.bare]
  have stack := stack_of_says written known
  have all := written.all
  obtain ⟨stack', amount⟩ := withdrawal
  have means := withdraws.amount
  rw [ItemPhrase.withdrawal, stack]
  cases spoken : item.amount with
  | count figure =>
    rw [spoken] at means all
    cases means with
    | count same =>
      rw [all, count_of_says written spoken same]
      rfl
  | all =>
    rw [spoken] at means all
    cases means
    rw [all]
    rfl

end ItemPhrase

namespace RemoveVerb

def words : List (String × RemoveVerb) :=
  [("sell", remove), ("drop", remove), ("eat", eat), ("dnp", dropAndPickUp)]

def action (verb : RemoveVerb) (withdrawals : List Withdrawal) (slot : Nat) : Action :=
  match verb with
  | remove => .remove withdrawals slot false
  | eat => .remove withdrawals slot true
  | dropAndPickUp => .dropAndPickUp withdrawals slot

theorem action_inj {verb other : RemoveVerb} {withdrawals others : List Withdrawal} {i j : Nat}
    (same : verb.action withdrawals i = other.action others j) : withdrawals = others ∧ i = j := by
  cases verb <;> cases other <;> cases same <;> exact ⟨rfl, rfl⟩

theorem isHint_action (verb : RemoveVerb) (withdrawals : List Withdrawal) (slot : Nat) :
    (verb.action withdrawals slot).isHint = false := by
  cases verb <;> rfl

theorem meaning_eq (resolver : Resolver) (keyword : Keyword) (verb : RemoveVerb) (removal : Removal) :
    (Sentence.remove keyword verb removal).meaning resolver =
      (removal.withdrawals resolver).map fun withdrawals =>
        verb.action withdrawals (slotIndex removal.slot) := by
  rw [Sentence.meaning]
  cases removal.withdrawals resolver with
  | error complaints => rfl
  | ok withdrawals => cases verb <;> rfl

theorem of_meaning {resolver : Resolver} {keyword : Keyword} {verb other : RemoveVerb}
    {removal : Removal} {withdrawals : List Withdrawal} {slot : Nat}
    (meant : (Sentence.remove keyword verb removal).meaning resolver =
      .ok (other.action withdrawals slot)) :
    withdrawals.length = removal.items.length ∧ slotIndex removal.slot = slot := by
  rw [meaning_eq] at meant
  cases resolved : removal.withdrawals resolver with
  | error complaints =>
    rw [resolved] at meant
    cases meant
  | ok found =>
    rw [resolved] at meant
    obtain ⟨rfl, place⟩ := action_inj (Except.ok.inj meant)
    exact ⟨ItemPhrase.length_of_resolveAll resolved, place⟩

end RemoveVerb

namespace Parser

variable {texts after : List String}

theorem misses_verb {words : List String} {text : String}
    (other : ∀ word ∈ words, ¬Text.sameWord word text) (verb : RemoveVerb) :
    Misses (keyword words .command >>= fun found => pure (found, verb)) (text :: after) := by
  apply Misses.bind
  apply misses_keyword
  rintro word member _ ⟨⟩
  exact other word member

theorem takes_verb {words : List String} {text : String}
    (own : ∃ word ∈ words, Text.sameWord word text) (verb : RemoveVerb) :
    Takes (keyword words .command >>= fun found => pure (found, verb)) [text] after
      fun found => found.2 = verb :=
  (takes_keyword own _).map fun _ _ => rfl

theorem takes_removeVerb {word : String} {verb : RemoveVerb}
    (known : (word, verb) ∈ RemoveVerb.words) :
    Takes removeVerb [word] after fun found => found.2 = verb := by
  have back (words : List String) (verb : RemoveVerb) :
      GoesBack (keyword words .command >>= fun found => pure (found, verb)) :=
    (goesBack_keyword _ _).map _
  simp only [RemoveVerb.words, List.mem_cons, Prod.mk.injEq, List.not_mem_nil, or_false] at known
  obtain ⟨rfl, rfl⟩ | ⟨rfl, rfl⟩ | ⟨rfl, rfl⟩ | ⟨rfl, rfl⟩ := known
  · exact (takes_verb (by decide) _).orElse (back _ _) _
  · exact (takes_verb (by decide) _).orElse (back _ _) _
  · exact (misses_verb (by decide) _).orElse (back _ _)
      ((takes_verb (by decide) _).orElse (back _ _) _)
  · exact (misses_verb (by decide) _).orElse (back _ _)
      ((misses_verb (by decide) _).orElse (back _ _) (takes_verb (by decide) _))

theorem endsItem_slot {slot : Option WrittenSlot} (positive : ∀ written ∈ slot, 1 ≤ written.number)
    (fits : ∀ written ∈ slot, written.Fits) : EndsItem (WrittenSlot.texts slot) := by
  cases slot with
  | none => exact endsItem_of_other (by simp [WrittenSlot.texts]) (by simp [WrittenSlot.texts])
  | some written =>
    have read := WrittenSlot.readLong?_text (positive written rfl) (fits written rfl)
    have clause : Takes (slotClause prepositions) ["from", "slot", written.text] [] fun _ => True :=
      (takes_slotClause ⟨"from", by decide, by decide⟩ read).imp fun _ _ => trivial
    constructor
    · exact .inr (takes_atSlotClause clause)
    · apply misses_symbol
      rintro text ⟨⟩
      decide

theorem misses_removed {slot : Option WrittenSlot} (ends : EndsItem (WrittenSlot.texts slot)) :
    Misses aRemovedItem (WrittenSlot.texts slot) := by
  apply misses_itemPhrase _ _ ends.name
  · apply misses_keyword
    cases slot with
    | none => simp [WrittenSlot.texts]
    | some written =>
      rintro word member text ⟨⟩
      revert word
      decide
  · apply misses_numeral
    cases slot with
    | none => simp [WrittenSlot.texts]
    | some written =>
      rintro text ⟨⟩
      decide

variable {groups : List WrittenItem} {slot : Option WrittenSlot}

def RemovesFrom (groups : List WrittenItem) (slot : Option WrittenSlot) (removal : Removal) : Prop :=
  List.Forall₂ ItemPhrase.Says removal.items groups ∧ slotIndex removal.slot = WrittenSlot.meant slot

theorem takes_removal (nonempty : groups ≠ []) (named : ∀ item ∈ groups, item.Named)
    (counted : ∀ item ∈ groups.tail, ∃ figure, item.amount = .count figure)
    (positive : ∀ written ∈ slot, 1 ≤ written.number) (fits : ∀ written ∈ slot, written.Fits) :
    Takes removal (groups.flatMap WrittenItem.texts ++ WrittenSlot.texts slot) []
      (RemovesFrom groups slot) := by
  have ends := endsItem_slot positive fits
  have items : Takes (many aRemovedItem) (groups.flatMap WrittenItem.texts)
      (WrittenSlot.texts slot ++ []) (List.Forall₂ ItemPhrase.Says · groups) := by
    rw [List.append_nil]
    exact takes_items (fun _ _ => trivial) named counted ends (misses_removed ends)
  apply (items.many1 nonempty).bind
  intro phrases same
  cases slot with
  | none =>
    have none : Misses (slotClause ["from"]) [] := misses_slotClause (by simp)
    apply (none.maybe (tame_slotClause _)).map
    rintro _ rfl
    exact ⟨same, rfl⟩
  | some written =>
    have read := WrittenSlot.readLong?_text (positive written rfl) (fits written rfl)
    apply (takes_slotClause ⟨"from", by decide, by decide⟩ read).maybe.map
    rintro _ ⟨clause, rfl, number⟩
    exact ⟨same, congrArg Int.toNat number⟩

section Yields

theorem yields_slotClause (prepositions : List String) :
    Yields (slotClause prepositions) fun clause => clause.number.value ≤ maxLong :=
  Yields.attempt ((yields_any _).bind fun _ _ => (yields_any _).bind fun _ _ =>
    yields_numeral.bind fun _ long => yields_pure long)

theorem yields_removal : Yields removal fun removal =>
    ∀ clause ∈ removal.slot, clause.number.value ≤ maxLong :=
  (yields_any _).bind fun _ _ => (yields_slotClause _).maybe.bind fun _ long => yields_pure long

theorem yields_removeSentence : Yields removeSentence fun sentence =>
    ∃ keyword verb removal, sentence = .remove keyword verb removal ∧
      ∀ clause ∈ removal.slot, clause.number.value ≤ maxLong :=
  (yields_any _).bind fun verb _ => yields_removal.bind fun removal long =>
    yields_pure ⟨verb.1, verb.2, removal, rfl, long⟩

end Yields

end Parser

theorem WrittenSlot.fits_of_place {slot : Option SlotClause} {written : WrittenSlot}
    (long : ∀ clause ∈ slot, clause.number.value ≤ maxLong)
    (place : slotIndex slot = written.number.toNat) : written.Fits := by
  have bound : maxLong = 9223372036854775807 := rfl
  rw [Fits]
  cases slot with
  | none =>
    have first : 1 = written.number.toNat := place
    omega
  | some clause =>
    have short := long clause rfl
    have same : clause.number.value.toNat = written.number.toNat := place
    omega

namespace RemoveVerb

open Inventory.Parser

variable {resolver : Resolver} {word : String} {verb : RemoveVerb} {tokens : List Token}
  {slot : Option WrittenSlot} (known : (word, verb) ∈ words)

include known

theorem ne_sign : word ≠ "#" := by
  have others : ∀ entry ∈ words, entry.1 ≠ "#" := by decide
  exact others _ known

theorem ofTokens?_eq {rest : List String} (texts : tokens.map Token.text = word :: rest) :
    Sentence.ofTokens? tokens = Rule.remove.sentence? tokens := by
  have own : ∀ entry ∈ words, ∀ other ∈ Rule.all, other ≠ .remove →
      ∀ opening ∈ other.openings, ¬Text.sameWord opening entry.1 := by decide
  exact Sentence.ofTokens?_of_opening texts (own _ known)

theorem ofTokens?_of_groups {groups : List WrittenItem} (nonempty : groups ≠ [])
    (named : ∀ item ∈ groups, item.Named)
    (counted : ∀ item ∈ groups.tail, ∃ figure, item.amount = .count figure)
    (positive : ∀ written ∈ slot, 1 ≤ written.number) (fits : ∀ written ∈ slot, written.Fits)
    (texts : tokens.map Token.text =
      word :: (groups.flatMap WrittenItem.texts ++ WrittenSlot.texts slot)) :
    ∃ keyword removal, Sentence.ofTokens? tokens = some (.remove keyword verb removal) ∧
      RemovesFrom groups slot removal := by
  have takes : Takes Rule.remove.sentence (tokens.map Token.text) [] fun sentence =>
      ∃ keyword removal, sentence = .remove keyword verb removal ∧
        RemovesFrom groups slot removal := by
    rw [texts]
    apply (takes_removeVerb known).bind
    rintro ⟨keyword, _⟩ rfl
    apply (takes_removal nonempty named counted positive fits).map
    exact fun removal removes => ⟨keyword, removal, rfl, removes⟩
  obtain ⟨_, read, keyword, removal, rfl, removes⟩ := Rule.sentence?_of_takes takes
  exact ⟨keyword, removal, by rw [ofTokens?_eq known texts, read], removes⟩

end RemoveVerb

namespace Command

theorem action_of_groups {resolver : Resolver} {word line : String} {verb : RemoveVerb}
    (known : (word, verb) ∈ RemoveVerb.words) {groups : List WrittenItem}
    {withdrawals : List Withdrawal} {slot : Option WrittenSlot} (nonempty : groups ≠ [])
    (counted : ∀ item ∈ groups.tail, ∃ figure, item.amount = .count figure)
    (withdraws : List.Forall₂ (WrittenItem.Withdraws resolver) groups withdrawals)
    (positive : ∀ written ∈ slot, 1 ≤ written.number) (fits : ∀ written ∈ slot, written.Fits)
    (texts : (tokenize line).map Token.text =
      word :: (groups.flatMap WrittenItem.texts ++ WrittenSlot.texts slot)) :
    (ofLine resolver line).action = verb.action withdrawals (WrittenSlot.meant slot) := by
  have named : ∀ item ∈ groups, item.Named :=
    ((List.forall₂_and_left _ _).1 (withdraws.imp fun _ _ each => ⟨each.named, each⟩)).1
  obtain ⟨keyword, removal, found, same, place⟩ :=
    RemoveVerb.ofTokens?_of_groups known nonempty named counted positive fits texts
  have resolved : removal.withdrawals resolver = .ok withdrawals :=
    ItemPhrase.resolveAll_of_forall₂ same withdraws fun _ _ _ => ItemPhrase.withdrawal_of_says
  apply action_ofLine texts (RemoveVerb.ne_sign known) found
  rw [RemoveVerb.meaning_eq, resolved, ← place]
  rfl

/-- The amount `all` counts before the first item only. Before a later item it is taken for a word of
the name before it, so the items are other ones and fewer. -/
theorem removals_parse_iff (resolver : Resolver) {word : String} {verb : RemoveVerb}
    (known : (word, verb) ∈ RemoveVerb.words) {first : WrittenItem} {rest : List WrittenItem}
    {withdrawals : List Withdrawal} {slot : Option WrittenSlot} {line : String}
    (withdraws : List.Forall₂ (WrittenItem.Withdraws resolver) (first :: rest) withdrawals)
    (positive : ∀ written ∈ slot, 1 ≤ written.number)
    (spaced : Spaced (word :: ((first :: rest).flatMap WrittenItem.texts ++ WrittenSlot.texts slot))
      line.toList) :
    (ofLine resolver line).action = verb.action withdrawals (WrittenSlot.meant slot) ↔
      (∀ item ∈ rest, item.amount.isAll = false) ∧ ∀ written ∈ slot, written.Fits := by
  have texts := spaced_iff.1 spaced
  have ink := RemoveVerb.ne_sign known
  have named : ∀ item ∈ first :: rest, item.Named :=
    ((List.forall₂_and_left _ _).1 (withdraws.imp fun _ _ each => ⟨each.named, each⟩)).1
  have bare : ∀ item ∈ first :: rest, item.pairs = [] :=
    ((List.forall₂_and_left _ _).1 (withdraws.imp fun _ _ each => ⟨each.bare, each⟩)).1
  have grouped : (tokenize line).map Token.text =
      word :: ((first.regroup rest).flatMap WrittenItem.texts ++ WrittenSlot.texts slot) := by
    rw [texts, WrittenItem.flatMap_texts_regroup bare]
  have reads (fits : ∀ written ∈ slot, written.Fits) :=
    RemoveVerb.ofTokens?_of_groups known (first.regroup_ne_nil rest)
      (WrittenItem.named_regroup named) (first.counted_regroup rest) positive fits grouped
  constructor
  · intro does
    obtain ⟨sentence, found, meant⟩ := meaning_of_action texts ink does (verb.isHint_action _ _)
    have read := (RemoveVerb.ofTokens?_eq known texts).symm.trans found
    obtain ⟨keyword, other, removal, rfl, long⟩ :=
      Parser.yields_removeSentence _ _ (Rule.sentence_of_sentence? read)
    obtain ⟨length, place⟩ := RemoveVerb.of_meaning meant
    have fits : ∀ written ∈ slot, written.Fits := by
      rintro written rfl
      exact WrittenSlot.fits_of_place long place
    -- There are as many groups as items only if no group takes in a further item.
    obtain ⟨_, groups, found', same, -⟩ := reads fits
    obtain ⟨-, -, rfl⟩ := Sentence.remove.inj (Option.some.inj (found.symm.trans found'))
    have count : (first.regroup rest).length = rest.length + 1 := by
      rw [← same.length_eq, ← length, ← withdraws.length_eq, List.length_cons]
    exact ⟨WrittenItem.length_regroup_eq_iff.1 count, fits⟩
  · rintro ⟨counted, fits⟩
    have whole : first.regroup rest = first :: rest := WrittenItem.regroup_of_counted counted
    have counts : ∀ item ∈ (first :: rest).tail, ∃ figure, item.amount = .count figure :=
      whole ▸ first.counted_regroup rest
    exact action_of_groups known (List.cons_ne_nil _ _) counts withdraws positive fits texts

theorem removals_parse_of_apples :
    (ofLine .anything "sell all apple\t2 pear from slot 3").action =
      .remove [⟨.new (.named "apple"), .all⟩, ⟨.new (.named "pear"), .count 2⟩] 3 false := by
  have apples : WrittenItem.Withdraws .anything ⟨.all, [⟨"apple", by decide⟩], []⟩
      ⟨.new (.named "apple"), .all⟩ :=
    ⟨⟨by decide, by decide⟩, rfl, .all, by decide⟩
  have pears : WrittenItem.Withdraws .anything
      ⟨.count (.ofText "2" 2 (by decide)), [⟨"pear", by decide⟩], []⟩
      ⟨.new (.named "pear"), .count 2⟩ :=
    ⟨⟨by decide, by decide⟩, rfl, .count rfl, by decide⟩
  have known : ("sell", RemoveVerb.remove) ∈ RemoveVerb.words := by decide
  have positive : ∀ written ∈ some WrittenSlot.third, 1 ≤ written.number := by
    rintro written ⟨⟩
    decide
  have fits : ∀ written ∈ some WrittenSlot.third, written.Fits := by
    rintro written ⟨⟩
    exact (by decide : (3 : Int) ≤ maxLong)
  exact (removals_parse_iff .anything known (.cons apples (.cons pears .nil)) positive
    (spaced_iff.2 (by decide))).2 ⟨by decide, fits⟩

theorem not_all_pears_removed :
    (ofLine .anything "sell 1 apple all pear").action ≠
      .remove [⟨.new (.named "apple"), .count 1⟩, ⟨.new (.named "pear"), .all⟩] 1 false := by
  have group : WrittenItem.Withdraws .anything
      ⟨.count (.ofText "1" 1 (by decide)),
        [⟨"apple", by decide⟩, ⟨"all", by decide⟩, ⟨"pear", by decide⟩], []⟩
      ⟨.new (.named "appleallpear"), .count 1⟩ :=
    ⟨⟨by decide, by decide⟩, rfl, .count rfl, by decide⟩
  have known : ("sell", RemoveVerb.remove) ∈ RemoveVerb.words := by decide
  have does : (ofLine .anything "sell 1 apple all pear").action =
      RemoveVerb.remove.action [⟨.new (.named "appleallpear"), .count 1⟩] (WrittenSlot.meant none) :=
    action_of_groups known (List.cons_ne_nil _ _) (by simp) (.cons group .nil) (by simp) (by simp)
      (by decide)
  rw [does]
  decide

end Command

end Inventory
