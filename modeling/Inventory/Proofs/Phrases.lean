import Inventory.Proofs.MetadataGrammar

set_option autoImplicit false

namespace Inventory

def prepositions : List String := ["in", "from"]

def Name.IsPreposition (name : Name) : Prop :=
  ∃ preposition ∈ prepositions, Text.sameWord preposition name.text

instance (name : Name) : Decidable name.IsPreposition :=
  inferInstanceAs (Decidable (∃ preposition ∈ prepositions, Text.sameWord preposition name.text))

structure WrittenItem.Named (item : WrittenItem) : Prop where
  filled : item.words ≠ []
  clear : ∀ name ∈ item.words, ¬name.IsPreposition

namespace Parser

variable {texts after : List String}

section Clauses

theorem misses_slotClause {prepositions : List String}
    (other : ∀ word ∈ prepositions, ∀ text ∈ texts.head?, ¬Text.sameWord word text) :
    Misses (slotClause prepositions) texts :=
  ((misses_keyword other _).bind _).attempt

theorem takes_slotClause {prepositions : List String} {preposition number : String} {n : Int}
    (member : ∃ word ∈ prepositions, Text.sameWord word preposition)
    (read : Text.readLong? number = some n) :
    Takes (slotClause prepositions) [preposition, "slot", number] after
      fun clause => clause.number.value = n := by
  apply Takes.attempt
  apply (takes_keyword member _).bind
  intro preposition _
  apply (takes_keyword ⟨"slot", by decide, by decide⟩ _).bind
  intro slot _
  exact (takes_numeral read).map fun _ same => same

theorem takes_atSlotClause {result : SlotClause → Prop}
    (takes : Takes (slotClause prepositions) texts after result) :
    Takes atSlotClause [] (texts ++ after) (· = true) := by
  intro cursor ahead
  obtain ⟨clause, found, -⟩ := takes cursor ahead
  exact ⟨true, by rw [atSlotClause_eq, ← prepositions, found]; rfl, rfl⟩

theorem answers_atSlotClause : Takes atSlotClause [] after fun _ => True :=
  fun cursor _ => ⟨_, atSlotClause_eq cursor, trivial⟩

theorem misses_atSlotClause (misses : Misses (slotClause prepositions) after) :
    Takes atSlotClause [] after (· = false) := by
  intro cursor ahead
  exact ⟨false, by rw [atSlotClause_eq, ← prepositions, misses cursor ahead]; rfl, rfl⟩

end Clauses

section Metadata

open WrittenItem

theorem derives_of_value (value : WrittenValue) (span : Span) :
    ∃ found, MetaValue.Derives ⟨value.text, span⟩ found ∧ found.text = value.said := by
  cases value with
  | word name => exact ⟨_, .name name span, rfl⟩
  | number figure => exact ⟨_, .number figure span, rfl⟩

theorem derives_of_pair {tokens : List Token} {pair : Name × WrittenValue}
    (same : tokens.map Token.text = pairTexts pair) :
    ∃ found, MetaPair.Derives tokens found ∧
      (found.key.text, found.value.map MetaValue.text) = pairSaid pair := by
  obtain ⟨⟨_, keySpan⟩, _, rfl, rfl, further⟩ := List.map_eq_cons_iff.1 same
  obtain ⟨separator, _, rfl, sign, last⟩ := List.map_eq_cons_iff.1 further
  obtain ⟨⟨_, span⟩, _, rfl, rfl, none⟩ := List.map_eq_cons_iff.1 last
  obtain rfl := List.map_eq_nil_iff.1 none
  have separates : separator.text ∈ MetaPair.separators := sign ▸ List.mem_cons_self
  obtain ⟨value, derives, said⟩ := derives_of_value pair.2 span
  exact ⟨_, .valued pair.1 keySpan separates derives, by simp [pairSaid, said]⟩

theorem derives_of_morePairs {pairs : List (Name × WrittenValue)} {tokens : List Token}
    (same : tokens.map Token.text = morePairTexts pairs) :
    ∃ more, MetaPair.DerivesMore tokens more ∧
      (more.map fun part => (part.2.key.text, part.2.value.map MetaValue.text)) =
        pairs.map pairSaid := by
  induction pairs generalizing tokens with
  | nil =>
    obtain rfl := List.map_eq_nil_iff.1 same
    exact ⟨[], .nil, rfl⟩
  | cons pair rest ih =>
    obtain ⟨⟨_, comma⟩, _, rfl, rfl, further⟩ := List.map_eq_cons_iff.1 same
    obtain ⟨here, others, rfl, first, later⟩ := List.map_eq_append_iff.1 further
    obtain ⟨found, derives, said⟩ := derives_of_pair first
    obtain ⟨more, derivesMore, saidMore⟩ := ih later
    exact ⟨_, .cons comma derives derivesMore, by simp [said, saidMore]⟩

theorem takes_metaClause (first : Name × WrittenValue) (rest : List (Name × WrittenValue)) :
    Takes metaClause (clauseTexts (first :: rest)) after
      fun clause => clause.edit = Metadata.ofPairs ((first :: rest).map pairSaid) := by
  apply accepts_metaClause.takes tame_metaClause
  intro tokens same
  obtain ⟨⟨_, opening⟩, _, rfl, rfl, inner⟩ := List.map_eq_cons_iff.1 same
  obtain ⟨here, _, rfl, pair, later⟩ := List.map_eq_append_iff.1 inner
  obtain ⟨between, _, rfl, others, last⟩ := List.map_eq_append_iff.1 later
  obtain ⟨⟨_, closing⟩, _, rfl, rfl, none⟩ := List.map_eq_cons_iff.1 last
  obtain rfl := List.map_eq_nil_iff.1 none
  obtain ⟨found, derives, said⟩ := derives_of_pair pair
  obtain ⟨more, derivesMore, saidMore⟩ := derives_of_morePairs others
  have clause := MetaClause.Derives.brackets opening closing derives derivesMore
  rw [List.append_assoc] at clause
  exact ⟨_, clause, by simp [MetaClause.edit, said, ← saidMore, Function.comp_def]⟩

end Metadata

section Items

/-- Where a name ends: no word follows, or a slot clause. -/
def EndsName (after : List String) : Prop :=
  Misses word after ∨ Takes atSlotClause [] after (· = true)

theorem takes_no_word (ends : EndsName after) (limit : Nat) :
    Takes (nameWords limit) [] after (· = []) := by
  cases limit with
  | zero => exact takes_pure rfl
  | succ limit =>
    cases ends with
    | inl none =>
      apply answers_atSlotClause.skip
      intro atSlot _
      cases atSlot with
      | true => exact takes_pure rfl
      | false =>
        apply (none.maybe tame_word).skip
        rintro _ rfl
        exact takes_pure rfl
    | inr atSlot =>
      apply atSlot.skip
      rintro _ rfl
      exact takes_pure rfl

theorem takes_nameWords {names : List Name} (clear : ∀ name ∈ names, ¬name.IsPreposition)
    (ends : EndsName after) {limit : Nat} (enough : names.length ≤ limit) :
    Takes (nameWords limit) (names.map Name.text) after
      fun found => found.map Word.text = names.map Name.text := by
  induction names generalizing limit with
  | nil =>
    apply (takes_no_word ends limit).imp
    rintro _ rfl
    rfl
  | cons name rest ih =>
    cases limit with
    | zero => simp at enough
    | succ limit =>
      obtain ⟨first, others⟩ := List.forall_mem_cons.1 clear
      -- A slot clause would end the name here, whatever comes after this word.
      have noSlot : Misses (slotClause prepositions) (name.text :: rest.map Name.text ++ after) := by
        apply misses_slotClause
        rintro word member text ⟨⟩ same
        exact first ⟨word, member, same⟩
      apply (misses_atSlotClause noSlot).skip
      rintro _ rfl
      apply (takes_word name).maybe.bind
      rintro _ ⟨found, rfl, same⟩
      apply (ih others (Nat.le_of_succ_le_succ enough)).map
      intro more texts
      simp [same, texts]

structure EndsItem (after : List String) : Prop where
  name : EndsName after
  bracket : Misses (symbol '[') after

theorem endsItem_of_other (other : ∀ text ∈ after.head?, ¬Text.beginsName text)
    (bracket : ∀ text ∈ after.head?, text.toList ≠ ['[']) : EndsItem after :=
  ⟨.inl (misses_word other), misses_symbol bracket⟩

theorem endsItem_figure (figure : Figure) : EndsItem (figure.text :: after) := by
  apply endsItem_of_other
  · rintro text ⟨⟩
    exact figure.not_beginsName
  · rintro text ⟨⟩ bracket
    have read := figure.readLong?_text
    simp [Text.readLong?, bracket, Text.readInt?, Text.readNat?] at read

theorem misses_metaClause (bracket : Misses (symbol '[') texts) : Misses metaClause texts :=
  (bracket.bind _).attempt

theorem takes_maybe_metaClause (pairs : List (Name × WrittenValue)) (ends : EndsItem after) :
    Takes (maybe metaClause) (WrittenItem.clauseTexts pairs) after fun clause =>
      clause.map MetaClause.edit =
        if pairs.isEmpty then none else some (Metadata.ofPairs (pairs.map WrittenItem.pairSaid)) := by
  cases pairs with
  | nil =>
    apply ((misses_metaClause ends.bracket).maybe tame_metaClause).imp
    rintro _ rfl
    rfl
  | cons first rest =>
    apply (takes_metaClause first rest).maybe.imp
    rintro _ ⟨clause, rfl, edit⟩
    simp [edit]

end Items

end Parser

namespace ItemPhrase

structure Says (phrase : ItemPhrase) (item : WrittenItem) : Prop where
  amount : phrase.amount.map Numeral.value = item.amount.number?
  all : phrase.all.isSome = item.amount.isAll
  words : phrase.words.map Word.text = item.words.map Name.text
  clause : phrase.clause.map MetaClause.edit =
    if item.pairs.isEmpty then none
    else some (Metadata.ofPairs (item.pairs.map WrittenItem.pairSaid))

end ItemPhrase

def Quantity.Allows : Quantity → WrittenAmount → Prop
  | .nothing, _ => False
  | .number, amount => amount.isAll = false
  | .numberOrAll, _ => True

namespace Parser

variable {texts after : List String} {quantity : Quantity}

theorem misses_allWord (other : Misses (keyword ["all"] .amount) texts) :
    Takes (allWord quantity) [] texts (· = none) := by
  cases quantity with
  | numberOrAll => exact other.maybe (tame_keyword _ _)
  | nothing => exact takes_pure rfl
  | number => exact takes_pure rfl

theorem misses_all_of_other (other : ∀ text ∈ texts.head?, ¬Text.beginsName text) :
    Misses (keyword ["all"] .amount) texts := by
  apply misses_keyword
  intro word member text first
  obtain rfl : word = "all" := by simpa using member
  exact Text.not_sameWord_of_letter (by decide) (other text first)

theorem takes_amountWord (figure : Figure) (read : quantity ≠ .nothing) :
    Takes (amountWord quantity none) [figure.text] after
      fun found => found.map Numeral.value = some figure.value.val := by
  simp only [amountWord, read, decide_false, Option.isSome_none, Bool.or_self]
  apply (takes_numeral figure.readLong?_text).maybe.imp
  rintro _ ⟨found, rfl, value⟩
  exact congrArg some value

theorem skips_amountWord {all : Option Keyword} (is : all.isSome) :
    Takes (amountWord quantity all) [] texts (· = none) := by
  simp only [amountWord, is, Bool.or_true, if_true]
  exact takes_pure rfl

theorem takes_amount {amount : WrittenAmount} (allowed : quantity.Allows amount)
    {further : Option Keyword → Option Numeral → Parser ItemPhrase} {result : ItemPhrase → Prop}
    (rest : ∀ all number, all.isSome = amount.isAll → number.map Numeral.value = amount.number? →
      Takes (further all number) texts after result) :
    Takes (do
      let all ← allWord quantity
      let number ← amountWord quantity all
      further all number) (amount.text :: texts) after result := by
  cases amount with
  | count figure =>
    have noAll : Misses (keyword ["all"] .amount) (figure.text :: texts ++ after) := by
      apply misses_all_of_other
      rintro text ⟨⟩
      exact figure.not_beginsName
    have read : quantity ≠ .nothing := by
      rintro rfl
      exact allowed
    apply (misses_allWord noAll).skip
    rintro _ rfl
    apply (takes_amountWord figure read).bind
    intro number value
    exact rest none number rfl value
  | all =>
    have word : Takes (allWord quantity) ["all"] (texts ++ after) fun found => found.isSome := by
      cases quantity with
      | nothing => exact absurd allowed id
      | number => cases allowed
      | numberOrAll =>
        apply (takes_keyword ⟨"all", by decide, by decide⟩ .amount).maybe.imp
        rintro _ ⟨found, rfl, -⟩
        rfl
    apply word.bind
    intro all is
    apply (skips_amountWord is).skip
    rintro _ rfl
    exact rest all none is rfl

theorem takes_itemPhrase {item : WrittenItem} (allowed : quantity.Allows item.amount)
    (named : item.Named) (ends : EndsItem after) :
    Takes (itemPhrase quantity) item.texts after (·.Says item) := by
  apply Takes.attempt
  apply takes_amount allowed
  intro all number isAll value
  -- The name ends at its own metadata, or else where the item ends.
  have stops : EndsName (WrittenItem.clauseTexts item.pairs ++ after) := by
    cases item.pairs with
    | nil => exact ends.name
    | cons first rest =>
      apply Or.inl
      apply misses_word
      rintro text ⟨⟩
      decide
  have name : Takes (withAhead nameWords) (item.words.map Name.text)
      (WrittenItem.clauseTexts item.pairs ++ after)
      fun found => found.map Word.text = item.words.map Name.text := by
    apply Takes.withAhead
    intro limit long
    exact takes_nameWords named.clear stops (by simpa using long)
  apply name.bind
  intro words same
  have filled : words.isEmpty = false := by
    cases words with
    | nil => exact absurd (List.map_eq_nil_iff.1 same.symm) named.filled
    | cons => rfl
  simp only [filled]
  apply (takes_maybe_metaClause item.pairs ends).map
  intro clause edit
  exact ⟨value, isAll, same, edit⟩

theorem misses_itemPhrase (noAll : Misses (keyword ["all"] .amount) texts)
    (noNumber : Misses numeral texts) (noName : EndsName texts) :
    Misses (itemPhrase quantity) texts := by
  apply Misses.attempt
  apply (misses_allWord noAll).bind_misses
  rintro _ rfl
  have number : Takes (amountWord quantity none) [] texts (· = none) := by
    rw [amountWord]
    split
    · exact takes_pure rfl
    · exact noNumber.maybe tame_numeral
  apply number.bind_misses
  rintro _ rfl
  apply (Takes.withAhead fun limit _ => takes_no_word noName limit).bind_misses
  rintro _ rfl
  exact misses_fail

theorem takes_items {items : List WrittenItem}
    (allowed : ∀ item ∈ items, quantity.Allows item.amount) (named : ∀ item ∈ items, item.Named)
    (counted : ∀ item ∈ items.tail, ∃ figure, item.amount = .count figure)
    (ends : EndsItem after) (stops : Misses (itemPhrase quantity) after) :
    Takes (many (itemPhrase quantity)) (items.flatMap WrittenItem.texts) after
      (List.Forall₂ ItemPhrase.Says · items) := by
  have filled : ∀ item ∈ items, item.texts ≠ [] := fun item _ => List.cons_ne_nil _ _
  apply takes_many (tame_itemPhrase quantity) filled _ stops
  rintro item rest ⟨before, rfl⟩
  have member : item ∈ before ++ item :: rest := by simp
  apply takes_itemPhrase (allowed item member) (named item member)
  cases rest with
  | nil => exact ends
  | cons next later =>
    have inside : next ∈ (before ++ item :: next :: later).tail := by
      cases before with
      | nil => exact List.mem_cons_self
      | cons => simp
    obtain ⟨figure, count⟩ := counted next inside
    rw [List.flatMap_cons, WrittenItem.texts, count]
    exact endsItem_figure figure

end Parser

end Inventory
