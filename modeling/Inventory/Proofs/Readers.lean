import Inventory.Proofs.Reading
import Inventory.Script.Rule

set_option autoImplicit false

namespace Inventory

namespace Parser

section Words

theorem tentative_numeral : Tentative numeral :=
  Tame.tentative <| tame_next.bind fun _ => (tame_ofOption _).bind fun _ => tame_pure _

theorem tame_numeral : Tame numeral := tentative_numeral.tame

theorem goesBack_numeral : GoesBack numeral := tentative_numeral.goesBack

theorem tentative_word : Tentative word :=
  Tame.tentative <| (tame_nextThat _).bind fun _ => tame_pure _

theorem tame_word : Tame word := tentative_word.tame

section Keywords

variable (words : List String) (shade : Shade)

theorem tentative_keyword : Tentative (keyword words shade) :=
  Tame.tentative <| (tame_nextThat _).bind fun _ => tame_pure _

theorem tame_keyword : Tame (keyword words shade) := (tentative_keyword words shade).tame

theorem goesBack_keyword : GoesBack (keyword words shade) := (tentative_keyword words shade).goesBack

theorem tame_phraseSpans : Tame (phraseSpans words) := by
  induction words with
  | nil => exact tame_pure []
  | cons word rest ih => exact (tame_nextThat _).bind fun _ => ih.bind fun _ => tame_pure _

theorem tentative_phrase : Tentative (phrase words shade) :=
  Tame.tentative <|
    (tame_phraseSpans words).bind fun _ => (tame_ofOption _).bind fun _ => tame_pure _

theorem tame_phrase : Tame (phrase words shade) := (tentative_phrase words shade).tame

theorem goesBack_phrase : GoesBack (phrase words shade) := (tentative_phrase words shade).goesBack

end Keywords

theorem tentative_symbol (c : Char) : Tentative (symbol c) :=
  Tame.tentative <| (tame_nextThat _).bind fun _ => tame_pure _

theorem tame_symbol (c : Char) : Tame (symbol c) := (tentative_symbol c).tame

theorem goesBack_symbol (c : Char) : GoesBack (symbol c) := (tentative_symbol c).goesBack

end Words

section Clauses

theorem tentative_slotClause (prepositions : List String) : Tentative (slotClause prepositions) :=
  Tame.tentative <| (tame_keyword _ _).bind fun _ => (tame_keyword _ _).bind fun _ =>
    tame_numeral.bind fun _ => tame_pure _

theorem tame_slotClause (prepositions : List String) : Tame (slotClause prepositions) :=
  (tentative_slotClause prepositions).tame

theorem atSlotClause_eq (cursor : Cursor) :
    atSlotClause cursor = (.found (slotClause ["in", "from"] cursor).1.node?.isSome, cursor) := by
  rw [atSlotClause, (tame_slotClause _).ahead, (tame_slotClause _).ahead cursor]
  rfl

theorem tame_atSlotClause : Tame atSlotClause := by
  refine .of_reads (fun tokens =>
    (.found ((slotClause ["in", "from"]).reads tokens).1.node?.isSome, 0))
    (fun _ => Nat.zero_le _) fun cursor => ?_
  rw [atSlotClause_eq, (tame_slotClause _).ahead]
  rfl

theorem tame_metaValue : Tame metaValue :=
  .orElse (tame_numeral.bind fun _ => tame_pure _) (goesBack_numeral.map _)
    (tame_word.bind fun _ => tame_pure _)

theorem tame_separator : Tame (orElse (symbol '=') (symbol ':')) :=
  .orElse (tame_symbol '=') (goesBack_symbol '=') (tame_symbol ':')

theorem tentative_metaPair : Tentative metaPair := by
  refine Tame.tentative <| tame_word.bind fun key => tame_separator.maybe.bind fun separator => ?_
  cases separator with
  | none => exact tame_pure _
  | some separator => exact tame_metaValue.bind fun _ => tame_pure _

theorem tame_metaPair : Tame metaPair := tentative_metaPair.tame

theorem tame_morePairs (limit : Nat) : Tame (morePairs limit) := by
  induction limit with
  | zero => exact tame_pure []
  | succ limit ih =>
    refine (tame_symbol ',').maybe.bind fun comma => ?_
    cases comma with
    | none => exact tame_pure []
    | some comma => exact tame_metaPair.bind fun _ => ih.bind fun _ => tame_pure _

theorem tentative_metaClause : Tentative metaClause :=
  Tame.tentative <| (tame_symbol '[').bind fun _ => tame_metaPair.bind fun _ =>
    (Tame.withAhead tame_morePairs).bind fun _ => (tame_symbol ']').bind fun _ => tame_pure _

theorem tame_metaClause : Tame metaClause := tentative_metaClause.tame

end Clauses

section Items

theorem tame_nameWords (limit : Nat) : Tame (nameWords limit) := by
  induction limit with
  | zero => exact tame_pure []
  | succ limit ih =>
    refine tame_atSlotClause.bind fun _ => (tame_pure []).ite <| tame_word.maybe.bind fun first => ?_
    cases first with
    | none => exact tame_pure []
    | some first => exact ih.bind fun _ => tame_pure _

theorem tame_allWord (quantity : Quantity) : Tame (allWord quantity) :=
  (tame_keyword _ _).maybe.ite (tame_pure none)

theorem tame_amountWord (quantity : Quantity) (all : Option Keyword) :
    Tame (amountWord quantity all) :=
  (tame_pure none).ite tame_numeral.maybe

theorem tentative_itemPhrase (quantity : Quantity) : Tentative (itemPhrase quantity) :=
  Tame.tentative <| (tame_allWord _).bind fun _ => (tame_amountWord _ _).bind fun _ =>
    (Tame.withAhead tame_nameWords).bind fun _ => tame_fail.ite <|
      tame_metaClause.maybe.bind fun _ => tame_pure _

theorem tame_itemPhrase (quantity : Quantity) : Tame (itemPhrase quantity) :=
  (tentative_itemPhrase quantity).tame

theorem tame_removal : Tame removal :=
  (tame_itemPhrase _).many1.bind fun _ => (tame_slotClause _).maybe.bind fun _ => tame_pure _

theorem tame_withClause : Tame withClause :=
  (tame_keyword _ _).bind fun _ => tame_removal.bind fun _ => tame_pure _

end Items

section Sentences

theorem tame_superKeyword (name : String) : Tame (superKeyword name) :=
  .attempt <| (tame_symbol '!').bind fun _ => (tame_keyword _ _).bind fun _ => tame_pure _

theorem tame_trialVerb : Tame trialVerb :=
  .orElse ((tame_keyword _ _).bind fun _ => tame_pure _) ((goesBack_keyword _ _).map _)
    ((tame_keyword _ _).bind fun _ => tame_pure _)

theorem tame_obtainVerb : Tame obtainVerb :=
  .orElse (tame_keyword _ _) (goesBack_keyword _ _) (tame_phrase _ _)

theorem tame_removeVerb : Tame removeVerb :=
  .orElse ((tame_keyword _ _).bind fun _ => tame_pure _) ((goesBack_keyword _ _).map _) <|
    .orElse ((tame_keyword _ _).bind fun _ => tame_pure _) ((goesBack_keyword _ _).map _)
      ((tame_keyword _ _).bind fun _ => tame_pure _)

theorem tame_kindWords : Tame kindWords :=
  .attempt <| tame_word.bind fun _ => Tame.ite
    (tame_word.bind fun _ => (tame_pure _).ite tame_fail)
    ((tame_ofOption _).bind fun _ => tame_pure _)

theorem tame_byKind (name : String)
    (sentence : Keyword → Keyword → List Word → List Kind → Sentence) :
    Tame (byKind name sentence) :=
  (tame_keyword _ _).bind fun _ => (tame_keyword _ _).bind fun _ => tame_kindWords.bind fun _ =>
    tame_pure _

theorem tame_equipVerb : Tame equipVerb :=
  .orElse ((tame_keyword _ _).bind fun _ => tame_pure _) ((goesBack_keyword _ _).map _)
    ((tame_keyword _ _).bind fun _ => tame_pure _)

theorem tame_saveSentence : Tame saveSentence := by
  refine (tame_keyword _ _).bind fun _ => (tame_keyword _ _).maybe.bind fun as => ?_
  cases as with
  | none => exact tame_pure _
  | some as => exact tame_word.many1.bind fun _ => tame_pure _

theorem tame_sentence (rule : Rule) : Tame rule.sentence := by
  have slot (prepositions : List String) : Tame (maybe (slotClause prepositions)) :=
    (tame_slotClause prepositions).maybe
  cases rule with
  | startGameData =>
    exact (tame_keyword _ _).bind fun _ => (tame_keyword _ _).bind fun _ =>
      (tame_itemPhrase _).many.bind fun _ => tame_pure _
  | start => exact (tame_keyword _ _).bind fun _ => (tame_itemPhrase _).many.bind fun _ => tame_pure _
  | write =>
    exact (tame_keyword _ _).bind fun _ => tame_metaClause.bind fun _ =>
      (tame_keyword _ _).bind fun _ => (tame_itemPhrase _).bind fun _ => (slot _).bind fun _ =>
        tame_pure _
  | swap =>
    exact (tame_superKeyword _).bind fun _ => tame_numeral.bind fun _ => tame_numeral.bind fun _ =>
      tame_pure _
  | sortMaterials =>
    exact (tame_superKeyword _).bind fun _ => (tame_keyword _ _).bind fun _ => tame_pure _
  | addSlots =>
    exact (tame_superKeyword _).bind fun _ => (tame_keyword _ _).bind fun _ =>
      (tame_itemPhrase _).many1.bind fun _ => (tame_slotClause _).bind fun _ => tame_pure _
  | trial =>
    exact tame_trialVerb.bind fun _ => tame_word.bind fun _ => (tame_ofOption _).bind fun _ =>
      tame_pure _
  | obtain => exact tame_obtainVerb.bind fun _ => (tame_itemPhrase _).many1.bind fun _ => tame_pure _
  | removeKinds => exact tame_byKind _ _
  | remove => exact tame_removeVerb.bind fun _ => tame_removal.bind fun _ => tame_pure _
  | unequipKinds => exact tame_byKind _ _
  | equip =>
    exact tame_equipVerb.bind fun _ => (tame_itemPhrase _).bind fun _ => (slot _).bind fun _ =>
      tame_pure _
  | shoot =>
    exact (tame_keyword _ _).bind fun _ => tame_numeral.maybe.bind fun _ =>
      (tame_keyword _ _).bind fun _ => tame_pure _
  | save => exact tame_saveSentence
  | reload => exact (tame_keyword _ _).bind fun _ => tame_word.many.bind fun _ => tame_pure _
  | useSave => exact (tame_keyword _ _).bind fun _ => tame_word.many1.bind fun _ => tame_pure _
  | breakSlots =>
    exact (tame_keyword _ _).bind fun _ => tame_numeral.bind fun _ => (tame_keyword _ _).bind fun _ =>
      tame_withClause.maybe.bind fun _ => tame_pure _
  | closeGame =>
    exact (Tame.orElse (tame_phrase _ _) (goesBack_phrase _ _) (tame_phrase _ _)).bind fun _ =>
      tame_pure _
  | sync => exact (tame_phrase _ _).bind fun _ => tame_pure _
  | setFlag =>
    exact (tame_keyword _ _).bind fun _ => (tame_keyword _ _).maybe.bind fun _ =>
      tame_numeral.maybe.bind fun _ => tame_word.many1.bind fun _ => tame_pure _

end Sentences

end Parser

namespace Rule

def whole (rule : Rule) : Parser Sentence := do
  let sentence ← rule.sentence
  Parser.done
  pure sentence

theorem tame_whole (rule : Rule) : rule.whole.Tame :=
  (Parser.tame_sentence rule).bind fun _ => Parser.tame_done.bind fun _ => Parser.tame_pure _

theorem read_eq (rule : Rule) (cursor : Cursor) :
    rule.read cursor = Parser.attempt rule.whole (.ofTokens cursor.tokens) := rfl

theorem tokens_read (rule : Rule) (cursor : Cursor) :
    (rule.read cursor).2.tokens = cursor.tokens := by
  rw [read_eq, rule.tame_whole.attempt.ahead]
  rfl

def sentence? (rule : Rule) (tokens : List Token) : Option Sentence :=
  (rule.read (.ofTokens tokens)).1.node?

theorem sentence?_eq (rule : Rule) (tokens : List Token) :
    rule.sentence? tokens =
      match rule.sentence (.ofTokens tokens) with
      | (.found sentence, after) => if after.rest = [] then some sentence else none
      | _ => none := by
  have tried : rule.sentence? tokens =
      (Parser.attempt rule.whole (.ofTokens tokens)).1.node? := rfl
  rw [tried, rule.tame_whole.node?_attempt, whole, Parser.bind_apply]
  rcases rule.sentence (.ofTokens tokens) with ⟨found | _ | _, after⟩
  · by_cases atEnd : after.rest = []
    · simp only [Parser.bind_apply, Parser.done, Cursor.isAtEnd_iff, atEnd, if_true]
      rfl
    · simp only [Parser.bind_apply, Parser.done, Cursor.isAtEnd_iff, atEnd, if_false]
      rfl
  · rfl
  · rfl

end Rule

theorem firstSentence?_eq (rules : List Rule) (cursor : Cursor) :
    firstSentence? rules cursor = rules.findSome? fun rule => rule.sentence? cursor.tokens := by
  induction rules generalizing cursor with
  | nil => rfl
  | cons rule rest ih =>
    have same : rule.read (.ofTokens cursor.tokens) = rule.read cursor := rfl
    have tokens := rule.tokens_read cursor
    rw [firstSentence?, List.findSome?_cons, Rule.sentence?, same]
    revert tokens
    rcases rule.read cursor with ⟨_ | _ | _, after⟩
    · exact fun _ => rfl
    -- A rule starts anew, so of the cursor that the rule before it leaves only the tokens count.
    all_goals
      intro tokens
      have unchanged : after.tokens = cursor.tokens := tokens
      exact (ih after).trans (by rw [unchanged]; rfl)

theorem Sentence.ofTokens?_eq (tokens : List Token) :
    Sentence.ofTokens? tokens = Rule.all.findSome? fun rule => rule.sentence? tokens :=
  firstSentence?_eq Rule.all (.ofTokens tokens)

end Inventory
