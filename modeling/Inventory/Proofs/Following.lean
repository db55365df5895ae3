import Inventory.Proofs.Motion
import Inventory.Proofs.Readers

set_option autoImplicit false

namespace Inventory

def Cursor.move (motion : Motion) (cursor : Cursor) : Cursor :=
  { cursor with tokens := cursor.tokens.map motion.token }

def Outcome.map {α β : Type} (f : α → β) : Outcome α → Outcome β
  | found node => .found (f node)
  | absent => .absent
  | failed => .failed

@[simp] theorem Outcome.node?_map {α β : Type} (f : α → β) (outcome : Outcome α) :
    (outcome.map f).node? = outcome.node?.map f := by
  cases outcome <;> rfl

@[simp] theorem Cursor.ahead_move (motion : Motion) (cursor : Cursor) :
    (cursor.move motion).ahead = cursor.ahead := by
  simp [move, ahead]

namespace Parser

variable {α β : Type} {motion : Motion}

/-- On tokens elsewhere the second parser finds what the first one finds, but elsewhere. -/
def Follows (motion : Motion) (f : α → α) (parser other : Parser α) : Prop :=
  ∀ cursor, other (cursor.move motion) = ((parser cursor).1.map f, (parser cursor).2.move motion)

theorem follows_pure {f : α → α} {node moved : α} (same : f node = moved) :
    Follows motion f (pure node) (pure moved) := fun _ => by
  rw [← same]
  rfl

theorem follows_fail {f : α → α} : Follows motion f fail fail := fun _ => rfl

theorem follows_ofOption {f : α → α} {node moved : Option α} (same : node.map f = moved) :
    Follows motion f (ofOption node) (ofOption moved) := by
  subst same
  cases node with
  | none => exact follows_fail
  | some node => exact follows_pure rfl

theorem follows_unmoved (node : Option α) : Follows motion id (ofOption node) (ofOption node) :=
  follows_ofOption (by simp)

theorem follows_next : Follows motion motion.token next next := by
  intro cursor
  have peek : (cursor.move motion).peek = cursor.peek.map motion.token := by
    simp [Cursor.peek, Cursor.move]
  rw [next, next, peek]
  cases cursor.peek <;> rfl

theorem follows_done : Follows motion id done done := by
  intro cursor
  have atEnd : (cursor.move motion).isAtEnd = cursor.isAtEnd := by
    simp [Cursor.isAtEnd, Cursor.move]
  rw [done, done, atEnd]
  cases cursor.isAtEnd <;> rfl

theorem Follows.bind {f : α → α} {g : β → β} {parser other : Parser α}
    {further others : α → Parser β} (first : Follows motion f parser other)
    (second : ∀ node, Follows motion g (further node) (others (f node))) :
    Follows motion g (parser >>= further) (other >>= others) := by
  intro cursor
  rw [bind_apply, bind_apply, first]
  rcases parser cursor with ⟨node | _ | _, after⟩
  · exact second node after
  · rfl
  · rfl

theorem Follows.ite {f : α → α} {c d : Prop} [Decidable c] [Decidable d]
    {yes no yes' no' : Parser α} (same : d ↔ c) (first : Follows motion f yes yes')
    (second : Follows motion f no no') :
    Follows motion f (if c then yes else no) (if d then yes' else no') := by
  by_cases holds : c
  · rw [if_pos holds, if_pos (same.2 holds)]
    exact first
  · rw [if_neg holds, if_neg (mt same.1 holds)]
    exact second

theorem Follows.attempt {f : α → α} {parser other : Parser α}
    (follows : Follows motion f parser other) :
    Follows motion f (attempt parser) (attempt other) := by
  intro cursor
  have tried : other (cursor.move motion).push = _ := follows cursor.push
  rw [Parser.attempt, Parser.attempt, tried]
  rcases parser cursor.push with ⟨_ | _ | _, after⟩
  · rfl
  · by_cases stays : cursor.position = after.position <;>
      simp [Outcome.map, goesBack, Cursor.move, Cursor.pop, Cursor.restore, stays]
  · rfl

theorem Follows.maybe {f : α → α} {parser other : Parser α}
    (follows : Follows motion f parser other) :
    Follows motion (Option.map f) (maybe parser) (maybe other) := by
  intro cursor
  rw [Parser.maybe, Parser.maybe, optional, optional, follows.attempt]
  rcases Parser.attempt parser cursor with ⟨_ | _ | _, after⟩ <;> rfl

theorem Follows.many {f : α → α} {parser other : Parser α}
    (follows : Follows motion f parser other) :
    Follows motion (List.map f) (many parser) (many other) := by
  have upTo_move (limit : Nat) (cursor : Cursor) : upTo other limit (cursor.move motion) =
      ((upTo parser limit cursor).1.map f, (upTo parser limit cursor).2.move motion) := by
    induction limit generalizing cursor with
    | zero => rfl
    | succ limit ih =>
      rw [upTo, upTo, follows.attempt]
      rcases Parser.attempt parser cursor with ⟨_ | _ | _, after⟩
      · simp [Outcome.map, ih]
      · rfl
      · rfl
  intro cursor
  rw [Parser.many, Parser.many, Cursor.ahead_move, upTo_move]
  rfl

theorem Follows.many1 {f : α → α} {parser other : Parser α}
    (follows : Follows motion f parser other) :
    Follows motion (List.map f) (many1 parser) (many1 other) :=
  follows.many.bind fun nodes => .ite (by simp) follows_fail (follows_pure rfl)

theorem Follows.orElse {f : α → α} {first second first' second' : Parser α}
    (one : Follows motion f first first') (other : Follows motion f second second') :
    Follows motion f (orElse first second) (orElse first' second') := by
  intro cursor
  rw [Parser.orElse, Parser.orElse, one]
  rcases first cursor with ⟨_ | _ | _, after⟩
  · rfl
  · exact other after
  · exact other after

theorem Follows.withAhead {f : α → α} {parser other : Nat → Parser α}
    (follows : ∀ n, Follows motion f (parser n) (other n)) :
    Follows motion f (withAhead parser) (withAhead other) := by
  intro cursor
  rw [Parser.withAhead, Parser.withAhead, Cursor.ahead_move]
  exact follows cursor.ahead cursor

theorem Follows.map {f : α → α} {g : β → β} {parser other : Parser α} {make : α → β}
    (follows : Follows motion f parser other) (same : ∀ node, g (make node) = make (f node)) :
    Follows motion g (parser >>= fun node => pure (make node))
      (other >>= fun node => pure (make node)) :=
  follows.bind fun node => follows_pure (same node)

section Words

theorem follows_nextThat {p : Token → Bool} (same : ∀ token, p (motion.token token) = p token) :
    Follows motion motion.token (nextThat p) (nextThat p) :=
  follows_next.bind fun token => .ite (by rw [same]) (follows_pure rfl) follows_fail

theorem follows_numeral : Follows motion motion.numeral numeral numeral :=
  .attempt <| follows_next.bind fun _ => (follows_unmoved _).bind fun _ => follows_pure rfl

theorem follows_word : Follows motion motion.word word word :=
  .attempt <| (follows_nextThat fun _ => rfl).map fun _ => rfl

theorem follows_keyword (words : List String) (shade : Shade) :
    Follows motion motion.keyword (keyword words shade) (keyword words shade) :=
  .attempt <| (follows_nextThat fun _ => rfl).map fun _ => rfl

theorem follows_symbol (c : Char) : Follows motion motion.span (symbol c) (symbol c) :=
  .attempt <| (follows_nextThat fun _ => rfl).map fun _ => rfl

theorem follows_phraseSpans (words : List String) :
    Follows motion (List.map motion.span) (phraseSpans words) (phraseSpans words) := by
  induction words with
  | nil => exact follows_pure rfl
  | cons word rest ih =>
    exact (follows_nextThat fun _ => rfl).bind fun _ => ih.bind fun _ => follows_pure rfl

theorem covering?_map (spans : List Span) :
    Span.covering? (spans.map motion.span) = (Span.covering? spans).map motion.span := by
  unfold Span.covering?
  rw [List.head?_map, List.getLast?_map]
  cases spans.head? <;> cases spans.getLast? <;> rfl

theorem follows_phrase (words : List String) (shade : Shade) :
    Follows motion motion.keyword (phrase words shade) (phrase words shade) :=
  .attempt <| (follows_phraseSpans words).bind fun spans =>
    (follows_ofOption (covering?_map spans).symm).map fun _ => rfl

theorem follows_superKeyword (name : String) :
    Follows motion motion.keyword (superKeyword name) (superKeyword name) :=
  .attempt <| (follows_symbol '!').bind fun _ => (follows_keyword _ _).bind fun _ => follows_pure rfl

end Words

section Clauses

theorem follows_slotClause (prepositions : List String) :
    Follows motion motion.slotClause (slotClause prepositions) (slotClause prepositions) :=
  .attempt <| (follows_keyword _ _).bind fun _ => (follows_keyword _ _).bind fun _ =>
    follows_numeral.bind fun _ => follows_pure rfl

theorem follows_atSlotClause : Follows motion id atSlotClause atSlotClause := by
  intro cursor
  have tried : slotClause ["in", "from"] (cursor.move motion).push = _ :=
    follows_slotClause _ cursor.push
  rw [atSlotClause, atSlotClause, tried]
  simp only [Outcome.node?_map, Option.isSome_map]
  rfl

theorem follows_metaValue : Follows motion motion.metaValue metaValue metaValue :=
  .orElse (follows_numeral.map fun _ => rfl) (follows_word.map fun _ => rfl)

theorem follows_metaPair : Follows motion motion.metaPair metaPair metaPair := by
  refine .attempt <| follows_word.bind fun key =>
    ((follows_symbol '=').orElse (follows_symbol ':')).maybe.bind fun separator => ?_
  cases separator with
  | none => exact follows_pure rfl
  | some separator => exact follows_metaValue.bind fun _ => follows_pure rfl

theorem follows_morePairs (limit : Nat) :
    Follows motion (List.map (Prod.map motion.span motion.metaPair)) (morePairs limit)
      (morePairs limit) := by
  induction limit with
  | zero => exact follows_pure rfl
  | succ limit ih =>
    refine (follows_symbol ',').maybe.bind fun comma => ?_
    cases comma with
    | none => exact follows_pure rfl
    | some comma => exact follows_metaPair.bind fun _ => ih.bind fun _ => follows_pure rfl

theorem follows_metaClause : Follows motion motion.metaClause metaClause metaClause := by
  refine .attempt <| (follows_symbol '[').bind fun opening => follows_metaPair.bind fun first =>
    (Follows.withAhead follows_morePairs).bind fun rest => (follows_symbol ']').bind fun closing =>
      follows_pure ?_
  -- Commas and pairs are read together and kept apart.
  simp [Motion.metaClause, Function.comp_def]

end Clauses

section Items

theorem follows_nameWords (limit : Nat) :
    Follows motion (List.map motion.word) (nameWords limit) (nameWords limit) := by
  induction limit with
  | zero => exact follows_pure rfl
  | succ limit ih =>
    refine follows_atSlotClause.bind fun _ => .ite .rfl (follows_pure rfl) ?_
    refine follows_word.maybe.bind fun first => ?_
    cases first with
    | none => exact follows_pure rfl
    | some first => exact ih.bind fun _ => follows_pure rfl

theorem follows_allWord (quantity : Quantity) :
    Follows motion (Option.map motion.keyword) (allWord quantity) (allWord quantity) :=
  .ite .rfl (follows_keyword _ _).maybe (follows_pure rfl)

theorem follows_amountWord (quantity : Quantity) (all : Option Keyword) :
    Follows motion (Option.map motion.numeral) (amountWord quantity all)
      (amountWord quantity (all.map motion.keyword)) :=
  .ite (by simp) (follows_pure rfl) follows_numeral.maybe

theorem follows_itemPhrase (quantity : Quantity) :
    Follows motion motion.itemPhrase (itemPhrase quantity) (itemPhrase quantity) :=
  .attempt <| (follows_allWord quantity).bind fun all =>
    (follows_amountWord quantity all).bind fun amount =>
      (Follows.withAhead follows_nameWords).bind fun words =>
        .ite (by simp) follows_fail <| follows_metaClause.maybe.bind fun _ => follows_pure rfl

theorem follows_removal : Follows motion motion.removal removal removal :=
  (follows_itemPhrase _).many1.bind fun _ => (follows_slotClause _).maybe.bind fun _ =>
    follows_pure rfl

theorem follows_withClause : Follows motion motion.withClause withClause withClause :=
  (follows_keyword _ _).bind fun _ => follows_removal.bind fun _ => follows_pure rfl

end Items

section Sentences

theorem follows_verb {γ : Type} (words : List String) (which : γ) :
    Follows motion (Prod.map motion.keyword id)
      (do let verb ← keyword words .command
          pure (verb, which))
      (do let verb ← keyword words .command
          pure (verb, which)) :=
  (follows_keyword words .command).map fun _ => rfl

theorem follows_kindWords :
    Follows motion (Prod.map (List.map motion.word) id) kindWords kindWords :=
  .attempt <| follows_word.bind fun _ => .ite .rfl
    (follows_word.bind fun _ => .ite .rfl (follows_pure rfl) follows_fail)
    ((follows_unmoved _).bind fun _ => follows_pure rfl)

theorem follows_byKind (name : String)
    {sentence : Keyword → Keyword → List Word → List Kind → Sentence}
    (same : ∀ verb all words kinds, motion.sentence (sentence verb all words kinds) =
      sentence (motion.keyword verb) (motion.keyword all) (words.map motion.word) kinds) :
    Follows motion motion.sentence (byKind name sentence) (byKind name sentence) :=
  (follows_keyword _ _).bind fun _ => (follows_keyword _ _).bind fun _ =>
    follows_kindWords.bind fun _ => follows_pure (same ..)

theorem follows_removeVerb :
    Follows motion (Prod.map motion.keyword id) removeVerb removeVerb :=
  (follows_verb _ _).orElse <| (follows_verb _ _).orElse (follows_verb _ _)

theorem follows_sentence (rule : Rule) :
    Follows motion motion.sentence rule.sentence rule.sentence := by
  have word := @follows_keyword motion
  have slot (prepositions : List String) := (@follows_slotClause motion prepositions).maybe
  cases rule with
  | startGameData =>
    exact (word _ _).bind fun _ => (word _ _).bind fun _ => (follows_itemPhrase _).many.bind fun _ =>
      follows_pure rfl
  | start => exact (word _ _).bind fun _ => (follows_itemPhrase _).many.bind fun _ => follows_pure rfl
  | write =>
    exact (word _ _).bind fun _ => follows_metaClause.bind fun _ => (word _ _).bind fun _ =>
      (follows_itemPhrase _).bind fun _ => (slot _).bind fun _ => follows_pure rfl
  | swap =>
    exact (follows_superKeyword _).bind fun _ => follows_numeral.bind fun _ =>
      follows_numeral.bind fun _ => follows_pure rfl
  | sortMaterials =>
    exact (follows_superKeyword _).bind fun _ => (word _ _).bind fun _ => follows_pure rfl
  | addSlots =>
    exact (follows_superKeyword _).bind fun _ => (word _ _).bind fun _ =>
      (follows_itemPhrase _).many1.bind fun _ => (follows_slotClause _).bind fun _ =>
        follows_pure rfl
  | trial =>
    exact ((follows_verb _ _).orElse (follows_verb _ _)).bind fun _ => follows_word.bind fun _ =>
      (follows_unmoved _).bind fun _ => follows_pure rfl
  | obtain =>
    exact ((word _ _).orElse (follows_phrase _ _)).bind fun _ =>
      (follows_itemPhrase _).many1.bind fun _ => follows_pure rfl
  | removeKinds => exact follows_byKind _ fun _ _ _ _ => rfl
  | remove => exact follows_removeVerb.bind fun _ => follows_removal.bind fun _ => follows_pure rfl
  | unequipKinds => exact follows_byKind _ fun _ _ _ _ => rfl
  | equip =>
    refine ((follows_verb _ _).orElse (follows_verb _ _)).bind fun verb =>
      (follows_itemPhrase _).bind fun _ => (slot _).bind fun _ => follows_pure ?_
    -- Which of the two sentences it is does not move with the verb.
    obtain ⟨_, _ | _⟩ := verb <;> rfl
  | shoot =>
    exact (word _ _).bind fun _ => follows_numeral.maybe.bind fun _ => (word _ _).bind fun _ =>
      follows_pure rfl
  | save =>
    refine (word _ _).bind fun _ => (word _ _).maybe.bind fun as => ?_
    cases as with
    | none => exact follows_pure rfl
    | some as => exact follows_word.many1.bind fun _ => follows_pure rfl
  | reload => exact (word _ _).bind fun _ => follows_word.many.bind fun _ => follows_pure rfl
  | useSave => exact (word _ _).bind fun _ => follows_word.many1.bind fun _ => follows_pure rfl
  | breakSlots =>
    exact (word _ _).bind fun _ => follows_numeral.bind fun _ => (word _ _).bind fun _ =>
      follows_withClause.maybe.bind fun _ => follows_pure rfl
  | closeGame =>
    exact ((follows_phrase _ _).orElse (follows_phrase _ _)).bind fun _ => follows_pure rfl
  | sync => exact (follows_phrase _ _).bind fun _ => follows_pure rfl
  | setFlag =>
    exact (word _ _).bind fun _ => (word _ _).maybe.bind fun _ => follows_numeral.maybe.bind fun _ =>
      follows_word.many1.bind fun _ => follows_pure rfl

end Sentences

end Parser

theorem Rule.sentence?_map (motion : Motion) (rule : Rule) (tokens : List Token) :
    rule.sentence? (tokens.map motion.token) = (rule.sentence? tokens).map motion.sentence := by
  have follows : Parser.Follows motion motion.sentence rule.whole rule.whole :=
    (Parser.follows_sentence rule).bind fun _ => Parser.follows_done.bind fun _ =>
      Parser.follows_pure rfl
  have read : rule.read (.ofTokens (tokens.map motion.token)) = _ :=
    follows.attempt (.ofTokens tokens)
  rw [Rule.sentence?, read, Outcome.node?_map]
  rfl

theorem Sentence.ofTokens?_map (motion : Motion) (tokens : List Token) :
    Sentence.ofTokens? (tokens.map motion.token) =
      (Sentence.ofTokens? tokens).map motion.sentence := by
  simp only [Sentence.ofTokens?_eq, Rule.sentence?_map, List.map_findSome?, Function.comp_def]

end Inventory
