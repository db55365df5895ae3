import Inventory.Proofs.Readers
import Mathlib.Data.List.Perm.Basic

set_option autoImplicit false

namespace Inventory

theorem Span.covering?_eq_some {spans : List Span} {whole : Span}
    (covering : Span.covering? spans = some whole) :
    ∃ first last, spans.head? = some first ∧ spans.getLast? = some last ∧
      whole = first.through last := by
  unfold Span.covering? at covering
  split at covering
  next first last opens closes => exact ⟨first, last, opens, closes, (Option.some.inj covering).symm⟩
  next => cases covering

theorem Span.covering?_append {spans others : List Span} {a b : Span}
    (one : Span.covering? spans = some a) (other : Span.covering? others = some b) :
    Span.covering? (spans ++ others) = some (a.through b) := by
  obtain ⟨first, _, opens, _, rfl⟩ := Span.covering?_eq_some one
  obtain ⟨_, last, _, closes, rfl⟩ := Span.covering?_eq_some other
  simp [Span.covering?, List.head?_append, List.getLast?_append, opens, closes, Span.through]

/-- Blocks over groups of neighbouring tokens, such that each token is in one group. The order of the
blocks does not matter. -/
def Tiles (tokens : List Token) (blocks : List Block) : Prop :=
  ∃ (groups : List (List Token)) (spans : List Span), groups.flatten = tokens ∧
    (groups.map fun group => Span.covering? (group.map Token.span)) = spans.map some ∧
    spans.Perm (blocks.map Block.span)

namespace Tiles

theorem nil : Tiles [] [] := ⟨[], [], rfl, rfl, .nil⟩

theorem group {tokens : List Token} {block : Block}
    (covering : Span.covering? (tokens.map Token.span) = some block.span) : Tiles tokens [block] :=
  ⟨[tokens], [block.span], by simp, by simp [covering], .rfl⟩

theorem single (token : Token) (shade : Shade) : Tiles [token] [⟨token.span, shade⟩] :=
  group rfl

theorem append {first second : List Token} {before after : List Block} (one : Tiles first before)
    (other : Tiles second after) : Tiles (first ++ second) (before ++ after) := by
  obtain ⟨groups, spans, rfl, covering, shown⟩ := one
  obtain ⟨more, further, rfl, others, showing⟩ := other
  refine ⟨groups ++ more, spans ++ further, List.flatten_append, ?_, ?_⟩
  · rw [List.map_append, List.map_append, covering, others]
  · rw [List.map_append]
    exact shown.append showing

theorem perm {tokens : List Token} {before after : List Block} (tiles : Tiles tokens before)
    (same : before.Perm after) : Tiles tokens after := by
  obtain ⟨groups, spans, whole, covering, shown⟩ := tiles
  exact ⟨groups, spans, whole, covering, shown.trans (same.map _)⟩

theorem covering?_of_single {tokens : List Token} {block : Block} (tiles : Tiles tokens [block]) :
    Span.covering? (tokens.map Token.span) = some block.span := by
  obtain ⟨groups, spans, rfl, covering, shown⟩ := tiles
  rw [List.perm_singleton.1 shown] at covering
  obtain ⟨group, rfl, covered⟩ := List.map_eq_singleton_iff.1 covering
  simpa using covered

theorem join {first second : List Token} {a b : Block} (one : Tiles first [a])
    (other : Tiles second [b]) (shade : Shade) :
    Tiles (first ++ second) [⟨a.span.through b.span, shade⟩] := by
  refine group ?_
  rw [List.map_append]
  exact Span.covering?_append one.covering?_of_single other.covering?_of_single

end Tiles

namespace Parser

variable {α β : Type}

/-- What is read after `before` is shown, together with that, by `after`. -/
def Covers (before : List Block) (parser : Parser α) (after : α → List Block) : Prop :=
  ∀ cursor node next, parser cursor = (.found node, next) →
    ∃ taken, cursor.rest = taken ++ next.rest ∧
      ∀ done, Tiles done before → Tiles (done ++ taken) (after node)

def Shows (parser : Parser α) (marks : α → List Block) : Prop :=
  ∀ cursor node next, parser cursor = (.found node, next) →
    ∃ taken, cursor.rest = taken ++ next.rest ∧ Tiles taken (marks node)

theorem Shows.covers {parser : Parser α} {marks : α → List Block} (shows : Shows parser marks)
    (before : List Block) : Covers before parser fun node => before ++ marks node := by
  intro cursor node next found
  obtain ⟨taken, way, tiles⟩ := shows cursor node next found
  exact ⟨taken, way, fun _ shown => shown.append tiles⟩

theorem Covers.shows {parser : Parser α} {marks : α → List Block}
    (covers : Covers [] parser marks) : Shows parser marks := by
  intro cursor node next found
  obtain ⟨taken, way, tiles⟩ := covers cursor node next found
  exact ⟨taken, way, tiles [] .nil⟩

theorem covers_pure {before : List Block} {node : α} {after : α → List Block}
    (same : before.Perm (after node)) : Covers before (pure node) after := by
  rintro cursor _ _ ⟨⟩
  exact ⟨[], rfl, fun _ shown => by simpa using shown.perm same⟩

theorem covers_fail {before : List Block} {after : α → List Block} :
    Covers before (fail : Parser α) after := by
  rintro cursor _ _ ⟨⟩

theorem Covers.step {before middle : List Block} {parser : Parser α} {further : Parser β}
    {between : α → List Block} {after : β → List Block} (first : Covers before parser between)
    {cursor next last : Cursor} {node : α} {result : β} (reached : parser cursor = (.found node, next))
    (second : Covers middle further after) (same : middle = between node)
    (found : further next = (.found result, last)) :
    ∃ taken, cursor.rest = taken ++ last.rest ∧
      ∀ done, Tiles done before → Tiles (done ++ taken) (after result) := by
  obtain ⟨taken, way, tiles⟩ := first _ _ _ reached
  obtain ⟨more, longer, others⟩ := second _ _ _ found
  refine ⟨taken ++ more, by rw [way, longer, List.append_assoc], fun done shown => ?_⟩
  rw [← List.append_assoc]
  exact others _ (same ▸ tiles done shown)

theorem Covers.bind {before : List Block} {parser : Parser α} {further : α → Parser β}
    {between : α → List Block} {after : β → List Block} (first : Covers before parser between)
    (second : ∀ node, Covers (between node) (further node) after) :
    Covers before (parser >>= further) after := by
  intro cursor node last found
  rw [bind_apply] at found
  split at found
  next middle next reached => exact first.step reached (second middle) rfl found
  next => cases found

theorem Covers.ifFound {before : List Block} {parser : Parser α} {yes : α → Parser β}
    {no : Parser β} {between : α → List Block} {after : β → List Block}
    (tried : Covers before parser between) (first : ∀ node, Covers (between node) (yes node) after)
    (second : Covers before no after) : Covers before (ifFound parser yes no) after := by
  intro cursor node last found
  rw [Parser.ifFound] at found
  split at found
  next middle next reached => exact tried.step reached (first middle) rfl found
  next => exact second _ _ _ found

theorem Covers.ite {c : Prop} [Decidable c] {before : List Block} {yes no : Parser α}
    {after : α → List Block} (first : Covers before yes after) (second : Covers before no after) :
    Covers before (if c then yes else no) after := by
  split
  · exact first
  · exact second

theorem covers_ofOption {before : List Block} {after : List Block} (node : Option α)
    (same : before.Perm after) : Covers before (ofOption node) fun _ => after := by
  cases node with
  | none => exact covers_fail
  | some node => exact covers_pure same

theorem Shows.attempt {parser : Parser α} {marks : α → List Block} (shows : Shows parser marks) :
    Shows (attempt parser) marks := by
  intro cursor node last found
  cases reached : parser cursor.push with
  | mk outcome after =>
    rw [Parser.attempt, reached] at found
    obtain ⟨rfl, rfl⟩ := Prod.mk.inj found
    obtain ⟨taken, way, tiles⟩ := shows _ _ _ reached
    exact ⟨taken, way, tiles⟩

theorem Shows.maybe {parser : Parser α} {marks : α → List Block} (tame : Tame parser)
    (shows : Shows parser marks) : Shows (maybe parser) fun found => found.toList.flatMap marks := by
  rw [tame.maybe_eq]
  exact ((shows.covers []).ifFound (fun _ => covers_pure (by simp)) (covers_pure (by simp))).shows

theorem Shows.many {parser : Parser α} {marks : α → List Block} (tame : Tame parser)
    (shows : Shows parser marks) : Shows (many parser) fun nodes => nodes.flatMap marks := by
  have some (limit : Nat) : Shows (atMost parser limit) fun nodes => nodes.flatMap marks := by
    induction limit with
    | zero => exact Covers.shows (covers_pure (by simp))
    | succ limit ih =>
      rw [atMost_succ tame]
      refine Covers.shows <| (shows.covers []).ifFound (fun node => ?_) (covers_pure .nil)
      exact (ih.covers _).bind fun nodes => covers_pure (by simp)
  exact fun cursor => some (cursor.ahead + 1) cursor

theorem Shows.many1 {parser : Parser α} {marks : α → List Block} (tame : Tame parser)
    (shows : Shows parser marks) : Shows (many1 parser) fun nodes => nodes.flatMap marks :=
  Covers.shows <| ((shows.many tame).covers []).bind fun _ =>
    covers_fail.ite (covers_pure (by simp))

theorem Shows.orElse {first second : Parser α} {marks : α → List Block} (back : GoesBack first)
    (one : Shows first marks) (other : Shows second marks) : Shows (orElse first second) marks := by
  rw [back.orElse_eq]
  exact ((one.covers []).ifFound (fun _ => covers_pure (by simp)) (other.covers [])).shows

theorem Shows.withAhead {parser : Nat → Parser α} {marks : α → List Block}
    (shows : ∀ n, Shows (parser n) marks) : Shows (withAhead parser) marks :=
  fun cursor => shows cursor.ahead cursor

theorem Shows.map {parser : Parser α} {marks : α → List Block} (shows : Shows parser marks)
    {f : α → β} {others : β → List Block} (same : ∀ node, others (f node) = marks node) :
    Shows (parser >>= fun node => pure (f node)) others :=
  ((shows.covers []).bind fun node => covers_pure (by simp [same])).shows

section Words

theorem rest_of_next {cursor after : Cursor} {token : Token}
    (found : next cursor = (.found token, after)) : cursor.rest = token :: after.rest := by
  rw [next, cursor.peek_eq] at found
  split at found
  next ahead =>
    cases found
    obtain ⟨others, whole⟩ := List.head?_eq_some_iff.1 ahead
    have rest : ({ cursor with position := cursor.position + 1 } : Cursor).rest = cursor.rest.drop 1 :=
      cursor.rest_advance 1
    rw [rest, whole]
    rfl
  next => cases found

theorem rest_of_nextThat {p : Token → Bool} {cursor after : Cursor} {token : Token}
    (found : nextThat p cursor = (.found token, after)) : cursor.rest = token :: after.rest := by
  rw [nextThat, bind_apply] at found
  split at found
  next read next reached =>
    cases fits : p read <;> rw [fits] at found <;> cases found
    exact rest_of_next reached
  next => cases found

theorem shows_next (shade : Shade) : Shows next fun token => [⟨token.span, shade⟩] :=
  fun _ token _ found => ⟨[token], rest_of_next found, .single token shade⟩

theorem shows_nextThat (p : Token → Bool) (shade : Shade) :
    Shows (nextThat p) fun token => [⟨token.span, shade⟩] :=
  fun _ token _ found => ⟨[token], rest_of_nextThat found, .single token shade⟩

theorem shows_numeral (shade : Shade) : Shows numeral (Numeral.marks shade) := by
  refine .attempt <| Covers.shows <| ((shows_next shade).covers []).bind fun token => ?_
  exact (covers_ofOption _ .rfl).bind fun _ => covers_pure .rfl

theorem shows_word (shade : Shade) : Shows word fun name => [⟨name.span, shade⟩] :=
  .attempt <| (shows_nextThat _ shade).map fun _ => rfl

theorem shows_keyword (words : List String) (shade : Shade) :
    Shows (keyword words shade) Keyword.marks :=
  .attempt <| (shows_nextThat _ shade).map fun _ => rfl

theorem shows_symbol (c : Char) (shade : Shade) : Shows (symbol c) fun span => [⟨span, shade⟩] :=
  .attempt <| (shows_nextThat _ shade).map fun _ => rfl

theorem taken_phraseSpans {words : List String} {cursor last : Cursor} {spans : List Span}
    (found : phraseSpans words cursor = (.found spans, last)) :
    ∃ taken, cursor.rest = taken ++ last.rest ∧ taken.map Token.span = spans := by
  induction words generalizing cursor spans with
  | nil =>
    cases found
    exact ⟨[], rfl, rfl⟩
  | cons word rest ih =>
    rw [phraseSpans, bind_apply] at found
    split at found
    next token next reached =>
      rw [bind_apply] at found
      split at found
      next others last more =>
        cases found
        obtain ⟨taken, way, rfl⟩ := ih more
        exact ⟨token :: taken, by rw [rest_of_nextThat reached, way]; rfl, rfl⟩
      next => cases found
    next => cases found

theorem shows_phrase (words : List String) (shade : Shade) :
    Shows (phrase words shade) Keyword.marks := by
  refine .attempt fun cursor keyword last found => ?_
  rw [bind_apply] at found
  split at found
  next spans next reached =>
    obtain ⟨taken, way, rfl⟩ := taken_phraseSpans reached
    cases covering : Span.covering? (taken.map Token.span) with
    | none =>
      rw [covering] at found
      cases found
    | some span =>
      rw [covering] at found
      cases found
      exact ⟨taken, way, .group covering⟩
  next => cases found

theorem shows_superKeyword (name : String) : Shows (superKeyword name) Keyword.marks := by
  refine .attempt <| Covers.shows <| ((shows_symbol '!' .superCommand).covers []).bind fun bang => ?_
  intro cursor verb last found
  rw [bind_apply] at found
  split at found
  next rest next reached =>
    cases found
    -- One block shows both the sign and the word, so the word's own block must not stay.
    obtain ⟨taken, way, tiles⟩ := shows_keyword _ _ _ _ _ reached
    exact ⟨taken, way, fun done shown => shown.join tiles .superCommand⟩
  next => cases found

end Words

section Clauses

theorem shows_slotClause (prepositions : List String) :
    Shows (slotClause prepositions) SlotClause.marks := by
  refine .attempt <| Covers.shows <| ((shows_keyword _ _).covers []).bind fun preposition => ?_
  refine ((shows_keyword _ _).covers _).bind fun slot => ?_
  refine ((shows_numeral .slotNumber).covers _).bind fun number => ?_
  exact covers_pure (by simp [SlotClause.marks])

theorem shows_metaValue : Shows metaValue MetaValue.marks :=
  .orElse (goesBack_numeral.map _) ((shows_numeral .metaValue).map fun _ => rfl)
    ((shows_word .metaConst).map fun _ => rfl)

theorem shows_metaPair : Shows metaPair MetaPair.marks := by
  have separator : Shows (orElse (symbol '=') (symbol ':')) fun span => [⟨span, .delimiter⟩] :=
    .orElse (goesBack_symbol '=') (shows_symbol '=' _) (shows_symbol ':' _)
  refine .attempt <| Covers.shows <| ((shows_word .metaKey).covers []).bind fun key => ?_
  refine ((separator.maybe tame_separator).covers _).bind fun found => ?_
  cases found with
  | none => exact covers_pure (by simp [MetaPair.marks])
  | some span =>
    refine (shows_metaValue.covers _).bind fun value => covers_pure (by simp [MetaPair.marks])

theorem shows_morePairs (limit : Nat) : Shows (morePairs limit) fun pairs =>
    pairs.flatMap fun pair => ⟨pair.1, .delimiter⟩ :: pair.2.marks := by
  induction limit with
  | zero => exact Covers.shows (covers_pure (by simp))
  | succ limit ih =>
    refine Covers.shows <| (((shows_symbol ',' .delimiter).maybe (tame_symbol ',')).covers []).bind
      fun found => ?_
    cases found with
    | none => exact covers_pure (by simp)
    | some comma =>
      refine (shows_metaPair.covers _).bind fun pair => (ih.covers _).bind fun rest => ?_
      exact covers_pure (by simp)

theorem shows_metaClause : Shows metaClause MetaClause.marks := by
  refine .attempt <| Covers.shows <| ((shows_symbol '[' .delimiter).covers []).bind fun opening => ?_
  refine (shows_metaPair.covers _).bind fun first => ?_
  refine ((Shows.withAhead shows_morePairs).covers _).bind fun rest => ?_
  refine ((shows_symbol ']' .delimiter).covers _).bind fun closing => covers_pure ?_
  -- The delimiters come first, wherever they stand.
  have apart := List.map_append_flatMap_perm rest (fun pair => (⟨pair.1, .delimiter⟩ : Block))
    fun pair => pair.2.marks
  rw [List.perm_iff_count] at apart ⊢
  intro block
  have := apart block
  simp only [MetaClause.marks, List.map_append, List.map_cons, List.map_map, List.map_nil,
    List.flatMap_cons, List.flatMap_map, Function.comp_def, List.count_append, List.count_cons,
    List.count_nil] at *
  omega

end Clauses

section Items

theorem shows_nameWords (limit : Nat) : Shows (nameWords limit) (Word.marks .itemName) := by
  induction limit with
  | zero => exact Covers.shows (covers_pure (by simp [Word.marks]))
  | succ limit ih =>
    have looks : Shows atSlotClause fun _ => [] := by
      rintro cursor _ _ found
      rw [atSlotClause_eq] at found
      cases found
      exact ⟨[], rfl, .nil⟩
    refine Covers.shows <| (looks.covers []).bind fun _ => Covers.ite (covers_pure (by simp [Word.marks])) ?_
    refine (((shows_word .itemName).maybe tame_word).covers _).bind fun found => ?_
    cases found with
    | none => exact covers_pure (by simp [Word.marks])
    | some first => exact (ih.covers _).bind fun rest => covers_pure (by simp [Word.marks])

theorem shows_allWord (quantity : Quantity) :
    Shows (allWord quantity) fun all => all.toList.flatMap Keyword.marks := by
  refine Covers.shows (.ite ?_ (covers_pure (by simp)))
  exact ((shows_keyword _ _).maybe (tame_keyword _ _)).covers []

theorem shows_amountWord (quantity : Quantity) (all : Option Keyword) :
    Shows (amountWord quantity all) fun amount => amount.toList.flatMap (Numeral.marks .amount) := by
  refine Covers.shows (.ite (covers_pure (by simp)) ?_)
  exact ((shows_numeral .amount).maybe tame_numeral).covers []

theorem shows_itemPhrase (quantity : Quantity) : Shows (itemPhrase quantity) ItemPhrase.marks := by
  refine .attempt <| Covers.shows <| ((shows_allWord quantity).covers []).bind fun all => ?_
  refine ((shows_amountWord quantity all).covers _).bind fun amount => ?_
  refine ((Shows.withAhead shows_nameWords).covers _).bind fun words => covers_fail.ite ?_
  refine ((shows_metaClause.maybe tame_metaClause).covers _).bind fun clause => covers_pure ?_
  -- `all` is read before the amount, but stands after it in the marks.
  simp only [ItemPhrase.marks, List.nil_append, List.append_assoc]
  exact List.perm_append_comm_assoc _ _ _

theorem shows_slot (prepositions : List String) :
    Shows (maybe (slotClause prepositions)) slotMarks :=
  (shows_slotClause prepositions).maybe (tame_slotClause prepositions)

theorem shows_items (quantity : Quantity) : Shows (many (itemPhrase quantity)) itemMarks :=
  (shows_itemPhrase quantity).many (tame_itemPhrase quantity)

theorem shows_items1 (quantity : Quantity) : Shows (many1 (itemPhrase quantity)) itemMarks :=
  (shows_itemPhrase quantity).many1 (tame_itemPhrase quantity)

theorem shows_removal : Shows removal Removal.marks :=
  Covers.shows <| ((shows_items1 _).covers []).bind fun items => ((shows_slot _).covers _).bind
    fun slot => covers_pure (by simp [Removal.marks])

theorem shows_withClause :
    Shows withClause fun along => along.keyword.marks ++ along.removal.marks :=
  Covers.shows <| ((shows_keyword _ _).covers []).bind fun keyword =>
    (shows_removal.covers _).bind fun removal => covers_pure (by simp)

end Items

section Sentences

theorem shows_trialVerb : Shows trialVerb fun verb => verb.1.marks :=
  .orElse ((goesBack_keyword _ _).map _) ((shows_keyword _ _).map fun _ => rfl)
    ((shows_keyword _ _).map fun _ => rfl)

theorem shows_obtainVerb : Shows obtainVerb Keyword.marks :=
  .orElse (goesBack_keyword _ _) (shows_keyword _ _) (shows_phrase _ _)

theorem shows_removeVerb : Shows removeVerb fun verb => verb.1.marks :=
  .orElse ((goesBack_keyword _ _).map _) ((shows_keyword _ _).map fun _ => rfl) <|
    .orElse ((goesBack_keyword _ _).map _) ((shows_keyword _ _).map fun _ => rfl)
      ((shows_keyword _ _).map fun _ => rfl)

theorem shows_equipVerb : Shows equipVerb fun verb => verb.1.marks :=
  .orElse ((goesBack_keyword _ _).map _) ((shows_keyword _ _).map fun _ => rfl)
    ((shows_keyword _ _).map fun _ => rfl)

theorem shows_kindWords : Shows kindWords fun named => Word.marks .itemName named.1 := by
  refine .attempt <| Covers.shows <| ((shows_word .itemName).covers []).bind fun first => ?_
  refine .ite (((shows_word .itemName).covers _).bind fun second => ?_) ?_
  · exact Covers.ite (covers_pure (by simp [Word.marks])) covers_fail
  · exact (covers_ofOption _ .rfl).bind fun kinds => covers_pure (by simp [Word.marks])

theorem shows_names (shade : Shade) : Shows (many word) (Word.marks shade) := by
  have shows := (shows_word shade).many tame_word
  simp only [← List.map_eq_flatMap] at shows
  exact shows

theorem shows_names1 (shade : Shade) : Shows (many1 word) (Word.marks shade) := by
  have shows := (shows_word shade).many1 tame_word
  simp only [← List.map_eq_flatMap] at shows
  exact shows

theorem shows_sentence (rule : Rule) : Shows rule.sentence Sentence.marks := by
  cases rule with
  | startGameData =>
    refine Covers.shows <| ((shows_keyword _ _).covers []).bind fun verb => ?_
    refine ((shows_keyword _ _).covers _).bind fun gameData => ?_
    exact ((shows_items _).covers _).bind fun items => covers_pure (by simp [Sentence.marks])
  | start =>
    refine Covers.shows <| ((shows_keyword _ _).covers []).bind fun verb => ?_
    exact ((shows_items _).covers _).bind fun items => covers_pure (by simp [Sentence.marks])
  | write =>
    refine Covers.shows <| ((shows_keyword _ _).covers []).bind fun verb => ?_
    refine (shows_metaClause.covers _).bind fun clause => ?_
    refine ((shows_keyword _ _).covers _).bind fun toWord => ?_
    refine ((shows_itemPhrase _).covers _).bind fun item => ?_
    refine ((shows_slot _).covers _).bind fun slot => covers_pure ?_
    -- The clause is read before `to`, but stands after it in the marks.
    simp only [Sentence.marks, List.nil_append, List.append_assoc]
    exact List.Perm.append_left _ (List.perm_append_comm_assoc _ _ _)
  | swap =>
    refine Covers.shows <| ((shows_superKeyword _).covers []).bind fun verb => ?_
    refine ((shows_numeral .slotNumber).covers _).bind fun first => ?_
    exact ((shows_numeral .slotNumber).covers _).bind fun second =>
      covers_pure (by simp [Sentence.marks])
  | sortMaterials =>
    refine Covers.shows <| ((shows_superKeyword _).covers []).bind fun verb => ?_
    exact ((shows_keyword _ _).covers _).bind fun target => covers_pure (by simp [Sentence.marks])
  | addSlots =>
    refine Covers.shows <| ((shows_superKeyword _).covers []).bind fun verb => ?_
    refine ((shows_keyword _ _).covers _).bind fun slot => ?_
    refine ((shows_items1 _).covers _).bind fun items => ?_
    exact ((shows_slotClause _).covers _).bind fun place => covers_pure (by simp [Sentence.marks])
  | trial =>
    refine Covers.shows <| (shows_trialVerb.covers []).bind fun verb => ?_
    refine ((shows_word .metaConst).covers _).bind fun name => ?_
    exact (covers_ofOption _ .rfl).bind fun trial =>
      covers_pure (by simp [Sentence.marks, Word.marks])
  | obtain =>
    refine Covers.shows <| (shows_obtainVerb.covers []).bind fun verb => ?_
    exact ((shows_items1 _).covers _).bind fun items => covers_pure (by simp [Sentence.marks])
  | removeKinds | unequipKinds =>
    refine Covers.shows <| ((shows_keyword _ _).covers []).bind fun verb => ?_
    refine ((shows_keyword _ _).covers _).bind fun all => ?_
    exact (shows_kindWords.covers _).bind fun named => covers_pure (by simp [Sentence.marks])
  | remove =>
    refine Covers.shows <| (shows_removeVerb.covers []).bind fun verb => ?_
    exact (shows_removal.covers _).bind fun removal => covers_pure (by simp [Sentence.marks])
  | equip =>
    refine Covers.shows <| (shows_equipVerb.covers []).bind fun verb => ?_
    refine ((shows_itemPhrase _).covers _).bind fun item => ?_
    refine ((shows_slot _).covers _).bind fun slot => covers_pure ?_
    cases verb.2 <;> simp [Sentence.marks]
  | shoot =>
    refine Covers.shows <| ((shows_keyword _ _).covers []).bind fun verb => ?_
    refine (((shows_numeral .amount).maybe tame_numeral).covers _).bind fun amount => ?_
    exact ((shows_keyword _ _).covers _).bind fun arrows => covers_pure (by simp [Sentence.marks])
  | save =>
    refine Covers.shows <| ((shows_keyword _ _).covers []).bind fun verb => ?_
    refine (((shows_keyword _ _).maybe (tame_keyword _ _)).covers _).bind fun as => ?_
    cases as with
    | none => exact covers_pure (by simp [Sentence.marks, Word.marks])
    | some as =>
      exact ((shows_names1 .metaConst).covers _).bind fun name => covers_pure (by simp [Sentence.marks])
  | reload =>
    refine Covers.shows <| ((shows_keyword _ _).covers []).bind fun verb => ?_
    exact ((shows_names .metaConst).covers _).bind fun name => covers_pure (by simp [Sentence.marks])
  | useSave =>
    refine Covers.shows <| ((shows_keyword _ _).covers []).bind fun verb => ?_
    exact ((shows_names1 .metaConst).covers _).bind fun name => covers_pure (by simp [Sentence.marks])
  | breakSlots =>
    refine Covers.shows <| ((shows_keyword _ _).covers []).bind fun verb => ?_
    refine ((shows_numeral .amount).covers _).bind fun count => ?_
    refine ((shows_keyword _ _).covers _).bind fun slots => ?_
    refine ((shows_withClause.maybe tame_withClause).covers _).bind fun along => covers_pure ?_
    -- Likewise the count and `slots`.
    simp only [Sentence.marks, List.nil_append, List.append_assoc]
    exact List.Perm.append_left _ (List.perm_append_comm_assoc _ _ _)
  | closeGame =>
    have shows : Shows (orElse (phrase ["close", "game"] .command) (phrase ["exit", "game"] .command))
        Keyword.marks :=
      .orElse (goesBack_phrase _ _) (shows_phrase _ _) (shows_phrase _ _)
    exact Covers.shows <| (shows.covers []).bind fun phrase =>
      covers_pure (by simp [Sentence.marks])
  | sync =>
    refine Covers.shows <| ((shows_phrase _ _).covers []).bind fun phrase => ?_
    exact covers_pure (by simp [Sentence.marks])
  | setFlag =>
    refine Covers.shows <| ((shows_keyword _ _).covers []).bind fun verb => ?_
    refine (((shows_keyword _ _).maybe (tame_keyword _ _)).covers _).bind fun not => ?_
    refine (((shows_numeral .amount).maybe tame_numeral).covers _).bind fun value => ?_
    exact ((shows_names1 .metaKey).covers _).bind fun flag => covers_pure (by simp [Sentence.marks])

end Sentences

end Parser

end Inventory
