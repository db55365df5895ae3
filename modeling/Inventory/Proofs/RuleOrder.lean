import Inventory.Proofs.Refusals
import Inventory.Proofs.Resolution

set_option autoImplicit false

namespace Inventory

theorem Text.sameWord_of_common {a b text : String} (one : sameWord a text)
    (other : sameWord b text) : sameWord a b := by
  simp only [sameWord, beq_iff_eq] at one other ⊢
  rw [one, other]

theorem Trial.ofName?_of_sameWord {word name : String} (small : Text.isSmall word)
    (same : Text.sameWord word name) : ofName? name = ofName? word := by
  have lowered (text : String) (same : Text.sameWord word text) : Text.lower text = word :=
    Text.lower_of_sameWord small same
  rw [ofName?, ofName?, lowered name same, lowered word (by simp [Text.sameWord])]

namespace Parser

variable {tokens rest : List Token} {verb : Keyword}

theorem single_keyword (words : List String) (shade : Shade) :
    Single (keyword words shade) fun token found =>
      isOneOf words token ∧ found = ⟨token.span, shade⟩ := by
  have single := (single_nextThat (isOneOf words)).map
    (fun token => (⟨token.span, shade⟩ : Keyword)) (tame_nextThat _)
  refine (single.attempt ((tame_nextThat _).bind fun _ => tame_pure _)).imp_iff fun token found => ?_
  constructor
  · rintro ⟨_, ⟨fits, rfl⟩, rfl⟩
    exact ⟨fits, rfl⟩
  · rintro ⟨fits, rfl⟩
    exact ⟨token, ⟨fits, rfl⟩, rfl⟩

theorem texts_of_superKeyword {name : String}
    (found : (superKeyword name).finds tokens = some (verb, rest)) :
    ∃ bang second, tokens = bang :: second :: rest ∧ Text.sameWord name second.text := by
  rw [superKeyword, finds_attempt_bind_iff (tame_symbol _)
    fun _ => (tame_keyword _ _).bind fun _ => tame_pure _] at found
  obtain ⟨_, after, first, later⟩ := found
  obtain ⟨bang, rfl, -⟩ := (single_symbol '!' _ _ _).1 first
  obtain ⟨_, named, -⟩ := (finds_map_iff (tame_keyword _ _)).1 later
  obtain ⟨second, rfl, fits, -⟩ := (single_keyword _ _ _ _ _).1 named
  exact ⟨bang, second, rfl, by simpa [isOneOf] using fits⟩

theorem texts_of_phraseSpans {words : List String} {spans : List Span}
    (found : (phraseSpans words).finds tokens = some (spans, rest)) :
    ∃ taken, tokens = taken ++ rest ∧
      List.Forall₂ (fun word token => Text.sameWord word token.text) words taken := by
  induction words generalizing tokens spans with
  | nil =>
    rw [phraseSpans, finds_pure] at found
    cases found
    exact ⟨[], rfl, .nil⟩
  | cons word more ih =>
    rw [phraseSpans, finds_bind_iff (tame_nextThat _)
      fun _ => (tame_phraseSpans _).bind fun _ => tame_pure _] at found
    obtain ⟨_, middle, one, others⟩ := found
    obtain ⟨token, rfl, fits, -⟩ := (single_nextThat _ _ _ _).1 one
    obtain ⟨_, later, -⟩ := (finds_map_iff (tame_phraseSpans _)).1 others
    obtain ⟨taken, rfl, same⟩ := ih later
    exact ⟨token :: taken, rfl, .cons (by simpa [isOneOf] using fits) same⟩

theorem texts_of_phrase {words : List String} {shade : Shade}
    (found : (phrase words shade).finds tokens = some (verb, rest)) :
    ∃ taken, tokens = taken ++ rest ∧
      List.Forall₂ (fun word token => Text.sameWord word token.text) words taken := by
  have covered (spans : List Span) : Tame (ofOption (Span.covering? spans)) := tame_ofOption _
  rw [phrase, finds_attempt_bind_iff (tame_phraseSpans _)
    fun _ => (covered _).bind fun _ => tame_pure _] at found
  obtain ⟨_, after, spans, shown⟩ := found
  obtain ⟨_, covering, -⟩ := (finds_map_iff (covered _)).1 shown
  obtain ⟨-, rfl⟩ := finds_ofOption_iff.1 covering
  exact texts_of_phraseSpans spans

end Parser

namespace Rule

open Inventory.Parser

def Continues (rule : Rule) (second : Option String) : Prop :=
  match rule with
  | swap => ∃ text ∈ second, Text.sameWord "swap" text
  | sortMaterials => ∃ text ∈ second, Text.sameWord "sort" text
  | addSlots => ∃ text ∈ second, Text.sameWord "add" text
  | trial => ∃ text ∈ second, (Trial.ofName? text).isSome
  | closeGame => ∃ text ∈ second, Text.sameWord "game" text
  | _ => True

structure Begins (rule : Rule) (texts : List String) : Prop where
  first : ∃ opening ∈ rule.openings, ∃ text ∈ texts.head?, Text.sameWord opening text
  second : rule.Continues texts[1]?

section Reading

variable {rule : Rule} {tokens : List Token} {sentence : Sentence}

theorem finds_of_sentence? (read : rule.sentence? tokens = some sentence) :
    rule.sentence.finds tokens = some (sentence, []) := by
  rw [sentence?_eq] at read
  rw [(tame_sentence rule).finds_eq]
  split at read
  next found =>
    split at read
    next atEnd =>
      cases read
      rw [found, atEnd]
      rfl
    next => cases read
  next => cases read

theorem opening_of_sentence? (read : rule.sentence? tokens = some sentence) :
    ∃ opening ∈ rule.openings, ∃ text ∈ (tokens.map Token.text).head?,
      Text.sameWord opening text := by
  by_contra other
  have avoids : Avoids rule.openings (tokens.map Token.text) :=
    fun opening member text first same => other ⟨opening, member, text, first, same⟩
  rw [sentence?_of_misses (rule.misses_sentence avoids)] at read
  cases read

theorem name_of_trial (found : trialSentence.finds tokens = some (sentence, [])) :
    ∃ text ∈ (tokens.map Token.text)[1]?, (Trial.ofName? text).isSome := by
  have verbs (words : List String) (active : Bool) :=
    (single_keyword words .command).map (fun verb => (verb, active)) (tame_keyword _ _)
  rw [trialSentence, finds_bind_iff tame_trialVerb fun _ => tame_word.bind fun _ =>
    (tame_ofOption _).bind fun _ => tame_pure _] at found
  obtain ⟨verb, after, start, found⟩ := found
  have opening : ∃ token, tokens = token :: after := by
    rw [trialVerb, finds_orElse_iff ((tame_keyword _ _).bind fun _ => tame_pure _)
      ((goesBack_keyword _ _).map _) ((tame_keyword _ _).bind fun _ => tame_pure _)] at start
    cases start with
    | inl enters =>
      obtain ⟨token, split, -⟩ := (verbs ["enter"] true _ _ _).1 enters
      exact ⟨token, split⟩
    | inr leaves =>
      obtain ⟨token, split, -⟩ := (verbs ["exit", "leave"] false _ _ _).1 leaves.2
      exact ⟨token, split⟩
  obtain ⟨token, rfl⟩ := opening
  obtain ⟨word, later, name, found⟩ := (finds_bind_iff tame_word fun _ =>
    (tame_ofOption _).bind fun _ => tame_pure _).1 found
  obtain ⟨_, rfl, written, span, rfl, rfl⟩ := (single_word _ _ _).1 name
  obtain ⟨trial, known, -⟩ := (finds_map_iff (tame_ofOption _)).1 found
  obtain ⟨known, -⟩ := finds_ofOption_iff.1 known
  exact ⟨written.text, rfl, by rw [known]; rfl⟩

theorem second_of_close (found : closeSentence.finds tokens = some (sentence, [])) :
    ∃ text ∈ (tokens.map Token.text)[1]?, Text.sameWord "game" text := by
  have texts {verb : String} {found : Keyword}
      (phrase : (phrase [verb, "game"] .command).finds tokens = some (found, [])) :
      ∃ text ∈ (tokens.map Token.text)[1]?, Text.sameWord "game" text := by
    obtain ⟨taken, rfl, same⟩ := texts_of_phrase phrase
    obtain _ | ⟨_, _ | ⟨same, _⟩⟩ := same
    exact ⟨_, rfl, same⟩
  have closing : Tame (phrase ["close", "game"] .command) := tame_phrase _ _
  have leaving : Tame (phrase ["exit", "game"] .command) := tame_phrase _ _
  rw [closeSentence, finds_map_iff (closing.orElse (goesBack_phrase _ _) leaving)] at found
  obtain ⟨phrase, found, -⟩ := found
  rw [finds_orElse_iff closing (goesBack_phrase _ _) leaving] at found
  cases found with
  | inl closes => exact texts closes
  | inr exits => exact texts exits.2

theorem continues_of_finds (found : rule.sentence.finds tokens = some (sentence, [])) :
    rule.Continues (tokens.map Token.text)[1]? := by
  have signed {name : String} {further : Keyword → Parser Sentence}
      (second : ∀ verb, Tame (further verb))
      (found : (superKeyword name >>= further).finds tokens = some (sentence, [])) :
      ∃ text ∈ (tokens.map Token.text)[1]?, Text.sameWord name text := by
    obtain ⟨verb, after, start, -⟩ := (finds_bind_iff (tame_superKeyword _) second).1 found
    obtain ⟨bang, token, rfl, same⟩ := texts_of_superKeyword start
    exact ⟨token.text, rfl, same⟩
  cases rule with
  | swap =>
    exact signed (fun _ => tame_numeral.bind fun _ => tame_numeral.bind fun _ => tame_pure _) found
  | sortMaterials => exact signed (fun _ => (tame_keyword _ _).bind fun _ => tame_pure _) found
  | addSlots =>
    exact signed (fun _ => (tame_keyword _ _).bind fun _ => (tame_itemPhrase _).many1.bind fun _ =>
      (tame_slotClause _).bind fun _ => tame_pure _) found
  | trial => exact name_of_trial found
  | closeGame => exact second_of_close found
  | _ => trivial

theorem begins_of_sentence? (read : rule.sentence? tokens = some sentence) :
    rule.Begins (tokens.map Token.text) :=
  ⟨opening_of_sentence? read, continues_of_finds (finds_of_sentence? read)⟩

end Reading

/-- The pairs of rules that read some lines in common, each with the rule in front that has to be tried
first. -/
def overlaps : List (Rule × Rule) :=
  [(startGameData, start), (removeKinds, remove), (unequipKinds, equip)]

def homonyms : List (Rule × Rule) :=
  [(swap, sortMaterials), (swap, addSlots), (sortMaterials, addSlots), (trial, closeGame)]

variable {a b : Rule}

theorem not_continues_of_homonyms {second : Option String} (pair : (a, b) ∈ homonyms)
    (one : a.Continues second) : ¬b.Continues second := by
  have differ {a b : String} (different : ¬Text.sameWord a b)
      (one : ∃ text ∈ second, Text.sameWord a text) : ¬∃ text ∈ second, Text.sameWord b text := by
    rintro ⟨text, here, other⟩
    obtain ⟨_, there, one⟩ := one
    obtain rfl := Option.mem_unique here there
    exact different (Text.sameWord_of_common one other)
  simp only [homonyms, List.mem_cons, Prod.mk.injEq, List.not_mem_nil, or_false] at pair
  rcases pair with ⟨rfl, rfl⟩ | ⟨rfl, rfl⟩ | ⟨rfl, rfl⟩ | ⟨rfl, rfl⟩
  · exact differ (by decide) one
  · exact differ (by decide) one
  · exact differ (by decide) one
  · rintro ⟨text, here, same⟩
    obtain ⟨_, there, known⟩ := one
    obtain rfl := Option.mem_unique here there
    have unknown : Trial.ofName? text = none := Trial.ofName?_of_sameWord (by decide) same
    rw [unknown] at known
    cases known

theorem overlap_of_begins {texts : List String} (ne : a ≠ b) (one : a.Begins texts)
    (other : b.Begins texts) : (a, b) ∈ overlaps ∨ (b, a) ∈ overlaps := by
  have openings : ∀ a ∈ all, ∀ b ∈ all,
      (∃ x ∈ a.openings, ∃ y ∈ b.openings, Text.sameWord x y) → a ≠ b →
        ((a, b) ∈ overlaps ∨ (b, a) ∈ overlaps) ∨ (a, b) ∈ homonyms ∨ (b, a) ∈ homonyms := by
    decide +kernel
  obtain ⟨x, opens, text, first, same⟩ := one.first
  obtain ⟨y, begins, _, again, too⟩ := other.first
  obtain rfl := Option.mem_unique first again
  have shared := openings a a.mem_all b b.mem_all
    ⟨x, opens, y, begins, Text.sameWord_of_common same too⟩ ne
  rcases shared with overlap | homonym | homonym
  · exact overlap
  · exact absurd other.second (not_continues_of_homonyms homonym one.second)
  · exact absurd one.second (not_continues_of_homonyms homonym other.second)

theorem overlap_of_sentences {tokens : List Token} (ne : a ≠ b) (one : (a.sentence? tokens).isSome)
    (other : (b.sentence? tokens).isSome) : (a, b) ∈ overlaps ∨ (b, a) ∈ overlaps := by
  obtain ⟨_, first⟩ := Option.isSome_iff_exists.1 one
  obtain ⟨_, second⟩ := Option.isSome_iff_exists.1 other
  exact overlap_of_begins ne (begins_of_sentence? first) (begins_of_sentence? second)

def InOrder (table : List Rule) : Prop :=
  ∀ pair ∈ overlaps, table.idxOf pair.1 < table.idxOf pair.2

instance (table : List Rule) : Decidable (InOrder table) :=
  inferInstanceAs (Decidable (∀ pair ∈ overlaps, table.idxOf pair.1 < table.idxOf pair.2))

theorem pairwise_idxOf {table : List Rule} (nodup : table.Nodup) :
    table.Pairwise fun a b => table.idxOf a < table.idxOf b := by
  apply List.pairwise_iff_getElem.2
  intro i j inside within before
  rwa [nodup.idxOf_getElem i inside, nodup.idxOf_getElem j within]

section Tables

variable {tokens : List Token} {table : List Rule}

theorem pairwise_readers (nodup : table.Nodup) (inOrder : InOrder table) :
    (table.filter fun rule => (rule.sentence? tokens).isSome).Pairwise fun a b =>
      (a, b) ∈ overlaps := by
  have placed := (nodup.and (pairwise_idxOf nodup)).filter fun rule =>
    (rule.sentence? tokens).isSome
  apply placed.imp_of_mem
  rintro a b first second ⟨ne, before⟩
  cases overlap_of_sentences ne (List.mem_filter.1 first).2 (List.mem_filter.1 second).2 with
  | inl overlap => exact overlap
  | inr turned =>
    have after := inOrder (b, a) turned
    exact absurd before (Nat.lt_asymm after)

theorem nodup_all : all.Nodup := by decide

theorem filter_of_perm (perm : table.Perm all) (inOrder : InOrder table) :
    (table.filter fun rule => (rule.sentence? tokens).isSome) =
      all.filter fun rule => (rule.sentence? tokens).isSome := by
  have asymmetric : ∀ pair ∈ overlaps, (pair.2, pair.1) ∉ overlaps := by decide
  apply List.Perm.eq_of_pairwise _ (pairwise_readers (perm.nodup_iff.2 nodup_all) inOrder)
    (pairwise_readers nodup_all (by decide)) (perm.filter _)
  intro a b _ _ one other
  exact absurd other (asymmetric _ one)

theorem findSome?_filter {α β : Type} (f : α → Option β) (entries : List α) :
    (entries.filter fun entry => (f entry).isSome).findSome? f = entries.findSome? f := by
  induction entries with
  | nil => rfl
  | cons entry rest ih => cases found : f entry <;> simp [found, ih]

theorem findSome?_of_perm (perm : table.Perm all) (inOrder : InOrder table) :
    (table.findSome? fun rule => rule.sentence? tokens) =
      all.findSome? fun rule => rule.sentence? tokens := by
  rw [← findSome?_filter, filter_of_perm perm inOrder, findSome?_filter]

end Tables

section Runs

variable (resolver : Resolver)

def leave : List Rule → Cursor → Cursor
  | [], cursor => cursor
  | rule :: rest, cursor => leave rest (rule.command? resolver cursor).2

theorem command?_eq (rule : Rule) (cursor : Cursor) :
    (rule.command? resolver cursor).1 =
      (rule.sentence? cursor.tokens).map (Command.ofSentence resolver cursor.tokens) := by
  have same : rule.read (.ofTokens cursor.tokens) = rule.read cursor := rfl
  have tokens := rule.tokens_read cursor
  rw [command?, sentence?, same]
  revert tokens
  rcases rule.read cursor with ⟨_ | _ | _, after⟩ <;> intro tokens
  · exact congrArg (fun tokens => some (Command.ofSentence resolver tokens _)) tokens
  · rfl
  · rfl

theorem tokens_command? (rule : Rule) (cursor : Cursor) :
    (rule.command? resolver cursor).2.tokens = cursor.tokens := by
  have tokens := rule.tokens_read cursor
  rw [command?]
  revert tokens
  rcases rule.read cursor with ⟨_ | _ | _, after⟩ <;> exact id

theorem tokens_leave (rules : List Rule) (cursor : Cursor) :
    (leave resolver rules cursor).tokens = cursor.tokens := by
  induction rules generalizing cursor with
  | nil => rfl
  | cons rule rest ih => rw [leave, ih, tokens_command?]

end Runs

end Rule

namespace Command

open Rule

theorem both_read {a b : Rule} (overlap : (a, b) ∈ overlaps) :
    ∃ line, (a.sentence? (tokenize line)).isSome ∧ (b.sentence? (tokenize line)).isSome := by
  simp only [overlaps, List.mem_cons, Prod.mk.injEq, List.not_mem_nil, or_false] at overlap
  rcases overlap with ⟨rfl, rfl⟩ | ⟨rfl, rfl⟩ | ⟨rfl, rfl⟩
  · exact ⟨"init gamedata", by decide +kernel⟩
  · exact ⟨"remove all weapons", by decide +kernel⟩
  · exact ⟨"unequip all weapons", by decide +kernel⟩

theorem rules_overlap_in_pairs (resolver : Resolver) :
    (∀ a b : Rule, a ≠ b →
      ((∃ cursor, (a.command? resolver cursor).1.isSome ∧ (b.command? resolver cursor).1.isSome) ↔
        (a, b) ∈ overlaps ∨ (b, a) ∈ overlaps)) ∧
    (∀ pair ∈ overlaps, Rule.all.idxOf pair.1 < Rule.all.idxOf pair.2) ∧
    (∀ table : List Rule, table.Perm Rule.all →
      (∀ pair ∈ overlaps, table.idxOf pair.1 < table.idxOf pair.2) →
      ∀ cursor, ofRules? resolver table cursor = ofRules? resolver Rule.all cursor) ∧
    ∀ (tried : List Rule) (rule : Rule) (cursor : Cursor),
      (rule.command? resolver (leave resolver tried cursor)).1 =
        (rule.command? resolver (.ofTokens cursor.tokens)).1 := by
  simp only [command?_eq, Option.isSome_map, tokens_leave]
  refine ⟨fun a b ne => ?_, by decide, fun table perm inOrder cursor => ?_, fun _ _ _ => rfl⟩
  · constructor
    · rintro ⟨cursor, one, other⟩
      exact overlap_of_sentences ne one other
    · rintro (overlap | overlap)
      · obtain ⟨line, both⟩ := both_read overlap
        exact ⟨.ofTokens (tokenize line), both⟩
      · obtain ⟨line, other, one⟩ := both_read overlap
        exact ⟨.ofTokens (tokenize line), one, other⟩
  · rw [ofRules?_eq, ofRules?_eq, firstSentence?_eq, firstSentence?_eq,
      findSome?_of_perm perm inOrder]

theorem overlap_of_remove_all :
    (removeKinds ≠ remove ∧
      (∃ cursor, (removeKinds.command? .anything cursor).1.isSome ∧
        (remove.command? .anything cursor).1.isSome) ∧
      ((removeKinds, remove) ∈ overlaps ∨ (remove, removeKinds) ∈ overlaps)) ∧
    (Rule.all.rotate 2).Perm Rule.all ∧ InOrder (Rule.all.rotate 2) ∧
      ofRules? .anything (Rule.all.rotate 2) (.ofTokens (tokenize "remove all weapons")) =
        ofRules? .anything Rule.all (.ofTokens (tokenize "remove all weapons")) := by
  have both : ∃ cursor, (removeKinds.command? .anything cursor).1.isSome ∧
      (remove.command? .anything cursor).1.isSome :=
    ⟨.ofTokens (tokenize "remove all weapons"), by decide +kernel⟩
  have perm : (Rule.all.rotate 2).Perm Rule.all := by decide
  have inOrder : InOrder (Rule.all.rotate 2) := by decide
  obtain ⟨pairs, -, tables, -⟩ := rules_overlap_in_pairs .anything
  exact ⟨⟨by decide, both, (pairs removeKinds remove (by decide)).1 both⟩, perm, inOrder,
    tables _ perm inOrder _⟩

-- A table with one pair turned around gives another command.
example : ofRules? .anything (Rule.all.rotate 9) (.ofTokens (tokenize "remove all weapons")) ≠
    ofRules? .anything Rule.all (.ofTokens (tokenize "remove all weapons")) := by
  decide +kernel

end Command

end Inventory
