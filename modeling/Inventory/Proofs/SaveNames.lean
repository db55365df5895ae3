import Inventory.Proofs.RuleOrder
import Inventory.Proofs.Tokens

set_option autoImplicit false

namespace Inventory

def Sentence.rule : Sentence → Rule
  | start .. => .start
  | startGameData .. => .startGameData
  | write .. => .write
  | swap .. => .swap
  | sortMaterials .. => .sortMaterials
  | addSlots .. => .addSlots
  | trial .. => .trial
  | obtain .. => .obtain
  | remove .. => .remove
  | removeKinds .. => .removeKinds
  | unequipKinds .. => .unequipKinds
  | equip .. => .equip
  | unequip .. => .equip
  | shoot .. => .shoot
  | save .. => .save
  | reload .. => .reload
  | useSave .. => .useSave
  | breakSlots .. => .breakSlots
  | closeGame .. => .closeGame
  | sync .. => .sync
  | has .. => .setFlag

namespace Parser

section Kinds

variable {α β : Type}

def Makes (parser : Parser α) (kind : α → Prop) : Prop :=
  ∀ cursor node, (parser cursor).1 = .found node → kind node

variable {kind : β → Prop}

theorem makes_pure {node : β} (holds : kind node) : Makes (pure node) kind := by
  intro cursor other found
  cases found
  exact holds

theorem Makes.bind (parser : Parser α) {further : α → Parser β}
    (later : ∀ node, Makes (further node) kind) : Makes (parser >>= further) kind := by
  intro cursor result found
  rw [bind_apply] at found
  split at found
  next node after _ => exact later node after result found
  next => cases found

theorem makes_sentence (rule : Rule) : Makes rule.sentence fun sentence => sentence.rule = rule := by
  cases rule with
  | trial => exact .bind _ fun _ => .bind _ fun _ => .bind _ fun _ => makes_pure rfl
  | save =>
    refine .bind _ fun _ => .bind _ fun as => ?_
    cases as with
    | none => exact makes_pure rfl
    | some as => exact .bind _ fun _ => makes_pure rfl
  | equip =>
    refine .bind _ fun ⟨_, equips⟩ => .bind _ fun _ => .bind _ fun _ => ?_
    cases equips <;> exact makes_pure rfl
  | closeGame | sync => exact .bind _ fun _ => makes_pure rfl
  | start | sortMaterials | obtain | remove | reload | useSave =>
    exact .bind _ fun _ => .bind _ fun _ => makes_pure rfl
  | startGameData | swap | removeKinds | unequipKinds | shoot =>
    exact .bind _ fun _ => .bind _ fun _ => .bind _ fun _ => makes_pure rfl
  | addSlots | breakSlots | setFlag =>
    exact .bind _ fun _ => .bind _ fun _ => .bind _ fun _ => .bind _ fun _ => makes_pure rfl
  | write =>
    exact .bind _ fun _ => .bind _ fun _ => .bind _ fun _ => .bind _ fun _ => .bind _ fun _ =>
      makes_pure rfl

end Kinds

section Words

variable {tokens rest : List Token} {words : List Word}

theorem texts_of_atMost {limit : Nat} (found : (atMost word limit).finds tokens = some (words, rest)) :
    ∃ taken, tokens = taken ++ rest ∧ words.map Word.text = taken.map Token.text := by
  induction limit generalizing tokens words with
  | zero =>
    cases found
    exact ⟨[], rfl, rfl⟩
  | succ limit ih =>
    -- One word more, and the words that the rest of the limit allows, or none.
    have more (first : Word) : Tame (do
        let words ← atMost word limit
        pure (first :: words)) :=
      (tame_word.atMost limit).bind fun _ => tame_pure _
    rw [atMost_succ tame_word, finds_ifFound tame_word more (tame_pure [])] at found
    split at found
    next first after begins =>
      obtain ⟨others, later, rfl⟩ := (finds_map_iff (tame_word.atMost limit)).1 found
      obtain ⟨_, rfl, name, span, rfl, rfl⟩ := (single_word _ _ _).1 begins
      obtain ⟨taken, rfl, same⟩ := ih later
      exact ⟨⟨name.text, span⟩ :: taken, rfl, congrArg (name.text :: ·) same⟩
    next =>
      cases found
      exact ⟨[], rfl, rfl⟩

theorem texts_of_many1 (found : (many1 word).finds tokens = some (words, rest)) :
    ∃ taken, tokens = taken ++ rest ∧ words.map Word.text = taken.map Token.text := by
  have second (words : List Word) : Tame (if words.isEmpty then fail else pure words) :=
    tame_fail.ite (tame_pure _)
  rw [many1, finds_bind_iff tame_word.many second] at found
  obtain ⟨all, after, several, kept⟩ := found
  rw [many_eq, finds_withAhead fun limit => tame_word.atMost _] at several
  split at kept
  next => cases kept
  next =>
    cases kept
    exact texts_of_atMost several

theorem texts_of_saveSentence {verb : Keyword} {as : Option Keyword}
    (found : saveSentence.finds tokens = some (.save verb as words, rest)) :
    ∀ word ∈ words, word.text ∈ tokens.map Token.text := by
  have named (verb as : Keyword) : Tame (many1 word >>= fun name =>
      pure (Sentence.save verb (some as) name)) :=
    tame_word.many1.bind fun _ => tame_pure _
  obtain ⟨verb', after, start, goesOn⟩ := (finds_bind_iff (tame_keyword _ _) fun verb => by
    refine (tame_keyword _ _).maybe.bind fun as => ?_
    cases as with
    | none => exact tame_pure _
    | some as => exact named verb as).1 found
  rw [finds_maybe_bind_iff (tame_keyword _ _) ?present ?missing] at goesOn
  case present => exact named verb'
  case missing => exact tame_pure _
  obtain ⟨token, rfl, -⟩ := (single_keyword _ _ _ _ _).1 start
  cases goesOn with
  | inl several =>
    obtain ⟨as, later, second, ends⟩ := several
    obtain ⟨name, several, same⟩ := (finds_map_iff tame_word.many1).1 ends
    cases same
    obtain ⟨other, rfl, -⟩ := (single_keyword _ _ _ _ _).1 second
    obtain ⟨taken, rfl, texts⟩ := texts_of_many1 several
    intro word member
    have inside : word.text ∈ taken.map Token.text := texts ▸ List.mem_map_of_mem member
    simp only [List.map_cons, List.map_append, List.mem_cons, List.mem_append]
    exact .inr (.inr (.inl inside))
  | inr bare =>
    cases bare.2
    exact List.forall_mem_nil _

end Words

end Parser

section Meaning

variable {ε α β : Type}

theorem exists_of_map_ok {found : Except ε α} {f : α → β} {node : β} (made : found.map f = .ok node) :
    ∃ first, f first = node := by
  cases found with
  | error => cases made
  | ok first =>
    cases made
    exact ⟨first, rfl⟩

theorem exists_of_bind_ok {found : Except ε α} {further : α → Except ε β} {node : β}
    (made : found >>= further = .ok node) : ∃ first, further first = .ok node := by
  cases found with
  | error => cases made
  | ok first => exact ⟨first, made⟩

theorem Sentence.save_of_meaning {resolver : Resolver} {sentence : Sentence} {name : Option String}
    (means : sentence.meaning resolver = .ok (.save name)) :
    ∃ verb as words, sentence = .save verb as words ∧ name = saveName? words := by
  cases sentence with
  | save verb as words =>
    cases means
    exact ⟨verb, as, words, rfl, rfl⟩
  | start | startGameData | obtain | addSlots | shoot =>
    obtain ⟨_, made⟩ := exists_of_map_ok means
    cases made
  | equip | unequip =>
    obtain ⟨_, made⟩ := exists_of_bind_ok means
    cases made
  | swap | has =>
    obtain ⟨_, made⟩ := exists_of_bind_ok means
    obtain ⟨_, made⟩ := exists_of_bind_ok made
    cases made
  | write verb toWord clause item slot =>
    simp only [meaning] at means
    cases edited : clause.edit with
    | error =>
      rw [edited] at means
      cases means
    | ok edit =>
      rw [edited] at means
      obtain ⟨_, made⟩ := exists_of_bind_ok means
      obtain ⟨_, made⟩ := exists_of_bind_ok made
      cases made
  | remove verb action removal =>
    obtain ⟨_, made⟩ := exists_of_bind_ok means
    cases action <;> cases made
  | breakSlots verb slots count along =>
    cases along with
    | none => cases means
    | some along =>
      obtain ⟨_, made⟩ := exists_of_bind_ok means
      cases made
  | _ => cases means

end Meaning

theorem Text.inked_intercalate {words : List String} (filled : words ≠ [])
    (inked : ∀ word ∈ words, Inked word.toList) : Inked (" ".intercalate words).toList := by
  induction words with
  | nil => exact absurd rfl filled
  | cons first rest ih =>
    obtain ⟨begins, others⟩ := List.forall_mem_cons.1 inked
    cases rest with
    | nil => rwa [String.intercalate_singleton]
    | cons second more =>
      rw [String.intercalate_cons_cons, String.append_assoc, String.toList_append,
        String.toList_append]
      exact begins.append (ih (List.cons_ne_nil _ _) others) _

theorem Text.inked_of_token {line : String} {text : String}
    (member : text ∈ (tokenize line).map Token.text) : Inked text.toList := by
  obtain ⟨token, inside, rfl⟩ := List.mem_map.1 member
  obtain ⟨_, _, _, _, filled, alone⟩ := (laid_tokenize line).placed inside
  exact inked_of_forall filled fun c => alone.not_isBlank

namespace Command

variable {resolver : Resolver} {line name : String}

theorem save_of_action (saves : (ofLine resolver line).action = .save (some name)) :
    ∃ verb as words, Rule.save.sentence? (tokenize line) = some (.save verb as words) ∧
      words ≠ [] ∧ name = Word.joined words := by
  -- A blank line and a comment do nothing, so the line has a first token that is no `#`.
  have written : ∃ first rest, (tokenize line).map Token.text = first :: rest ∧ first ≠ "#" := by
    rw [ofLine_eq, ← List.head?_map] at saves
    cases texts : (tokenize line).map Token.text with
    | nil =>
      rw [texts] at saves
      cases saves
    | cons first rest =>
      refine ⟨first, rest, rfl, ?_⟩
      rintro rfl
      rw [texts] at saves
      cases saves
  obtain ⟨first, rest, texts, ink⟩ := written
  obtain ⟨sentence, found, means⟩ := meaning_of_action texts ink saves rfl
  obtain ⟨verb, as, words, rfl, named⟩ := Sentence.save_of_meaning means
  rw [Sentence.ofTokens?_eq] at found
  obtain ⟨rule, _, read⟩ := List.exists_of_findSome?_eq_some found
  have ruled := Parser.makes_sentence rule _ _ (Rule.sentence_of_sentence? read)
  obtain rfl : Rule.save = rule := ruled
  rw [saveName?] at named
  split at named
  next => cases named
  next filled =>
    cases named
    exact ⟨verb, as, words, read, fun none => filled (none ▸ rfl), rfl⟩

theorem inked_of_save (saves : (ofLine resolver line).action = .save (some name)) :
    Text.Inked name.toList := by
  obtain ⟨verb, as, words, read, filled, rfl⟩ := save_of_action saves
  have texts := Parser.texts_of_saveSentence (Rule.finds_of_sentence? read)
  apply Text.inked_intercalate (by simpa using filled)
  intro text member
  obtain ⟨word, inside, rfl⟩ := List.mem_map.1 member
  exact Text.inked_of_token (texts word inside)

theorem no_colon_of_save (saves : (ofLine resolver line).action = .save (some name))
    (order : List Char) : Text.trim line.toList ≠ ':' :: order := by
  intro colon
  obtain ⟨verb, as, words, read, -⟩ := save_of_action saves
  obtain ⟨opening, own, text, first, same⟩ := Rule.opening_of_sentence? read
  obtain rfl : opening = "save" := List.mem_singleton.1 own
  obtain ⟨gap, tail, split, before, -⟩ := Text.trim_split line.toList
  rw [colon] at split
  have rest : Spaced _ (String.ofList (order ++ tail)).toList := spaced_iff.2 rfl
  rw [String.toList_ofList] at rest
  have texts := spaced_iff.1 (split ▸ Spaced.symbol before (by decide) rest)
  rw [texts] at first
  cases first
  exact absurd same (by decide)

end Command

end Inventory
