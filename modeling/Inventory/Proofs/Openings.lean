import Inventory.Proofs.Phrases

set_option autoImplicit false

namespace Inventory

namespace Rule

def openings : Rule → List String
  | startGameData | start => ["init", "initialize"]
  | write => ["write"]
  | swap | sortMaterials | addSlots => ["!"]
  | trial => ["enter", "exit", "leave"]
  | obtain => ["get", "add", "buy", "cook", "pick"]
  | removeKinds => ["remove"]
  | remove => ["remove", "sell", "drop", "eat", "dnp", "d&p"]
  | unequipKinds => ["unequip"]
  | equip => ["equip", "unequip"]
  | shoot => ["shoot"]
  | save => ["save"]
  | reload => ["reload"]
  | useSave => ["use"]
  | breakSlots => ["break"]
  | closeGame => ["close", "exit"]
  | sync => ["sync"]
  | setFlag => ["has"]

end Rule

namespace Parser

variable {texts : List String}

def Avoids (openings texts : List String) : Prop :=
  ∀ opening ∈ openings, ∀ text ∈ texts.head?, ¬Text.sameWord opening text

theorem Avoids.subset {openings fewer : List String} (avoids : Avoids openings texts)
    (subset : fewer ⊆ openings) : Avoids fewer texts :=
  fun opening member => avoids opening (subset member)

theorem misses_superKeyword (avoids : Avoids ["!"] texts) (name : String) :
    Misses (superKeyword name) texts := by
  apply ((misses_symbol _).bind _).attempt
  intro text first bang
  apply avoids "!" (by decide) text first
  simp [Text.sameWord, bang]

theorem misses_phrase {word : String} (avoids : Avoids [word] texts) (rest : List String)
    (shade : Shade) : Misses (phrase (word :: rest) shade) texts := by
  apply Misses.attempt
  apply Misses.bind
  apply Misses.bind
  apply misses_nextThat
  intro token first
  simpa [isOneOf] using avoids word List.mem_cons_self token.text first

end Parser

namespace Rule

open Inventory.Parser

theorem misses_sentence (rule : Rule) {texts : List String} (avoids : Avoids rule.openings texts) :
    Misses rule.sentence texts := by
  cases rule with
  | startGameData | start | write | shoot | save | reload | useSave | breakSlots | setFlag =>
    exact (misses_keyword avoids _).bind _
  | removeKinds | unequipKinds => exact (misses_keyword avoids _).bind _
  | swap | sortMaterials | addSlots => exact (misses_superKeyword avoids _).bind _
  | sync => exact (misses_phrase avoids _ _).bind _
  | trial =>
    apply Misses.bind
    apply Misses.orElse_misses _ ((goesBack_keyword _ _).map _)
    · exact (misses_keyword (avoids.subset (by decide)) _).bind _
    · exact (misses_keyword (avoids.subset (by decide)) _).bind _
  | obtain =>
    apply Misses.bind
    apply Misses.orElse_misses _ (goesBack_keyword _ _)
    · exact misses_phrase (avoids.subset (by decide)) _ _
    · exact misses_keyword (avoids.subset (by decide)) _
  | remove =>
    apply Misses.bind
    apply Misses.orElse_misses _ ((goesBack_keyword _ _).map _)
    · apply Misses.orElse_misses _ ((goesBack_keyword _ _).map _)
      · exact (misses_keyword (avoids.subset (by decide)) _).bind _
      · exact (misses_keyword (avoids.subset (by decide)) _).bind _
    · exact (misses_keyword (avoids.subset (by decide)) _).bind _
  | equip =>
    apply Misses.bind
    apply Misses.orElse_misses _ ((goesBack_keyword _ _).map _)
    · exact (misses_keyword (avoids.subset (by decide)) _).bind _
    · exact (misses_keyword (avoids.subset (by decide)) _).bind _
  | closeGame =>
    apply Misses.bind
    apply Misses.orElse_misses _ (goesBack_phrase _ _)
    · exact misses_phrase (avoids.subset (by decide)) _ _
    · exact misses_phrase (avoids.subset (by decide)) _ _

theorem mem_all (rule : Rule) : rule ∈ all := by
  cases rule <;> decide

variable {rule : Rule} {tokens : List Token}

theorem sentence?_of_misses (misses : Misses rule.sentence (tokens.map Token.text)) :
    rule.sentence? tokens = none := by
  have none := misses (.ofTokens tokens) rfl
  rw [sentence?_eq]
  revert none
  rcases rule.sentence (.ofTokens tokens) with ⟨_ | _ | _, last⟩
  · exact fun none => by cases none
  all_goals exact fun _ => rfl

theorem sentence_of_sentence? {sentence : Sentence}
    (read : rule.sentence? tokens = some sentence) :
    (rule.sentence (.ofTokens tokens)).1 = .found sentence := by
  rw [sentence?_eq] at read
  split at read
  next found =>
    split at read
    next =>
      cases read
      rw [found]
    next => cases read
  next => cases read

theorem sentence?_of_takes {result : Sentence → Prop}
    (takes : Takes rule.sentence (tokens.map Token.text) [] result) :
    ∃ sentence, rule.sentence? tokens = some sentence ∧ result sentence := by
  obtain ⟨sentence, found, holds⟩ := takes (.ofTokens tokens) (List.append_nil _).symm
  have none : ((Cursor.ofTokens tokens).advance (tokens.map Token.text).length).rest = [] := by
    rw [Cursor.rest_advance]
    simp [Cursor.rest, Cursor.ofTokens]
  exact ⟨sentence, by simp only [sentence?_eq, found, none, if_true], holds⟩

end Rule

theorem Sentence.ofTokens?_of_misses {rule : Rule} {tokens : List Token}
    (misses : ∀ other, other ≠ rule → Parser.Misses other.sentence (tokens.map Token.text)) :
    ofTokens? tokens = rule.sentence? tokens := by
  rw [ofTokens?_eq]
  cases found : Rule.all.findSome? fun rule => rule.sentence? tokens with
  | none => exact (List.findSome?_eq_none_iff.1 found rule rule.mem_all).symm
  | some sentence =>
    obtain ⟨other, -, read⟩ := List.exists_of_findSome?_eq_some found
    by_cases same : other = rule
    · rw [← same, read]
    · rw [Rule.sentence?_of_misses (misses other same)] at read
      cases read

theorem Sentence.ofTokens?_of_opening {rule : Rule} {tokens : List Token} {first : String}
    {rest : List String} (texts : tokens.map Token.text = first :: rest)
    (own : ∀ other ∈ Rule.all, other ≠ rule → ∀ opening ∈ other.openings,
      ¬Text.sameWord opening first) : ofTokens? tokens = rule.sentence? tokens := by
  apply ofTokens?_of_misses
  intro other ne
  apply other.misses_sentence
  rw [texts]
  rintro opening member text ⟨⟩
  exact own other other.mem_all ne opening member

namespace Command

variable {resolver : Resolver} {line first : String} {rest : List String}

theorem ofLine_of_ink (texts : (tokenize line).map Token.text = first :: rest) (ink : first ≠ "#") :
    ofLine resolver line = ofTokens resolver (tokenize line) := by
  rw [ofLine_eq, ← List.head?_map, texts]
  exact if_neg ink

theorem action_ofLine {sentence : Sentence} {action : Action}
    (texts : (tokenize line).map Token.text = first :: rest) (ink : first ≠ "#")
    (found : Sentence.ofTokens? (tokenize line) = some sentence)
    (means : sentence.meaning resolver = .ok action) : (ofLine resolver line).action = action := by
  rw [ofLine_of_ink texts ink, ofTokens, found]
  simp only [ofSentence, means]

theorem isHint_fallback (tokens : List Token) : (fallback tokens).action.isHint := by
  simp only [fallback]
  split
  next => rfl
  next => split <;> rfl

theorem meaning_of_action {action : Action} (texts : (tokenize line).map Token.text = first :: rest)
    (ink : first ≠ "#") (does : (ofLine resolver line).action = action)
    (valid : action.isHint = false) : ∃ sentence,
      Sentence.ofTokens? (tokenize line) = some sentence ∧ sentence.meaning resolver = .ok action := by
  rw [ofLine_of_ink texts ink, ofTokens] at does
  cases found : Sentence.ofTokens? (tokenize line) with
  | none =>
    rw [found] at does
    have hint := isHint_fallback (tokenize line)
    rw [does, valid] at hint
    cases hint
  | some sentence =>
    refine ⟨sentence, rfl, ?_⟩
    rw [found] at does
    simp only [ofSentence] at does
    cases means : sentence.meaning resolver with
    | ok meant =>
      rw [means] at does
      exact congrArg _ does
    | error complaints =>
      rw [means] at does
      rw [← does] at valid
      cases valid

end Command

end Inventory
