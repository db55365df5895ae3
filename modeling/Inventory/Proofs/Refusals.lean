import Inventory.Proofs.Openings

set_option autoImplicit false

namespace Inventory

namespace Text

theorem toNat_lt_of_toLower {c : Char} (ascii : c.toLower.toNat < 0x80) : c.toNat < 0x80 := by
  by_cases upper : c.isUpper
  next =>
    have bounds := (isUpper_iff c).1 upper
    omega
  next => rwa [toLower_of_not_isUpper upper] at ascii

theorem lowerAfter_of_ascii {text : List Char} (ascii : ∀ c ∈ text, c.toNat < 0x80)
    (before : List Char) : lowerAfter before text = text.map Char.toLower := by
  induction text generalizing before with
  | nil => rfl
  | cons c rest ih =>
    obtain ⟨first, others⟩ := List.forall_mem_cons.1 ascii
    have noSigma : c ≠ 'Σ' := by
      intro sigma
      simp [sigma] at first
    simp [lowerAfter, noSigma, lowerChar, first, ih others]

def isSmall (word : String) : Bool := word.toList.all fun c => c.toNat < 0x80 && c.toLower = c

theorem lower_of_sameWord {word text : String} (small : isSmall word) (same : sameWord word text) :
    lower text = word := by
  have letters : ∀ c ∈ word.toList, c.toNat < 0x80 ∧ c.toLower = c := by simpa [isSmall] using small
  have folded : word.toList.map Char.toLower = text.toList.map Char.toLower := by
    simpa [sameWord] using same
  have unfolded : word.toList.map Char.toLower = word.toList := by
    calc
      word.toList.map Char.toLower = word.toList.map id :=
        List.map_congr_left fun c member => (letters c member).2
      _ = word.toList := List.map_id _
  rw [unfolded] at folded
  have ascii : ∀ c ∈ text.toList, c.toNat < 0x80 := by
    intro c member
    have inside : c.toLower ∈ word.toList := by
      rw [folded]
      exact List.mem_map_of_mem member
    exact toNat_lt_of_toLower (letters _ inside).1
  rw [lower, lowerAfter_of_ascii ascii, ← folded, String.ofList_toList]

end Text

namespace Command

def verbs : List String :=
  ["init", "initialize", "write", "enter", "exit", "leave", "get", "add", "buy", "cook", "pick",
   "remove", "sell", "drop", "eat", "dnp", "d&p", "equip", "unequip", "shoot", "save", "reload",
   "use", "break", "close", "sync", "has"]

def superVerbs : List String := ["swap", "sort", "add"]

theorem mem_verbs_iff {verb : String} :
    verb ∈ verbs ↔ verb ≠ "!" ∧ ∃ rule ∈ Rule.all, verb ∈ rule.openings := by
  constructor
  next =>
    revert verb
    decide
  next =>
    have known : ∀ rule ∈ Rule.all, ∀ verb ∈ rule.openings, verb ≠ "!" → verb ∈ verbs := by decide
    rintro ⟨noSign, rule, member, opening⟩
    exact known rule member verb opening noSign

/-- Whether the texts of a line begin as a command does. Small and capital letters are the same. -/
inductive Opens : List String → Prop
  | verb {verb first : String} {rest : List String} (member : verb ∈ verbs)
    (same : Text.sameWord verb first) : Opens (first :: rest)
  | super {verb second : String} {rest : List String} (member : verb ∈ superVerbs)
    (same : Text.sameWord verb second) : Opens ("!" :: second :: rest)

end Command

namespace Usage

open Command

theorem fits_append {starts words : List String} (fit : fits starts words) (more : List String) :
    fits starts (words ++ more) := by
  fun_induction fits starts words <;> simp_all [fits]

theorem exists_entry {word : String} (member : word ∈ verbs ++ superVerbs.map ("!" ++ ·))
    (rest : List String) : ∃ entry ∈ entries, fits entry.1 (word :: rest) := by
  have known : ∀ word ∈ verbs ++ superVerbs.map ("!" ++ ·),
      ∃ entry ∈ entries, fits entry.1 [word] := by decide
  obtain ⟨entry, inside, fit⟩ := known word member
  exact ⟨entry, inside, fits_append fit rest⟩

theorem map_lower (tokens : List Token) :
    tokens.map (fun token => Text.lower token.text) = (tokens.map Token.text).map Text.lower := by
  rw [List.map_map]
  rfl

theorem words_of_verb {tokens : List Token} {verb first : String} {rest : List String}
    (texts : tokens.map Token.text = first :: rest) (member : verb ∈ verbs)
    (same : Text.sameWord verb first) : words tokens = verb :: rest.map Text.lower := by
  have small : ∀ verb ∈ verbs, Text.isSmall verb ∧ verb ≠ "!" := by decide
  have lowered := Text.lower_of_sameWord (small verb member).1 same
  rw [words, map_lower, texts, List.map_cons, lowered]
  split
  next sign => exact absurd (List.cons.inj sign).1 (small verb member).2
  next => rfl

theorem words_of_super {tokens : List Token} {verb second : String} {rest : List String}
    (texts : tokens.map Token.text = "!" :: second :: rest) (member : verb ∈ superVerbs)
    (same : Text.sameWord verb second) : words tokens = ("!" ++ verb) :: rest.map Text.lower := by
  have small : ∀ verb ∈ superVerbs, Text.isSmall verb := by decide
  have lowered := Text.lower_of_sameWord (small verb member) same
  have sign : Text.lower "!" = "!" := by decide
  rw [words, map_lower, texts, List.map_cons, List.map_cons, lowered, sign]
  rfl

theorem ofTokens?_of_opens {tokens : List Token} (opens : Opens (tokens.map Token.text)) :
    ∃ usage, ofTokens? tokens = some usage := by
  have entry : ∃ entry ∈ entries, fits entry.1 (words tokens) := by
    generalize texts : tokens.map Token.text = line at opens
    cases opens with
    | verb member same =>
      rw [words_of_verb texts member same]
      exact exists_entry (List.mem_append_left _ member) _
    | super member same =>
      rw [words_of_super texts member same]
      exact exists_entry (List.mem_append_right _ (List.mem_map_of_mem member)) _
  have found := List.find?_isSome.2 entry
  obtain ⟨entry, found⟩ := Option.isSome_iff_exists.1 found
  exact ⟨entry.2, by rw [ofTokens?, found]; rfl⟩

end Usage

section Meaning

variable {ε α : Type}

def Acts (found : Except ε Action) : Prop := ∀ action, found = .ok action → action.isHint = false

theorem acts_ok {action : Action} (acts : action.isHint = false) :
    Acts (.ok action : Except ε Action) := by
  intro found same
  cases same
  exact acts

theorem Acts.bind (found : Except ε α) {further : α → Except ε Action}
    (later : ∀ node, Acts (further node)) : Acts (found >>= further) := by
  cases found with
  | error => exact fun action made => by cases made
  | ok node => exact later node

theorem Acts.map (found : Except ε α) {f : α → Action} (acts : ∀ node, (f node).isHint = false) :
    Acts (found.map f) := by
  cases found with
  | error => exact fun action made => by cases made
  | ok node => exact acts_ok (acts node)

theorem Sentence.acts_meaning (resolver : Resolver) (sentence : Sentence) :
    Acts (sentence.meaning resolver) := by
  cases sentence with
  | start | startGameData | obtain | addSlots | shoot => exact .map _ fun _ => rfl
  | write verb toWord clause item slot =>
    simp only [meaning]
    cases clause.edit <;> exact .bind _ fun _ => .bind _ fun _ => acts_ok rfl
  | swap | has => exact .bind _ fun _ => .bind _ fun _ => acts_ok rfl
  | remove verb action removal =>
    apply Acts.bind
    intro withdrawals
    cases action <;> exact acts_ok rfl
  | equip | unequip => exact .bind _ fun _ => acts_ok rfl
  | breakSlots verb slots count along =>
    cases along with
    | none => exact acts_ok rfl
    | some along => exact .bind _ fun _ => acts_ok rfl
  | _ => exact acts_ok rfl

end Meaning

namespace Command

variable {tokens : List Token} {usage : String}

theorem refusal_of_acts {action : Action} (acts : action.isHint = false) :
    action.refusal = .none := by
  cases action with
  | hint => cases acts
  | _ => rfl

def IsExplained (command : Command) (usage : String) : Prop :=
  (command.action.refusal = .none ∨ command.action.refusal = .malformed) ∧
    (command.action.isHint → command.action.messages.getLast? = some (Usage.message usage))

theorem isExplained_of_acts {command : Command} (acts : command.action.isHint = false) :
    command.IsExplained usage := by
  constructor
  next => exact .inl (refusal_of_acts acts)
  next => simp [acts]

theorem isExplained_ofTokens (resolver : Resolver) (known : Usage.ofTokens? tokens = some usage) :
    (ofTokens resolver tokens).IsExplained usage := by
  rw [ofTokens]
  cases Sentence.ofTokens? tokens with
  | none => simp [fallback, known, IsExplained, Action.refusal, Action.messages]
  | some sentence =>
    have acts := sentence.acts_meaning resolver
    simp only [ofSentence]
    cases meant : sentence.meaning resolver with
    | ok action => exact isExplained_of_acts (acts action meant)
    | error complaints => simp [IsExplained, Action.refusal, Action.messages, known]

theorem isExplained_ofLine (resolver : Resolver) {line : String}
    (known : Usage.ofTokens? (tokenize line) = some usage) :
    (ofLine resolver line).IsExplained usage := by
  rw [ofLine_eq]
  split
  next => exact isExplained_of_acts rfl
  next =>
    split
    next => exact isExplained_of_acts rfl
    next => exact isExplained_ofTokens resolver known

theorem refusal_ofSentence (resolver : Resolver) (tokens : List Token) (sentence : Sentence) :
    (ofSentence resolver tokens sentence).action.refusal = .none ∨
      (ofSentence resolver tokens sentence).action.refusal = .malformed := by
  have acts := sentence.acts_meaning resolver
  rw [ofSentence]
  cases meant : sentence.meaning resolver with
  | ok action => exact .inl (refusal_of_acts (acts action meant))
  | error complaints => exact .inr rfl

theorem fallback_of_unknown (unknown : Usage.ofTokens? tokens = none) :
    (fallback tokens).blocks = blocksOf tokens .unknown ∧
      (fallback tokens).action.refusal =
        if tokens.head?.map Token.text = some "!" then .unknownSuperCommand
        else .unknownCommand := by
  simp only [fallback, unknown]
  split
  next sign => simp_all [Action.refusal]
  next other => simp_all [Action.refusal]

theorem ofTokens_of_refusal {resolver : Resolver} {refusal : Refusal}
    (refused : (ofTokens resolver tokens).action.refusal = refusal)
    (unexplained : refusal ≠ .none ∧ refusal ≠ .malformed) :
    (ofTokens resolver tokens).blocks = blocksOf tokens .unknown ∧
      refusal = if tokens.head?.map Token.text = some "!" then .unknownSuperCommand
        else .unknownCommand := by
  rw [ofTokens] at refused ⊢
  cases read : Sentence.ofTokens? tokens with
  | some sentence =>
    rw [read] at refused
    have explained := refusal_ofSentence resolver tokens sentence
    rw [refused] at explained
    exact absurd explained (by simp [unexplained])
  | none =>
    rw [read] at refused
    cases known : Usage.ofTokens? tokens with
    | some usage =>
      simp only [fallback, known] at refused
      exact absurd refused.symm unexplained.2
    | none =>
      rw [← refused]
      exact fallback_of_unknown known

theorem ofLine_of_refusal {resolver : Resolver} {line : String} {refusal : Refusal}
    (refused : (ofLine resolver line).action.refusal = refusal)
    (unexplained : refusal ≠ .none ∧ refusal ≠ .malformed) :
    (ofLine resolver line).blocks = blocksOf (tokenize line) .unknown ∧
      ∃ first, (tokenize line).head?.map Token.text = some first ∧ first ≠ "#" ∧
        refusal = if first = "!" then .unknownSuperCommand else .unknownCommand := by
  rw [ofLine_eq] at refused ⊢
  cases opening : (tokenize line).head?.map Token.text with
  | none =>
    rw [opening] at refused
    exact absurd refused.symm unexplained.1
  | some first =>
    rw [opening] at refused
    by_cases sign : first = "#"
    next =>
      simp only [if_pos sign] at refused
      exact absurd refused.symm unexplained.1
    next =>
      simp only [if_neg sign] at refused ⊢
      obtain ⟨blocks, why⟩ := ofTokens_of_refusal refused unexplained
      rw [opening] at why
      exact ⟨blocks, first, rfl, sign, by simpa using why⟩

theorem refusal_by_first_words (resolver : Resolver) (line : String) :
    (Opens ((tokenize line).map Token.text) →
      ((ofLine resolver line).action.refusal = .none ∨
        (ofLine resolver line).action.refusal = .malformed) ∧
      ((ofLine resolver line).action.isHint →
        ∃ usage, (ofLine resolver line).action.messages.getLast? = some (Usage.message usage) ∧
          Usage.ofTokens? (tokenize line) = some usage)) ∧
    ((ofLine resolver line).action.refusal = .unknownSuperCommand →
      (tokenize line).head?.map Token.text = some "!" ∧
        (ofLine resolver line).blocks = blocksOf (tokenize line) .unknown) ∧
    ((ofLine resolver line).action.refusal = .unknownCommand →
      (∃ first, (tokenize line).head?.map Token.text = some first ∧ first ≠ "!" ∧ first ≠ "#") ∧
        (ofLine resolver line).blocks = blocksOf (tokenize line) .unknown) := by
  refine ⟨fun opens => ?_, fun unknown => ?_, fun unknown => ?_⟩
  next =>
    obtain ⟨usage, known⟩ := Usage.ofTokens?_of_opens opens
    obtain ⟨refusal, told⟩ := isExplained_ofLine resolver known
    exact ⟨refusal, fun hint => ⟨usage, told hint, known⟩⟩
  next =>
    obtain ⟨blocks, first, opening, -, why⟩ := ofLine_of_refusal unknown (by decide)
    have sign : first = "!" := by
      by_contra other
      simp [other] at why
    exact ⟨sign ▸ opening, blocks⟩
  next =>
    obtain ⟨blocks, first, opening, comment, why⟩ := ofLine_of_refusal unknown (by decide)
    have other : first ≠ "!" := by
      intro sign
      simp [sign] at why
    exact ⟨⟨first, opening, other, comment⟩, blocks⟩

theorem refusal_of_three_lines :
    (Opens ((tokenize "SELL 2 pears").map Token.text) ∧
      (ofLine .nothing "SELL 2 pears").action.isHint ∧
      ∃ usage, (ofLine .nothing "SELL 2 pears").action.messages.getLast? =
          some (Usage.message usage) ∧
        Usage.ofTokens? (tokenize "SELL 2 pears") = some usage) ∧
    ((ofLine .nothing "! jump").action.refusal = .unknownSuperCommand ∧
      (tokenize "! jump").head?.map Token.text = some "!" ∧
      (ofLine .nothing "! jump").blocks = blocksOf (tokenize "! jump") .unknown) ∧
    (ofLine .nothing "zelda").action.refusal = .unknownCommand ∧
      (ofLine .nothing "zelda").blocks = blocksOf (tokenize "zelda") .unknown := by
  have texts : (tokenize "SELL 2 pears").map Token.text = ["SELL", "2", "pears"] := by decide
  have opens : Opens ((tokenize "SELL 2 pears").map Token.text) := by
    rw [texts]
    exact .verb (show "sell" ∈ verbs by decide) (by decide)
  have hint : (ofLine .nothing "SELL 2 pears").action.isHint := by decide +kernel
  have super : (ofLine .nothing "! jump").action.refusal = .unknownSuperCommand := by
    decide +kernel
  have other : (ofLine .nothing "zelda").action.refusal = .unknownCommand := by decide +kernel
  have explained := ((refusal_by_first_words .nothing "SELL 2 pears").1 opens).2 hint
  have signed := (refusal_by_first_words .nothing "! jump").2.1 super
  have unknown := (refusal_by_first_words .nothing "zelda").2.2 other
  exact ⟨⟨opens, hint, explained⟩, ⟨super, signed⟩, other, unknown.2⟩

end Command

end Inventory
