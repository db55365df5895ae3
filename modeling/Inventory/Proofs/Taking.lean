import Inventory.Proofs.Writing

set_option autoImplicit false

namespace Inventory

namespace Cursor

def texts (cursor : Cursor) : List String := cursor.rest.map Token.text

theorem texts_advance {cursor : Cursor} {texts after : List String}
    (ahead : cursor.texts = texts ++ after) : (cursor.advance texts.length).texts = after := by
  rw [Cursor.texts, cursor.rest_advance, List.map_drop]
  exact (congrArg _ ahead).trans List.drop_left

theorem ahead_eq_length (cursor : Cursor) : cursor.ahead = cursor.texts.length := by
  rw [cursor.ahead_eq, Cursor.texts, List.length_map]

end Cursor

namespace Parser

variable {α β γ : Type} {texts more after : List String}

/-- Where these texts are ahead, and others after them, the parser finds a node and moves over the
texts. What comes after may matter: names end where it begins. -/
def Takes (parser : Parser α) (texts after : List String) (result : α → Prop) : Prop :=
  ∀ cursor : Cursor, cursor.texts = texts ++ after →
    ∃ node, parser cursor = (.found node, cursor.advance texts.length) ∧ result node

def Misses (parser : Parser α) (texts : List String) : Prop :=
  ∀ cursor : Cursor, cursor.texts = texts → (parser cursor).1.node? = none

section Combinators

variable {parser : Parser α} {result : α → Prop} {final : β → Prop}

theorem Takes.imp {weaker : α → Prop} (takes : Takes parser texts after result)
    (implied : ∀ node, result node → weaker node) : Takes parser texts after weaker := by
  intro cursor ahead
  obtain ⟨node, found, holds⟩ := takes cursor ahead
  exact ⟨node, found, implied node holds⟩

theorem takes_pure {node : α} (holds : result node) : Takes (pure node) [] after result :=
  fun _ _ => ⟨node, rfl, holds⟩

theorem misses_fail : Misses (fail : Parser α) texts := fun _ _ => rfl

theorem Takes.through {whole : Parser β} {further : α → Parser β}
    (goesOn : ∀ cursor node last,
      parser cursor = (.found node, last) → whole cursor = further node last)
    (first : Takes parser texts (more ++ after) result)
    (second : ∀ node, result node → Takes (further node) more after final) :
    Takes whole (texts ++ more) after final := by
  intro cursor ahead
  rw [List.append_assoc] at ahead
  obtain ⟨node, found, holds⟩ := first cursor ahead
  obtain ⟨last, found', holds'⟩ := second node holds _ (Cursor.texts_advance ahead)
  rw [goesOn cursor node _ found]
  exact ⟨last, by simpa using found', holds'⟩

theorem Takes.bind {further : α → Parser β} (first : Takes parser texts (more ++ after) result)
    (second : ∀ node, result node → Takes (further node) more after final) :
    Takes (parser >>= further) (texts ++ more) after final := by
  apply Takes.through _ first second
  intro cursor node last found
  exact bind_of_found found

theorem Misses.bind (misses : Misses parser texts) (further : α → Parser β) :
    Misses (parser >>= further) texts := by
  intro cursor ahead
  rw [bind_of_missing (misses cursor ahead)]
  rfl

theorem Takes.skip {further : α → Parser β} (first : Takes parser [] (texts ++ after) result)
    (second : ∀ node, result node → Takes (further node) texts after final) :
    Takes (parser >>= further) texts after final :=
  first.bind second

theorem Takes.bind_misses {further : α → Parser β} (first : Takes parser texts after result)
    (second : ∀ node, result node → Misses (further node) after) :
    Misses (parser >>= further) (texts ++ after) := by
  intro cursor ahead
  obtain ⟨node, found, holds⟩ := first cursor ahead
  rw [bind_apply, found]
  exact second node holds _ (Cursor.texts_advance ahead)

theorem Takes.map {f : α → β} (takes : Takes parser texts after result)
    (holds : ∀ node, result node → final (f node)) :
    Takes (parser >>= fun node => pure (f node)) texts after final := by
  rw [← List.append_nil texts]
  exact takes.bind fun node found => takes_pure (holds node found)

theorem Takes.ifFound {yes : α → Parser β} {no : Parser β}
    (first : Takes parser texts (more ++ after) result)
    (second : ∀ node, result node → Takes (yes node) more after final) :
    Takes (ifFound parser yes no) (texts ++ more) after final := by
  apply Takes.through _ first second
  intro cursor node last found
  exact ifFound_of_found found

theorem Misses.ifFound {yes : α → Parser β} {no : Parser β}
    (misses : Misses parser (texts ++ after)) (takes : Takes no texts after final) :
    Takes (ifFound parser yes no) texts after final := by
  intro cursor ahead
  rw [ifFound_of_missing (misses cursor ahead)]
  exact takes cursor ahead

theorem Takes.attempt (takes : Takes parser texts after result) :
    Takes (attempt parser) texts after result := by
  intro cursor ahead
  obtain ⟨node, found, holds⟩ := takes cursor.push ahead
  exact ⟨node, by rw [Parser.attempt, found]; rfl, holds⟩

theorem Misses.attempt (misses : Misses parser texts) : Misses (attempt parser) texts :=
  fun cursor ahead => misses cursor.push ahead

theorem Takes.maybe (takes : Takes parser texts after result) :
    Takes (maybe parser) texts after fun found => ∃ node, found = some node ∧ result node := by
  intro cursor ahead
  obtain ⟨node, found, holds⟩ := takes.attempt cursor ahead
  exact ⟨some node, by rw [Parser.maybe, optional, found]; rfl, node, rfl, holds⟩

theorem Misses.maybe (misses : Misses parser after) (tame : Tame parser) :
    Takes (maybe parser) [] after (· = none) := by
  rw [tame.maybe_eq]
  exact misses.ifFound (takes_pure rfl)

theorem Takes.orElse {first : Parser α} (takes : Takes first texts after result)
    (back : GoesBack first) (second : Parser α) : Takes (orElse first second) texts after result := by
  rw [back.orElse_eq, ← List.append_nil texts]
  exact takes.ifFound fun _ => takes_pure

theorem Misses.orElse {first second : Parser α} (misses : Misses first (texts ++ after))
    (back : GoesBack first) (takes : Takes second texts after result) :
    Takes (orElse first second) texts after result := by
  rw [back.orElse_eq]
  exact misses.ifFound takes

theorem Misses.orElse_misses {first second : Parser α} (misses : Misses first texts)
    (back : GoesBack first) (others : Misses second texts) :
    Misses (Parser.orElse first second) texts := by
  intro cursor ahead
  rw [back.orElse_eq, ifFound_of_missing (misses cursor ahead)]
  exact others cursor ahead

theorem Takes.withAhead {parser : Nat → Parser α}
    (takes : ∀ limit, texts.length ≤ limit → Takes (parser limit) texts after result) :
    Takes (withAhead parser) texts after result := by
  intro cursor ahead
  apply takes _ _ cursor ahead
  rw [cursor.ahead_eq_length, ahead, List.length_append]
  exact Nat.le_add_right _ _

end Combinators

section Repetition

variable {parser : Parser α} {agrees : α → γ → Prop} {write : γ → List String} {items : List γ}

theorem takes_atMost (tame : Tame parser)
    (each : ∀ item rest, item :: rest <:+ items →
      Takes parser (write item) (rest.flatMap write ++ after) (agrees · item))
    (stops : Misses parser after) {limit : Nat} (enough : items.length < limit) :
    Takes (atMost parser limit) (items.flatMap write) after (List.Forall₂ agrees · items) := by
  induction items generalizing limit with
  | nil =>
    cases limit with
    | zero => simp at enough
    | succ limit =>
      rw [atMost_succ tame]
      exact stops.ifFound (takes_pure .nil)
  | cons item rest ih =>
    cases limit with
    | zero => simp at enough
    | succ limit =>
      rw [atMost_succ tame, List.flatMap_cons]
      apply (each item rest List.suffix_rfl).ifFound
      intro node first
      have others : Takes (atMost parser limit) (rest.flatMap write) after
          (List.Forall₂ agrees · rest) :=
        ih (fun item later inside => each item later (inside.trans (List.suffix_cons ..)))
          (Nat.lt_of_succ_lt_succ enough)
      exact others.map fun _ => .cons first

theorem length_le_flatMap (filled : ∀ item ∈ items, write item ≠ []) :
    items.length ≤ (items.flatMap write).length := by
  induction items with
  | nil => exact Nat.zero_le _
  | cons item rest ih =>
    obtain ⟨first, others⟩ := List.forall_mem_cons.1 filled
    have length := List.length_pos_of_ne_nil first
    have shorter := ih others
    simp only [List.flatMap_cons, List.length_append, List.length_cons]
    omega

theorem takes_many (tame : Tame parser) (filled : ∀ item ∈ items, write item ≠ [])
    (each : ∀ item rest, item :: rest <:+ items →
      Takes parser (write item) (rest.flatMap write ++ after) (agrees · item))
    (stops : Misses parser after) :
    Takes (many parser) (items.flatMap write) after (List.Forall₂ agrees · items) := by
  rw [many_eq]
  apply Takes.withAhead
  intro limit long
  have shorter := length_le_flatMap filled
  exact takes_atMost tame each stops (by omega)

theorem Takes.many1 (takes : Takes (many parser) (items.flatMap write) after
    (List.Forall₂ agrees · items)) (nonempty : items ≠ []) :
    Takes (many1 parser) (items.flatMap write) after (List.Forall₂ agrees · items) := by
  rw [← List.append_nil (items.flatMap write)]
  apply Takes.bind takes
  intro nodes same
  have found : nodes.isEmpty = false := by
    cases same with
    | nil => exact absurd rfl nonempty
    | cons => rfl
  rw [if_neg (by simp [found])]
  exact takes_pure same

end Repetition

section Words

theorem takes_next {text : String} : Takes next [text] after fun token => token.text = text := by
  intro cursor ahead
  rw [next, cursor.peek_eq]
  obtain ⟨token, rest, whole, same, -⟩ := List.map_eq_cons_iff.1 ahead
  rw [whole]
  exact ⟨token, rfl, same⟩

theorem misses_next : Misses next [] := by
  intro cursor ahead
  have none : cursor.rest = [] := List.map_eq_nil_iff.1 ahead
  rw [next, cursor.peek_eq, none]
  rfl

theorem takes_nextThat {p : Token → Bool} {text : String}
    (holds : ∀ token : Token, token.text = text → p token) :
    Takes (nextThat p) [text] after fun token => token.text = text := by
  rw [← List.append_nil [text]]
  apply Takes.bind takes_next
  intro token same
  rw [if_pos (holds token same)]
  exact takes_pure same

theorem misses_nextThat {p : Token → Bool}
    (fails : ∀ token : Token, texts.head? = some token.text → ¬p token) :
    Misses (nextThat p) texts := by
  cases texts with
  | nil => exact misses_next.bind _
  | cons text rest =>
    apply Takes.bind_misses takes_next
    intro token same
    rw [if_neg (fails token (by rw [same]; rfl))]
    exact misses_fail

theorem takes_keyword {words : List String} {text : String}
    (member : ∃ word ∈ words, Text.sameWord word text) (shade : Shade) :
    Takes (keyword words shade) [text] after fun _ => True := by
  apply ((takes_nextThat _).map fun _ _ => trivial).attempt
  intro token same
  simpa [isOneOf, same] using member

theorem misses_keyword {words : List String}
    (other : ∀ word ∈ words, ∀ text ∈ texts.head?, ¬Text.sameWord word text) (shade : Shade) :
    Misses (keyword words shade) texts := by
  apply ((misses_nextThat _).bind _).attempt
  intro token first
  simpa [isOneOf] using fun word member => other word member token.text first

theorem isName_eq (token : Token) : isName token = Text.beginsName token.text := by
  rw [isName, Text.beginsName]
  cases token.text.toList <;> rfl

theorem takes_word (name : Name) :
    Takes word [name.text] after fun word => word.text = name.text := by
  apply ((takes_nextThat _).map fun _ same => same).attempt
  intro token same
  rw [isName_eq, same]
  exact name.begins

theorem misses_word (other : ∀ text ∈ texts.head?, ¬Text.beginsName text) :
    Misses word texts := by
  apply ((misses_nextThat _).bind _).attempt
  intro token first
  rw [isName_eq]
  exact other token.text first

theorem takes_numeral {text : String} {n : Int} (read : Text.readLong? text = some n) :
    Takes numeral [text] after fun numeral => numeral.value = n := by
  apply Takes.attempt
  rw [← List.append_nil [text]]
  apply Takes.bind takes_next
  intro token same
  rw [same, read]
  exact takes_pure rfl

theorem misses_numeral (unread : ∀ text ∈ texts.head?, Text.readLong? text = none) :
    Misses numeral texts := by
  apply Misses.attempt
  cases texts with
  | nil => exact misses_next.bind _
  | cons text rest =>
    apply Takes.bind_misses takes_next
    intro token same
    rw [same, unread text rfl]
    exact misses_fail.bind _

theorem misses_symbol {c : Char} (other : ∀ text ∈ texts.head?, text.toList ≠ [c]) :
    Misses (symbol c) texts := by
  apply ((misses_nextThat _).bind _).attempt
  intro token first
  simpa using other token.text first

end Words

section Yields

def Yields (parser : Parser α) (result : α → Prop) : Prop :=
  ∀ cursor node, (parser cursor).1 = .found node → result node

variable {parser : Parser α} {result : α → Prop} {final : β → Prop}

theorem yields_any (parser : Parser α) : Yields parser fun _ => True := fun _ _ _ => trivial

theorem yields_pure {node : α} (holds : result node) : Yields (pure node) result := by
  rintro cursor node ⟨⟩
  exact holds

theorem yields_ofOption (node : Option α) : Yields (ofOption node) (node = some ·) := by
  cases node with
  | none => exact fun _ _ found => by cases found
  | some node => exact yields_pure rfl

theorem Yields.bind {further : α → Parser β} (first : Yields parser result)
    (second : ∀ node, result node → Yields (further node) final) :
    Yields (parser >>= further) final := by
  intro cursor node found
  cases found_or_missing parser cursor with
  | inl read =>
    obtain ⟨before, after, read⟩ := read
    rw [bind_of_found read] at found
    exact second before (first cursor before (by rw [read])) after node found
  | inr missing =>
    rw [bind_of_missing missing] at found
    cases found

theorem Yields.attempt (yields : Yields parser result) : Yields (attempt parser) result :=
  fun cursor => yields cursor.push

theorem Yields.maybe (yields : Yields parser result) :
    Yields (maybe parser) fun found => ∀ node ∈ found, result node := by
  rintro cursor _ read node rfl
  have start := yields.attempt cursor
  have found : (Parser.optional parser cursor).1.node? = some node := Outcome.found.inj read
  rw [Parser.optional] at found
  revert start found
  rcases Parser.attempt parser cursor with ⟨before | _ | _, after⟩
  · rintro start ⟨⟩
    exact start _ rfl
  all_goals exact fun _ found => by cases found

theorem yields_numeral : Yields numeral fun numeral => numeral.value ≤ maxLong := by
  refine Yields.attempt ((yields_any next).bind fun token _ =>
    (yields_ofOption _).bind fun n read => yields_pure ?_)
  obtain ⟨long, -, rfl⟩ := Option.map_eq_some_iff.1 read
  exact long.le_hi

end Yields

end Parser

end Inventory
