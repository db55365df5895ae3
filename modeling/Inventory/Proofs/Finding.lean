import Inventory.Proofs.Taking

set_option autoImplicit false

namespace Inventory.Parser

variable {α β : Type}

def finds (parser : Parser α) (tokens : List Token) : Option (α × List Token) :=
  let (outcome, n) := parser.reads tokens
  outcome.node?.map fun node => (node, tokens.drop n)

section Combinators

variable {parser : Parser α} {tokens rest : List Token}

theorem Tame.finds_rest (tame : Tame parser) (cursor : Cursor) :
    parser.finds cursor.rest =
      (parser cursor).1.node?.map fun node => (node, (parser cursor).2.rest) := by
  rw [finds, tame.ahead cursor, Cursor.rest_advance]

theorem Tame.finds_eq (tame : Tame parser) (tokens : List Token) :
    parser.finds tokens =
      (parser (.ofTokens tokens)).1.node?.map fun node => (node, (parser (.ofTokens tokens)).2.rest) :=
  tame.finds_rest (.ofTokens tokens)

theorem Tame.finds_eq_none_iff (tame : Tame parser) (cursor : Cursor) :
    parser.finds cursor.rest = none ↔ (parser cursor).1.node? = none := by
  rw [tame.finds_rest, Option.map_eq_none_iff]

@[simp] theorem finds_pure (node : α) : (pure node : Parser α).finds tokens = some (node, tokens) :=
  rfl

theorem finds_bind {further : α → Parser β} (first : Tame parser)
    (second : ∀ node, Tame (further node)) :
    (parser >>= further).finds tokens =
      (parser.finds tokens).bind fun found => (further found.1).finds found.2 := by
  rw [(first.bind second).finds_eq, first.finds_eq, bind_apply]
  rcases parser (.ofTokens tokens) with ⟨node | _ | _, after⟩
  · exact ((second node).finds_rest after).symm
  · rfl
  · rfl

theorem finds_bind_iff {further : α → Parser β} (first : Tame parser)
    (second : ∀ node, Tame (further node)) {result : β} :
    (parser >>= further).finds tokens = some (result, rest) ↔
      ∃ node after, parser.finds tokens = some (node, after) ∧
        (further node).finds after = some (result, rest) := by
  rw [finds_bind first second, Option.bind_eq_some_iff, Prod.exists]

theorem finds_map_iff {f : α → β} (tame : Tame parser) {result : β} :
    (parser >>= fun node => pure (f node)).finds tokens = some (result, rest) ↔
      ∃ node, parser.finds tokens = some (node, rest) ∧ result = f node := by
  rw [finds_bind_iff tame fun _ => tame_pure _]
  constructor
  · rintro ⟨node, _, found, ⟨⟩⟩
    exact ⟨node, found, rfl⟩
  · rintro ⟨node, found, rfl⟩
    exact ⟨node, rest, found, rfl⟩

theorem finds_attempt_iff (tame : Tame parser) {node : α} :
    (attempt parser).finds tokens = some (node, rest) ↔ parser.finds tokens = some (node, rest) := by
  rw [tame.attempt.finds_eq, tame.finds_eq, tame.attempt_eq]
  rcases parser (.ofTokens tokens) with ⟨_ | _ | _, after⟩ <;> rfl

theorem finds_attempt_bind_iff {further : α → Parser β} (first : Tame parser)
    (second : ∀ node, Tame (further node)) {result : β} :
    (attempt (parser >>= further)).finds tokens = some (result, rest) ↔
      ∃ node after, parser.finds tokens = some (node, after) ∧
        (further node).finds after = some (result, rest) := by
  rw [finds_attempt_iff (first.bind second), finds_bind_iff first second]

theorem finds_ifFound {yes : α → Parser β} {no : Parser β} (first : Tame parser)
    (second : ∀ node, Tame (yes node)) (other : Tame no) :
    (ifFound parser yes no).finds tokens =
      match parser.finds tokens with
      | some (node, rest) => (yes node).finds rest
      | none => no.finds tokens := by
  rw [(first.ifFound second other).finds_eq, first.finds_eq, Parser.ifFound]
  rcases parser (.ofTokens tokens) with ⟨node | _ | _, after⟩
  · exact ((second node).finds_rest after).symm
  · exact (other.finds_eq tokens).symm
  · exact (other.finds_eq tokens).symm

theorem finds_maybe_bind_iff {further : Option α → Parser β} (tame : Tame parser)
    (present : ∀ node, Tame (further (some node))) (missing : Tame (further none)) {result : β} :
    (maybe parser >>= further).finds tokens = some (result, rest) ↔
      (∃ node after, parser.finds tokens = some (node, after) ∧
        (further (some node)).finds after = some (result, rest)) ∨
      parser.finds tokens = none ∧ (further none).finds tokens = some (result, rest) := by
  have second (found : Option α) : Tame (further found) := by
    cases found with
    | none => exact missing
    | some node => exact present node
  rw [finds_bind tame.maybe second, tame.maybe_eq,
    finds_ifFound tame (fun _ => tame_pure _) (tame_pure none)]
  rcases parser.finds tokens with _ | ⟨node, after⟩ <;> simp

theorem finds_orElse_iff {second : Parser α} (one : Tame parser) (back : GoesBack parser)
    (other : Tame second) {node : α} :
    (orElse parser second).finds tokens = some (node, rest) ↔
      parser.finds tokens = some (node, rest) ∨
        parser.finds tokens = none ∧ second.finds tokens = some (node, rest) := by
  rw [back.orElse_eq, finds_ifFound one tame_pure other]
  cases parser.finds tokens with
  | none => simp
  | some found => simp

theorem finds_withAhead {parser : Nat → Parser α} (tame : ∀ limit, Tame (parser limit)) :
    (withAhead parser).finds tokens = (parser tokens.length).finds tokens := by
  rw [(Tame.withAhead tame).finds_eq, (tame _).finds_eq]
  rfl

end Combinators

section Grammars

variable {parser : Parser α} {derives : List Token → α → Prop} {cursor after : Cursor} {node : α}

/-- The parser finds what the tokens at the start of a row derive, and nothing else. -/
def Accepts (parser : Parser α) (derives : List Token → α → Prop) : Prop :=
  ∀ tokens node rest, parser.finds tokens = some (node, rest) ↔
    ∃ taken, tokens = taken ++ rest ∧ derives taken node

theorem Accepts.found_iff (accepts : Accepts parser derives) (tame : Tame parser) :
    parser cursor = (.found node, after) ↔
      ∃ taken, taken <+: cursor.rest ∧ derives taken node ∧ after = cursor.advance taken.length := by
  have found := tame.finds_rest cursor
  have within := tame.within cursor.rest
  rw [tame.ahead cursor, Cursor.rest_advance] at found
  rw [tame.ahead cursor]
  revert found within
  rcases parser.reads cursor.rest with ⟨outcome, n⟩
  intro found within
  constructor
  · rintro ⟨⟩
    obtain ⟨taken, whole, derive⟩ := (accepts _ _ _).1 found
    have length := congrArg List.length whole
    rw [List.length_append, List.length_drop] at length
    obtain rfl : taken.length = n := by omega
    exact ⟨taken, ⟨_, whole.symm⟩, derive, rfl⟩
  · rintro ⟨taken, ⟨rest, whole⟩, derive, rfl⟩
    rw [(accepts _ _ _).2 ⟨taken, whole.symm, derive⟩] at found
    cases outcome with
    | found other =>
      obtain ⟨rfl, left⟩ := Prod.mk.inj (Option.some.inj found)
      have length := congrArg List.length whole
      rw [List.length_append, left, List.length_drop] at length
      obtain rfl : n = taken.length := by omega
      rfl
    | absent => cases found
    | failed => cases found

theorem Accepts.takes {texts others : List String} {result : α → Prop}
    (accepts : Accepts parser derives) (tame : Tame parser)
    (derivable : ∀ tokens, tokens.map Token.text = texts → ∃ node, derives tokens node ∧ result node) :
    Takes parser texts others result := by
  intro cursor ahead
  obtain ⟨taken, rest, whole, same, -⟩ := List.map_eq_append_iff.1 ahead
  obtain ⟨node, derive, holds⟩ := derivable taken same
  have length : taken.length = texts.length := by rw [← same, List.length_map]
  exact ⟨node, (accepts.found_iff tame).2 ⟨taken, ⟨rest, whole.symm⟩, derive, by rw [length]⟩, holds⟩

theorem Accepts.missing_iff (accepts : Accepts parser derives) (tame : Tame parser) :
    (parser cursor).1.node? = none ↔ ∀ taken node, taken <+: cursor.rest → ¬derives taken node := by
  rw [← tame.finds_eq_none_iff, Option.eq_none_iff_forall_ne_some]
  constructor
  · rintro missing taken node ⟨rest, whole⟩ derive
    exact missing (node, rest) ((accepts _ _ _).2 ⟨taken, whole.symm, derive⟩)
  · rintro underived ⟨node, rest⟩ found
    obtain ⟨taken, whole, derive⟩ := (accepts _ _ _).1 found
    exact underived taken node ⟨rest, whole.symm⟩ derive

def Decides (parser : Parser α) : Prop := ∀ cursor, (parser cursor).1 ≠ .absent

theorem decides_pure : Decides (pure node : Parser α) := fun _ same => by cases same

theorem decides_bind {further : α → Parser β} (second : ∀ node, Decides (further node)) :
    Decides (parser >>= further) := by
  intro cursor
  rw [bind_apply]
  rcases parser cursor with ⟨node | _ | _, after⟩
  · exact second node after
  · exact fun same => by cases same
  · exact fun same => by cases same

theorem Decides.attempt (decides : Decides parser) : Decides (attempt parser) :=
  fun cursor => decides cursor.push

end Grammars

def Single (parser : Parser α) (made : Token → α → Prop) : Prop :=
  ∀ tokens node rest, parser.finds tokens = some (node, rest) ↔
    ∃ token, tokens = token :: rest ∧ made token node

namespace Single

variable {parser : Parser α} {made : Token → α → Prop} {tokens : List Token}

theorem finds_eq_none (single : Single parser made)
    (unmade : ∀ token ∈ tokens.head?, ∀ node, ¬made token node) : parser.finds tokens = none := by
  rw [Option.eq_none_iff_forall_ne_some]
  rintro ⟨node, rest⟩ found
  obtain ⟨token, rfl, here⟩ := (single _ _ _).1 found
  exact unmade token rfl node here

theorem imp_iff {other : Token → α → Prop} (single : Single parser made)
    (same : ∀ token node, made token node ↔ other token node) : Single parser other := by
  intro tokens node rest
  simp only [single tokens node rest, same]

theorem attempt (tame : Tame parser) (single : Single parser made) :
    Single (attempt parser) made := by
  intro tokens node rest
  rw [finds_attempt_iff tame]
  exact single tokens node rest

theorem map (f : α → β) (tame : Tame parser) (single : Single parser made) :
    Single (parser >>= fun node => pure (f node)) fun token result =>
      ∃ node, made token node ∧ result = f node := by
  intro tokens result rest
  rw [finds_map_iff tame]
  constructor
  · rintro ⟨node, found, rfl⟩
    obtain ⟨token, rfl, here⟩ := (single _ _ _).1 found
    exact ⟨token, rfl, node, here, rfl⟩
  · rintro ⟨token, rfl, node, here, rfl⟩
    exact ⟨node, (single _ _ _).2 ⟨token, rfl, here⟩, rfl⟩

theorem orElse {second : Parser α} {others : Token → α → Prop} (single : Single parser made)
    (tame : Tame parser) (back : GoesBack parser) (other : Single second others)
    (tame' : Tame second)
    (apart : ∀ token node node', others token node → ¬made token node') :
    Single (orElse parser second) fun token node => made token node ∨ others token node := by
  intro tokens node rest
  rw [finds_orElse_iff tame back tame']
  constructor
  · rintro (found | ⟨-, found⟩)
    · obtain ⟨token, rfl, here⟩ := (single _ _ _).1 found
      exact ⟨token, rfl, .inl here⟩
    · obtain ⟨token, rfl, here⟩ := (other _ _ _).1 found
      exact ⟨token, rfl, .inr here⟩
  · rintro ⟨token, rfl, here | here⟩
    · exact .inl ((single _ _ _).2 ⟨token, rfl, here⟩)
    · refine .inr ⟨single.finds_eq_none ?_, (other _ _ _).2 ⟨token, rfl, here⟩⟩
      rintro _ ⟨⟩ node'
      exact apart token node node' here

end Single

section Words

variable {tokens rest : List Token}

theorem finds_next_iff {token : Token} :
    next.finds tokens = some (token, rest) ↔ tokens = token :: rest := by
  cases tokens with
  | nil => exact iff_of_false (fun found => by cases found) (List.cons_ne_nil _ _).symm
  | cons first others =>
    have found : next.finds (first :: others) = some (first, others) := rfl
    rw [found, Option.some.injEq, Prod.mk.injEq, List.cons.injEq]

theorem finds_ofOption_iff {given : Option α} {node : α} :
    (ofOption given).finds tokens = some (node, rest) ↔ given = some node ∧ tokens = rest := by
  cases given with
  | none => exact iff_of_false (fun found => by cases found) fun holds => by cases holds.1
  | some given =>
    have found : (ofOption (some given)).finds tokens = some (given, tokens) := rfl
    rw [found, Option.some.injEq, Option.some.injEq, Prod.mk.injEq]

theorem single_nextThat (p : Token → Bool) :
    Single (nextThat p) fun token node => p token ∧ node = token := by
  intro tokens node rest
  rw [nextThat, finds_bind_iff tame_next fun token => (tame_pure token).ite tame_fail]
  simp only [finds_next_iff]
  constructor
  · rintro ⟨token, after, rfl, kept⟩
    cases fits : p token <;> rw [fits] at kept <;> cases kept
    exact ⟨_, rfl, fits, rfl⟩
  · rintro ⟨token, rfl, fits, rfl⟩
    exact ⟨node, rest, rfl, by rw [if_pos fits, finds_pure]⟩

theorem single_symbol (c : Char) :
    Single (symbol c) fun token span => token = ⟨String.ofList [c], span⟩ := by
  have single := (single_nextThat fun token => token.text.toList = [c]).map Token.span (tame_nextThat _)
  refine (single.attempt ((tame_nextThat _).bind fun _ => tame_pure _)).imp_iff fun _ span => ?_
  constructor
  · rintro ⟨_, ⟨same, rfl⟩, rfl⟩
    rw [← of_decide_eq_true same, String.ofList_toList]
  · rintro rfl
    exact ⟨_, ⟨decide_eq_true String.toList_ofList, rfl⟩, rfl⟩

theorem single_word : Single word fun token found =>
    ∃ (name : Name) (span : Span), token = ⟨name.text, span⟩ ∧ found = ⟨name.text, span⟩ := by
  have single := (single_nextThat isName).map (fun token => (⟨token.text, token.span⟩ : Word))
    (tame_nextThat _)
  refine (single.attempt ((tame_nextThat _).bind fun _ => tame_pure _)).imp_iff fun _ found => ?_
  constructor
  · rintro ⟨token, ⟨begins, rfl⟩, rfl⟩
    rw [isName_eq] at begins
    exact ⟨⟨token.text, begins⟩, token.span, rfl, rfl⟩
  · rintro ⟨name, span, rfl, rfl⟩
    exact ⟨_, ⟨(isName_eq _).trans name.begins, rfl⟩, rfl⟩

theorem single_numeral : Single numeral fun token found =>
    ∃ (figure : Figure) (span : Span), token = ⟨figure.text, span⟩ ∧
      found = ⟨figure.value.val, span⟩ := by
  intro tokens found rest
  have value (token : Token) : Tame (ofOption (Text.readLong? token.text)) := tame_ofOption _
  rw [numeral, finds_attempt_bind_iff tame_next fun token => (value token).bind fun _ => tame_pure _]
  simp only [finds_next_iff, finds_map_iff (value _), finds_ofOption_iff, Text.readLong?_eq_some_iff]
  constructor
  · rintro ⟨token, _, rfl, _, ⟨⟨figure, same, rfl⟩, rfl⟩, rfl⟩
    exact ⟨token, rfl, figure, token.span, by rw [same], rfl⟩
  · rintro ⟨_, rfl, figure, span, rfl, rfl⟩
    exact ⟨_, _, rfl, _, ⟨⟨figure, rfl, rfl⟩, rfl⟩, rfl⟩

end Words

end Inventory.Parser
