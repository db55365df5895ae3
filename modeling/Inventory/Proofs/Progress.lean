import Inventory.Proofs.Backtracking
import Inventory.Script.Command

set_option autoImplicit false

namespace Inventory

namespace Parser

variable {α β : Type}

section Advancing

variable {parser : Parser α} {further : α → Parser β} {cursor after : Cursor} {node : α}

theorem Tame.way (tame : Tame parser) (advances : Advances parser)
    (found : parser cursor = (.found node, after)) :
    ∃ n, 0 < n ∧ n ≤ cursor.rest.length ∧ after = cursor.advance n := by
  have moved := advances (.ofTokens cursor.rest) (Nat.zero_le _)
  rw [tame.ahead] at found
  obtain ⟨outcome, rfl⟩ := Prod.mk.inj found
  have reads : (parser (.ofTokens cursor.rest)).1 = .found node := outcome
  have start : 0 < (parser.reads cursor.rest).2 := moved (by simp [reads, Outcome.node?])
  exact ⟨_, start, tame.within cursor.rest, rfl⟩

theorem Tame.position_lt (tame : Tame parser) (advances : Advances parser)
    (found : parser cursor = (.found node, after)) : cursor.position < after.position := by
  obtain ⟨n, start, -, rfl⟩ := tame.way advances found
  exact Nat.lt_add_of_pos_right start

theorem Tame.ahead_lt (tame : Tame parser) (advances : Advances parser)
    (found : parser cursor = (.found node, after)) : after.ahead < cursor.ahead := by
  obtain ⟨n, start, within, rfl⟩ := tame.way advances found
  rw [Cursor.ahead_eq, Cursor.ahead_eq, Cursor.rest_advance, List.length_drop]
  omega

theorem advances_fail : Advances (fail : Parser α) := fun _ _ found => absurd rfl found

theorem Advances.ite {c : Prop} [Decidable c] {yes no : Parser α} (first : Advances yes)
    (second : Advances no) : Advances (if c then yes else no) := by
  split
  next => exact first
  next => exact second

theorem Advances.bind_first (moves : MovesOn parser) (advances : Advances parser)
    (onward : ∀ node, MovesOn (further node)) : Advances (parser >>= further) := by
  intro cursor inRow found
  have way := moves cursor inRow
  have moved := advances cursor inRow
  cases found_or_missing parser cursor with
  | inl read =>
    obtain ⟨node, after, read⟩ := read
    rw [read] at way moved
    have first : cursor.position < after.position := moved fun missing => by cases missing
    rw [bind_of_found read]
    exact Nat.lt_of_lt_of_le first (onward node after way.inRow).forward
  | inr missing =>
    rw [bind_of_missing missing] at found
    exact absurd rfl found

theorem Advances.bind_second (moves : MovesOn parser) (advances : ∀ node, Advances (further node)) :
    Advances (parser >>= further) := by
  intro cursor inRow found
  have way := moves cursor inRow
  cases found_or_missing parser cursor with
  | inl read =>
    obtain ⟨node, after, read⟩ := read
    rw [read] at way
    rw [bind_of_found read] at found ⊢
    exact Nat.lt_of_le_of_lt way.forward (advances node after way.inRow found)
  | inr missing =>
    rw [bind_of_missing missing] at found
    exact absurd rfl found

theorem advances_token (p : Token → Bool) (f : Token → α) :
    Advances (Parser.attempt do
      let token ← nextThat p
      pure (f token)) := by
  exact Advances.attempt <|
    .bind_first (tame_nextThat p).movesOn (advances_nextThat p) fun _ => (tame_pure _).movesOn

end Advancing

section Limits

variable {parser : Parser α} {cursor after last : Cursor} {node : α} {nodes : List α}

theorem upTo_of_found (tame : Tame parser) (found : parser cursor = (.found node, after))
    (limit : Nat) : upTo parser (limit + 1) cursor =
      ((upTo parser limit after).1.cons node, (upTo parser limit after).2) := by
  rw [upTo_eq tame, found]

theorem upTo_of_missing (tame : Tame parser) (missing : (parser cursor).1.node? = none)
    (limit : Nat) : upTo parser limit cursor = ([], cursor) := by
  cases limit with
  | zero => rfl
  | succ limit =>
    rw [upTo_eq tame]
    revert missing
    rcases parser cursor with ⟨_ | _ | _, after⟩
    next => exact fun missing => by cases missing
    all_goals exact fun _ => rfl

theorem missing_of_atEnd (tame : Tame parser) (advances : Advances parser)
    (atEnd : cursor.ahead = 0) : (parser cursor).1.node? = none := by
  cases found_or_missing parser cursor with
  | inl read =>
    obtain ⟨node, after, read⟩ := read
    have closer := tame.ahead_lt advances read
    omega
  | inr missing => exact missing

theorem upTo_congr (tame : Tame parser) (advances : Advances parser) {limit other : Nat}
    (enough : cursor.ahead ≤ limit) (enough' : cursor.ahead ≤ other) :
    upTo parser limit cursor = upTo parser other cursor := by
  induction limit generalizing other cursor with
  | zero =>
    have missing := missing_of_atEnd tame advances (Nat.le_zero.1 enough)
    rw [upTo_of_missing tame missing, upTo_of_missing tame missing]
  | succ limit ih =>
    cases found_or_missing parser cursor with
    | inl read =>
      obtain ⟨node, after, read⟩ := read
      have closer := tame.ahead_lt advances read
      obtain ⟨other, rfl⟩ : ∃ n, other = n + 1 := Nat.exists_eq_add_one.2 (by omega)
      have same : upTo parser limit after = upTo parser other after := ih (by omega) (by omega)
      rw [upTo_of_found tame read, upTo_of_found tame read, same]
    | inr missing => rw [upTo_of_missing tame missing, upTo_of_missing tame missing]

theorem atMost_of_enough (tame : Tame parser) (advances : Advances parser) {limit : Nat}
    (enough : cursor.ahead ≤ limit) : atMost parser limit cursor = many parser cursor := by
  rw [atMost, many, upTo_congr tame advances enough (Nat.le_succ _)]

theorem many_of_missing (tame : Tame parser) (missing : (parser cursor).1.node? = none) :
    many parser cursor = (.found [], cursor) := by
  rw [many, upTo_of_missing tame missing]

theorem many_of_found (tame : Tame parser) (advances : Advances parser)
    (tried : parser cursor = (.found node, after)) (rest : many parser after = (.found nodes, last)) :
    many parser cursor = (.found (node :: nodes), last) := by
  have closer := tame.ahead_lt advances tried
  have goesOn : atMost parser cursor.ahead after = (.found nodes, last) :=
    (atMost_of_enough tame advances (Nat.le_of_lt closer)).trans rest
  obtain ⟨rfl, rfl⟩ : (upTo parser cursor.ahead after).1 = nodes ∧ _ = last := by
    simpa [atMost] using goesOn
  rw [many, upTo_of_found tame tried]

theorem Tame.collects_many (tame : Tame parser) (advances : Advances parser) (cursor : Cursor) :
    ∃ nodes after, Collects parser cursor nodes after ∧
      Parser.many parser cursor = (.found nodes, after) := by
  induction tokens : cursor.ahead using Nat.strongRecOn generalizing cursor with
  | ind n ih =>
    cases found_or_missing parser cursor with
    | inl read =>
      obtain ⟨node, middle, read⟩ := read
      have closer := tame.ahead_lt advances read
      obtain ⟨nodes, after, rest, goesOn⟩ := ih middle.ahead (tokens ▸ closer) middle rfl
      exact ⟨node :: nodes, after, .more (tame.attempt_of_found read) rest,
        many_of_found tame advances read goesOn⟩
    | inr missing =>
      have stays : (Parser.attempt parser cursor).1.node? = none :=
        (tame.node?_attempt cursor).trans missing
      have back := tame.goesBack_attempt cursor stays
      exact ⟨[], cursor, .stop (Prod.ext rfl back) stays, many_of_missing tame missing⟩

theorem Collects.length_add_ahead_le (collects : Collects parser cursor nodes after)
    (tame : Tame parser) (advances : Advances parser) :
    nodes.length + after.ahead ≤ cursor.ahead := by
  induction collects with
  | @stop cursor after outcome tried missing =>
    have stays := tame.goesBack_attempt cursor
    rw [tried] at stays
    obtain rfl : after = cursor := stays missing
    simp
  | @more cursor middle after node nodes tried rest ih =>
    have closer := tame.attempt.ahead_lt advances.attempt tried
    rw [List.length_cons]
    omega

theorem Collects.exists_missing (collects : Collects parser cursor nodes after) :
    ∃ last, (attempt parser last).1.node? = none := by
  induction collects with
  | @stop cursor after outcome tried missing => exact ⟨cursor, by rw [tried]; exact missing⟩
  | more tried rest ih => exact ih

end Limits

section Turns

def nameTurn : Parser Word := do
  if ← atSlotClause then fail else word

def pairTurn : Parser (Span × MetaPair) := do
  let comma ← symbol ','
  let pair ← metaPair
  pure (comma, pair)

def endPairs (pairs : List (Span × MetaPair)) : Parser (List (Span × MetaPair)) := do
  match ← maybe (symbol ',') with
  | none => pure pairs
  | some _ => fail

theorem tame_nameTurn : Tame nameTurn := tame_atSlotClause.bind fun _ => tame_fail.ite tame_word

theorem tame_pairTurn : Tame pairTurn :=
  (tame_symbol ',').bind fun _ => tame_metaPair.bind fun _ => tame_pure _

theorem advances_word : Advances word := advances_token _ _

theorem advances_symbol (c : Char) : Advances (symbol c) := advances_token _ _

theorem advances_nameTurn : Advances nameTurn :=
  .bind_second tame_atSlotClause.movesOn fun _ => advances_fail.ite advances_word

theorem advances_pairTurn : Advances pairTurn :=
  .bind_first (tame_symbol ',').movesOn (advances_symbol ',') fun _ =>
    (tame_metaPair.bind fun _ => tame_pure _).movesOn

theorem nameWords_eq (limit : Nat) : nameWords limit = atMost nameTurn limit := by
  induction limit with
  | zero => rfl
  | succ limit ih =>
    funext cursor
    have asked := atSlotClause_eq cursor
    rw [nameWords, bind_of_found asked, atMost_succ tame_nameTurn, ← ih]
    have turn : nameTurn cursor = _ := bind_of_found asked
    split at turn
    next stops =>
      rw [if_pos stops, ifFound_of_missing (by rw [turn]; rfl)]
    next goesOn =>
      rw [if_neg goesOn]
      cases found_or_missing word cursor with
      | inl read =>
        obtain ⟨first, after, read⟩ := read
        rw [bind_of_found (tame_word.maybe_of_found read), ifFound_of_found (turn.trans read)]
      | inr missing =>
        rw [bind_of_found (tame_word.maybe_of_missing missing),
          ifFound_of_missing (by rw [turn]; exact missing)]

theorem withAhead_nameWords : withAhead nameWords = many nameTurn := by
  funext cursor
  rw [withAhead, nameWords_eq]
  exact atMost_of_enough tame_nameTurn advances_nameTurn (Nat.le_refl _)

section Pairs

variable {cursor middle after : Cursor} {comma : Span} {pair : MetaPair}
  {pairs : List (Span × MetaPair)}

theorem endPairs_of_comma (read : symbol ',' cursor = (.found comma, middle)) :
    endPairs pairs cursor = (.failed, middle) := by
  rw [endPairs, bind_of_found ((tame_symbol ',').maybe_of_found read)]
  rfl

theorem endPairs_of_noComma (missing : (symbol ',' cursor).1.node? = none) :
    endPairs pairs cursor = (.found pairs, cursor) := by
  rw [endPairs, bind_of_found ((tame_symbol ',').maybe_of_missing missing)]
  rfl

theorem morePairs_of_comma (read : symbol ',' cursor = (.found comma, middle)) (limit : Nat) :
    morePairs (limit + 1) cursor =
      (do
        let pair ← metaPair
        let rest ← morePairs limit
        pure ((comma, pair) :: rest) : Parser (List (Span × MetaPair))) middle := by
  rw [morePairs, bind_of_found ((tame_symbol ',').maybe_of_found read)]

theorem morePairs_of_noComma (missing : (symbol ',' cursor).1.node? = none) (limit : Nat) :
    morePairs limit cursor = (.found [], cursor) := by
  cases limit with
  | zero => rfl
  | succ limit =>
    rw [morePairs, bind_of_found ((tame_symbol ',').maybe_of_missing missing)]
    rfl

theorem pairs_of_missing (missing : (pairTurn cursor).1.node? = none) :
    (many pairTurn >>= endPairs) cursor = endPairs [] cursor :=
  bind_of_found (many_of_missing tame_pairTurn missing)

theorem pairs_of_noComma (missing : (symbol ',' cursor).1.node? = none) :
    (many pairTurn >>= endPairs) cursor = (.found [], cursor) := by
  have turn : (pairTurn cursor).1.node? = none := by
    rw [pairTurn, bind_of_missing missing]
    rfl
  rw [pairs_of_missing turn, endPairs_of_noComma missing]

theorem pairs_of_noPair (read : symbol ',' cursor = (.found comma, middle))
    (missing : (metaPair middle).1.node? = none) :
    (many pairTurn >>= endPairs) cursor = (.failed, middle) := by
  have turn : (pairTurn cursor).1.node? = none := by
    rw [pairTurn, bind_of_found read, bind_of_missing missing]
    rfl
  rw [pairs_of_missing turn, endPairs_of_comma read]

theorem pairs_of_found (turn : pairTurn cursor = (.found (comma, pair), after)) :
    (many pairTurn >>= endPairs) cursor =
      (do
        let rest ← many pairTurn >>= endPairs
        pure ((comma, pair) :: rest) : Parser (List (Span × MetaPair))) after := by
  obtain ⟨nodes, last, -, goesOn⟩ := tame_pairTurn.collects_many advances_pairTurn after
  have rest : (many pairTurn >>= endPairs) after = endPairs nodes last := bind_of_found goesOn
  rw [bind_of_found (many_of_found tame_pairTurn advances_pairTurn turn goesOn)]
  cases found_or_missing (symbol ',') last with
  | inl read =>
    obtain ⟨comma, later, read⟩ := read
    rw [endPairs_of_comma read] at rest ⊢
    rw [bind_apply, rest]
  | inr missing =>
    rw [endPairs_of_noComma missing] at rest ⊢
    rw [bind_of_found rest]
    rfl

theorem morePairs_eq {limit : Nat} (enough : cursor.ahead ≤ limit) :
    morePairs limit cursor = (many pairTurn >>= endPairs) cursor := by
  induction limit generalizing cursor with
  | zero =>
    have atEnd : cursor.ahead = 0 := Nat.le_zero.1 enough
    have missing := missing_of_atEnd (tame_symbol ',') (advances_symbol ',') atEnd
    rw [morePairs_of_noComma missing, pairs_of_noComma missing]
  | succ limit ih =>
    obtain ⟨comma, middle, read⟩ | missing := found_or_missing (symbol ',') cursor
    next =>
      rw [morePairs_of_comma read]
      obtain ⟨pair, after, found⟩ | missing := found_or_missing metaPair middle
      next =>
        have turn : pairTurn cursor = (.found (comma, pair), after) := by
          rw [pairTurn, bind_of_found read, bind_of_found found]
          rfl
        have closer := tame_pairTurn.ahead_lt advances_pairTurn turn
        rw [pairs_of_found turn, bind_of_found found, bind_apply, bind_apply, ih (by omega)]
      next =>
        have stays := tentative_metaPair.goesBack middle missing
        rw [pairs_of_noPair read missing, bind_of_missing missing, stays]
    next => rw [morePairs_of_noComma missing, pairs_of_noComma missing]

end Pairs

theorem withAhead_morePairs : withAhead morePairs = many pairTurn >>= endPairs :=
  funext fun cursor => morePairs_eq (Nat.le_refl cursor.ahead)

theorem Advances.bind_many {turn : Parser α} {further : List α → Parser β} (tame : Tame turn)
    (advances : Advances turn) (onward : ∀ nodes, MovesOn (further nodes)) :
    Advances (many turn >>= fun nodes => if nodes.isEmpty then fail else further nodes) := by
  intro cursor inRow
  obtain ⟨nodes, after, collects, read⟩ := tame.collects_many advances cursor
  have way : cursor.Onward after := collects.onward tame.movesOn inRow
  have bound := collects.length_add_ahead_le tame advances
  rw [bind_apply, read]
  cases nodes with
  | nil => exact fun found => absurd rfl found
  | cons node nodes =>
    have first : cursor.position < after.position := by
      rw [Cursor.ahead, Cursor.ahead, way.tokens, List.length_cons] at bound
      omega
    exact fun _ => Nat.lt_of_lt_of_le first (onward (node :: nodes) after way.inRow).forward

theorem advances_itemPhrase (quantity : Quantity) : Advances (itemPhrase quantity) := by
  have named (all : Option Keyword) (amount : Option Numeral) : Advances (do
      let words ← withAhead nameWords
      if words.isEmpty then fail
      else
        let clause ← maybe metaClause
        pure (⟨amount, all, words, clause⟩ : ItemPhrase)) := by
    rw [withAhead_nameWords]
    exact .bind_many tame_nameTurn advances_nameTurn fun _ =>
      (tame_metaClause.maybe.bind fun _ => tame_pure _).movesOn
  exact .attempt <| .bind_second (tame_allWord quantity).movesOn fun all =>
    .bind_second (tame_amountWord quantity all).movesOn (named all)

/-- The loops of the grammar: what a turn reads, and what becomes of the finds in the end. -/
inductive Repeats : {α : Type} → Parser α → (List α → Parser (List α)) → Parser (List α) → Prop
  | words : Repeats word pure (many word)
  | items (quantity : Quantity) : Repeats (itemPhrase quantity) pure (many (itemPhrase quantity))
  | nameWords : Repeats nameTurn pure (withAhead nameWords)
  | morePairs : Repeats pairTurn endPairs (withAhead morePairs)

section Loops

variable {turn : Parser α} {ends : List α → Parser (List α)} {whole : Parser (List α)}

theorem Repeats.tame (repeats : Repeats turn ends whole) : Tame turn := by
  cases repeats with
  | words => exact tame_word
  | items quantity => exact tame_itemPhrase quantity
  | nameWords => exact tame_nameTurn
  | morePairs => exact tame_pairTurn

theorem Repeats.advances (repeats : Repeats turn ends whole) : Advances turn := by
  cases repeats with
  | words => exact advances_word
  | items quantity => exact advances_itemPhrase quantity
  | nameWords => exact advances_nameTurn
  | morePairs => exact advances_pairTurn

theorem Repeats.whole_eq (repeats : Repeats turn ends whole) : whole = many turn >>= ends := by
  cases repeats with
  | words => rfl
  | items quantity => rfl
  | nameWords => exact withAhead_nameWords
  | morePairs => exact withAhead_morePairs

end Loops

end Turns

/-- Reading step by step, with no limit on any loop. A loop is over with the first turn that finds
nothing, and only then. -/
inductive Runs : {α : Type} → Parser α → Cursor → Outcome α × Cursor → Prop
  | pure {α : Type} (node : α) (cursor : Cursor) : Runs (pure node) cursor (.found node, cursor)
  | fail {α : Type} (cursor : Cursor) : Runs (fail : Parser α) cursor (.failed, cursor)
  | next (cursor : Cursor) : Runs next cursor (next cursor)
  | done (cursor : Cursor) : Runs done cursor (done cursor)
  | bind {α β : Type} {parser : Parser α} {further : α → Parser β} {cursor middle : Cursor}
    {node : α} {result : Outcome β × Cursor} (first : Runs parser cursor (.found node, middle))
    (second : Runs (further node) middle result) : Runs (parser >>= further) cursor result
  | missed {α β : Type} {parser : Parser α} {further : α → Parser β} {cursor after : Cursor}
    {outcome : Outcome α} (first : Runs parser cursor (outcome, after))
    (missing : outcome.node? = none) : Runs (parser >>= further) cursor (.failed, after)
  | attempt {α : Type} {parser : Parser α} {cursor after : Cursor} {outcome : Outcome α}
    (tried : Runs parser cursor.push (outcome, after)) :
    Runs (attempt parser) cursor (outcome,
      (if goesBack outcome cursor.position after.position then after.restore else after).pop)
  | maybe {α : Type} {parser : Parser α} {cursor after : Cursor} {outcome : Outcome α}
    (tried : Runs (attempt parser) cursor (outcome, after)) :
    Runs (maybe parser) cursor (.found outcome.node?, after)
  | orElse {α : Type} {first second : Parser α} {cursor after : Cursor} {node : α}
    (one : Runs first cursor (.found node, after)) :
    Runs (orElse first second) cursor (.found node, after)
  | otherwise {α : Type} {first second : Parser α} {cursor middle : Cursor} {outcome : Outcome α}
    {result : Outcome α × Cursor} (one : Runs first cursor (outcome, middle))
    (missing : outcome.node? = none) (other : Runs second middle result) :
    Runs (orElse first second) cursor result
  | atSlotClause {cursor after : Cursor} {outcome : Outcome SlotClause}
    (sought : Runs (slotClause ["in", "from"]) cursor.push (outcome, after)) :
    Runs atSlotClause cursor (.found outcome.node?.isSome, after.restore.pop)
  | manyOver {α : Type} {turn : Parser α} {cursor after : Cursor} {outcome : Outcome α}
    (tried : Runs (attempt turn) cursor (outcome, after)) (missing : outcome.node? = none) :
    Runs (many turn) cursor (.found [], after)
  | manyMore {α : Type} {turn : Parser α} {cursor middle after : Cursor} {node : α}
    {nodes : List α} (tried : Runs (attempt turn) cursor (.found node, middle))
    (goesOn : Runs (many turn) middle (.found nodes, after)) :
    Runs (many turn) cursor (.found (node :: nodes), after)

structure Ends (parser : Parser α) : Prop where
  tame : Tame parser
  runs : ∀ cursor, Runs parser cursor (parser cursor)

section Combinators

variable {parser : Parser α} {further : α → Parser β}

theorem ends_pure (node : α) : Ends (pure node) := ⟨tame_pure node, .pure node⟩

theorem ends_fail : Ends (fail : Parser α) := ⟨tame_fail, .fail⟩

theorem ends_next : Ends next := ⟨tame_next, .next⟩

theorem ends_done : Ends done := ⟨tame_done, .done⟩

theorem ends_ofOption (node : Option α) : Ends (ofOption node) := by
  cases node with
  | none => exact ends_fail
  | some node => exact ends_pure node

theorem Ends.bind (first : Ends parser) (second : ∀ node, Ends (further node)) :
    Ends (parser >>= further) := by
  refine ⟨first.tame.bind fun node => (second node).tame, fun cursor => ?_⟩
  have run := first.runs cursor
  cases found_or_missing parser cursor with
  | inl read =>
    obtain ⟨node, after, read⟩ := read
    rw [read] at run
    rw [bind_of_found read]
    exact .bind run ((second node).runs after)
  | inr missing =>
    rw [bind_of_missing missing]
    exact .missed run missing

theorem Ends.ite {c : Prop} [Decidable c] {yes no : Parser α} (first : Ends yes)
    (second : Ends no) : Ends (if c then yes else no) := by
  split
  next => exact first
  next => exact second

theorem Ends.attempt (ends : Ends parser) : Ends (attempt parser) :=
  ⟨ends.tame.attempt, fun cursor => .attempt (ends.runs cursor.push)⟩

theorem Ends.maybe (ends : Ends parser) : Ends (maybe parser) := by
  refine ⟨ends.tame.maybe, fun cursor => ?_⟩
  obtain ⟨way, found⟩ := optional_eq parser cursor
  have result : Parser.maybe parser cursor =
      (.found (Parser.attempt parser cursor).1.node?, (Parser.attempt parser cursor).2) :=
    Prod.ext (congrArg Outcome.found found) way
  rw [result]
  exact .maybe (ends.attempt.runs cursor)

theorem Ends.orElse {first second : Parser α} (one : Ends first) (back : GoesBack first)
    (other : Ends second) : Ends (orElse first second) := by
  refine ⟨.orElse one.tame back other.tame, fun cursor => ?_⟩
  have tried := one.runs cursor
  rw [Parser.orElse]
  revert tried
  rcases first cursor with ⟨node | _ | _, after⟩ <;> intro tried
  next => exact .orElse tried
  all_goals exact .otherwise tried rfl (other.runs after)

theorem Collects.runs {turn : Parser α} {cursor after : Cursor} {nodes : List α}
    (collects : Collects turn cursor nodes after) (ends : Ends turn) :
    Runs (many turn) cursor (.found nodes, after) := by
  induction collects with
  | @stop cursor after outcome tried missing =>
    have run := ends.attempt.runs cursor
    rw [tried] at run
    exact .manyOver run missing
  | @more cursor middle after node nodes tried rest ih =>
    have run := ends.attempt.runs cursor
    rw [tried] at run
    exact .manyMore run ih

theorem Ends.many {turn : Parser α} (ends : Ends turn) (advances : Advances turn) :
    Ends (many turn) := by
  refine ⟨ends.tame.many, fun cursor => ?_⟩
  obtain ⟨nodes, after, collects, read⟩ := ends.tame.collects_many advances cursor
  rw [read]
  exact collects.runs ends

theorem Ends.many1 {turn : Parser α} (ends : Ends turn) (advances : Advances turn) :
    Ends (many1 turn) :=
  (ends.many advances).bind fun _ => ends_fail.ite (ends_pure _)

end Combinators

section Words

theorem ends_nextThat (p : Token → Bool) : Ends (nextThat p) :=
  ends_next.bind fun token => (ends_pure token).ite ends_fail

theorem ends_numeral : Ends numeral :=
  .attempt <| ends_next.bind fun _ => (ends_ofOption _).bind fun _ => ends_pure _

theorem ends_word : Ends word := .attempt <| (ends_nextThat _).bind fun _ => ends_pure _

theorem ends_keyword (words : List String) (shade : Shade) : Ends (keyword words shade) :=
  .attempt <| (ends_nextThat _).bind fun _ => ends_pure _

theorem ends_phraseSpans (words : List String) : Ends (phraseSpans words) := by
  induction words with
  | nil => exact ends_pure []
  | cons word rest ih => exact (ends_nextThat _).bind fun _ => ih.bind fun _ => ends_pure _

theorem ends_phrase (words : List String) (shade : Shade) : Ends (phrase words shade) :=
  .attempt <| (ends_phraseSpans words).bind fun _ => (ends_ofOption _).bind fun _ => ends_pure _

theorem ends_symbol (c : Char) : Ends (symbol c) :=
  .attempt <| (ends_nextThat _).bind fun _ => ends_pure _

end Words

section Clauses

theorem ends_slotClause (prepositions : List String) : Ends (slotClause prepositions) :=
  .attempt <| (ends_keyword _ _).bind fun _ => (ends_keyword _ _).bind fun _ =>
    ends_numeral.bind fun _ => ends_pure _

theorem ends_atSlotClause : Ends atSlotClause :=
  ⟨tame_atSlotClause, fun cursor => .atSlotClause ((ends_slotClause _).runs cursor.push)⟩

theorem ends_metaValue : Ends metaValue :=
  .orElse (ends_numeral.bind fun _ => ends_pure _) (goesBack_numeral.map _)
    (ends_word.bind fun _ => ends_pure _)

theorem ends_metaPair : Ends metaPair := by
  have separator : Ends (orElse (symbol '=') (symbol ':')) :=
    .orElse (ends_symbol '=') (goesBack_symbol '=') (ends_symbol ':')
  refine .attempt <| ends_word.bind fun key => separator.maybe.bind fun separator => ?_
  cases separator with
  | none => exact ends_pure _
  | some separator => exact ends_metaValue.bind fun _ => ends_pure _

theorem ends_pairTurn : Ends pairTurn :=
  (ends_symbol ',').bind fun _ => ends_metaPair.bind fun _ => ends_pure _

theorem ends_endPairs (pairs : List (Span × MetaPair)) : Ends (endPairs pairs) := by
  refine (ends_symbol ',').maybe.bind fun comma => ?_
  cases comma with
  | none => exact ends_pure _
  | some comma => exact ends_fail

theorem ends_morePairs : Ends (withAhead morePairs) := by
  rw [withAhead_morePairs]
  exact (ends_pairTurn.many advances_pairTurn).bind ends_endPairs

theorem ends_metaClause : Ends metaClause :=
  .attempt <| (ends_symbol '[').bind fun _ => ends_metaPair.bind fun _ => ends_morePairs.bind fun _ =>
    (ends_symbol ']').bind fun _ => ends_pure _

end Clauses

section Items

theorem ends_nameTurn : Ends nameTurn := ends_atSlotClause.bind fun _ => ends_fail.ite ends_word

theorem ends_nameWords : Ends (withAhead nameWords) := by
  rw [withAhead_nameWords]
  exact ends_nameTurn.many advances_nameTurn

theorem ends_itemPhrase (quantity : Quantity) : Ends (itemPhrase quantity) := by
  have all : Ends (allWord quantity) := (ends_keyword _ _).maybe.ite (ends_pure none)
  have amount (all : Option Keyword) : Ends (amountWord quantity all) :=
    (ends_pure none).ite ends_numeral.maybe
  exact .attempt <| all.bind fun _ => (amount _).bind fun _ => ends_nameWords.bind fun _ =>
    ends_fail.ite <| ends_metaClause.maybe.bind fun _ => ends_pure _

theorem ends_items (quantity : Quantity) : Ends (many (itemPhrase quantity)) :=
  (ends_itemPhrase quantity).many (advances_itemPhrase quantity)

theorem ends_items1 (quantity : Quantity) : Ends (many1 (itemPhrase quantity)) :=
  (ends_itemPhrase quantity).many1 (advances_itemPhrase quantity)

theorem ends_names : Ends (many word) := ends_word.many advances_word

theorem ends_names1 : Ends (many1 word) := ends_word.many1 advances_word

theorem ends_removal : Ends removal :=
  (ends_items1 _).bind fun _ => (ends_slotClause _).maybe.bind fun _ => ends_pure _

theorem ends_withClause : Ends withClause :=
  (ends_keyword _ _).bind fun _ => ends_removal.bind fun _ => ends_pure _

end Items

section Sentences

theorem ends_superKeyword (name : String) : Ends (superKeyword name) :=
  .attempt <| (ends_symbol '!').bind fun _ => (ends_keyword _ _).bind fun _ => ends_pure _

theorem ends_verb (words : List String) (action : α) : Ends (do
    let verb ← keyword words .command
    pure (verb, action)) :=
  (ends_keyword _ _).bind fun _ => ends_pure _

theorem ends_trialVerb : Ends trialVerb :=
  .orElse (ends_verb _ _) ((goesBack_keyword _ _).map _) (ends_verb _ _)

theorem ends_obtainVerb : Ends obtainVerb :=
  .orElse (ends_keyword _ _) (goesBack_keyword _ _) (ends_phrase _ _)

theorem ends_removeVerb : Ends removeVerb :=
  .orElse (ends_verb _ _) ((goesBack_keyword _ _).map _) <|
    .orElse (ends_verb _ _) ((goesBack_keyword _ _).map _) (ends_verb _ _)

theorem ends_kindWords : Ends kindWords :=
  .attempt <| ends_word.bind fun _ => Ends.ite
    (ends_word.bind fun _ => (ends_pure _).ite ends_fail)
    ((ends_ofOption _).bind fun _ => ends_pure _)

theorem ends_byKind (name : String)
    (sentence : Keyword → Keyword → List Word → List Kind → Sentence) :
    Ends (byKind name sentence) :=
  (ends_keyword _ _).bind fun _ => (ends_keyword _ _).bind fun _ => ends_kindWords.bind fun _ =>
    ends_pure _

theorem ends_equipVerb : Ends equipVerb :=
  .orElse (ends_verb _ _) ((goesBack_keyword _ _).map _) (ends_verb _ _)

theorem ends_saveSentence : Ends saveSentence := by
  refine (ends_keyword _ _).bind fun _ => (ends_keyword _ _).maybe.bind fun as => ?_
  cases as with
  | none => exact ends_pure _
  | some as => exact ends_names1.bind fun _ => ends_pure _

theorem ends_sentence (rule : Rule) : Ends rule.sentence := by
  have slot (prepositions : List String) : Ends (maybe (slotClause prepositions)) :=
    (ends_slotClause prepositions).maybe
  cases rule with
  | startGameData =>
    exact (ends_keyword _ _).bind fun _ => (ends_keyword _ _).bind fun _ =>
      (ends_items _).bind fun _ => ends_pure _
  | start => exact (ends_keyword _ _).bind fun _ => (ends_items _).bind fun _ => ends_pure _
  | write =>
    exact (ends_keyword _ _).bind fun _ => ends_metaClause.bind fun _ =>
      (ends_keyword _ _).bind fun _ => (ends_itemPhrase _).bind fun _ => (slot _).bind fun _ =>
        ends_pure _
  | swap =>
    exact (ends_superKeyword _).bind fun _ => ends_numeral.bind fun _ => ends_numeral.bind fun _ =>
      ends_pure _
  | sortMaterials =>
    exact (ends_superKeyword _).bind fun _ => (ends_keyword _ _).bind fun _ => ends_pure _
  | addSlots =>
    exact (ends_superKeyword _).bind fun _ => (ends_keyword _ _).bind fun _ =>
      (ends_items1 _).bind fun _ => (ends_slotClause _).bind fun _ => ends_pure _
  | trial =>
    exact ends_trialVerb.bind fun _ => ends_word.bind fun _ => (ends_ofOption _).bind fun _ =>
      ends_pure _
  | obtain => exact ends_obtainVerb.bind fun _ => (ends_items1 _).bind fun _ => ends_pure _
  | removeKinds => exact ends_byKind _ _
  | remove => exact ends_removeVerb.bind fun _ => ends_removal.bind fun _ => ends_pure _
  | unequipKinds => exact ends_byKind _ _
  | equip =>
    exact ends_equipVerb.bind fun _ => (ends_itemPhrase _).bind fun _ => (slot _).bind fun _ =>
      ends_pure _
  | shoot =>
    exact (ends_keyword _ _).bind fun _ => ends_numeral.maybe.bind fun _ =>
      (ends_keyword _ _).bind fun _ => ends_pure _
  | save => exact ends_saveSentence
  | reload => exact (ends_keyword _ _).bind fun _ => ends_names.bind fun _ => ends_pure _
  | useSave => exact (ends_keyword _ _).bind fun _ => ends_names1.bind fun _ => ends_pure _
  | breakSlots =>
    exact (ends_keyword _ _).bind fun _ => ends_numeral.bind fun _ => (ends_keyword _ _).bind fun _ =>
      ends_withClause.maybe.bind fun _ => ends_pure _
  | closeGame =>
    exact (Ends.orElse (ends_phrase _ _) (goesBack_phrase _ _) (ends_phrase _ _)).bind fun _ =>
      ends_pure _
  | sync => exact (ends_phrase _ _).bind fun _ => ends_pure _
  | setFlag =>
    exact (ends_keyword _ _).bind fun _ => (ends_keyword _ _).maybe.bind fun _ =>
      ends_numeral.maybe.bind fun _ => ends_names1.bind fun _ => ends_pure _

end Sentences

section Rules

theorem ends_whole (rule : Rule) : Ends rule.whole :=
  (ends_sentence rule).bind fun _ => ends_done.bind fun _ => ends_pure _

inductive RunsInTurn : List Rule → Cursor → Option Sentence → Prop
  | over (cursor : Cursor) : RunsInTurn [] cursor none
  | found {rule : Rule} {rest : List Rule} {cursor after : Cursor} {sentence : Sentence}
    (run : Runs (attempt rule.whole) cursor.reset (.found sentence, after)) :
    RunsInTurn (rule :: rest) cursor (some sentence)
  | missed {rule : Rule} {rest : List Rule} {cursor after : Cursor} {outcome : Outcome Sentence}
    {answer : Option Sentence} (run : Runs (attempt rule.whole) cursor.reset (outcome, after))
    (missing : outcome.node? = none) (others : RunsInTurn rest after answer) :
    RunsInTurn (rule :: rest) cursor answer

theorem runsInTurn_firstSentence? (rules : List Rule) (cursor : Cursor) :
    RunsInTurn rules cursor (firstSentence? rules cursor) := by
  induction rules generalizing cursor with
  | nil => exact .over cursor
  | cons rule rest ih =>
    have run : Runs (attempt rule.whole) cursor.reset (rule.read cursor) :=
      (ends_whole rule).attempt.runs cursor.reset
    rw [firstSentence?]
    revert run
    rcases rule.read cursor with ⟨sentence | _ | _, after⟩ <;> intro run
    next => exact .found run
    all_goals exact .missed run rfl (ih after)

end Rules

end Parser

namespace Command

inductive Parses (resolver : Resolver) (line : String) : Command → Prop
  | blank (nothing : Text.trim line.toList = []) : Parses resolver line ⟨.nothing, []⟩
  | comment {text : List Char} (marked : Text.trim line.toList = '#' :: text) :
    Parses resolver line ⟨.nothing, [⟨trimmedSpan line.toList, .comment⟩]⟩
  | sentence {c : Char} {sentence : Sentence} (starts : (Text.trim line.toList).head? = some c)
    (unmarked : c ≠ '#')
    (read : Parser.RunsInTurn Rule.all (.ofTokens (tokenize line)) (some sentence)) :
    Parses resolver line (ofSentence resolver (tokenize line) sentence)
  | hint {c : Char} (starts : (Text.trim line.toList).head? = some c) (unmarked : c ≠ '#')
    (unread : Parser.RunsInTurn Rule.all (.ofTokens (tokenize line)) none) :
    Parses resolver line (fallback (tokenize line))

theorem parses_ofLine (resolver : Resolver) (line : String) :
    Parses resolver line (ofLine resolver line) := by
  have tried := Parser.runsInTurn_firstSentence? Rule.all (.ofTokens (tokenize line))
  rw [ofLine, ofTokens, Sentence.ofTokens?]
  split
  next nothing => exact .blank nothing
  next text marked => exact .comment marked
  next something unmarked =>
    obtain ⟨c, rest, chars⟩ := List.exists_cons_of_ne_nil something
    have starts : (Text.trim line.toList).head? = some c := by rw [chars, List.head?_cons]
    have plain : c ≠ '#' := fun same => unmarked rest (same ▸ chars)
    revert tried
    cases firstSentence? Rule.all (.ofTokens (tokenize line)) with
    | some sentence => exact fun read => .sentence starts plain read
    | none => exact fun unread => .hint starts plain unread

end Command

namespace Parser

theorem reading_makes_progress :
    (∀ {α : Type} {turn : Parser α} {ends : List α → Parser (List α)} {whole : Parser (List α)},
      Repeats turn ends whole → ∀ cursor : Cursor,
        (∀ node after, turn cursor = (.found node, after) → cursor.position < after.position) ∧
          (∃ nodes after, Collects turn cursor nodes after ∧ whole cursor = ends nodes after) ∧
          ∀ nodes after, Collects turn cursor nodes after →
            nodes.length + after.ahead ≤ cursor.ahead) ∧
      ∀ (resolver : Resolver) (line : String),
        Command.Parses resolver line (Command.ofLine resolver line) := by
  refine ⟨fun {α turn ends whole} repeats cursor => ⟨?_, ?_, ?_⟩, Command.parses_ofLine⟩
  · intro node after found
    exact repeats.tame.position_lt repeats.advances found
  · obtain ⟨nodes, after, collects, read⟩ := repeats.tame.collects_many repeats.advances cursor
    refine ⟨nodes, after, collects, ?_⟩
    rw [repeats.whole_eq, bind_apply, read]
  · intro nodes after collects
    exact collects.length_add_ahead_le repeats.tame repeats.advances

theorem items_make_progress :
    let cursor := Cursor.ofTokens (tokenize "2 apple pie 3 pear [equip] bow")
    (∃ nodes after, Collects (itemPhrase .number) cursor nodes after ∧
      nodes.map ItemPhrase.query = ["applepie", "pear", "bow"] ∧ after.ahead = 0 ∧
      nodes.length + after.ahead ≤ 9) ∧
    ¬∃ nodes after, Collects (pure () : Parser Unit) cursor nodes after := by
  intro cursor
  constructor
  · obtain ⟨-, ⟨nodes, after, collects, read⟩, bound⟩ :=
      reading_makes_progress.1 (.items .number) cursor
    have names : (many (itemPhrase .number) cursor).1.node?.map (List.map ItemPhrase.query) =
        some ["applepie", "pear", "bow"] := by decide +kernel
    have used : (many (itemPhrase .number) cursor).2.ahead = 0 := by decide +kernel
    rw [read] at names used
    exact ⟨nodes, after, collects, Option.some.inj names, used, bound nodes after collects⟩
  · rintro ⟨nodes, after, collects⟩
    obtain ⟨last, missing⟩ := collects.exists_missing
    cases missing

end Parser

end Inventory
