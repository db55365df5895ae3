import Inventory.Proofs.Readers

set_option autoImplicit false

namespace Inventory

namespace Cursor

def InRow (cursor : Cursor) : Prop := cursor.position ≤ cursor.tokens.length

instance (cursor : Cursor) : Decidable cursor.InRow :=
  inferInstanceAs (Decidable (cursor.position ≤ cursor.tokens.length))

structure Onward (cursor after : Cursor) : Prop where
  tokens : after.tokens = cursor.tokens
  saved : after.saved = cursor.saved
  forward : cursor.position ≤ after.position
  inRow : after.InRow

variable {cursor middle after : Cursor}

theorem Onward.refl (inRow : cursor.InRow) : cursor.Onward cursor := ⟨rfl, rfl, Nat.le_refl _, inRow⟩

theorem Onward.trans (first : cursor.Onward middle) (second : middle.Onward after) :
    cursor.Onward after :=
  ⟨second.tokens.trans first.tokens, second.saved.trans first.saved,
    Nat.le_trans first.forward second.forward, second.inRow⟩

theorem Onward.pop (onward : cursor.push.Onward after) : cursor.Onward after.pop :=
  ⟨onward.tokens, congrArg List.tail onward.saved, onward.forward, onward.inRow⟩

theorem Onward.restore_pop (onward : cursor.push.Onward after) : after.restore.pop = cursor := by
  have tokens : after.tokens = cursor.tokens := onward.tokens
  have saved : after.saved = cursor.position :: cursor.saved := onward.saved
  simp [restore, Cursor.pop, tokens, saved]

theorem Onward.pop_eq (onward : cursor.push.Onward after) (same : cursor.position = after.position) :
    after.pop = cursor := by
  have tokens : after.tokens = cursor.tokens := onward.tokens
  have saved : after.saved = cursor.position :: cursor.saved := onward.saved
  simp [Cursor.pop, tokens, saved, ← same]

theorem Onward.ahead_lt (onward : cursor.Onward after) (moved : cursor.position < after.position) :
    after.ahead < cursor.ahead := by
  have inRow : after.position ≤ after.tokens.length := onward.inRow
  rw [onward.tokens] at inRow
  rw [ahead, ahead, onward.tokens]
  omega

end Cursor

namespace Parser

variable {α : Type}

/-- Whatever it finds, the parser moves on along the row or stays where it is. -/
def MovesOn (parser : Parser α) : Prop :=
  ∀ cursor : Cursor, cursor.InRow → cursor.Onward (parser cursor).2

/-- What the parser finds takes up a token at least. -/
def Advances (parser : Parser α) : Prop :=
  ∀ cursor : Cursor, cursor.InRow → (parser cursor).1.node? ≠ none →
    cursor.position < (parser cursor).2.position

/-- The parser moves only where it has found something. -/
structure Disciplined (parser : Parser α) : Prop where
  movesOn : MovesOn parser
  stays : ∀ cursor : Cursor, cursor.InRow → (parser cursor).1.node? = none →
    (parser cursor).2 = cursor

section Trials

variable {parser : Parser α}

theorem Tame.movesOn (tame : Tame parser) : MovesOn parser := by
  intro cursor inRow
  have within := tame.within cursor.rest
  rw [← cursor.ahead_eq, Cursor.ahead] at within
  rw [tame.ahead]
  refine ⟨rfl, rfl, Nat.le_add_right _ _, ?_⟩
  have start : cursor.position ≤ cursor.tokens.length := inRow
  change cursor.position + _ ≤ cursor.tokens.length
  omega

theorem Tentative.disciplined (tentative : Tentative parser) : Disciplined parser :=
  ⟨tentative.tame.movesOn, fun cursor _ => tentative.goesBack cursor⟩

theorem MovesOn.attempt_eq (moves : MovesOn parser) {cursor : Cursor} (inRow : cursor.InRow) :
    attempt parser cursor =
      match parser cursor.push with
      | (.found node, after) => (.found node, after.pop)
      | (outcome, _) => (outcome, cursor) := by
  have onward := moves cursor.push inRow
  rw [attempt]
  revert onward
  rcases parser cursor.push with ⟨_ | _ | _, after⟩ <;> intro onward
  · rfl
  · -- Without a way there is none to go back, and only the saved place has to go.
    by_cases same : cursor.position = after.position
    · simp [goesBack, same, onward.pop_eq same]
    · simp [goesBack, same, onward.restore_pop]
  · simp [goesBack, onward.restore_pop]

theorem MovesOn.disciplined_attempt (moves : MovesOn parser) : Disciplined (attempt parser) := by
  constructor
  · intro cursor inRow
    have onward := moves cursor.push inRow
    rw [moves.attempt_eq inRow]
    split
    next found => exact (found ▸ onward).pop
    next => exact .refl inRow
  · intro cursor inRow
    rw [moves.attempt_eq inRow]
    split
    next => exact fun missing => by cases missing
    next => exact fun _ => rfl

theorem Advances.attempt (advances : Advances parser) : Advances (attempt parser) := by
  intro cursor inRow
  have moved := advances cursor.push inRow
  rw [Parser.attempt]
  revert moved
  rcases parser cursor.push with ⟨_ | _ | _, after⟩
  · exact fun moved => moved
  all_goals exact fun _ found => absurd rfl found

theorem optional_eq (parser : Parser α) (cursor : Cursor) :
    (optional parser cursor).2 = (attempt parser cursor).2 ∧
      (optional parser cursor).1.node? = (attempt parser cursor).1.node? := by
  rw [optional]
  rcases attempt parser cursor with ⟨_ | _ | _, after⟩ <;> exact ⟨rfl, rfl⟩

theorem MovesOn.disciplined_optional (moves : MovesOn parser) : Disciplined (optional parser) := by
  have tried := moves.disciplined_attempt
  refine ⟨fun cursor inRow => ?_, fun cursor inRow => ?_⟩
  · rw [(optional_eq parser cursor).1]
    exact tried.movesOn cursor inRow
  · rw [(optional_eq parser cursor).1, (optional_eq parser cursor).2]
    exact tried.stays cursor inRow

end Trials

section Repetition

variable {parser : Parser α} {cursor after : Cursor} {nodes : List α}

/-- Trials in a row, up to the first one that finds nothing. -/
inductive Collects (parser : Parser α) : Cursor → List α → Cursor → Prop
  | stop {cursor after : Cursor} {outcome : Outcome α}
    (tried : attempt parser cursor = (outcome, after)) (missing : outcome.node? = none) :
    Collects parser cursor [] after
  | more {cursor middle after : Cursor} {node : α} {nodes : List α}
    (tried : attempt parser cursor = (.found node, middle))
    (rest : Collects parser middle nodes after) : Collects parser cursor (node :: nodes) after

theorem collects_upTo (moves : MovesOn parser) (advances : Advances parser) {limit : Nat}
    (inRow : cursor.InRow) (enough : cursor.ahead < limit) :
    Collects parser cursor (upTo parser limit cursor).1 (upTo parser limit cursor).2 := by
  -- Each turn takes up a token, so more turns than tokens ahead are never all used.
  induction limit generalizing cursor with
  | zero => exact absurd enough (Nat.not_lt_zero _)
  | succ limit ih =>
    have onward := moves.disciplined_attempt.movesOn cursor inRow
    have moved := advances.attempt cursor inRow
    rw [upTo]
    cases tried : attempt parser cursor with
    | mk outcome middle =>
      rw [tried] at onward moved
      cases outcome with
      | absent => exact .stop tried rfl
      | failed => exact .stop tried rfl
      | found node =>
        have advanced := moved fun missing => by cases missing
        have closer : middle.ahead < cursor.ahead := onward.ahead_lt advanced
        exact .more tried (ih onward.inRow (by omega))

theorem collects_many (moves : MovesOn parser) (advances : Advances parser) (inRow : cursor.InRow) :
    ∃ nodes after, Collects parser cursor nodes after ∧ many parser cursor = (.found nodes, after) :=
  ⟨_, _, collects_upTo moves advances inRow (Nat.lt_succ_self _), rfl⟩

theorem collects_many1 (moves : MovesOn parser) (advances : Advances parser)
    (inRow : cursor.InRow) :
    ∃ nodes after, Collects parser cursor nodes after ∧
      many1 parser cursor = (if nodes.isEmpty then .failed else .found nodes, after) := by
  obtain ⟨nodes, after, collects, ends⟩ := collects_many moves advances inRow
  refine ⟨nodes, after, collects, ?_⟩
  rw [many1, bind_apply, ends]
  dsimp only
  split <;> rfl

theorem Collects.onward (collects : Collects parser cursor nodes after) (moves : MovesOn parser)
    (inRow : cursor.InRow) : cursor.Onward after := by
  induction collects with
  | @stop cursor _ _ tried _ =>
    have onward := moves.disciplined_attempt.movesOn cursor inRow
    rwa [tried] at onward
  | @more cursor _ _ _ _ tried _ ih =>
    have onward := moves.disciplined_attempt.movesOn cursor inRow
    rw [tried] at onward
    exact onward.trans (ih onward.inRow)

theorem Collects.stays (collects : Collects parser cursor [] after) (moves : MovesOn parser)
    (inRow : cursor.InRow) : after = cursor := by
  cases collects with
  | stop tried missing =>
    have stays := moves.disciplined_attempt.stays cursor inRow
    rw [tried] at stays
    exact stays missing

theorem disciplined_many1 (moves : MovesOn parser) (advances : Advances parser) :
    Disciplined (many1 parser) := by
  refine ⟨fun cursor inRow => ?_, fun cursor inRow => ?_⟩
  · obtain ⟨nodes, after, collects, ends⟩ := collects_many1 moves advances inRow
    rw [ends]
    exact collects.onward moves inRow
  · obtain ⟨nodes, after, collects, ends⟩ := collects_many1 moves advances inRow
    rw [ends]
    cases nodes with
    | nil => exact fun _ => collects.stays moves inRow
    | cons => exact fun missing => by cases missing

end Repetition

theorem disciplined_readers :
    (Disciplined numeral ∧ Disciplined word ∧
      (∀ words shade, Disciplined (keyword words shade)) ∧
      (∀ words shade, Disciplined (phrase words shade)) ∧
      (∀ c, Disciplined (symbol c)) ∧
      (∀ prepositions, Disciplined (slotClause prepositions)) ∧
      Disciplined metaClause ∧
      ∀ quantity, Disciplined (itemPhrase quantity)) ∧
    (∀ (α : Type) (parser : Parser α), MovesOn parser →
      Disciplined (attempt parser) ∧ Disciplined (optional parser) ∧
        (Advances parser → Disciplined (many1 parser))) ∧
    ∀ cursor, (atSlotClause cursor).2 = cursor := by
  refine ⟨⟨tentative_numeral.disciplined, tentative_word.disciplined,
    fun words shade => (tentative_keyword words shade).disciplined,
    fun words shade => (tentative_phrase words shade).disciplined,
    fun c => (tentative_symbol c).disciplined,
    fun prepositions => (tentative_slotClause prepositions).disciplined,
    tentative_metaClause.disciplined,
    fun quantity => (tentative_itemPhrase quantity).disciplined⟩, ?_, ?_⟩
  · intro α parser moves
    exact ⟨moves.disciplined_attempt, moves.disciplined_optional, disciplined_many1 moves⟩
  · intro cursor
    rw [atSlotClause_eq]

theorem advances_nextThat (p : Token → Bool) : Advances (nextThat p) := by
  intro cursor _ found
  rw [nextThat, bind_apply, next] at found ⊢
  revert found
  cases cursor.peek with
  | none => exact fun found => absurd rfl found
  | some token =>
    dsimp only
    split
    · exact fun _ => Nat.lt_succ_self _
    · exact fun found => absurd rfl found

theorem disciplined_names :
    MovesOn (nextThat isName) ∧ Advances (nextThat isName) ∧ ¬Disciplined (nextThat isName) ∧
      Disciplined (attempt (nextThat isName)) ∧ Disciplined (optional (nextThat isName)) ∧
      Disciplined (many1 (nextThat isName)) := by
  have moves : MovesOn (nextThat isName) := (tame_nextThat isName).movesOn
  have advances := advances_nextThat isName
  obtain ⟨tried, asked, repeated⟩ := disciplined_readers.2.1 Token (nextThat isName) moves
  refine ⟨moves, advances, ?_, tried, asked, repeated advances⟩
  intro disciplined
  let cursor : Cursor := ⟨[⟨"7", ⟨0, 1⟩⟩], 0, [3]⟩
  have stays := disciplined.stays cursor (by decide) (by decide)
  revert stays
  decide

end Parser

end Inventory
