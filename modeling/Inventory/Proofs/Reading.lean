import Inventory.Script.Metadata

set_option autoImplicit false

namespace Inventory

namespace Cursor

def rest (cursor : Cursor) : List Token := cursor.tokens.drop cursor.position

def advance (cursor : Cursor) (n : Nat) : Cursor :=
  { cursor with position := cursor.position + n }

@[simp] theorem rest_push (cursor : Cursor) : cursor.push.rest = cursor.rest := rfl

@[simp] theorem rest_advance (cursor : Cursor) (n : Nat) :
    (cursor.advance n).rest = cursor.rest.drop n :=
  (List.drop_drop ..).symm

@[simp] theorem advance_zero (cursor : Cursor) : cursor.advance 0 = cursor := rfl

@[simp] theorem advance_advance (cursor : Cursor) (n m : Nat) :
    (cursor.advance n).advance m = cursor.advance (n + m) := by
  simp [advance, Nat.add_assoc]

theorem peek_eq (cursor : Cursor) : cursor.peek = cursor.rest.head? := by
  simp [peek, rest, List.head?_drop]

theorem ahead_eq (cursor : Cursor) : cursor.ahead = cursor.rest.length := by
  simp [ahead, rest]

theorem isAtEnd_iff (cursor : Cursor) : cursor.isAtEnd ↔ cursor.rest = [] := by
  simp [isAtEnd, rest]

end Cursor

namespace Parser

variable {α β : Type}

def reads (parser : Parser α) (tokens : List Token) : Outcome α × Nat :=
  ((parser (.ofTokens tokens)).1, (parser (.ofTokens tokens)).2.position)

/-- The outcome and the way depend on the tokens ahead only, and the way does not lead past them. The
row of tokens and the saved places stay as they are. -/
structure Tame (parser : Parser α) : Prop where
  within : ∀ tokens, (parser.reads tokens).2 ≤ tokens.length
  ahead : ∀ cursor, parser cursor =
    ((parser.reads cursor.rest).1, cursor.advance (parser.reads cursor.rest).2)

theorem Tame.of_reads {parser : Parser α} (found : List Token → Outcome α × Nat)
    (within : ∀ tokens, (found tokens).2 ≤ tokens.length)
    (ahead : ∀ cursor, parser cursor =
      ((found cursor.rest).1, cursor.advance (found cursor.rest).2)) : Tame parser := by
  have same : parser.reads = found := by
    funext tokens
    simp [reads, ahead, Cursor.rest, Cursor.ofTokens, Cursor.advance]
  exact ⟨same ▸ within, same ▸ ahead⟩

def GoesBack (parser : Parser α) : Prop :=
  ∀ cursor, (parser cursor).1.node? = none → (parser cursor).2 = cursor

structure Tentative (parser : Parser α) : Prop where
  tame : Tame parser
  goesBack : GoesBack parser

def ifFound (parser : Parser α) (yes : α → Parser β) (no : Parser β) : Parser β := fun cursor =>
  match parser cursor with
  | (.found node, after) => yes node after
  | _ => no cursor

theorem tame_pure (node : α) : Tame (pure node) :=
  .of_reads (fun _ => (.found node, 0)) (fun _ => Nat.zero_le _) fun _ => rfl

theorem tame_fail : Tame (fail : Parser α) :=
  .of_reads (fun _ => (.failed, 0)) (fun _ => Nat.zero_le _) fun _ => rfl

theorem tame_ofOption (node : Option α) : Tame (ofOption node) := by
  cases node with
  | none => exact tame_fail
  | some node => exact tame_pure node

theorem tame_next : Tame next := by
  refine .of_reads (fun | [] => (.failed, 0) | token :: _ => (.found token, 1)) ?_ fun cursor => ?_
  · rintro (_ | _) <;> simp
  · rw [next, cursor.peek_eq]
    cases cursor.rest <;> rfl

theorem tame_done : Tame done := by
  refine .of_reads (fun tokens => (if tokens = [] then .found () else .failed, 0))
    (fun _ => Nat.zero_le _) fun cursor => ?_
  simp [done, Cursor.isAtEnd_iff]

theorem Tame.bind {parser : Parser α} {further : α → Parser β} (first : Tame parser)
    (second : ∀ node, Tame (further node)) : Tame (parser >>= further) := by
  refine .of_reads (fun tokens =>
    match parser.reads tokens with
    | (.found node, n) =>
      let later := (further node).reads (tokens.drop n)
      (later.1, n + later.2)
    | (.absent, n) => (.failed, n)
    | (.failed, n) => (.failed, n)) (fun tokens => ?_) fun cursor => ?_
  · have way := first.within tokens
    dsimp only
    split
    -- The second way starts where the first one ends, with fewer tokens ahead.
    next node n found =>
      have later := (second node).within (tokens.drop n)
      rw [found] at way
      rw [List.length_drop] at later
      dsimp only
      omega
    all_goals
      next found => simpa [found] using way
  · change andThen parser further cursor = _
    rw [andThen, first.ahead]
    rcases parser.reads cursor.rest with ⟨_ | _ | _, n⟩ <;> simp [(second _).ahead]

theorem Tame.ite {c : Prop} [Decidable c] {yes no : Parser α} (first : Tame yes)
    (second : Tame no) : Tame (if c then yes else no) := by
  split
  · exact first
  · exact second

theorem tame_nextThat (p : Token → Bool) : Tame (nextThat p) :=
  tame_next.bind fun token => (tame_pure token).ite tame_fail

theorem Tame.attempt_eq {parser : Parser α} (tame : Tame parser) (cursor : Cursor) :
    attempt parser cursor =
      match parser cursor with
      | (.found node, after) => (.found node, after)
      | (outcome, _) => (outcome, cursor) := by
  rw [attempt, tame.ahead, tame.ahead, Cursor.rest_push]
  rcases parser.reads cursor.rest with ⟨_ | _ | _, n⟩
  · rfl
  · cases n <;> simp [goesBack, Cursor.advance, Cursor.push, Cursor.pop, Cursor.restore]
  · rfl

theorem Tame.attempt {parser : Parser α} (tame : Tame parser) : Tame (attempt parser) := by
  refine .of_reads (fun tokens =>
    match parser.reads tokens with
    | (.found node, n) => (.found node, n)
    | (.absent, _) => (.absent, 0)
    | (.failed, _) => (.failed, 0)) (fun tokens => ?_) fun cursor => ?_
  · have way := tame.within tokens
    split
    next found => simpa [found] using way
    all_goals exact Nat.zero_le _
  · rw [tame.attempt_eq, tame.ahead]
    rcases parser.reads cursor.rest with ⟨_ | _ | _, n⟩ <;> rfl

theorem Tame.node?_attempt {parser : Parser α} (tame : Tame parser) (cursor : Cursor) :
    (Parser.attempt parser cursor).1.node? = (parser cursor).1.node? := by
  rw [tame.attempt_eq]
  rcases parser cursor with ⟨_ | _ | _, after⟩ <;> rfl

theorem Tame.goesBack_attempt {parser : Parser α} (tame : Tame parser) :
    GoesBack (Parser.attempt parser) := by
  intro cursor
  rw [tame.attempt_eq]
  split
  next => simp [Outcome.node?]
  next => exact fun _ => rfl

theorem Tame.tentative {parser : Parser α} (tame : Tame parser) :
    Tentative (Parser.attempt parser) :=
  ⟨tame.attempt, tame.goesBack_attempt⟩

theorem bind_apply (parser : Parser α) (further : α → Parser β) (cursor : Cursor) :
    (parser >>= further) cursor =
      match parser cursor with
      | (.found node, after) => further node after
      | (_, after) => (.failed, after) := rfl

theorem found_or_missing (parser : Parser α) (cursor : Cursor) :
    (∃ node after, parser cursor = (.found node, after)) ∨ (parser cursor).1.node? = none := by
  rcases parser cursor with ⟨node | _ | _, after⟩
  · exact .inl ⟨node, after, rfl⟩
  all_goals exact .inr rfl

section Steps

variable {parser : Parser α} {further yes : α → Parser β} {no : Parser β} {cursor after : Cursor}
  {node : α}

theorem bind_of_found (found : parser cursor = (.found node, after)) :
    (parser >>= further) cursor = further node after := by
  rw [bind_apply, found]

theorem bind_of_missing (missing : (parser cursor).1.node? = none) :
    (parser >>= further) cursor = (.failed, (parser cursor).2) := by
  rw [bind_apply]
  revert missing
  rcases parser cursor with ⟨_ | _ | _, after⟩
  · exact fun missing => by cases missing
  all_goals exact fun _ => rfl

theorem ifFound_of_found (found : parser cursor = (.found node, after)) :
    ifFound parser yes no cursor = yes node after := by
  rw [ifFound, found]

theorem ifFound_of_missing (missing : (parser cursor).1.node? = none) :
    ifFound parser yes no cursor = no cursor := by
  rw [ifFound]
  revert missing
  rcases parser cursor with ⟨_ | _ | _, after⟩
  · exact fun missing => by cases missing
  all_goals exact fun _ => rfl

theorem Tame.attempt_of_found (tame : Tame parser) (found : parser cursor = (.found node, after)) :
    Parser.attempt parser cursor = (.found node, after) := by
  rw [tame.attempt_eq, found]

end Steps

theorem GoesBack.map {parser : Parser α} (back : GoesBack parser) (f : α → β) :
    GoesBack (parser >>= fun node => pure (f node)) := by
  intro cursor missing
  have stays := back cursor
  rw [bind_apply] at missing ⊢
  revert missing stays
  rcases parser cursor with ⟨_ | _ | _, after⟩
  · exact fun missing => by cases missing
  · exact fun _ stays => stays rfl
  · exact fun _ stays => stays rfl

theorem Tame.ifFound {parser : Parser α} {yes : α → Parser β} {no : Parser β} (tame : Tame parser)
    (first : ∀ node, Tame (yes node)) (second : Tame no) : Tame (ifFound parser yes no) := by
  refine .of_reads (fun tokens =>
    match parser.reads tokens with
    | (.found node, n) =>
      let later := (yes node).reads (tokens.drop n)
      (later.1, n + later.2)
    | (.absent, _) => no.reads tokens
    | (.failed, _) => no.reads tokens) (fun tokens => ?_) fun cursor => ?_
  · have way := tame.within tokens
    split
    next node n found =>
      have later := (first node).within (tokens.drop n)
      rw [found] at way
      rw [List.length_drop] at later
      dsimp only
      omega
    all_goals exact second.within tokens
  · rw [Parser.ifFound, tame.ahead]
    rcases parser.reads cursor.rest with ⟨_ | _ | _, n⟩ <;> simp [(first _).ahead, second.ahead]

theorem Tame.maybe_eq {parser : Parser α} (tame : Tame parser) :
    maybe parser = Parser.ifFound parser (fun node => pure (some node)) (pure none) := by
  funext cursor
  rw [maybe, optional, tame.attempt_eq, Parser.ifFound]
  rcases parser cursor with ⟨_ | _ | _, after⟩ <;> rfl

theorem Tame.maybe_of_found {parser : Parser α} {cursor after : Cursor} {node : α}
    (tame : Tame parser) (found : parser cursor = (.found node, after)) :
    Parser.maybe parser cursor = (.found (some node), after) := by
  rw [tame.maybe_eq, ifFound_of_found found]
  rfl

theorem Tame.maybe_of_missing {parser : Parser α} {cursor : Cursor} (tame : Tame parser)
    (missing : (parser cursor).1.node? = none) : Parser.maybe parser cursor = (.found none, cursor) := by
  rw [tame.maybe_eq, ifFound_of_missing missing]
  rfl

theorem Tame.maybe {parser : Parser α} (tame : Tame parser) : Tame (maybe parser) := by
  rw [tame.maybe_eq]
  exact tame.ifFound (fun _ => tame_pure _) (tame_pure none)

theorem upTo_eq {parser : Parser α} (tame : Tame parser) (limit : Nat) (cursor : Cursor) :
    upTo parser (limit + 1) cursor =
      match parser cursor with
      | (.found node, after) => ((upTo parser limit after).1.cons node, (upTo parser limit after).2)
      | _ => ([], cursor) := by
  rw [upTo, tame.attempt_eq]
  rcases parser cursor with ⟨_ | _ | _, after⟩ <;> rfl

def atMost (parser : Parser α) (limit : Nat) : Parser (List α) := fun cursor =>
  (.found (upTo parser limit cursor).1, (upTo parser limit cursor).2)

theorem atMost_succ {parser : Parser α} (tame : Tame parser) (limit : Nat) :
    atMost parser (limit + 1) =
      ifFound parser (fun node => do
        let nodes ← atMost parser limit
        pure (node :: nodes)) (pure []) := by
  funext cursor
  rw [atMost, upTo_eq tame, Parser.ifFound]
  rcases parser cursor with ⟨_ | _ | _, after⟩ <;> rfl

theorem Tame.atMost {parser : Parser α} (tame : Tame parser) (limit : Nat) :
    Tame (atMost parser limit) := by
  induction limit with
  | zero => exact tame_pure []
  | succ limit ih =>
    rw [atMost_succ tame]
    exact tame.ifFound (fun _ => ih.bind fun _ => tame_pure _) (tame_pure [])

theorem Tame.withAhead {parser : Nat → Parser α} (tame : ∀ n, Tame (parser n)) :
    Tame (withAhead parser) := by
  refine .of_reads (fun tokens => (parser tokens.length).reads tokens)
    (fun tokens => (tame _).within tokens) fun cursor => ?_
  rw [Parser.withAhead, (tame _).ahead, cursor.ahead_eq]

theorem many_eq (parser : Parser α) :
    many parser = withAhead fun n => Parser.atMost parser (n + 1) := rfl

theorem Tame.many {parser : Parser α} (tame : Tame parser) : Tame (many parser) := by
  rw [many_eq]
  exact .withAhead fun _ => tame.atMost _

theorem Tame.many1 {parser : Parser α} (tame : Tame parser) : Tame (many1 parser) :=
  tame.many.bind fun _ => tame_fail.ite (tame_pure _)

theorem GoesBack.orElse_eq {first : Parser α} (back : GoesBack first) (second : Parser α) :
    orElse first second = Parser.ifFound first pure second := by
  funext cursor
  have stays := back cursor
  rw [Parser.orElse, Parser.ifFound]
  revert stays
  rcases first cursor with ⟨_ | _ | _, after⟩
  · exact fun _ => rfl
  -- The second parser starts at the cursor that the first one leaves, which is the old one.
  all_goals
    intro stays
    obtain rfl : after = cursor := stays rfl
    rfl

theorem Tame.orElse {first second : Parser α} (one : Tame first) (back : GoesBack first)
    (other : Tame second) : Tame (orElse first second) := by
  rw [back.orElse_eq]
  exact one.ifFound tame_pure other

end Parser

end Inventory
