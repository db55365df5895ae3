import Inventory.Script.Token

/-!
Reading a row of tokens with the possibility to go back. A cursor keeps a stack of places; an
attempt saves its place on it and returns there unless it has found something.
-/

set_option autoImplicit false

namespace Inventory

structure Cursor where
  tokens : List Token
  position : Nat
  saved : List Nat
deriving DecidableEq

namespace Cursor

def ofTokens (tokens : List Token) : Cursor := ⟨tokens, 0, []⟩

def isAtEnd (cursor : Cursor) : Bool := cursor.tokens.length ≤ cursor.position

def ahead (cursor : Cursor) : Nat := cursor.tokens.length - cursor.position

def peek (cursor : Cursor) : Option Token := cursor.tokens[cursor.position]?

def push (cursor : Cursor) : Cursor := { cursor with saved := cursor.position :: cursor.saved }

def pop (cursor : Cursor) : Cursor := { cursor with saved := cursor.saved.tail }

def restore (cursor : Cursor) : Cursor :=
  { cursor with position := cursor.saved.head?.getD cursor.position }

def reset (cursor : Cursor) : Cursor := ofTokens cursor.tokens

end Cursor

inductive Outcome (α : Type) where
  | found (node : α)
  /-- Nothing was there, and nothing had to be. -/
  | absent
  | failed
deriving DecidableEq

def Outcome.node? {α : Type} : Outcome α → Option α
  | found node => some node
  | absent => none
  | failed => none

def Parser (α : Type) : Type := Cursor → Outcome α × Cursor

namespace Parser

variable {α β : Type}

def andThen (parser : Parser α) (next : α → Parser β) : Parser β := fun cursor =>
  match parser cursor with
  | (.found node, after) => next node after
  | (_, after) => (.failed, after)

instance : Monad Parser where
  pure node := fun cursor => (.found node, cursor)
  bind := andThen

def fail : Parser α := fun cursor => (.failed, cursor)

def ofOption : Option α → Parser α
  | some node => pure node
  | none => fail

def next : Parser Token := fun cursor =>
  match cursor.peek with
  | some token => (.found token, { cursor with position := cursor.position + 1 })
  | none => (.failed, cursor)

def nextThat (p : Token → Bool) : Parser Token := do
  let token ← next
  if p token then pure token else fail

def goesBack (outcome : Outcome α) (start stop : Nat) : Bool :=
  match outcome with
  | .found _ => false
  | .absent => start ≠ stop
  | .failed => true

def attempt (parser : Parser α) : Parser α := fun cursor =>
  let (outcome, after) := parser cursor.push
  (outcome, (if goesBack outcome cursor.position after.position then after.restore else after).pop)

def optional (parser : Parser α) : Parser α := fun cursor =>
  match attempt parser cursor with
  | (.failed, after) => (.absent, after)
  | result => result

def maybe (parser : Parser α) : Parser (Option α) := fun cursor =>
  let (outcome, after) := optional parser cursor
  (.found outcome.node?, after)

def upTo (parser : Parser α) : Nat → Cursor → List α × Cursor
  | 0, cursor => ([], cursor)
  | limit + 1, cursor =>
    match attempt parser cursor with
    | (.found node, after) =>
      let (nodes, last) := upTo parser limit after
      (node :: nodes, last)
    | (_, after) => ([], after)

/-- As many nodes as there are. A node takes up a token at least, so there are no more of them than
tokens ahead. -/
def many (parser : Parser α) : Parser (List α) := fun cursor =>
  let (nodes, after) := upTo parser (cursor.ahead + 1) cursor
  (.found nodes, after)

def many1 (parser : Parser α) : Parser (List α) := do
  let nodes ← many parser
  if nodes.isEmpty then fail else pure nodes

def done : Parser Unit := fun cursor => (if cursor.isAtEnd then .found () else .failed, cursor)

end Parser

end Inventory
