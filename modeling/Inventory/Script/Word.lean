import Inventory.Script.Cursor
import Inventory.Text.Alphabetic
import Inventory.Text.Letters

set_option autoImplicit false

namespace Inventory

structure Numeral where
  value : Int
  span : Span
deriving DecidableEq

structure Word where
  text : String
  span : Span
deriving DecidableEq

structure Keyword where
  span : Span
  shade : Shade
deriving DecidableEq

def Text.readLong? (text : String) : Option Int :=
  ((Text.readInt? text.toList).bind fun n => (Bounded.ofInt? n : Option Price)).map Bounded.val

def Numeral.marks (shade : Shade) (numeral : Numeral) : List Block := [⟨numeral.span, shade⟩]

def Keyword.marks (keyword : Keyword) : List Block := [⟨keyword.span, keyword.shade⟩]

def Word.marks (shade : Shade) (words : List Word) : List Block :=
  words.map fun word => ⟨word.span, shade⟩

def Word.joined (words : List Word) : String := " ".intercalate (words.map Word.text)

def Word.run (words : List Word) : String := String.join (words.map Word.text)

namespace Parser

def numeral : Parser Numeral := attempt do
  let token ← next
  let value ← ofOption (Text.readLong? token.text)
  pure ⟨value, token.span⟩

def isName (token : Token) : Bool :=
  match token.text.toList with
  | c :: _ => Text.isAlphabetic c
  | [] => false

def word : Parser Word := attempt do
  let token ← nextThat isName
  pure ⟨token.text, token.span⟩

def isOneOf (words : List String) (token : Token) : Bool :=
  words.any fun word => Text.sameWord word token.text

def keyword (words : List String) (shade : Shade) : Parser Keyword := attempt do
  let token ← nextThat (isOneOf words)
  pure ⟨token.span, shade⟩

def phraseSpans : List String → Parser (List Span)
  | [] => pure []
  | word :: rest => do
    let token ← nextThat (isOneOf [word])
    let spans ← phraseSpans rest
    pure (token.span :: spans)

def phrase (words : List String) (shade : Shade) : Parser Keyword := attempt do
  let spans ← phraseSpans words
  let span ← ofOption (Span.covering? spans)
  pure ⟨span, shade⟩

def symbol (c : Char) : Parser Span := attempt do
  let token ← nextThat fun token => token.text.toList = [c]
  pure token.span

end Parser

structure SlotClause where
  preposition : Keyword
  slot : Keyword
  number : Numeral
deriving DecidableEq

namespace SlotClause

/-- The slot that is meant, counted from 1. A negative number means 0. -/
def index (clause : SlotClause) : Nat := clause.number.value.toNat

def marks (clause : SlotClause) : List Block :=
  clause.preposition.marks ++ clause.slot.marks ++ clause.number.marks .slotNumber

end SlotClause

namespace Parser

def slotClause (prepositions : List String) : Parser SlotClause := attempt do
  let preposition ← keyword prepositions .keyword
  let slot ← keyword ["slot", "slots"] .keyword
  let number ← numeral
  pure ⟨preposition, slot, number⟩

def atSlotClause : Parser Bool := fun cursor =>
  let (outcome, after) := slotClause ["in", "from"] cursor.push
  (.found outcome.node?.isSome, after.restore.pop)

end Parser

end Inventory
