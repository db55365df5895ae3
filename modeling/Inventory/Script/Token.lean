import Inventory.Basic
import Inventory.Text.Basic

set_option autoImplicit false

namespace Inventory

/-- From `start` up to, but without, `stop`. -/
structure Span where
  start : Nat
  stop : Nat
deriving DecidableEq

namespace Text

def splitBytes? : List Char → Nat → Option (List Char × List Char)
  | text, 0 => some ([], text)
  | [], _ + 1 => none
  | c :: rest, n + 1 =>
    if c.utf8Size ≤ n + 1 then
      (splitBytes? rest (n + 1 - c.utf8Size)).map fun parts => (c :: parts.1, parts.2)
    else none

end Text

namespace Span

def through (first last : Span) : Span := ⟨first.start, last.stop⟩

def covering? (spans : List Span) : Option Span :=
  match spans.head?, spans.getLast? with
  | some first, some last => some (first.through last)
  | _, _ => none

def length (span : Span) : Nat := span.stop - span.start

def isEmpty (span : Span) : Bool := span.start = span.stop

def slice? (span : Span) (line : List Char) : Option (List Char) :=
  if span.start ≤ span.stop then
    ((Text.splitBytes? line span.start).bind fun parts =>
      Text.splitBytes? parts.2 (span.stop - span.start)).map Prod.fst
  else none

def text (span : Span) (line : String) : String := String.ofList ((span.slice? line.toList).getD [])

end Span

structure Token where
  text : String
  span : Span
deriving DecidableEq

namespace Token

def symbols : List Char := ['[', ']', ',', '=', ':', '"', '!', '#']

def isSymbol (c : Char) : Bool := c ∈ symbols

def endingAt (stop : Nat) (text : List Char) : Token :=
  ⟨String.ofList text, ⟨stop - Text.byteLength text, stop⟩⟩

def wordEndingAt (stop : Nat) : List Char → List Token
  | [] => []
  | word => [endingAt stop word.reverse]

/-- The tokens from a byte on; `word` holds what has been read of a word, last character first. -/
def scan (start : Nat) (word : List Char) : List Char → List Token
  | [] => wordEndingAt start word
  | c :: rest =>
    let stop := start + c.utf8Size
    if isSymbol c then wordEndingAt start word ++ endingAt stop [c] :: scan stop [] rest
    else if Text.isBlank c then wordEndingAt start word ++ scan stop [] rest
    else scan stop (c :: word) rest

end Token

def tokenize (line : String) : List Token := Token.scan 0 [] line.toList

inductive Shade where
  | command
  | superCommand
  | keyword
  | itemName
  | amount
  | metaKey
  | metaValue
  | metaConst
  | slotNumber
  | delimiter
  | unknown
  | comment
deriving DecidableEq, Repr

namespace Shade

def all : List Shade :=
  [command, superCommand, keyword, itemName, amount, metaKey, metaValue, metaConst, slotNumber,
   delimiter, unknown, comment]

def name : Shade → String
  | command => "keyword.command"
  | superCommand => "keyword.super"
  | keyword => "keyword.other"
  | itemName => "item.name"
  | amount => "item.amount"
  | metaKey => "meta.key"
  | metaValue => "meta.value"
  | metaConst => "meta.const"
  | slotNumber => "slot.number"
  | delimiter => "delimiter"
  | unknown => "unknown"
  | comment => "comment"

end Shade

structure Block where
  span : Span
  shade : Shade
deriving DecidableEq

def Block.inOrder (blocks : List Block) : List Block :=
  sortBy (fun block => (block.span.start : Int)) blocks

end Inventory
