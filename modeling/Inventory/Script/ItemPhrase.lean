import Inventory.Item.Catalog
import Inventory.Script.Metadata

set_option autoImplicit false

namespace Inventory

structure ItemPhrase where
  amount : Option Numeral
  all : Option Keyword
  words : List Word
  clause : Option MetaClause
deriving DecidableEq

inductive Complaint where
  | unknownItem (name : String)
  | badAmount (n : Int)
  | cannotAddAll (name : String)
  | tooMany (count : Count) (name : String)
  | metadata (fault : MetadataFault)
  | badSlotIndex (n : Int)
  | badFlag (name : String)
  | badFlagValue (n : Int)
  | flagNeedsValue (name : String)
deriving DecidableEq

def Complaint.message : Complaint → String
  | unknownItem name => s!"Cannot find item: {name}"
  | badAmount n => s!"{n} is not a valid amount"
  | cannotAddAll name => s!"Cannot add all of {name}"
  | tooMany count name =>
    s!"{count.val} is too many of {name} (at most {Lot.maxCopies.val})"
  | metadata fault => fault.message
  | badSlotIndex n => s!"{n} is not a valid slot index"
  | badFlag name => s!"{name} is not a valid flag"
  | badFlagValue n => s!"{n} is not a valid flag value"
  | flagNeedsValue name => s!"flag {name} requires a value"

namespace ItemPhrase

def name (phrase : ItemPhrase) : String := Word.joined phrase.words

def query (phrase : ItemPhrase) : String := Word.run phrase.words

def count (phrase : ItemPhrase) : Except Complaint Count :=
  match phrase.amount with
  | none => .ok 1
  | some n =>
    match Bounded.ofInt? n.value with
    | some count => .ok count
    | none => .error (.badAmount n.value)

def stack (phrase : ItemPhrase) (resolver : Resolver) : Except Complaint Stack :=
  match resolver phrase.query with
  | none => .error (.unknownItem phrase.name)
  | some stack =>
    match phrase.clause with
    | none => .ok stack
    | some clause =>
      match clause.edit with
      | .ok edit => .ok (stack.edit edit)
      | .error fault => .error (.metadata fault)

def lot (resolver : Resolver) (phrase : ItemPhrase) : Except Complaint Lot :=
  if phrase.all.isSome then .error (.cannotAddAll phrase.name)
  else do
    let count ← phrase.count
    let stack ← phrase.stack resolver
    if !stack.item.stackable && Lot.maxCopies.val < count.val then
      .error (.tooMany count phrase.name)
    else .ok ⟨stack, count⟩

def withdrawal (resolver : Resolver) (phrase : ItemPhrase) : Except Complaint Withdrawal := do
  let amount ← if phrase.all.isSome then pure .all else phrase.count.map .count
  let stack ← phrase.stack resolver
  pure ⟨stack, amount⟩

def resolveAll {α : Type} (resolve : ItemPhrase → Except Complaint α) :
    List ItemPhrase → Except (List Complaint) (List α)
  | [] => .ok []
  | phrase :: rest =>
    match resolve phrase, resolveAll resolve rest with
    | .ok node, .ok nodes => .ok (node :: nodes)
    | .ok _, .error complaints => .error complaints
    | .error complaint, .ok _ => .error [complaint]
    | .error complaint, .error complaints => .error (complaint :: complaints)

def marks (phrase : ItemPhrase) : List Block :=
  phrase.amount.toList.flatMap (Numeral.marks .amount) ++ phrase.all.toList.flatMap Keyword.marks ++
    Word.marks .itemName phrase.words ++ phrase.clause.toList.flatMap MetaClause.marks

end ItemPhrase

inductive Quantity where
  | nothing
  | number
  | numberOrAll
deriving DecidableEq

namespace Parser

def nameWords : Nat → Parser (List Word)
  | 0 => pure []
  | limit + 1 => do
    if ← atSlotClause then pure []
    else
      match ← maybe word with
      | none => pure []
      | some first => do
        let rest ← nameWords limit
        pure (first :: rest)

def allWord (quantity : Quantity) : Parser (Option Keyword) :=
  if quantity = .numberOrAll then maybe (keyword ["all"] .amount) else pure none

def amountWord (quantity : Quantity) (all : Option Keyword) : Parser (Option Numeral) :=
  if quantity = .nothing || all.isSome then pure none else maybe numeral

def itemPhrase (quantity : Quantity) : Parser ItemPhrase := attempt do
  let all ← allWord quantity
  let amount ← amountWord quantity all
  let words ← withAhead nameWords
  if words.isEmpty then fail
  else
    let clause ← maybe metaClause
    pure ⟨amount, all, words, clause⟩

end Parser

end Inventory
