import Inventory.Stack
import Inventory.Script.Word

set_option autoImplicit false

namespace Inventory

inductive MetadataFault where
  | requiresNumber (key value : String)
  | requiresString (key value : String)
  | invalidModifier (name : String)
  | invalidKey (key : String)
  | tooManyPairs
deriving DecidableEq

def MetadataFault.message : MetadataFault → String
  | requiresNumber key value => s!"metadata {key} requires a number value, but got: {value}"
  | requiresString key value => s!"metadata {key} requires a string value, but got: {value}"
  | invalidModifier name => s!"{name} is not a valid modifier name"
  | invalidKey key => s!"{key} is not a valid metadata name"
  | tooManyPairs => "Key value pairs max depth exceeded"

namespace Metadata

abbrev Pair := String × Option String

def maxPairs : Nat := 16

def bareValue : String := "true"

def numberOf {lo hi : Int} (pair : Pair) : Except MetadataFault (Bounded lo hi) :=
  let value := pair.2.getD bareValue
  match (Text.readInt? value.toList).bind Bounded.ofInt? with
  | some n => .ok n
  | none => .error (.requiresNumber pair.1 value)

def modifierOf (pair : Pair) : Except MetadataFault Modifier :=
  match pair.2 with
  | none => .error (.requiresString pair.1 bareValue)
  | some name =>
    -- Numbers beyond 64 bits count as names.
    if (Text.readLong? name).isSome then .error (.requiresString pair.1 name)
    else
      match Modifier.ofName? name with
      | some modifier => .ok modifier
      | none => .error (.invalidModifier name)

def applyPair (edit : Edit) (pair : Pair) : Except MetadataFault Edit :=
  match Text.lower pair.1 with
  | "life" => (numberOf pair).map fun n => { edit with life := some n }
  | "price" => (numberOf pair).map fun n => { edit with price := some n }
  | "hp" => (numberOf pair).map fun n => { edit with hp := some n }
  | "equip" =>
    .ok { edit with equip := some (Text.sameWord (pair.2.getD bareValue) bareValue) }
  | "modifier" => (modifierOf pair).map edit.withModifier
  | _ => .error (.invalidKey pair.1)

def ofPairs (pairs : List Pair) : Except MetadataFault Edit :=
  if maxPairs < pairs.length then .error .tooManyPairs else pairs.foldlM applyPair .empty

def isSeparator (c : Char) : Bool := c = '=' || c = ':'

def pairOfPiece (piece : List Char) : Pair :=
  match piece.dropWhile fun c => !isSeparator c with
  | [] => (String.ofList piece, none)
  | _ :: value =>
    (String.ofList (Text.trim (piece.takeWhile fun c => !isSeparator c)),
      some (String.ofList (Text.trim value)))

def stripOpening : List Char → List Char
  | '[' :: rest => rest
  | text => text

def stripClosing (text : List Char) : List Char :=
  if text.getLast? = some ']' then text.dropLast else text

def pairsOfText (text : List Char) : List Pair :=
  let pieces := (stripClosing (stripOpening (Text.trim text))).splitOnP (· == ',')
  ((pieces.map Text.trim).filter (· ≠ [])).map pairOfPiece

def ofText (text : String) : Except MetadataFault Edit := ofPairs (pairsOfText text.toList)

end Metadata

structure MetaValue where
  text : String
  span : Span
  numeric : Bool
deriving DecidableEq

structure MetaPair where
  key : Word
  separator : Option Span
  value : Option MetaValue
deriving DecidableEq

structure MetaClause where
  delimiters : List Span
  pairs : List MetaPair
deriving DecidableEq

def MetaValue.marks (value : MetaValue) : List Block :=
  [⟨value.span, if value.numeric then .metaValue else .metaConst⟩]

def MetaPair.marks (pair : MetaPair) : List Block :=
  ⟨pair.key.span, .metaKey⟩ :: (pair.separator.toList.map fun span => ⟨span, .delimiter⟩) ++
    pair.value.toList.flatMap MetaValue.marks

namespace MetaClause

def edit (clause : MetaClause) : Except MetadataFault Edit :=
  Metadata.ofPairs (clause.pairs.map fun pair => (pair.key.text, pair.value.map MetaValue.text))

def marks (clause : MetaClause) : List Block :=
  (clause.delimiters.map fun span => ⟨span, .delimiter⟩) ++ clause.pairs.flatMap MetaPair.marks

end MetaClause

namespace Parser

def orElse {α : Type} (first second : Parser α) : Parser α := fun cursor =>
  match first cursor with
  | (.found node, after) => (.found node, after)
  | (_, after) => second after

def metaValue : Parser MetaValue :=
  orElse
    (do
      let n ← numeral
      pure ⟨toString n.value, n.span, true⟩)
    (do
      let name ← word
      pure ⟨name.text, name.span, false⟩)

def metaPair : Parser MetaPair := attempt do
  let key ← word
  match ← maybe (orElse (symbol '=') (symbol ':')) with
  | none => pure ⟨key, none, none⟩
  | some separator => do
    let value ← metaValue
    pure ⟨key, some separator, some value⟩

def morePairs : Nat → Parser (List (Span × MetaPair))
  | 0 => pure []
  | limit + 1 => do
    match ← maybe (symbol ',') with
    | none => pure []
    | some comma => do
      let pair ← metaPair
      let rest ← morePairs limit
      pure ((comma, pair) :: rest)

def withAhead {α : Type} (parser : Nat → Parser α) : Parser α := fun cursor =>
  parser cursor.ahead cursor

def metaClause : Parser MetaClause := attempt do
  let opening ← symbol '['
  let first ← metaPair
  let rest ← withAhead morePairs
  let closing ← symbol ']'
  pure ⟨opening :: rest.map Prod.fst ++ [closing], first :: rest.map Prod.snd⟩

end Parser

end Inventory
