import Inventory.Proofs.MetadataGrammar
import Inventory.Proofs.Slices

set_option autoImplicit false

namespace Inventory

open Text (beginsName readLong? trim)

namespace Metadata

/-- How a clause says a value: a name as it is, and a number without needless signs. -/
inductive Renders : String → String → Prop
  | name {text : String} (begins : beginsName text) : Renders text text
  | number {text : String} {n : Int} (read : readLong? text = some n) : Renders text (toString n)

/-- The texts of the tokens of a pair, the pair as it is written, and as a clause says it. -/
inductive Written : List String → Pair → Pair → Prop
  | bare {key : String} (begins : beginsName key) : Written [key] (key, none) (key, none)
  | valued {key text said : String} {c : Char} (begins : beginsName key) (separates : isSeparator c)
    (renders : Renders text said) :
    Written [key, String.ofList [c], text] (key, some text) (key, some said)

inductive Listed : List String → List Pair → List Pair → Prop
  | last {texts : List String} {written said : Pair} (pair : Written texts written said) :
    Listed texts [written] [said]
  | more {texts others : List String} {written said : Pair} {writtens saids : List Pair}
    (pair : Written texts written said) (rest : Listed others writtens saids) :
    Listed (texts ++ "," :: others) (written :: writtens) (said :: saids)

end Metadata

section Clauses

open Metadata Inventory.Parser

def MetaPair.said (pair : MetaPair) : Metadata.Pair := (pair.key.text, pair.value.map MetaValue.text)

theorem MetaClause.edit_eq (clause : MetaClause) :
    clause.edit = ofPairs (clause.pairs.map MetaPair.said) := rfl

theorem MetaValue.Derives.renders {token : Token} {value : MetaValue}
    (derives : MetaValue.Derives token value) : Renders token.text value.text := by
  cases derives with
  | number figure => exact .number figure.readLong?_text
  | name name => exact .name name.begins

theorem MetaPair.Derives.written {tokens : List Token} {pair : MetaPair}
    (derives : MetaPair.Derives tokens pair) :
    ∃ written, Written (tokens.map Token.text) written pair.said := by
  cases derives with
  | bare key span => exact ⟨_, .bare key.begins⟩
  | @valued key span separator token value separates derives =>
    obtain ⟨c, sign, separates⟩ : ∃ c, separator.text = String.ofList [c] ∧ isSeparator c := by
      obtain same | same : separator.text = "=" ∨ separator.text = ":" := by
        simpa [MetaPair.separators] using separates
      · exact ⟨'=', same, rfl⟩
      · exact ⟨':', same, rfl⟩
    have written := Written.valued key.begins separates derives.renders
    rw [← sign] at written
    exact ⟨_, written⟩

theorem MetaPair.DerivesMore.listed {tokens : List Token} {more : List (Span × MetaPair)}
    (derives : MetaPair.DerivesMore tokens more) {texts : List String} {written said : Pair}
    (pair : Written texts written said) :
    ∃ others, Listed (texts ++ tokens.map Token.text) (written :: others)
      (said :: more.map fun part => part.2.said) := by
  induction derives generalizing texts written said with
  | nil => exact ⟨[], by simpa using .last pair⟩
  | cons comma first _ ih =>
    obtain ⟨second, here⟩ := first.written
    obtain ⟨others, listed⟩ := ih here
    exact ⟨second :: others, by simpa using Listed.more pair listed⟩

theorem Parser.finds_metaClause (cursor : Cursor) (clause : MetaClause) (after : Cursor)
    (found : metaClause cursor = (.found clause, after)) :
    ∃ taken, cursor.rest = taken ++ after.rest ∧ ∃ first body last written,
      taken = first :: (body ++ [last]) ∧ first.text = "[" ∧ last.text = "]" ∧
      Span.covering? clause.delimiters = some (first.span.through last.span) ∧
      Listed (body.map Token.text) written (clause.pairs.map MetaPair.said) := by
  obtain ⟨taken, ⟨rest, whole⟩, derives, rfl⟩ :=
    (accepts_metaClause.found_iff tame_metaClause).1 found
  refine ⟨taken, by rw [cursor.rest_advance, ← whole, List.drop_left], ?_⟩
  cases derives with
  | @brackets tokens others pair more opening closing first derivesMore =>
    obtain ⟨written, here⟩ := first.written
    obtain ⟨writtens, listed⟩ := derivesMore.listed here
    refine ⟨⟨"[", opening⟩, tokens ++ others, ⟨"]", closing⟩, written :: writtens, rfl, rfl, rfl,
      ?_, by simpa [Function.comp_def] using listed⟩
    rw [Span.covering?, List.getLast?_concat]
    rfl

end Clauses

namespace Metadata

section Texts

variable {texts : List String} {written said : Pair} {piece : List Char}

theorem isSymbol_of_isSeparator {c : Char} (separates : isSeparator c) : Token.isSymbol c := by
  obtain rfl | rfl : c = '=' ∨ c = ':' := by simpa [isSeparator] using separates
  all_goals decide

theorem not_beginsName_of_isSymbol {c : Char} (symbol : Token.isSymbol c) :
    ¬beginsName (String.ofList [c]) := by
  have apart : Token.symbols.all fun c => !beginsName (String.ofList [c]) := by decide
  have member : c ∈ Token.symbols := by simpa [Token.isSymbol] using symbol
  simpa using List.all_eq_true.1 apart c member

theorem Written.comma_not_mem (pair : Written texts written said) : "," ∉ texts := by
  have noName {text : String} (begins : beginsName text) : "," ≠ text := by
    rintro rfl
    have comma : Token.isSymbol ',' := by decide
    exact not_beginsName_of_isSymbol comma begins
  cases pair with
  | bare begins => simpa using noName begins
  | @valued _ text _ c begins separates renders =>
    have sign : "," ≠ String.ofList [c] := by
      obtain rfl | rfl : c = '=' ∨ c = ':' := by simpa [isSeparator] using separates
      all_goals decide
    have value : "," ≠ text := by
      cases renders with
      | name begins => exact noName begins
      | number read =>
        rintro rfl
        cases read
    simp only [List.mem_cons, List.not_mem_nil, or_false, not_or]
    exact ⟨noName begins, sign, value⟩

theorem not_isSeparator_of_name {key : String} (begins : beginsName key)
    (spaced : Spaced [key] piece) : ∀ c ∈ piece, isSeparator c = false := by
  intro c inside
  by_contra separates
  have symbol := isSymbol_of_isSeparator (Bool.not_eq_false _ ▸ separates)
  obtain rfl : String.ofList [c] = key := List.mem_singleton.1 (spaced.mem_of_symbol symbol inside)
  exact not_beginsName_of_isSymbol symbol begins

theorem pairOfPiece_of_plain (plain : ∀ c ∈ piece, isSeparator c = false) :
    pairOfPiece piece = (String.ofList piece, none) := by
  have none : piece.dropWhile (fun c => !isSeparator c) = [] :=
    List.dropWhile_eq_nil_iff.2 fun c inside => by simp [plain c inside]
  rw [pairOfPiece, none]

theorem pairOfPiece_append {key value : List Char} {c : Char}
    (plain : ∀ c ∈ key, isSeparator c = false) (separates : isSeparator c) :
    pairOfPiece (key ++ c :: value) =
      (String.ofList (trim key), some (String.ofList (trim value))) := by
  have passes : ∀ c ∈ key, !isSeparator c := fun c inside => by simp [plain c inside]
  rw [pairOfPiece, List.dropWhile_append_of_pos passes, List.takeWhile_append_of_pos passes,
    List.dropWhile_cons_of_neg (by simp [separates]),
    List.takeWhile_cons_of_neg (by simp [separates]), List.append_nil]

theorem pairOfPiece_of_written (pair : Written texts written said) (spaced : Spaced texts piece) :
    trim piece ≠ [] ∧ pairOfPiece (trim piece) = written := by
  cases pair with
  | @bare key begins =>
    have plain := not_isSeparator_of_name begins spaced
    obtain ⟨gap, tail, split, before, after, inked⟩ := spaced.single
    rw [Text.trim_eq split before after inked,
      pairOfPiece_of_plain fun c inside => plain c (by simp [split, inside]), String.ofList_toList]
    exact ⟨inked.filled, rfl⟩
  | @valued key text _ c begins separates renders =>
    obtain ⟨left, right, split, ahead, behind⟩ := spaced.cut [key]
    have plain := not_isSeparator_of_name begins ahead
    obtain ⟨gap, tail, rfl, before, after, inked⟩ := ahead.single
    obtain ⟨gap', tail', rfl, before', after', inked'⟩ := behind.single
    -- Only the outer blanks go with the piece, the inner ones go with the key and with the value.
    have outer : piece = gap ++ ((key.toList ++ ((tail ++ c :: gap') ++ text.toList)) ++ tail') := by
      simp [split]
    have whole : trim piece = (key.toList ++ tail) ++ c :: (gap' ++ text.toList) := by
      rw [Text.trim_eq outer before after' (inked.append inked' _)]
      simp
    have keyText : trim (key.toList ++ tail) = key.toList :=
      Text.trim_eq (List.nil_append _).symm (List.forall_mem_nil _) after inked
    have valueText : trim (gap' ++ text.toList) = text.toList :=
      Text.trim_eq (congrArg _ (List.append_nil _).symm) before' (List.forall_mem_nil _) inked'
    rw [whole, pairOfPiece_append (fun c inside => plain c (by simp_all)) separates, keyText, valueText,
      String.ofList_toList, String.ofList_toList]
    exact ⟨by simp, rfl⟩

theorem pairs_of_listed {writtens saids : List Pair} (listed : Listed texts writtens saids)
    {content : List Char} (spaced : Spaced texts content) :
    (((content.splitOnP (· == ',')).map trim).filter (· ≠ [])).map pairOfPiece = writtens := by
  have noComma {texts : List String} {written said : Pair} {piece : List Char}
      (pair : Written texts written said) (spaced : Spaced texts piece) :
      ∀ c ∈ piece, (c == ',') = false := by
    intro c inside
    by_contra comma
    obtain rfl : c = ',' := by simpa using comma
    exact pair.comma_not_mem (spaced.mem_of_symbol (by decide) inside)
  induction listed generalizing content with
  | last pair =>
    obtain ⟨filled, same⟩ := pairOfPiece_of_written pair spaced
    rw [List.splitOnP_eq_singleton (noComma pair spaced)]
    simp [filled, same]
  | more pair _ ih =>
    obtain ⟨piece, rest, rfl, first, others⟩ := spaced.cut _
    obtain ⟨filled, same⟩ := pairOfPiece_of_written pair first
    have split : (piece ++ (",".toList ++ rest)).splitOnP (· == ',') =
        piece :: rest.splitOnP (· == ',') :=
      List.splitOnP_append_cons_of_forall_mem (noComma pair first) ',' rfl rest
    have later := ih others
    rw [split]
    simpa [filled, same] using later

theorem pairsOfText_of_listed {writtens saids : List Pair} (listed : Listed texts writtens saids)
    {content : List Char} (spaced : Spaced texts content) :
    pairsOfText ('[' :: (content ++ [']'])) = writtens := by
  have opening : Text.Inked ['['] := Text.inked_singleton (by decide)
  have closing : Text.Inked [']'] := Text.inked_singleton (by decide)
  have whole : trim ('[' :: (content ++ [']'])) = '[' :: (content ++ [']']) :=
    Text.trim_eq (List.append_nil _).symm (List.forall_mem_nil _) (List.forall_mem_nil _)
      (opening.append closing content)
  have inner : stripClosing (stripOpening ('[' :: (content ++ [']']))) = content := by
    simp [stripOpening, stripClosing]
  rw [pairsOfText, whole, inner]
  exact pairs_of_listed listed spaced

end Texts

end Metadata

end Inventory
