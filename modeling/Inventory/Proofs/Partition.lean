import Inventory.Proofs.Layout
import Inventory.Proofs.Sorting
import Inventory.Proofs.Tiling
import Inventory.Script.Command
import Mathlib.Data.List.TakeWhile

set_option autoImplicit false

namespace Inventory

open Text (byteLength isBlank)

structure Block.Partition (line : List Char) (blocks : List Block) : Prop where
  sorted : blocks.Pairwise fun a b => a.span.start ≤ b.span.start
  filled : ∀ block ∈ blocks, block.span.start < block.span.stop
  apart : blocks.Pairwise fun a b => a.span.stop ≤ b.span.start
  placed : ∀ block ∈ blocks, ∃ before inside after, line = before ++ (inside ++ after) ∧
    block.span = ⟨byteLength before, byteLength (before ++ inside)⟩
  once : ∀ before c after, line = before ++ c :: after → ¬isBlank c →
    blocks.countP (fun block => block.span.Holds (byteLength before) c) = 1

theorem Spread.partition {line : List Char} {blocks : List Block}
    (spread : Spread 0 line (blocks.map Block.span)) : Block.Partition line blocks where
  sorted := (List.pairwise_map.1 spread.sorted).imp Nat.le_of_lt
  filled block member := spread.filled (List.mem_map_of_mem member)
  apart := List.pairwise_map.1 spread.apart
  placed block member := by
    obtain ⟨before, inside, after, split, place⟩ := spread.placed (List.mem_map_of_mem member)
    exact ⟨before, inside, after, split, by simpa using place⟩
  once before c after split ink := by
    have once := spread.once split ink
    rw [List.countP_map, Nat.zero_add] at once
    exact once

theorem eq_of_perm_of_strict {α : Type} {key : α → Nat} {a b : List α} (same : a.Perm b)
    (first : a.Pairwise fun x y => key x < key y) (second : b.Pairwise fun x y => key x < key y) :
    a = b :=
  same.eq_of_pairwise (fun _ _ _ _ less more => absurd less (Nat.lt_asymm more)) first second

namespace Block

theorem perm_inOrder (blocks : List Block) : (inOrder blocks).Perm blocks := sortBy_perm _ _

theorem inOrder_strict {blocks : List Block} {spans : List Span}
    (same : spans.Perm (blocks.map Block.span)) (strict : spans.Pairwise fun a b => a.start < b.start) :
    (inOrder blocks).Pairwise fun a b => a.span.start < b.span.start := by
  have sorted : (inOrder blocks).Pairwise fun a b => (a.span.start : Int) ≤ b.span.start :=
    sortBy_pairwise (fun block => (block.span.start : Int)) blocks
  have differ : spans.Pairwise fun a b => a.start ≠ b.start := strict.imp Nat.ne_of_lt
  -- Being different goes with a permutation, being in order does not.
  rw [same.pairwise_iff Ne.symm, List.pairwise_map,
    ← (perm_inOrder blocks).pairwise_iff Ne.symm] at differ
  exact (sorted.and differ).imp fun ⟨le, ne⟩ => by omega

theorem map_span_inOrder {blocks : List Block} {spans : List Span}
    (same : spans.Perm (blocks.map Block.span)) (strict : spans.Pairwise fun a b => a.start < b.start) :
    (inOrder blocks).map Block.span = spans :=
  eq_of_perm_of_strict (((perm_inOrder blocks).map _).trans same.symm)
    (List.pairwise_map.2 (inOrder_strict same strict)) strict

end Block

theorem Tiles.spread {start : Nat} {text : List Char} {tokens : List Token} {blocks : List Block}
    (tiles : Tiles tokens blocks) (spread : Spread start text (tokens.map Token.span)) :
    Spread start text ((Block.inOrder blocks).map Block.span) := by
  obtain ⟨groups, spans, rfl, covering, same⟩ := tiles
  rw [List.map_flatten] at spread
  have covered : Spread start text spans :=
    Spread.cover_groups (by simpa [Function.comp_def] using covering) spread
  rwa [Block.map_span_inOrder same covered.sorted]

namespace Rule

theorem tiles_sentence? {rule : Rule} {tokens : List Token} {sentence : Sentence}
    (found : rule.sentence? tokens = some sentence) : Tiles tokens sentence.marks := by
  rw [sentence?_eq] at found
  split at found
  next read after reached =>
    obtain ⟨atEnd, rfl⟩ : after.rest = [] ∧ read = sentence := by simpa using found
    obtain ⟨taken, way, tiles⟩ := Parser.shows_sentence rule _ _ _ reached
    rw [atEnd, List.append_nil] at way
    exact (show tokens = taken from way) ▸ tiles
  next => cases found

end Rule

theorem Sentence.tiles_ofTokens? {tokens : List Token} {sentence : Sentence}
    (found : Sentence.ofTokens? tokens = some sentence) : Tiles tokens sentence.marks := by
  rw [Sentence.ofTokens?_eq] at found
  obtain ⟨rule, _, made⟩ := List.exists_of_findSome?_eq_some found
  exact Rule.tiles_sentence? made

namespace Text

theorem trimEnd_split (text : List Char) :
    ∃ tail, text = trimEnd text ++ tail ∧ ∀ c ∈ tail, isBlank c := by
  refine ⟨(text.reverse.takeWhile isBlank).reverse, ?_, fun c member => ?_⟩
  · rw [trimEnd, ← List.reverse_append, List.takeWhile_append_dropWhile, List.reverse_reverse]
  · exact List.mem_takeWhile_imp (List.mem_reverse.1 member)

theorem trimStart_split (text : List Char) :
    ∃ gap, text = gap ++ trimStart text ∧ ∀ c ∈ gap, isBlank c :=
  ⟨text.takeWhile isBlank, List.takeWhile_append_dropWhile.symm, fun _ => List.mem_takeWhile_imp⟩

theorem trim_split (text : List Char) :
    ∃ gap tail, text = gap ++ (trim text ++ tail) ∧ (∀ c ∈ gap, isBlank c) ∧
      (∀ c ∈ tail, isBlank c) ∧ trimEnd text = gap ++ trim text := by
  obtain ⟨tail, whole, after⟩ := trimEnd_split text
  obtain ⟨gap, start, before⟩ := trimStart_split (trimEnd text)
  refine ⟨gap, tail, ?_, before, after, start⟩
  rw [← List.append_assoc, trim, ← start]
  exact whole

end Text

namespace Command

theorem spread_blank {line : List Char} (blank : Text.trim line = []) : Spread 0 line [] := by
  obtain ⟨gap, tail, split, before, after, -⟩ := Text.trim_split line
  refine .nil fun c member => ?_
  rw [split, blank, List.nil_append, List.mem_append] at member
  exact member.elim (before c) (after c)

theorem spread_trimmedSpan {line : List Char} (ink : Text.trim line ≠ []) :
    Spread 0 line [trimmedSpan line] := by
  obtain ⟨gap, tail, split, before, after, start⟩ := Text.trim_split line
  have length : byteLength (Text.trimEnd line) = byteLength gap + byteLength (Text.trim line) := by
    rw [start, Text.byteLength_append]
  have only : Spread 0 (gap ++ (Text.trim line ++ tail)) _ := .cons before ink (.nil after)
  rw [← split] at only
  simpa [trimmedSpan, length] using only

theorem map_span_blocksOf (tokens : List Token) (shade : Shade) :
    (blocksOf tokens shade).map Block.span = tokens.map Token.span := by
  simp [blocksOf]

theorem map_span_fallback (tokens : List Token) :
    (fallback tokens).blocks.map Block.span = tokens.map Token.span := by
  unfold fallback
  dsimp only
  split
  next =>
    rw [List.map_append, map_span_blocksOf, map_span_blocksOf, ← List.map_append,
      List.take_append_drop]
  next => split <;> exact map_span_blocksOf ..

theorem blocks_ofSentence (resolver : Resolver) (tokens : List Token) (sentence : Sentence) :
    (ofSentence resolver tokens sentence).blocks = sentence.blocks := by
  unfold ofSentence
  split <;> rfl

theorem spread_ofTokens (resolver : Resolver) {start : Nat} {text : List Char} {tokens : List Token}
    (spread : Spread start text (tokens.map Token.span)) :
    Spread start text ((ofTokens resolver tokens).blocks.map Block.span) := by
  unfold ofTokens
  split
  next sentence found =>
    rw [blocks_ofSentence]
    exact (Sentence.tiles_ofTokens? found).spread spread
  next => rwa [map_span_fallback]

theorem spread_ofLine (resolver : Resolver) (line : String) :
    Spread 0 line.toList ((ofLine resolver line).blocks.map Block.span) := by
  unfold ofLine
  split
  next blank => exact spread_blank blank
  next ink => exact spread_trimmedSpan (by simp [ink])
  next => exact spread_ofTokens resolver (spread_tokenize line)

theorem partition_blocks (resolver : Resolver) (line : String) :
    Block.Partition line.toList (ofLine resolver line).blocks :=
  (spread_ofLine resolver line).partition

end Command

end Inventory
