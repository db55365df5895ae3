import Inventory.Proofs.Following
import Inventory.Proofs.Partition
import Mathlib.Data.List.Pairwise
import Mathlib.Logic.Function.Basic

set_option autoImplicit false

namespace Inventory

namespace Motion

def KeepsOrder (motion : Motion) (tokens : List Token) : Prop :=
  ∀ a ∈ tokens, ∀ b ∈ tokens,
    a.span.start ≤ b.span.start ↔ motion.start a.span.start ≤ motion.start b.span.start

theorem exists_map_token {tokens others : List Token}
    (starts : tokens.Pairwise fun a b => a.span.start ≠ b.span.start)
    (stops : tokens.Pairwise fun a b => a.span.stop ≠ b.span.stop)
    (same : tokens.map Token.text = others.map Token.text) :
    ∃ motion : Motion, tokens.map motion.token = others := by
  induction tokens generalizing others with
  | nil => exact ⟨⟨id, id⟩, (List.map_eq_nil_iff.1 same.symm).symm⟩
  | cons token tokens ih =>
    obtain ⟨other, others, rfl, text, same⟩ := List.map_eq_cons_iff.1 same.symm
    obtain ⟨newStart, starts⟩ := List.pairwise_cons.1 starts
    obtain ⟨newStop, stops⟩ := List.pairwise_cons.1 stops
    obtain ⟨motion, rfl⟩ := ih starts stops same.symm
    refine ⟨⟨Function.update motion.start token.span.start other.span.start,
      Function.update motion.stop token.span.stop other.span.stop⟩, ?_⟩
    rw [List.map_cons, List.cons.injEq]
    constructor
    · simp [Motion.token, Motion.span, ← text]
    -- Both ends of the first token are new, so the later tokens go where they went.
    · refine List.map_congr_left fun later member => ?_
      have start := newStart later member
      have stop := newStop later member
      simp [Motion.token, Motion.span, Function.update_of_ne start.symm,
        Function.update_of_ne stop.symm]

theorem keepsOrder_of_sorted {motion : Motion} {tokens : List Token}
    (sorted : tokens.Pairwise fun a b => a.span.start < b.span.start)
    (moved : (tokens.map motion.token).Pairwise fun a b => a.span.start < b.span.start) :
    motion.KeepsOrder tokens := by
  -- Pairs of a list come in one order only, so the relation has to speak of both.
  let Kept (a b : Token) : Prop :=
    (a.span.start ≤ b.span.start ↔ motion.start a.span.start ≤ motion.start b.span.start) ∧
      (b.span.start ≤ a.span.start ↔ motion.start b.span.start ≤ motion.start a.span.start)
  have : Std.Symm Kept := ⟨fun _ _ => And.symm⟩
  have self : ∀ token ∈ tokens, Kept token token := fun _ _ => by simp [Kept]
  have kept : tokens.Pairwise Kept := by
    refine (sorted.and (List.pairwise_map.1 moved)).imp fun {a b} ⟨less, follows⟩ => ?_
    change motion.start a.span.start < motion.start b.span.start at follows
    exact ⟨by omega, by omega⟩
  exact fun a first b second => (kept.forall_of_forall self first second).1

end Motion

theorem Spread.sorted_stop {start : Nat} {text : List Char} {spans : List Span}
    (spread : Spread start text spans) : spans.Pairwise fun a b => a.stop < b.stop :=
  spread.apart.imp_of_mem fun _ second order => Nat.lt_of_le_of_lt order (spread.filled second)

theorem Spread.exists_motion {a b : List Char} {tokens others : List Token}
    (spread : Spread 0 a (tokens.map Token.span)) (spread' : Spread 0 b (others.map Token.span))
    (same : tokens.map Token.text = others.map Token.text) :
    ∃ motion : Motion, tokens.map motion.token = others ∧ motion.KeepsOrder tokens := by
  have starts := List.pairwise_map.1 spread.sorted
  have stops := List.pairwise_map.1 spread.sorted_stop
  have moved := List.pairwise_map.1 spread'.sorted
  obtain ⟨motion, rfl⟩ :=
    Motion.exists_map_token (starts.imp Nat.ne_of_lt) (stops.imp Nat.ne_of_lt) same
  exact ⟨motion, rfl, Motion.keepsOrder_of_sorted starts moved⟩

section Blocks

variable {motion : Motion} {tokens : List Token}

theorem Tiles.exists_start_eq {blocks : List Block} (tiles : Tiles tokens blocks) {block : Block}
    (member : block ∈ blocks) : ∃ token ∈ tokens, token.span.start = block.span.start := by
  obtain ⟨groups, spans, rfl, covering, same⟩ := tiles
  have shown : some block.span ∈ spans.map some :=
    List.mem_map_of_mem (same.mem_iff.2 (List.mem_map_of_mem member))
  rw [← covering] at shown
  obtain ⟨group, inside, covered⟩ := List.mem_map.1 shown
  obtain ⟨first, last, opens, -, whole⟩ := Span.covering?_eq_some covered
  obtain ⟨token, among, rfl⟩ := List.mem_map.1 (List.mem_of_mem_head? opens)
  exact ⟨token, List.mem_flatten_of_mem inside among, by rw [whole]; rfl⟩

theorem Tiles.inOrder_map {blocks : List Block} (tiles : Tiles tokens blocks)
    (keeps : motion.KeepsOrder tokens) :
    Block.inOrder (blocks.map motion.block) = (Block.inOrder blocks).map motion.block := by
  refine sortBy_map fun a first b second => ?_
  obtain ⟨token, among, start⟩ := tiles.exists_start_eq first
  obtain ⟨other, among', start'⟩ := tiles.exists_start_eq second
  have order := keeps token among other among'
  rw [start, start'] at order
  simpa [Motion.block, Motion.span] using order

namespace Command

def move (motion : Motion) (command : Command) : Command :=
  { command with blocks := command.blocks.map motion.block }

theorem words_map (motion : Motion) (tokens : List Token) :
    Usage.words (tokens.map motion.token) = Usage.words tokens := by
  simp [Usage.words, Motion.token, Function.comp_def]

theorem headLength_map (motion : Motion) (tokens : List Token) :
    Usage.headLength (tokens.map motion.token) = Usage.headLength tokens := by
  rcases tokens with _ | ⟨_, _ | _⟩ <;> rfl

theorem usage_map (motion : Motion) (tokens : List Token) :
    Usage.ofTokens? (tokens.map motion.token) = Usage.ofTokens? tokens := by
  rw [Usage.ofTokens?, words_map]
  rfl

theorem blocksOf_map (motion : Motion) (tokens : List Token) (shade : Shade) :
    blocksOf (tokens.map motion.token) shade = (blocksOf tokens shade).map motion.block := by
  simp [blocksOf, Motion.token, Motion.block, Function.comp_def]

theorem fallback_map (motion : Motion) (tokens : List Token) :
    fallback (tokens.map motion.token) = (fallback tokens).move motion := by
  have head : (tokens.map motion.token).head?.map Token.text = tokens.head?.map Token.text := by
    cases tokens <;> rfl
  simp only [fallback, usage_map, words_map, headLength_map, head, ← List.map_take, ← List.map_drop,
    blocksOf_map, ← List.map_append]
  split
  next => rfl
  next => split <;> rfl

theorem ofSentence_map (resolver : Resolver) (keeps : motion.KeepsOrder tokens) {sentence : Sentence}
    (tiles : Tiles tokens sentence.marks) :
    ofSentence resolver (tokens.map motion.token) (motion.sentence sentence) =
      (ofSentence resolver tokens sentence).move motion := by
  have blocks : (motion.sentence sentence).blocks = sentence.blocks.map motion.block := by
    rw [Sentence.blocks, Motion.marks_sentence, tiles.inOrder_map keeps, Sentence.blocks]
  rw [ofSentence, ofSentence, Motion.meaning_sentence, usage_map, blocks]
  cases sentence.meaning resolver <;> rfl

theorem ofTokens_map (resolver : Resolver) (keeps : motion.KeepsOrder tokens) :
    ofTokens resolver (tokens.map motion.token) = (ofTokens resolver tokens).move motion := by
  rw [ofTokens, ofTokens, Sentence.ofTokens?_map]
  cases found : Sentence.ofTokens? tokens with
  | none => exact fallback_map motion tokens
  | some sentence => exact ofSentence_map resolver keeps (Sentence.tiles_ofTokens? found)

end Command

end Blocks

section Lines

open Text (byteLength isBlank)

theorem Token.not_isSymbol_of_isBlank {c : Char} (blank : isBlank c) : ¬isSymbol c := by
  have apart : symbols.all fun c => !isBlank c := by decide
  intro symbol
  have member : c ∈ symbols := by simpa [isSymbol] using symbol
  simpa [blank] using List.all_eq_true.1 apart c member

theorem Token.scan_append_of_blank {gap : List Char} (blank : ∀ c ∈ gap, isBlank c) (start : Nat)
    (text : List Char) : scan start [] (gap ++ text) = scan (start + byteLength gap) [] text := by
  induction gap generalizing start with
  | nil => rfl
  | cons c rest ih =>
    obtain ⟨first, others⟩ := List.forall_mem_cons.1 blank
    rw [List.cons_append, scan, if_neg (not_isSymbol_of_isBlank first), if_pos first, ih others]
    simp [wordEndingAt, Nat.add_assoc]

theorem Token.wordEndingAt_first {word : List Char} {c : Char} (first : word.getLast? = some c)
    (stop : Nat) : ∃ token, wordEndingAt stop word = [token] ∧ token.text.toList.head? = some c := by
  cases word with
  | nil => cases first
  | cons d word =>
    refine ⟨endingAt stop (d :: word).reverse, rfl, ?_⟩
    rw [endingAt, String.toList_ofList, List.head?_reverse, first]

theorem Token.scan_first {word : List Char} {c : Char} (first : word.getLast? = some c)
    (start : Nat) (text : List Char) : ∃ token rest, scan start word text = token :: rest ∧
      token.text.toList.head? = some c := by
  -- The word grows at its front, so its first character stays the last one of the list.
  induction text generalizing start word with
  | nil =>
    obtain ⟨token, ended, begins⟩ := wordEndingAt_first first start
    exact ⟨token, [], ended, begins⟩
  | cons d rest ih =>
    obtain ⟨token, ended, begins⟩ := wordEndingAt_first first start
    rw [scan, ended]
    by_cases symbol : isSymbol d
    · rw [if_pos symbol]
      exact ⟨token, _, rfl, begins⟩
    by_cases blank : isBlank d
    · rw [if_neg symbol, if_pos blank]
      exact ⟨token, _, rfl, begins⟩
    · have longer : (d :: word).getLast? = some c := by rw [List.getLast?_cons, first]; rfl
      rw [if_neg symbol, if_neg blank]
      exact ih longer _

theorem Token.scan_ink {c : Char} (ink : ¬isBlank c) (start : Nat) (text : List Char) :
    ∃ token rest, scan start [] (c :: text) = token :: rest ∧ token.text.toList.head? = some c := by
  rw [scan]
  by_cases symbol : isSymbol c
  · rw [if_pos symbol]
    exact ⟨endingAt _ [c], _, rfl, by simp [endingAt]⟩
  · rw [if_neg symbol, if_neg ink]
    exact scan_first rfl _ text

theorem Text.not_isBlank_of_trim {text rest : List Char} {c : Char} (trimmed : trim text = c :: rest) :
    ¬isBlank c := by
  have stopped := List.head?_dropWhile_not isBlank (trimEnd text)
  rw [show (trimEnd text).dropWhile isBlank = c :: rest from trimmed] at stopped
  simpa using stopped

theorem Command.ofLine_eq (resolver : Resolver) (line : String) :
    ofLine resolver line =
      match (tokenize line).head?.map Token.text with
      | none => ⟨.nothing, []⟩
      | some first =>
        if first = "#" then ⟨.nothing, [⟨trimmedSpan line.toList, .comment⟩]⟩
        else ofTokens resolver (tokenize line) := by
  obtain ⟨gap, tail, split, before, after, -⟩ := Text.trim_split line.toList
  have passed : tokenize line = Token.scan (byteLength gap) [] (Text.trim line.toList ++ tail) := by
    conv_lhs => rw [tokenize, split, Token.scan_append_of_blank before, Nat.zero_add]
  rw [ofLine]
  split
  next blank =>
    have none : tokenize line = [] := by
      rw [passed, blank, List.nil_append, ← List.append_nil tail, Token.scan_append_of_blank after]
      rfl
    rw [none]
    rfl
  next rest ink =>
    have first : ∃ token others, tokenize line = token :: others ∧ token.text = "#" := by
      rw [passed, ink]
      exact ⟨Token.endingAt _ ['#'], _, rfl, rfl⟩
    obtain ⟨token, others, whole, sign⟩ := first
    rw [whole]
    simp [sign]
  next noBlank noSign =>
    cases ink : Text.trim line.toList with
    | nil => exact absurd ink noBlank
    | cons c rest =>
      have first := Token.scan_ink (Text.not_isBlank_of_trim ink) (byteLength gap) (rest ++ tail)
      rw [← List.cons_append, ← ink, ← passed] at first
      obtain ⟨token, others, whole, begins⟩ := first
      have other : token.text ≠ "#" := by
        intro sign
        obtain rfl : '#' = c := by simpa [sign] using begins
        exact noSign rest ink
      rw [whole]
      simp [other]

theorem Motion.map_shade_blocks (motion : Motion) (blocks : List Block) :
    (blocks.map motion.block).map Block.shade = blocks.map Block.shade := by
  simp [Motion.block, Function.comp_def]

theorem Command.ofLine_of_sameTexts (resolver : Resolver) (a b : String)
    (same : (tokenize a).map Token.text = (tokenize b).map Token.text) :
    (ofLine resolver a).action = (ofLine resolver b).action ∧
      (ofLine resolver a).blocks.map Block.shade = (ofLine resolver b).blocks.map Block.shade := by
  have head : (tokenize a).head?.map Token.text = (tokenize b).head?.map Token.text := by
    rw [← List.head?_map, ← List.head?_map, same]
  rw [ofLine_eq, ofLine_eq, head]
  split
  next => exact ⟨rfl, rfl⟩
  next _ first _ =>
    by_cases sign : first = "#"
    · rw [if_pos sign, if_pos sign]
      exact ⟨rfl, rfl⟩
    -- Only lines that are read by the rules have anything to move.
    · rw [if_neg sign, if_neg sign]
      obtain ⟨motion, moved, keeps⟩ :=
        (spread_tokenize a).exists_motion (spread_tokenize b) same
      rw [← moved, ofTokens_map resolver keeps]
      exact ⟨rfl, (motion.map_shade_blocks _).symm⟩

theorem Command.ofLine_of_spaced_apples :
    (tokenize "get 2 apple[life=3]").map Token.text =
        (tokenize "  get 2\tapple [ life = 3 ] ").map Token.text ∧
      (ofLine .anything "get 2 apple[life=3]").action =
        (ofLine .anything "  get 2\tapple [ life = 3 ] ").action ∧
      (ofLine .anything "get 2 apple[life=3]").blocks.map Block.shade =
        (ofLine .anything "  get 2\tapple [ life = 3 ] ").blocks.map Block.shade := by
  have same : (tokenize "get 2 apple[life=3]").map Token.text =
      (tokenize "  get 2\tapple [ life = 3 ] ").map Token.text := by decide
  exact ⟨same, ofLine_of_sameTexts .anything _ _ same⟩

end Lines

end Inventory
