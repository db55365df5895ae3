import Inventory.Proofs.Writing

set_option autoImplicit false

namespace Inventory

open Text (byteLength isBlank)

theorem Token.Stands.cut {line shorter text : List Char} (stands : Stands line text)
    (same : ∀ c ∈ shorter.head?, c ∈ line.head?) : Stands shorter text := by
  cases stands with
  | symbol symbol => exact .symbol symbol
  | word filled plain apart => exact .word filled plain fun c first => apart c (same c first)

theorem Laid.cut {start : Nat} {line : List Char} {before after : List Token} {token : Token}
    (laid : Laid start line (before ++ token :: after)) :
    ∃ piece rest, line = piece ++ (token.text.toList ++ rest) ∧ Laid start piece before ∧
      token.span = ⟨start + byteLength piece,
        start + byteLength piece + byteLength token.text.toList⟩ ∧
      Laid token.span.stop rest after := by
  induction before generalizing start line with
  | nil =>
    cases laid with
    | @cons _ gap inside rest _ blank _ laid =>
      -- The blanks in front of the token stay with the first part.
      exact ⟨gap, rest, by simp, .nil blank, by simp, laid⟩
  | cons first before ih =>
    cases laid with
    | @cons _ gap inside rest _ blank stands laid =>
      obtain ⟨piece, later, rfl, begins, place, ends⟩ := ih laid
      have shorter : Token.Stands piece inside := by
        apply stands.cut
        intro c first
        rw [List.head?_append, first]
        rfl
      refine ⟨gap ++ (inside ++ piece), later, by simp, .cons blank shorter begins, ?_, ends⟩
      rw [place]
      simp [Text.byteLength_append, Nat.add_assoc]

theorem Text.splitBytes?_append (text rest : List Char) :
    splitBytes? (text ++ rest) (byteLength text) = some (text, rest) := by
  induction text with
  | nil => simp [splitBytes?]
  | cons c text ih =>
    have size := c.utf8Size_pos
    obtain ⟨n, length⟩ : ∃ n, c.utf8Size + byteLength text = n + 1 :=
      ⟨c.utf8Size + byteLength text - 1, by omega⟩
    have left : n + 1 - c.utf8Size = byteLength text := by omega
    rw [Text.byteLength_cons, length, List.cons_append, splitBytes?, if_pos (by omega), left, ih]
    rfl

theorem Span.slice?_append (before inside after : List Char) :
    Span.slice? ⟨byteLength before, byteLength before + byteLength inside⟩
      (before ++ (inside ++ after)) = some inside := by
  rw [Span.slice?, if_pos (Nat.le_add_right _ _), Text.splitBytes?_append, Option.bind_some,
    Nat.add_sub_cancel_left, Text.splitBytes?_append]
  rfl

theorem Laid.slice? {line : List Char} {before between after : List Token} {first last : Token}
    (laid : Laid 0 line (before ++ first :: (between ++ last :: after))) :
    ∃ content start, Laid start content between ∧
      (first.span.through last.span).slice? line =
        some (first.text.toList ++ (content ++ last.text.toList)) := by
  obtain ⟨head, rest, rfl, -, firstPlace, laid⟩ := laid.cut
  obtain ⟨content, tail, rfl, between, lastPlace, -⟩ := laid.cut
  refine ⟨content, _, between, ?_⟩
  have whole : first.span.through last.span = ⟨byteLength head,
      byteLength head + byteLength (first.text.toList ++ (content ++ last.text.toList))⟩ := by
    rw [Span.through, lastPlace, firstPlace]
    simp [Text.byteLength_append, Nat.add_assoc]
  have slice := Span.slice?_append head (first.text.toList ++ (content ++ last.text.toList)) tail
  rw [whole]
  simpa using slice

namespace Text

structure Inked (text : List Char) : Prop where
  filled : text ≠ []
  first : ∀ c ∈ text.head?, ¬isBlank c
  last : ∀ c ∈ text.getLast?, ¬isBlank c

theorem inked_of_forall {text : List Char} (filled : text ≠ []) (ink : ∀ c ∈ text, ¬isBlank c) :
    Inked text :=
  ⟨filled, fun c first => ink c (List.mem_of_mem_head? first),
    fun c last => ink c (List.mem_of_mem_getLast? last)⟩

theorem inked_singleton {c : Char} (ink : ¬isBlank c) : Inked [c] :=
  inked_of_forall (List.cons_ne_nil _ _) (by simpa using ink)

theorem Inked.append {a b : List Char} (one : Inked a) (other : Inked b) (between : List Char) :
    Inked (a ++ (between ++ b)) where
  filled := by simp [one.filled]
  first := by
    rw [List.head?_append_of_ne_nil _ one.filled]
    exact one.first
  last := by
    rw [← List.append_assoc, List.getLast?_append_of_ne_nil _ other.filled]
    exact other.last

theorem dropWhile_isBlank {text : List Char} (first : ∀ c ∈ text.head?, ¬isBlank c) :
    text.dropWhile isBlank = text := by
  cases text with
  | nil => rfl
  | cons c rest => rw [List.dropWhile_cons_of_neg (first c rfl)]

theorem trim_eq {line gap text tail : List Char} (split : line = gap ++ (text ++ tail))
    (before : ∀ c ∈ gap, isBlank c) (after : ∀ c ∈ tail, isBlank c) (inked : Inked text) :
    trim line = text := by
  have turned : line.reverse = tail.reverse ++ (text.reverse ++ gap.reverse) := by simp [split]
  have passes : ∀ c ∈ tail.reverse, isBlank c := fun c inside => after c (List.mem_reverse.1 inside)
  have stops : ∀ c ∈ (text.reverse ++ gap.reverse).head?, ¬isBlank c := by
    rw [List.head?_append_of_ne_nil _ (by simpa using inked.filled), List.head?_reverse]
    exact inked.last
  have ending : trimEnd line = gap ++ text := by
    rw [trimEnd, turned, List.dropWhile_append_of_pos passes, dropWhile_isBlank stops]
    simp
  rw [trim, ending, trimStart, List.dropWhile_append_of_pos before, dropWhile_isBlank inked.first]

end Text

namespace Spaced

variable {texts : List String} {line : List Char}

theorem cut (before : List String) {after : List String} {text : String}
    (spaced : Spaced (before ++ text :: after) line) :
    ∃ piece rest, line = piece ++ (text.toList ++ rest) ∧ Spaced before piece ∧
      Spaced after rest := by
  have texts : (tokenize (String.ofList line)).map Token.text = before ++ text :: after :=
    spaced_iff.1 (by simpa using spaced)
  obtain ⟨first, others, tokens, rfl, more⟩ := List.map_eq_append_iff.1 texts
  obtain ⟨token, last, rfl, rfl, rfl⟩ := List.map_eq_cons_iff.1 more
  have laid := laid_tokenize (String.ofList line)
  rw [tokens, String.toList_ofList] at laid
  obtain ⟨piece, rest, split, begins, -, ends⟩ := laid.cut
  exact ⟨piece, rest, split, begins.spaced, ends.spaced⟩

theorem mem_of_symbol (spaced : Spaced texts line) {c : Char} (symbol : Token.isSymbol c)
    (member : c ∈ line) : String.ofList [c] ∈ texts := by
  have noGap : ∀ {gap : List Char}, (∀ c ∈ gap, isBlank c) → c ∉ gap := fun blank inside =>
    Token.not_isSymbol_of_isBlank (blank c inside) symbol
  induction spaced with
  | nil blank => exact absurd member (noGap blank)
  | symbol blank _ _ ih =>
    simp only [List.mem_append, List.mem_cons, noGap blank, false_or] at member
    obtain rfl | later := member
    next => exact List.mem_cons_self
    next => exact List.mem_cons_of_mem _ (ih later)
  | word blank _ plain _ _ ih =>
    simp only [List.mem_append, noGap blank, false_or] at member
    obtain inside | later := member
    next => exact absurd symbol (plain c inside).2
    next => exact List.mem_cons_of_mem _ (ih later)

theorem single {text : String} (spaced : Spaced [text] line) :
    ∃ gap tail, line = gap ++ (text.toList ++ tail) ∧ (∀ c ∈ gap, isBlank c) ∧
      (∀ c ∈ tail, isBlank c) ∧ Text.Inked text.toList := by
  cases spaced with
  | symbol blank symbol rest =>
    cases rest with
    | nil after =>
      refine ⟨_, _, by simp, blank, after, ?_⟩
      rw [String.toList_ofList]
      exact Text.inked_singleton fun space => Token.not_isSymbol_of_isBlank space symbol
  | word blank filled plain _ rest =>
    cases rest with
    | nil after =>
      refine ⟨_, _, by simp, blank, after, ?_⟩
      rw [String.toList_ofList]
      exact Text.inked_of_forall filled fun c inside => (plain c inside).1

end Spaced

end Inventory
