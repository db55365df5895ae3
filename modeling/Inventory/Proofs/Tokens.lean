import Inventory.Proofs.Slices

set_option autoImplicit false

namespace Inventory

open Text (byteLength isBlank)

theorem Text.append_of_byteLength_le {a b c d : List Char} (same : a ++ b = c ++ d)
    (le : byteLength a ≤ byteLength c) : ∃ gap, c = a ++ gap ∧ b = gap ++ d := by
  rcases List.append_eq_append_iff.1 same with further | ⟨gap, rfl, rfl⟩
  · exact further
  · rw [Text.byteLength_append] at le
    cases gap with
    | nil => exact ⟨[], by simp⟩
    | cons x rest =>
      have := Text.byteLength_pos (List.cons_ne_nil x rest)
      omega

theorem Span.mem_of_holds {before inside after front rest : List Char} {c : Char}
    (split : before ++ (inside ++ after) = front ++ c :: rest)
    (holds : Span.Holds ⟨byteLength before, byteLength before + byteLength inside⟩
      (byteLength front) c) : c ∈ inside := by
  obtain ⟨starts, stops⟩ := holds
  have size := c.utf8Size_pos
  obtain ⟨gap, rfl, tail⟩ := Text.append_of_byteLength_le split starts
  rcases append_eq_append_cons tail with ⟨last, rfl, -⟩ | ⟨last, rfl, -⟩
  next => simp
  next =>
    simp only [Text.byteLength_append] at stops
    omega

namespace Token

/-- A text between two others that is a symbol, or a word that cannot be longer on either side. -/
inductive Alone (before after : List Char) : List Char → Prop
  | symbol {c : Char} (symbol : isSymbol c) : Alone before after [c]
  | word {word : List Char} (plain : ∀ c ∈ word, ¬isBlank c ∧ ¬isSymbol c)
    (opens : ∀ c ∈ before.getLast?, isBlank c ∨ isSymbol c)
    (closes : ∀ c ∈ after.head?, isBlank c ∨ isSymbol c) : Alone before after word

structure Placed (line : List Char) (token : Token) : Prop where
  filled : token.span.start < token.span.stop
  alone : ∃ before after, line = before ++ (token.text.toList ++ after) ∧
    token.span = ⟨byteLength before, byteLength before + byteLength token.text.toList⟩ ∧
    Alone before after token.text.toList

structure Exact (line : String) (tokens : List Token) : Prop where
  placed : ∀ token ∈ tokens, Placed line.toList token
  text : ∀ token ∈ tokens, token.span.text line = token.text
  increasing : tokens.Pairwise fun a b => a.span.start < b.span.start
  apart : tokens.Pairwise fun a b => a.span.stop ≤ b.span.start
  blank : ∀ before c after, line.toList = before ++ c :: after →
    ((∀ token ∈ tokens, ¬token.span.Holds (byteLength before) c) ↔ isBlank c)

namespace Alone

variable {before after text : List Char}

theorem not_isBlank (alone : Alone before after text) {c : Char} (member : c ∈ text) :
    ¬isBlank c := by
  intro blank
  cases alone with
  | symbol symbol =>
    rw [List.mem_singleton.1 member] at blank
    exact not_isSymbol_of_isBlank blank symbol
  | word plain => exact (plain c member).1 blank

theorem opens (alone : Alone before after text) (noSymbol : ∀ c ∈ text, ¬isSymbol c) :
    ∀ c ∈ before.getLast?, isBlank c ∨ isSymbol c := by
  cases alone with
  | symbol symbol => exact absurd symbol (noSymbol _ List.mem_cons_self)
  | word _ opens => exact opens

theorem stands (alone : Alone before after text) (filled : text ≠ []) : Stands after text := by
  cases alone with
  | symbol symbol => exact .symbol symbol
  | word plain _ closes => exact .word filled plain closes

end Alone

theorem Stands.alone {before after text : List Char} (stands : Stands after text)
    (opens : (∀ c ∈ text, ¬isSymbol c) → ∀ c ∈ before.getLast?, isBlank c ∨ isSymbol c) :
    Alone before after text := by
  cases stands with
  | symbol symbol => exact .symbol symbol
  | word _ plain apart => exact .word plain (opens fun c inside => (plain c inside).2) apart

end Token

section Layout

open Token

variable {start : Nat} {line : List Char} {tokens : List Token}

theorem Laid.placed (laid : Laid start line tokens) {token : Token} (member : token ∈ tokens) :
    ∃ before after, line = before ++ (token.text.toList ++ after) ∧
      token.span = ⟨start + byteLength before,
        start + byteLength before + byteLength token.text.toList⟩ ∧
      token.text.toList ≠ [] ∧ Alone before after token.text.toList := by
  induction laid with
  | nil => cases member
  | @cons start gap inside line tokens blank stands _ ih =>
    rcases List.mem_cons.1 member with rfl | member
    next =>
      refine ⟨gap, line, by simp, by simp, by simpa using stands.ne_nil, ?_⟩
      rw [String.toList_ofList]
      exact stands.alone fun _ c last => .inl (blank c (List.mem_of_mem_getLast? last))
    next =>
      obtain ⟨before, after, rfl, place, filled, alone⟩ := ih member
      refine ⟨gap ++ (inside ++ before), after, by simp, ?_, filled, ?_⟩
      next =>
        rw [place]
        simp [Text.byteLength_append, Nat.add_assoc]
      next =>
        apply (alone.stands filled).alone
        intro noSymbol c last
        rw [List.getLast?_append_of_ne_nil _ (by simp [stands.ne_nil])] at last
        cases before with
        | cons d rest =>
          rw [List.getLast?_append_of_ne_nil _ (List.cons_ne_nil d rest)] at last
          exact alone.opens noSymbol c last
        | nil =>
          rw [List.append_nil] at last
          cases stands with
          | symbol symbol =>
            obtain rfl : _ = c := by simpa using last
            exact .inr symbol
          | word _ _ apart =>
            -- A word in front would go on with the first character of this one.
            obtain ⟨d, rest, split⟩ := List.exists_cons_of_ne_nil filled
            have first : d ∈ token.text.toList := by simp [split]
            have parts := apart d (by simp [split])
            exact absurd parts (not_or.2 ⟨alone.not_isBlank first, noSymbol d first⟩)

end Layout

namespace Token

theorem scan_of_laid {start : Nat} {line : List Char} {tokens : List Token}
    (laid : Laid start line tokens) : scan start [] line = tokens := by
  induction laid with
  | @nil start gap blank =>
    have passed := scan_append_of_blank blank start []
    rw [List.append_nil] at passed
    simp [passed, scan, wordEndingAt]
  | @cons _ _ inside _ _ blank stands _ ih =>
    rw [scan_append_of_blank blank]
    cases stands with
    | symbol symbol => simpa [scan, symbol, wordEndingAt, endingAt] using ih
    | word filled plain apart =>
      rw [scan_word plain, List.append_nil, scan_apart apart, ih]
      cases reversed : inside.reverse with
      | nil => exact absurd (List.reverse_eq_nil_iff.1 reversed) filled
      | cons c rest => simp [wordEndingAt, endingAt, ← reversed]

theorem Placed.split {passed rest : List Char} {token : Token}
    (placed : Placed (passed ++ rest) token) (later : byteLength passed ≤ token.span.start) :
    ∃ gap after, rest = gap ++ (token.text.toList ++ after) ∧
      token.span = ⟨byteLength passed + byteLength gap,
        byteLength passed + byteLength gap + byteLength token.text.toList⟩ ∧
      Stands after token.text.toList := by
  obtain ⟨filled, before, after, whole, place, alone⟩ := placed
  rw [place] at filled later
  obtain ⟨gap, rfl, tail⟩ := Text.append_of_byteLength_le whole later
  refine ⟨gap, after, tail, by rw [place, Text.byteLength_append], alone.stands fun none => ?_⟩
  simp [none] at filled

theorem laid_of_placed {passed rest : List Char} {tokens : List Token}
    (placed : ∀ token ∈ tokens, Placed (passed ++ rest) token)
    (later : ∀ token ∈ tokens, byteLength passed ≤ token.span.start)
    (apart : tokens.Pairwise fun a b => a.span.stop ≤ b.span.start)
    (blank : ∀ before c after, rest = before ++ c :: after →
      (∀ token ∈ tokens, ¬token.span.Holds (byteLength (passed ++ before)) c) → isBlank c) :
    Laid (byteLength passed) rest tokens := by
  induction tokens generalizing passed rest with
  | nil =>
    refine .nil fun c member => ?_
    obtain ⟨before, after, split⟩ := List.append_of_mem member
    exact blank before c after split (List.forall_mem_nil _)
  | cons token tokens ih =>
    obtain ⟨first, others⟩ := List.forall_mem_cons.1 placed
    obtain ⟨following, apart⟩ := List.pairwise_cons.1 apart
    obtain ⟨gap, after, rfl, place, stands⟩ := first.split (later token List.mem_cons_self)
    have length : byteLength (passed ++ (gap ++ token.text.toList)) = token.span.stop := by
      simp only [place, Text.byteLength_append, Nat.add_assoc]
    -- No token holds what stands before the first one.
    have empty : ∀ c ∈ gap, isBlank c := by
      intro c member
      obtain ⟨front, back, rfl⟩ := List.append_of_mem member
      apply blank front c (back ++ (token.text.toList ++ after)) (by simp)
      intro other inside holds
      have size := c.utf8Size_pos
      have start : token.span.start ≤ other.span.start := by
        rcases List.mem_cons.1 inside with rfl | inside
        · exact Nat.le_refl _
        · exact first.filled.le.trans (following other inside)
      have behind := holds.1
      simp only [place, Text.byteLength_append, Text.byteLength_cons] at start behind
      omega
    have rest : Laid (byteLength (passed ++ (gap ++ token.text.toList))) after tokens := by
      apply ih _ _ apart
      · intro before c last split none
        apply blank (gap ++ (token.text.toList ++ before)) c last (by simp [split])
        intro other inside holds
        rcases List.mem_cons.1 inside with rfl | inside
        · have size := c.utf8Size_pos
          have ends := holds.2
          simp only [place, Text.byteLength_append] at ends
          omega
        · exact none other inside (by simpa using holds)
      · simpa using others
      · exact fun other inside => length ▸ following other inside
    rw [length, place] at rest
    have laid : Laid (byteLength passed) (gap ++ (token.text.toList ++ after)) _ :=
      .cons empty stands rest
    rwa [String.ofList_toList, ← place] at laid

theorem exact_tokenize (line : String) : Exact line (tokenize line) := by
  have laid := laid_tokenize line
  have spread := spread_tokenize line
  have placed {token : Token} (member : token ∈ tokenize line) := laid.placed member
  simp only [Nat.zero_add] at placed
  constructor
  case placed =>
    intro token member
    obtain ⟨before, after, split, place, -, alone⟩ := placed member
    exact ⟨spread.filled (List.mem_map_of_mem member), before, after, split, place, alone⟩
  case text =>
    intro token member
    obtain ⟨before, after, split, place, -⟩ := placed member
    rw [Span.text, split, place, Span.slice?_append, Option.getD_some, String.ofList_toList]
  case increasing => exact (List.pairwise_map (f := Token.span)).1 spread.sorted
  case apart => exact List.pairwise_map.1 spread.apart
  case blank =>
    intro before c after split
    constructor
    · intro none
      by_contra ink
      have once := spread.once split ink
      rw [List.countP_map, Nat.zero_add] at once
      obtain ⟨token, member, holds⟩ := List.countP_pos_iff.1 (once ▸ Nat.one_pos)
      exact none token member (of_decide_eq_true holds)
    · intro blank token member holds
      obtain ⟨front, rest, whole, place, -, alone⟩ := placed member
      rw [place] at holds
      exact alone.not_isBlank (Span.mem_of_holds (whole.symm.trans split) holds) blank

theorem exact_iff (line : String) (tokens : List Token) :
    Exact line tokens ↔ tokens = tokenize line := by
  constructor
  · intro exactly
    have laid : Laid (byteLength []) line.toList tokens :=
      laid_of_placed exactly.placed (fun _ _ => Nat.zero_le _) exactly.apart
        fun before c after split => (exactly.blank before c after split).1
    exact (scan_of_laid laid).symm
  · rintro rfl
    exact exact_tokenize line

end Token

end Inventory
