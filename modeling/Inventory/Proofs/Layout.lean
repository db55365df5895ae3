import Inventory.Script.Token

set_option autoImplicit false

namespace Inventory

theorem append_eq_append_cons {α : Type} {a b before after : List α} {x : α}
    (whole : a ++ b = before ++ x :: after) :
    (∃ rest, a = before ++ x :: rest ∧ after = rest ++ b) ∨
      ∃ rest, before = a ++ rest ∧ b = rest ++ x :: after := by
  rcases List.append_eq_append_iff.1 whole with second | ⟨rest, rfl, tail⟩
  · exact .inr second
  · cases rest with
    | nil => exact .inr ⟨[], by simp, tail.symm⟩
    | cons y rest =>
      obtain ⟨rfl, rfl⟩ := List.cons.inj tail
      exact .inl ⟨rest, rfl, rfl⟩

namespace Text

@[simp] theorem byteLength_nil : byteLength [] = 0 := rfl

@[simp] theorem byteLength_cons (c : Char) (text : List Char) :
    byteLength (c :: text) = c.utf8Size + byteLength text := rfl

theorem byteLength_append (a b : List Char) : byteLength (a ++ b) = byteLength a + byteLength b := by
  induction a with
  | nil => simp
  | cons c rest ih => simp [ih, Nat.add_assoc]

theorem byteLength_reverse (text : List Char) : byteLength text.reverse = byteLength text := by
  induction text with
  | nil => rfl
  | cons c rest ih => simp [byteLength_append, ih, Nat.add_comm]

theorem byteLength_pos {text : List Char} (some : text ≠ []) : 0 < byteLength text := by
  cases text with
  | nil => exact absurd rfl some
  | cons c rest =>
    have := c.utf8Size_pos
    simp only [byteLength_cons]
    omega

end Text

open Text (byteLength isBlank byteLength_append byteLength_cons)

/-- Spans over a text that starts at a byte. They hold characters, each of them whole, and leave out
nothing but blanks. -/
inductive Spread : Nat → List Char → List Span → Prop
  | nil {start : Nat} {text : List Char} (blank : ∀ c ∈ text, isBlank c) : Spread start text []
  | cons {start : Nat} {gap inside text : List Char} {spans : List Span}
      (blank : ∀ c ∈ gap, isBlank c) (some : inside ≠ [])
      (rest : Spread (start + byteLength gap + byteLength inside) text spans) :
      Spread start (gap ++ (inside ++ text))
        (⟨start + byteLength gap, start + byteLength gap + byteLength inside⟩ :: spans)

namespace Spread

variable {start : Nat} {text : List Char} {spans : List Span}

theorem join {first second : Span} (spread : Spread start text (first :: second :: spans)) :
    Spread start text (first.through second :: spans) := by
  cases spread with
  | @cons _ gap inside text _ blank some rest =>
    cases rest with
    | @cons _ gap' inside' text _ _ _ rest =>
      have whole : start + byteLength gap + byteLength inside + byteLength gap' + byteLength inside' =
          start + byteLength gap + byteLength (inside ++ (gap' ++ inside')) := by
        simp only [byteLength_append]
        omega
      rw [whole] at rest
      have joined := cons blank (by simp [some]) rest
      simpa [Span.through, whole] using joined

theorem cover {group : List Span} {whole : Span} (covering : Span.covering? group = some whole)
    (spread : Spread start text (group ++ spans)) : Spread start text (whole :: spans) := by
  cases group with
  | nil => cases covering
  | cons first more =>
    induction more generalizing first with
    | nil =>
      obtain rfl : first = whole := by simpa [Span.covering?, Span.through] using covering
      exact spread
    | cons second more ih =>
      refine ih (first.through second) ?_ spread.join
      rw [← covering]
      cases more <;> rfl

theorem cover_groups {groups : List (List Span)}
    (covering : groups.map Span.covering? = spans.map some)
    (spread : Spread start text groups.flatten) : Spread start text spans := by
  induction groups generalizing start text spans with
  | nil =>
    obtain rfl : spans = [] := by simpa using covering.symm
    exact spread
  | cons group groups ih =>
    cases spans with
    | nil => cases covering
    | cons whole spans =>
      obtain ⟨first, others⟩ := List.cons.inj covering
      cases spread.cover first with
      | cons blank some rest => exact .cons blank some (ih others rest)

theorem start_le (spread : Spread start text spans) {span : Span} (member : span ∈ spans) :
    start ≤ span.start := by
  induction spread with
  | nil => cases member
  | cons _ _ _ ih =>
    rcases List.mem_cons.1 member with rfl | member
    · exact Nat.le_add_right ..
    · have := ih member
      omega

theorem filled (spread : Spread start text spans) {span : Span} (member : span ∈ spans) :
    span.start < span.stop := by
  induction spread with
  | nil => cases member
  | cons _ some _ ih =>
    rcases List.mem_cons.1 member with rfl | member
    · have := Text.byteLength_pos some
      dsimp only
      omega
    · exact ih member

theorem apart (spread : Spread start text spans) :
    spans.Pairwise fun a b => a.stop ≤ b.start := by
  induction spread with
  | nil => exact .nil
  | cons _ _ rest ih => exact .cons (fun _ member => rest.start_le member) ih

theorem sorted (spread : Spread start text spans) :
    spans.Pairwise fun a b => a.start < b.start :=
  spread.apart.imp_of_mem fun first _ order => Nat.lt_of_lt_of_le (spread.filled first) order

theorem placed (spread : Spread start text spans) {span : Span} (member : span ∈ spans) :
    ∃ before inside after, text = before ++ (inside ++ after) ∧
      span = ⟨start + byteLength before, start + byteLength (before ++ inside)⟩ := by
  induction spread with
  | nil => cases member
  | @cons start gap inside text spans _ _ rest ih =>
    rcases List.mem_cons.1 member with rfl | member
    · exact ⟨gap, inside, text, rfl, by simp [byteLength_append, Nat.add_assoc]⟩
    · obtain ⟨before, inside', after, rfl, rfl⟩ := ih member
      refine ⟨gap ++ (inside ++ before), inside', after, by simp, ?_⟩
      simp [byteLength_append, Nat.add_assoc]

end Spread

def Span.Holds (span : Span) (start : Nat) (c : Char) : Prop :=
  span.start ≤ start ∧ start + c.utf8Size ≤ span.stop

instance (span : Span) (start : Nat) (c : Char) : Decidable (span.Holds start c) :=
  inferInstanceAs (Decidable (_ ∧ _))

theorem Spread.once {start : Nat} {text : List Char} {spans : List Span}
    (spread : Spread start text spans) {before after : List Char} {c : Char}
    (split : text = before ++ c :: after) (ink : ¬isBlank c) :
    spans.countP (fun span => span.Holds (start + byteLength before) c) = 1 := by
  induction spread generalizing before with
  | nil blank => exact absurd (blank c (by simp [split])) ink
  | @cons start gap inside text spans blank some rest ih =>
    have size := c.utf8Size_pos
    -- In the gap the character would be blank, so it is in the first span or after that.
    rcases append_eq_append_cons split with ⟨_, rfl, _⟩ | ⟨later, rfl, inside_split⟩
    next => exact absurd (blank c (by simp)) ink
    next =>
      rcases append_eq_append_cons inside_split with ⟨inner, rfl, _⟩ | ⟨later, rfl, text_split⟩
      next =>
        have none : spans.countP (fun span => span.Holds (start + byteLength (gap ++ later)) c) = 0 := by
          refine List.countP_eq_zero.2 fun span member => ?_
          have := rest.start_le member
          simp only [Span.Holds, decide_eq_true_eq, byteLength_append, byteLength_cons] at *
          omega
        rw [List.countP_cons_of_pos, none]
        simp only [Span.Holds, decide_eq_true_eq, byteLength_append, byteLength_cons]
        omega
      next =>
        have length : start + byteLength (gap ++ (inside ++ later)) =
            start + byteLength gap + byteLength inside + byteLength later := by
          simp only [byteLength_append]
          omega
        rw [length, List.countP_cons_of_neg, ih text_split]
        rw [decide_eq_true_eq, Span.Holds]
        dsimp only
        omega

inductive Token.Stands (line : List Char) : List Char → Prop
  | symbol {c : Char} (symbol : isSymbol c) : Stands line [c]
  | word {word : List Char} (filled : word ≠ []) (plain : ∀ c ∈ word, ¬isBlank c ∧ ¬isSymbol c)
    (apart : ∀ c ∈ line.head?, isBlank c ∨ isSymbol c) : Stands line word

theorem Token.Stands.ne_nil {line text : List Char} (stands : Stands line text) : text ≠ [] := by
  cases stands with
  | symbol => simp
  | word filled => exact filled

/-- A line that starts at a byte, with these tokens. Blanks may be anywhere between them. -/
inductive Laid : Nat → List Char → List Token → Prop
  | nil {start : Nat} {gap : List Char} (blank : ∀ c ∈ gap, isBlank c) : Laid start gap []
  | cons {start : Nat} {gap inside line : List Char} {tokens : List Token}
      (blank : ∀ c ∈ gap, isBlank c) (stands : Token.Stands line inside)
      (rest : Laid (start + byteLength gap + byteLength inside) line tokens) :
      Laid start (gap ++ (inside ++ line)) (⟨String.ofList inside,
        ⟨start + byteLength gap, start + byteLength gap + byteLength inside⟩⟩ :: tokens)

namespace Laid

variable {start : Nat} {line : List Char} {tokens : List Token}

theorem after_blank {c : Char} (space : isBlank c) (laid : Laid (start + c.utf8Size) line tokens) :
    Laid start (c :: line) tokens := by
  cases laid with
  | nil blank => exact .nil (List.forall_mem_cons.2 ⟨space, blank⟩)
  | @cons _ gap inside line tokens blank stands rest =>
    have first : start + c.utf8Size + byteLength gap = start + byteLength (c :: gap) :=
      Nat.add_assoc ..
    rw [first] at rest ⊢
    exact .cons (List.forall_mem_cons.2 ⟨space, blank⟩) stands rest

theorem spread (laid : Laid start line tokens) : Spread start line (tokens.map Token.span) := by
  induction laid with
  | nil blank => exact .nil blank
  | cons blank stands _ ih => exact .cons blank stands.ne_nil ih

end Laid

namespace Token

theorem laid_word {word line : List Char} (plain : ∀ c ∈ word, ¬isBlank c ∧ ¬isSymbol c)
    (apart : ∀ c ∈ line.head?, isBlank c ∨ isSymbol c) {start : Nat} {tokens : List Token}
    (rest : Laid (start + byteLength word) line tokens) :
    Laid start (word.reverse ++ line)
      (wordEndingAt (start + byteLength word) word ++ tokens) := by
  cases word with
  | nil => exact rest
  | cons c word =>
    rw [← Text.byteLength_reverse] at rest ⊢
    have stands : Stands line (c :: word).reverse :=
      .word (by simp) (fun d member => plain d (List.mem_reverse.1 member)) apart
    have only : Laid start ([] ++ ((c :: word).reverse ++ line)) _ := .cons (by simp) stands rest
    simpa [wordEndingAt, endingAt] using only

theorem laid_scan {word : List Char} (plain : ∀ c ∈ word, ¬isBlank c ∧ ¬isSymbol c)
    (start : Nat) (line : List Char) :
    Laid start (word.reverse ++ line) (scan (start + byteLength word) word line) := by
  -- What has been read of a word comes back to the front of the line.
  induction line generalizing start word with
  | nil =>
    have none : Laid (start + byteLength word) [] [] := .nil (by simp)
    simpa [scan] using laid_word plain (by simp) none
  | cons c rest ih =>
    have none : ∀ c ∈ ([] : List Char), ¬isBlank c ∧ ¬isSymbol c := by simp
    have later := ih none (start + byteLength word + c.utf8Size)
    rw [scan]
    split
    -- A symbol ends the word before it, and is a token with no gap in front.
    next symbol =>
      have alone : Laid (start + byteLength word) ([] ++ ([c] ++ rest)) _ :=
        .cons (by simp) (.symbol symbol) later
      exact laid_word plain (by simp [symbol]) (by simpa [endingAt] using alone)
    next noSymbol =>
      split
      -- A blank ends the word, too, and goes to the gap of the next token.
      next blank => exact laid_word plain (by simp [blank]) (later.after_blank blank)
      next noBlank =>
        have longer := ih (List.forall_mem_cons.2 ⟨⟨noBlank, noSymbol⟩, plain⟩) start
        simpa [Nat.add_assoc, Nat.add_comm c.utf8Size] using longer

end Token

theorem laid_tokenize (line : String) : Laid 0 line.toList (tokenize line) :=
  Token.laid_scan (List.forall_mem_nil _) 0 line.toList

theorem spread_tokenize (line : String) :
    Spread 0 line.toList ((tokenize line).map Token.span) :=
  (laid_tokenize line).spread

end Inventory
