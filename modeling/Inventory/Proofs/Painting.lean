import Inventory.Proofs.Tokens

set_option autoImplicit false

namespace Inventory

open Text (byteLength)

theorem Text.append_of_splitBytes? {text front rest : List Char} {n : Nat}
    (split : splitBytes? text n = some (front, rest)) :
    text = front ++ rest ∧ byteLength front = n := by
  induction text generalizing n front with
  | nil =>
    cases n with
    | zero =>
      cases split
      exact ⟨rfl, rfl⟩
    | succ n => cases split
  | cons c text ih =>
    cases n with
    | zero =>
      cases split
      exact ⟨rfl, rfl⟩
    | succ n =>
      rw [splitBytes?] at split
      split at split
      next fits =>
        obtain ⟨⟨inside, _⟩, later, same⟩ := Option.map_eq_some_iff.1 split
        cases same
        have whole := ih later
        have size : byteLength (c :: inside) = n + 1 := by
          rw [Text.byteLength_cons, whole.2]
          omega
        exact ⟨congrArg (c :: ·) whole.1, size⟩
      next => cases split

theorem Span.slice?_eq_some_iff {span : Span} {line inside : List Char} :
    span.slice? line = some inside ↔ ∃ before after, line = before ++ (inside ++ after) ∧
      span = ⟨byteLength before, byteLength before + byteLength inside⟩ := by
  constructor
  next =>
    intro sliced
    cases span with
    | mk start stop =>
      rw [slice?] at sliced
      split at sliced
      next ordered =>
        obtain ⟨⟨text, after⟩, cut, same⟩ := Option.map_eq_some_iff.1 sliced
        obtain ⟨⟨before, rest⟩, opened, closed⟩ := Option.bind_eq_some_iff.1 cut
        cases same
        have front : line = before ++ rest ∧ byteLength before = start :=
          Text.append_of_splitBytes? opened
        have back : rest = text ++ after ∧ byteLength text = stop - start :=
          Text.append_of_splitBytes? closed
        have ordered : start ≤ stop := ordered
        have length : byteLength before + byteLength text = stop := by
          rw [front.2, back.2, Nat.add_sub_cancel' ordered]
        exact ⟨before, after, by rw [front.1, back.1], by rw [length, front.2]⟩
      next => cases sliced
  next =>
    rintro ⟨before, after, rfl, rfl⟩
    exact Span.slice?_append before inside after

namespace Paint

/-- A text that starts at a byte, and what it becomes when blocks are painted. Each of them gets its
color in front and a reset behind, and has its place after the block before it. -/
inductive Painted : Nat → List Char → List Block → List Char → Prop
  | plain (start : Nat) (text : List Char) : Painted start text [] text
  | block (start : Nat) (gap inside : List Char) (shade : Shade) {text painted : List Char}
      {blocks : List Block}
      (later : Painted (start + byteLength gap + byteLength inside) text blocks painted) :
      Painted start (gap ++ (inside ++ text))
        (⟨⟨start + byteLength gap, start + byteLength gap + byteLength inside⟩, shade⟩ :: blocks)
        (gap ++ (shade.color.toList ++ (inside ++ (reset.toList ++ painted))))

variable {start : Nat} {line text painted : List Char} {blocks : List Block}

theorem Painted.bounds (painting : Painted start text blocks painted) :
    ∀ block ∈ blocks, start ≤ block.span.start ∧ block.span.start ≤ block.span.stop := by
  induction painting with
  | plain => exact List.forall_mem_nil _
  | block start gap inside shade _ ih =>
    refine List.forall_mem_cons.2 ⟨⟨Nat.le_add_right _ _, Nat.le_add_right _ _⟩, ?_⟩
    intro block member
    have bounds := ih block member
    omega

theorem Painted.apart (painting : Painted start text blocks painted) :
    blocks.Pairwise fun a b => a.span.stop ≤ b.span.start := by
  induction painting with
  | plain => exact .nil
  | block _ _ _ _ later ih =>
    exact .cons (fun block member => (later.bounds block member).1) ih

/-- The blocks that are painted from a byte on: those that have a text in the line and start no earlier
than the last one of them ends. -/
def shownFrom (line : List Char) (done : Nat) : List Block → List Block
  | [] => []
  | block :: rest =>
    if done ≤ block.span.start ∧ (block.span.slice? line).isSome then
      block :: shownFrom line block.span.stop rest
    else shownFrom line done rest

theorem shownFrom_sublist (line : List Char) (done : Nat) (blocks : List Block) :
    (shownFrom line done blocks).Sublist blocks := by
  induction blocks generalizing done with
  | nil => exact .slnil
  | cons block rest ih =>
    rw [shownFrom]
    split
    next => exact (ih _).cons_cons block
    next => exact (ih done).cons block

theorem painted_paintFrom (front text : List Char) (blocks : List Block) :
    Painted (byteLength front) text (shownFrom (front ++ text) (byteLength front) blocks)
      (paintFrom (front ++ text) (byteLength front) blocks) := by
  -- What is painted already is the front of the line; a block that is skipped leaves it as it is.
  induction blocks generalizing front text with
  | nil =>
    have rest : (Span.mk (byteLength front) (byteLength (front ++ text))).slice? (front ++ text) =
        some text := by
      have sliced := Span.slice?_append front text []
      rwa [List.append_nil, ← Text.byteLength_append] at sliced
    rw [paintFrom, rest]
    exact .plain _ _
  | cons block blocks ih =>
    rw [paintFrom, shownFrom]
    by_cases early : block.span.start < byteLength front
    next =>
      rw [if_pos early, if_neg fun fits => Nat.not_le.2 early fits.1]
      exact ih front text
    next =>
      rw [if_neg early]
      cases sliced : block.span.slice? (front ++ text) with
      | none =>
        rw [if_neg fun fits => by simp at fits]
        cases (Span.mk (byteLength front) block.span.start).slice? (front ++ text) <;>
          exact ih front text
      | some inside =>
        rw [if_pos ⟨Nat.not_lt.1 early, rfl⟩]
        obtain ⟨before, after, split, place⟩ := Span.slice?_eq_some_iff.1 sliced
        rw [place] at early
        obtain ⟨gap, rfl, rfl⟩ := Text.append_of_byteLength_le split (Nat.not_lt.1 early)
        have gap_sliced := Span.slice?_append front gap (inside ++ after)
        have later := ih (front ++ (gap ++ inside)) after
        cases block with
        | mk span shade =>
          cases place
          simp only [Text.byteLength_append, ← Nat.add_assoc, List.append_assoc] at later ⊢
          rw [gap_sliced]
          exact .block _ _ _ _ later

theorem shownFrom_of_apart {done : Nat} (fits : ∀ block ∈ blocks, (block.span.slice? line).isSome)
    (later : ∀ block ∈ blocks, done ≤ block.span.start)
    (apart : blocks.Pairwise fun a b => a.span.stop ≤ b.span.start) :
    shownFrom line done blocks = blocks := by
  induction blocks generalizing done with
  | nil => rfl
  | cons block rest ih =>
    obtain ⟨first, others⟩ := List.forall_mem_cons.1 fits
    obtain ⟨behind, apart⟩ := List.pairwise_cons.1 apart
    rw [shownFrom, if_pos ⟨later block List.mem_cons_self, first⟩, ih others behind apart]

theorem shownFrom_of_partition (partition : Block.Partition line blocks) :
    shownFrom line 0 blocks = blocks := by
  apply shownFrom_of_apart _ (fun _ _ => Nat.zero_le _) partition.apart
  intro block member
  obtain ⟨before, inside, after, split, place⟩ := partition.placed block member
  rw [Text.byteLength_append] at place
  exact Option.isSome_iff_exists.2 ⟨inside, Span.slice?_eq_some_iff.2 ⟨before, after, split, place⟩⟩

theorem painting_keeps_text (line : String) :
    (∀ blocks, (shownFrom line.toList 0 blocks).Sublist blocks ∧
      (shownFrom line.toList 0 blocks).Pairwise (fun a b => a.span.stop ≤ b.span.start) ∧
      Painted 0 line.toList (shownFrom line.toList 0 blocks) (paint line blocks).toList) ∧
    ∀ resolver, Painted 0 line.toList (Command.ofLine resolver line).blocks
      (paint line (Command.ofLine resolver line).blocks).toList := by
  have painting (blocks : List Block) :
      Painted 0 line.toList (shownFrom line.toList 0 blocks) (paint line blocks).toList := by
    rw [paint, String.toList_ofList]
    exact painted_paintFrom [] line.toList blocks
  refine ⟨fun blocks => ⟨shownFrom_sublist .., (painting blocks).apart, painting blocks⟩, ?_⟩
  intro resolver
  have whole := painting (Command.ofLine resolver line).blocks
  rwa [shownFrom_of_partition (Command.spread_ofLine resolver line).partition] at whole

example : paint "get 2 x" [⟨⟨0, 3⟩, .command⟩, ⟨⟨1, 2⟩, .unknown⟩, ⟨⟨4, 5⟩, .amount⟩] =
    "\x1b[1;32mget\x1b[0m \x1b[35m2\x1b[0m x" := by
  decide

end Paint

end Inventory
