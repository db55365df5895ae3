import Inventory.Proofs.Partition

set_option autoImplicit false

namespace Inventory

/-- What one resolver finds, the other one finds too. -/
def Resolver.Within (resolver other : Resolver) : Prop :=
  ∀ query stack, resolver query = some stack → other query = some stack

section Keeps

variable {ε α β : Type}

/-- What the first computation gives, the second one gives too. Failures may differ. -/
def Keeps (first second : Except ε α) : Prop := ∀ node, first = .ok node → second = .ok node

theorem Keeps.refl (found : Except ε α) : Keeps found found := fun _ same => same

theorem Keeps.bind {first second : Except ε α} {further others : α → Except ε β}
    (start : Keeps first second) (later : ∀ node, Keeps (further node) (others node)) :
    Keeps (first >>= further) (second >>= others) := by
  intro result found
  cases made : first with
  | error => rw [made] at found; cases found
  | ok node =>
    rw [made] at found
    rw [start node made]
    exact later node result found

theorem Keeps.through {δ : Type} {first second : Except ε α} {step : Except ε α → Except δ β}
    (start : Keeps first second) (strict : ∀ fault result, step (.error fault) ≠ .ok result) :
    Keeps (step first) (step second) := by
  intro result found
  cases made : first with
  | error fault =>
    rw [made] at found
    exact absurd found (strict fault result)
  | ok node => rw [start node made, ← found, made]

theorem Keeps.map {first second : Except ε α} (start : Keeps first second) (f : α → β) :
    Keeps (first.map f) (second.map f) :=
  start.through fun _ _ => nofun

theorem Keeps.alone {first second : Except Complaint α} (start : Keeps first second) :
    Keeps (Sentence.alone first) (Sentence.alone second) :=
  start.through fun _ _ => nofun

theorem Keeps.ite {c : Prop} [Decidable c] {yes no yes' no' : Except ε α} (first : Keeps yes yes')
    (second : Keeps no no') : Keeps (if c then yes else no) (if c then yes' else no') := by
  split
  · exact first
  · exact second

end Keeps

section Meaning

variable {resolver other : Resolver}

namespace ItemPhrase

theorem stack_keeps (within : resolver.Within other) (phrase : ItemPhrase) :
    Keeps (phrase.stack resolver) (phrase.stack other) := by
  intro result found
  unfold stack at found ⊢
  cases known : resolver phrase.query with
  | none => rw [known] at found; cases found
  | some item =>
    rw [known] at found
    rw [within _ _ known]
    exact found

theorem lot_keeps (within : resolver.Within other) (phrase : ItemPhrase) :
    Keeps (phrase.lot resolver) (phrase.lot other) :=
  .ite (.refl _) <| (Keeps.refl _).bind fun _ => (phrase.stack_keeps within).bind fun _ => .refl _

theorem withdrawal_keeps (within : resolver.Within other) (phrase : ItemPhrase) :
    Keeps (phrase.withdrawal resolver) (phrase.withdrawal other) := by
  have rest (amount : Amount) :
      Keeps (phrase.stack resolver >>= fun stack => pure (⟨stack, amount⟩ : Withdrawal))
        (phrase.stack other >>= fun stack => pure ⟨stack, amount⟩) :=
    (phrase.stack_keeps within).bind fun _ => .refl _
  exact .ite ((Keeps.refl _).bind rest) ((Keeps.refl _).bind rest)

theorem resolveAll_keeps {α : Type} {resolve others : ItemPhrase → Except Complaint α}
    (keeps : ∀ phrase, Keeps (resolve phrase) (others phrase)) (items : List ItemPhrase) :
    Keeps (resolveAll resolve items) (resolveAll others items) := by
  induction items with
  | nil => exact .refl _
  | cons phrase rest ih =>
    intro result found
    rw [resolveAll] at found ⊢
    split at found
    next node nodes one more => rw [keeps phrase node one, ih nodes more, ← found]
    all_goals cases found

end ItemPhrase

theorem Sentence.lots_keeps (within : resolver.Within other) (items : List ItemPhrase) :
    Keeps (lots resolver items) (lots other items) :=
  ItemPhrase.resolveAll_keeps (ItemPhrase.lot_keeps within) items

theorem Removal.withdrawals_keeps (within : resolver.Within other) (removal : Removal) :
    Keeps (removal.withdrawals resolver) (removal.withdrawals other) :=
  ItemPhrase.resolveAll_keeps (ItemPhrase.withdrawal_keeps within) removal.items

theorem Sentence.meaning_keeps (within : resolver.Within other) (sentence : Sentence) :
    Keeps (sentence.meaning resolver) (sentence.meaning other) := by
  have lot (phrase : ItemPhrase) : Keeps (alone (phrase.lot resolver)) (alone (phrase.lot other)) :=
    (phrase.lot_keeps within).alone
  cases sentence with
  | start | startGameData | obtain | addSlots => exact (lots_keeps within _).map _
  | write verb toWord clause item slot =>
    simp only [meaning]
    cases clause.edit <;> exact (Keeps.refl _).bind fun _ => (lot item).bind fun _ => .refl _
  | remove => exact (Removal.withdrawals_keeps within _).bind fun _ => .refl _
  | equip | unequip => exact (lot _).bind fun _ => .refl _
  | breakSlots verb slots count along =>
    cases along with
    | none => exact .refl _
    | some along => exact (along.removal.withdrawals_keeps within).bind fun _ => .refl _
  | _ => exact .refl _

end Meaning

namespace Command

/-- The same command but for what it means. What it means under the first resolver, if anything, it
means under the second one if that knows more. -/
structure Agrees (resolver other : Resolver) (command same : Command) : Prop where
  blocks : command.blocks = same.blocks
  action : resolver.Within other → command.action.refusal = .none → same.action = command.action

theorem Agrees.refl (resolver other : Resolver) (command : Command) :
    Agrees resolver other command command :=
  ⟨rfl, fun _ _ => rfl⟩

theorem agrees_ofSentence (resolver other : Resolver) (tokens : List Token) (sentence : Sentence) :
    Agrees resolver other (ofSentence resolver tokens sentence)
      (ofSentence other tokens sentence) := by
  refine ⟨by rw [blocks_ofSentence, blocks_ofSentence], fun within sound => ?_⟩
  unfold ofSentence at sound ⊢
  cases meant : sentence.meaning resolver with
  | ok action => rw [sentence.meaning_keeps within action meant]
  | error complaints => rw [meant] at sound; cases sound

end Command

def Rule.command? (rule : Rule) (resolver : Resolver) (cursor : Cursor) :
    Option Command × Cursor :=
  match rule.read cursor with
  | (.found sentence, after) => (some (.ofSentence resolver after.tokens sentence), after)
  | (_, after) => (none, after)

namespace Command

def ofRules? (resolver : Resolver) : List Rule → Cursor → Option Command
  | [], _ => none
  | rule :: rest, cursor =>
    match rule.command? resolver cursor with
    | (some command, _) => some command
    | (none, after) => ofRules? resolver rest after

theorem ofRules?_eq (resolver : Resolver) (rules : List Rule) (cursor : Cursor) :
    ofRules? resolver rules cursor =
      (firstSentence? rules cursor).map (ofSentence resolver cursor.tokens) := by
  induction rules generalizing cursor with
  | nil => rfl
  | cons rule rest ih =>
    -- The usage is looked up in the tokens of the cursor that the rule leaves.
    have unchanged : ∀ outcome after, rule.read cursor = (outcome, after) →
        after.tokens = cursor.tokens := fun outcome after way => by
      rw [← rule.tokens_read cursor, way]
    rw [ofRules?, firstSentence?, Rule.command?]
    cases way : rule.read cursor with
    | mk outcome after =>
      rw [← unchanged outcome after way]
      cases outcome with
      | found sentence => rfl
      | absent => exact ih after
      | failed => exact ih after

theorem ofTokens_eq (resolver : Resolver) (tokens : List Token) :
    ofTokens resolver tokens =
      (ofRules? resolver Rule.all (.ofTokens tokens)).getD (fallback tokens) := by
  have found : ofRules? resolver Rule.all (.ofTokens tokens) =
      (Sentence.ofTokens? tokens).map (ofSentence resolver tokens) := ofRules?_eq ..
  rw [found, ofTokens]
  cases Sentence.ofTokens? tokens <;> rfl

theorem rel_ofRules? (resolver other : Resolver) (rules : List Rule) (cursor : Cursor) :
    Option.Rel (Agrees resolver other) (ofRules? resolver rules cursor)
      (ofRules? other rules cursor) := by
  -- A rule finds the same sentence and leaves the same cursor in both runs.
  induction rules generalizing cursor with
  | nil => exact .none
  | cons rule rest ih =>
    rw [ofRules?, ofRules?, Rule.command?, Rule.command?]
    rcases rule.read cursor with ⟨sentence | _ | _, after⟩
    · exact .some (agrees_ofSentence ..)
    · exact ih after
    · exact ih after

theorem agrees_ofTokens (resolver other : Resolver) (tokens : List Token) :
    Agrees resolver other (ofTokens resolver tokens) (ofTokens other tokens) := by
  have agrees {command same : Option Command} (rel : Option.Rel (Agrees resolver other) command same) :
      Agrees resolver other (command.getD (fallback tokens)) (same.getD (fallback tokens)) := by
    cases rel with
    | none => exact .refl ..
    | some agrees => exact agrees
  rw [ofTokens_eq, ofTokens_eq]
  exact agrees (rel_ofRules? ..)

theorem agrees_ofLine (resolver other : Resolver) (line : String) :
    Agrees resolver other (ofLine resolver line) (ofLine other line) := by
  unfold ofLine
  split
  next => exact .refl ..
  next => exact .refl ..
  next => exact agrees_ofTokens ..

theorem resolution_affects_meaning_only (resolver other : Resolver) (line : String) :
    (ofLine resolver line).blocks = (ofLine other line).blocks ∧
      (ofRules? resolver Rule.all (.ofTokens (tokenize line))).isSome =
        (ofRules? other Rule.all (.ofTokens (tokenize line))).isSome ∧
      ((∀ query stack, resolver query = some stack → other query = some stack) →
        (ofLine resolver line).action.refusal = .none →
        (ofLine other line).action = (ofLine resolver line).action) := by
  have agrees := agrees_ofLine resolver other line
  have fits {command same : Option Command} (rel : Option.Rel (Agrees resolver other) command same) :
      command.isSome = same.isSome := by
    cases rel <;> rfl
  exact ⟨agrees.blocks, fits (rel_ofRules? ..), agrees.action⟩

theorem apples_known_to_both :
    let onlyApples : Resolver := fun query =>
      if query = "apple" then some (.new (.named "apple")) else none
    (ofLine onlyApples "get 2 apple").action.refusal = .none ∧
      (ofLine .anything "get 2 apple").action = (ofLine onlyApples "get 2 apple").action := by
  intro onlyApples
  have within : ∀ query stack, onlyApples query = some stack → Resolver.anything query = some stack := by
    intro query stack found
    obtain ⟨rfl, rfl⟩ : query = "apple" ∧ Stack.new (.named "apple") = stack := by
      simpa [onlyApples] using found
    rfl
  have sound : (ofLine onlyApples "get 2 apple").action.refusal = .none := by decide +kernel
  exact ⟨sound, (resolution_affects_meaning_only onlyApples .anything _).2.2 within sound⟩

end Command

end Inventory
