import Inventory.Session

set_option autoImplicit false

namespace Inventory

namespace Text

def Ended (text : List Char) : Prop := text = [] ∨ text.getLast? = some '\n'

instance (text : List Char) : Decidable (Ended text) := inferInstanceAs (Decidable (_ ∨ _))

theorem linesOfPieces_append (pieces : List (List Char)) {more : List (List Char)}
    (some : more ≠ []) :
    linesOfPieces (pieces ++ more) = pieces.map dropReturn ++ linesOfPieces more := by
  induction pieces with
  | nil => rfl
  | cons piece rest ih =>
    obtain ⟨next, others, split⟩ : ∃ next others, rest ++ more = next :: others :=
      List.exists_cons_of_ne_nil (by simp [some])
    rw [List.cons_append, split, linesOfPieces, ← split, ih]
    rfl

theorem lines_append {a : List Char} (ended : Ended a) (b : List Char) :
    lines (a ++ b) = lines a ++ lines b := by
  rcases ended with rfl | last
  · rfl
  · obtain ⟨before, rfl⟩ := List.getLast?_eq_some_iff.1 last
    have filled (text : List Char) : text.splitOnP (· == '\n') ≠ [] := List.splitOnP_ne_nil _ _
    have pieces (text : List Char) : (before ++ '\n' :: text).splitOnP (· == '\n') =
        before.splitOnP (· == '\n') ++ text.splitOnP (· == '\n') :=
      List.splitOnP_append_cons _ _ (by simp)
    have first : lines (before ++ ['\n']) = (before.splitOnP (· == '\n')).map dropReturn := by
      rw [lines, pieces, linesOfPieces_append _ (filled [])]
      simp [linesOfPieces]
    rw [first, List.append_assoc, List.singleton_append, lines, pieces,
      linesOfPieces_append _ (filled b)]
    rfl

end Text

def Place.down (n : Nat) (place : Place) : Place := { place with line := place.line.map (· + n) }

def Verdict.down (n : Nat) : Verdict → Verdict
  | executed => .executed
  | skipped refusal => .skipped refusal
  | failed fault place => .failed fault (place.down n)

def Record.down (n : Nat) (record : Record) : Record :=
  { record with number := record.number + n, verdict := record.verdict.down n }

@[simp] theorem Verdict.isFailed_down (n : Nat) (verdict : Verdict) :
    (verdict.down n).isFailed = verdict.isFailed := by
  cases verdict <;> rfl

namespace Session

/-- Sessions that differ in their history only. -/
structure Alike (a b : Session) : Prop where
  state : a.state = b.state
  catalog : a.catalog = b.catalog
  settings : a.settings = b.settings

theorem Alike.refl (session : Session) : session.Alike session := ⟨rfl, rfl, rfl⟩

theorem judge_down (command : Command) (source : Option String) (number n : Nat)
    (text : Option String) (state : Simulation) :
    judge command ⟨source, some (number + n), text⟩ state =
      ((judge command ⟨source, some number, text⟩ state).1,
        (judge command ⟨source, some number, text⟩ state).2.down n) := by
  unfold judge
  by_cases hint : command.action.isHint
  · simp [hint, Verdict.down]
  · simp only [hint]
    rcases command.action.execute state with ⟨after, _ | fault⟩ <;> rfl

theorem step_down {session other : Session} (alike : other.Alike session) (number n : Nat)
    (line : String) (source : Option String) :
    (other.step (number + n) line source).1 = (session.step number line source).1.down n ∧
      (other.step (number + n) line source).2.Alike (session.step number line source).2 := by
  obtain ⟨state, catalog, settings⟩ := alike
  simp only [step, parse, judge_down, state, catalog, settings]
  exact ⟨rfl, rfl, rfl, rfl⟩

theorem frame_step (session : Session) (number : Nat) (line : String) (source : Option String) :
    (session.step number line source).2.catalog = session.catalog ∧
      (session.step number line source).2.settings = session.settings ∧
      (session.step number line source).2.history =
        session.history ++ [(session.step number line source).1] :=
  ⟨rfl, rfl, rfl⟩

theorem state_step_of_skipped (session : Session) (number : Nat) (line : String)
    (source : Option String) (skipped : (session.step number line source).1.verdict.isSkipped) :
    (session.step number line source).2.state = session.state := by
  have judged (command : Command) (place : Place)
      (skipped : (judge command place session.state).2.isSkipped) :
      (judge command place session.state).1 = session.state := by
    unfold judge at skipped ⊢
    by_cases hint : command.action.isHint
    · simp [hint]
    · simp only [hint] at skipped
      revert skipped
      rcases command.action.execute session.state with ⟨after, _ | fault⟩ <;>
        simp [Verdict.isSkipped]
  exact judged _ _ skipped

theorem state_step (session : Session) (number : Nat) (line : String) (source : Option String) :
    (session.step number line source).2.state =
      ((session.parse line).action.execute session.state).1 := by
  have judged (command : Command) (place : Place) :
      (judge command place session.state).1 = (command.action.execute session.state).1 := by
    unfold judge
    by_cases hint : command.action.isHint
    · obtain ⟨refusal, messages, hinted⟩ :
          ∃ refusal messages, command.action = .hint refusal messages := by
        cases act : command.action <;> simp_all [Action.isHint]
      simp [hinted, Action.isHint, Action.execute, Action.operations, Simulation.perform]
    · simp only [hint]
      rcases command.action.execute session.state with ⟨after, _ | fault⟩ <;> rfl
  exact judged _ _

variable (source : Option String)

theorem runLines_cons (session : Session) (number : Nat) (line : String) (rest : List String) :
    runLines source session number (line :: rest) =
      if (session.step number line source).1.verdict.isFailed && session.settings.haltOnError then
        ([(session.step number line source).1], true, (session.step number line source).2)
      else
        let run := runLines source (session.step number line source).2 (number + 1) rest
        ((session.step number line source).1 :: run.1, run.2.1, run.2.2) := rfl

theorem runLines_append (session : Session) (number : Nat) (before after : List String) :
    runLines source session number (before ++ after) =
      let run := runLines source session number before
      if run.2.1 then run
      else
        let more := runLines source run.2.2 (number + before.length) after
        (run.1 ++ more.1, more.2.1, more.2.2) := by
  induction before generalizing session number with
  | nil => rfl
  | cons line rest ih =>
    rw [List.cons_append, runLines_cons, runLines_cons]
    by_cases halts : (session.step number line source).1.verdict.isFailed &&
        session.settings.haltOnError
    · simp [halts]
    · have place : number + (rest.length + 1) = number + 1 + rest.length := by omega
      simp only [halts, ih, List.length_cons, place]
      rcases runLines source (session.step number line source).2 (number + 1) rest with
        ⟨records, _ | _, reached⟩ <;> rfl

theorem runLines_down {session other : Session} (alike : other.Alike session) (number n : Nat)
    (lines : List String) :
    (runLines source other (number + n) lines).1 =
        (runLines source session number lines).1.map (Record.down n) ∧
      (runLines source other (number + n) lines).2.1 = (runLines source session number lines).2.1 ∧
      (runLines source other (number + n) lines).2.2.Alike
        (runLines source session number lines).2.2 := by
  induction lines generalizing session other number with
  | nil => exact ⟨rfl, rfl, alike⟩
  | cons line rest ih =>
    obtain ⟨record, reached⟩ := step_down alike number n line source
    rw [runLines_cons, runLines_cons, alike.settings, record, Record.down]
    dsimp only
    rw [Verdict.isFailed_down]
    by_cases halts : (session.step number line source).1.verdict.isFailed &&
        session.settings.haltOnError
    · simp only [halts]
      exact ⟨rfl, rfl, reached⟩
    · obtain ⟨records, halted, last⟩ := ih reached (number + 1)
      simp only [halts, Nat.add_right_comm number n 1]
      exact ⟨by simp [records, Record.down], halted, last⟩

theorem frame_runLines (session : Session) (number : Nat) (lines : List String) :
    (runLines source session number lines).2.2.catalog = session.catalog ∧
      (runLines source session number lines).2.2.settings = session.settings ∧
      (runLines source session number lines).2.2.history =
        session.history ++ (runLines source session number lines).1 := by
  induction lines generalizing session number with
  | nil => simp [runLines]
  | cons line rest ih =>
    obtain ⟨catalog, settings, history⟩ := frame_step session number line source
    rw [runLines_cons]
    split
    next => exact ⟨catalog, settings, history⟩
    next =>
      obtain ⟨catalog', settings', history'⟩ := ih (session.step number line source).2 (number + 1)
      exact ⟨catalog'.trans catalog, settings'.trans settings, by simp [history', history]⟩

theorem step_of_runLines (session : Session) (number : Nat) (lines : List String) {k : Nat}
    {record : Record} (kept : (runLines source session number lines).1[k]? = some record) :
    ∃ line, lines[k]? = some line ∧
      (runLines source session number (lines.take k)).2.2.step (number + k) line source =
        (record, (runLines source session number (lines.take (k + 1))).2.2) := by
  induction lines generalizing session number k with
  | nil => simp [runLines] at kept
  | cons line rest ih =>
    rw [runLines_cons] at kept
    cases k with
    | zero =>
      have made : (session.step number line source).1 = record := by
        split at kept <;> simpa using kept
      refine ⟨line, rfl, ?_⟩
      simp only [List.take_zero, List.take_succ_cons, runLines_cons, Nat.add_zero]
      rw [← made]
      split <;> rfl
    | succ k =>
      split at kept
      next => simp at kept
      next goesOn =>
        obtain ⟨later, here, made⟩ := ih _ _ (by simpa using kept)
        refine ⟨later, by simpa using here, ?_⟩
        simp only [List.take_succ_cons, runLines_cons, goesOn]
        rw [← Nat.add_assoc, Nat.add_right_comm]
        exact made

theorem not_halted_runLines (session : Session) (number : Nat) {lines : List String}
    (whole : (runLines source session number lines).2.1 = false) :
    (runLines source session number lines).1.length = lines.length ∧
      (session.settings.haltOnError = true →
        ∀ record ∈ (runLines source session number lines).1, record.verdict.isFailed = false) := by
  induction lines generalizing session number with
  | nil => simp [runLines]
  | cons line rest ih =>
    rw [runLines_cons] at whole ⊢
    by_cases halts : (session.step number line source).1.verdict.isFailed &&
        session.settings.haltOnError
    · simp [halts] at whole
    · simp only [halts] at whole ⊢
      obtain ⟨length, sound⟩ := ih _ _ whole
      refine ⟨by simpa using length, fun strict => ?_⟩
      have first : (session.step number line source).1.verdict.isFailed = false := by
        simpa [strict] using halts
      exact List.forall_mem_cons.2 ⟨first, sound strict⟩

theorem halted_runLines (session : Session) (number : Nat) {lines : List String}
    (halted : (runLines source session number lines).2.1 = true) :
    session.settings.haltOnError = true ∧
      ∃ sound last, (runLines source session number lines).1 = sound ++ [last] ∧
        last.verdict.isFailed = true ∧ ∀ record ∈ sound, record.verdict.isFailed = false := by
  induction lines generalizing session number with
  | nil => simp [runLines] at halted
  | cons line rest ih =>
    rw [runLines_cons] at halted ⊢
    by_cases halts : (session.step number line source).1.verdict.isFailed &&
        session.settings.haltOnError
    · simp only [halts, if_true]
      rw [Bool.and_eq_true] at halts
      exact ⟨halts.2, [], _, rfl, halts.1, by simp⟩
    · simp only [halts] at halted ⊢
      obtain ⟨strict, sound, last, records, failed, before⟩ := ih _ _ halted
      have strict : session.settings.haltOnError = true := strict
      have first : (session.step number line source).1.verdict.isFailed = false := by
        simpa [strict] using halts
      exact ⟨strict, _ :: sound, last, by simp [records], failed,
        List.forall_mem_cons.2 ⟨first, before⟩⟩

theorem state_runLines (session : Session) (number : Nat) (lines : List String)
    (lenient : session.settings.haltOnError = false) :
    (runLines source session number lines).2.2.state =
      (lines.map session.parse).foldl (fun state command => (command.action.execute state).1)
        session.state := by
  induction lines generalizing session number with
  | nil => rfl
  | cons line rest ih =>
    have later := ih (session.step number line source).2 (number + 1) lenient
    have parse : (session.step number line source).2.parse = session.parse := rfl
    simpa [runLines_cons, lenient, parse, state_step] using later

def scriptLines (script : String) : List String := (Text.lines script.toList).map String.ofList

def afterLines (session : Session) (script : String) (count : Nat) : Session :=
  (runLines source session 1 ((scriptLines script).take count)).2.2

structure Account (session : Session) (script : String) : Prop where
  history : (session.runScript script source).2.history =
    session.history ++ (session.runScript script source).1.records
  steps : ∀ k record, (session.runScript script source).1.records[k]? = some record →
    ∃ line, (scriptLines script)[k]? = some line ∧
      (session.afterLines source script k).step (1 + k) line source =
        (record, session.afterLines source script (k + 1))
  skipped : ∀ k record, (session.runScript script source).1.records[k]? = some record →
    record.verdict.isSkipped →
    (session.afterLines source script (k + 1)).state = (session.afterLines source script k).state
  halts : (session.runScript script source).1.halted = true ↔
    session.settings.haltOnError = true ∧
      ∃ record ∈ (session.runScript script source).1.records, record.verdict.isFailed
  atFirst : (session.runScript script source).1.halted = true →
    ∃ sound last, (session.runScript script source).1.records = sound ++ [last] ∧
      last.verdict.isFailed ∧ ∀ record ∈ sound, record.verdict.isFailed = false
  whole : (session.runScript script source).1.halted = false →
    (session.runScript script source).1.records.length = (scriptLines script).length
  lenient : session.settings.haltOnError = false →
    (session.runScript script source).2.state =
      (Command.ofScript session.catalog.resolver script).foldl
        (fun state command => (command.action.execute state).1) session.state

theorem account_runScript (session : Session) (script : String) : session.Account source script where
  history := (frame_runLines source session 1 _).2.2
  steps _ _ kept := step_of_runLines source session 1 _ kept
  skipped k record kept skipped := by
    obtain ⟨line, -, made⟩ := step_of_runLines source session 1 _ kept
    obtain ⟨rfl, reached⟩ := Prod.mk.inj made
    exact (congrArg Session.state reached).symm.trans (state_step_of_skipped _ _ _ _ skipped)
  halts := by
    constructor
    · intro halted
      obtain ⟨strict, sound, last, records, failed, -⟩ := halted_runLines source session 1 halted
      have member : last ∈ (session.runScript script source).1.records := by
        change last ∈ (runLines source session 1 (scriptLines script)).1
        rw [scriptLines, records]
        simp
      exact ⟨strict, last, member, failed⟩
    · rintro ⟨strict, record, member, failed⟩
      cases halted : (session.runScript script source).1.halted with
      | true => rfl
      | false =>
        have sound := (not_halted_runLines source session 1 halted).2 strict
        simp [sound record member] at failed
  atFirst halted := (halted_runLines source session 1 halted).2
  whole goesOn := (not_halted_runLines source session 1 goesOn).1
  lenient lenient := by
    have final := state_runLines source session 1 (scriptLines script) lenient
    simpa [scriptLines, Command.ofScript, Function.comp_def, parse, runScript] using final

theorem scripts_compose (session : Session) (a b : String) (ended : Text.Ended a.toList) :
    let first := session.runScript a source
    let second := first.2.runScript b source
    let joined := session.runScript (a ++ b) source
    (first.1.halted = false →
        joined.2.state = second.2.state ∧
          joined.1.records =
            first.1.records ++ second.1.records.map (Record.down (Text.lines a.toList).length)) ∧
      (first.1.halted = true →
        joined.1.records = first.1.records ∧ joined.2.state = first.2.state) ∧
      ∀ script, session.Account source script := by
  intro first second joined
  have lines : scriptLines (a ++ b) = scriptLines a ++ scriptLines b := by
    simp [scriptLines, Text.lines_append ended]
  have length : (scriptLines a).length = (Text.lines a.toList).length := by simp [scriptLines]
  have whole := runLines_append source session 1 (scriptLines a) (scriptLines b)
  rw [← lines, length] at whole
  have run (script : String) : session.runScript script source =
      (⟨source, (runLines source session 1 (scriptLines script)).1,
        (runLines source session 1 (scriptLines script)).2.1⟩,
        (runLines source session 1 (scriptLines script)).2.2) := rfl
  refine ⟨fun goesOn => ?_, fun halted => ?_, account_runScript source session⟩
  · obtain ⟨records, -, last⟩ :=
      runLines_down source (.refl first.2) 1 (Text.lines a.toList).length (scriptLines b)
    simp only [first, run] at goesOn
    simp only [goesOn, Bool.false_eq_true, if_false] at whole
    simp only [joined, run, whole]
    exact ⟨last.state, congrArg _ records⟩
  · simp only [first, run] at halted
    simp only [halted, if_true] at whole
    simp [joined, first, run, whole]

theorem arrow_scripts_compose :
    let a := "initialize 5 arrowa[equip]\ninit gamedata\nshoot arrow\nfly\n"
    let b := "get 2 materiala\n# rest\nshoot arrow"
    let usual := Session.new .empty .usual
    let strict := Session.new .empty .strict
    Text.Ended a.toList ∧ (usual.runScript a none).1.halted = false ∧
      (usual.runScript (a ++ b) none).2.state =
        ((usual.runScript a none).2.runScript b none).2.state ∧
      (strict.runScript a none).1.halted = true ∧
      (strict.runScript (a ++ b) none).1.records = (strict.runScript a none).1.records := by
  intro a b usual strict
  have ended : Text.Ended a.toList := by decide
  have goesOn : (usual.runScript a none).1.halted = false := by decide +kernel
  have halted : (strict.runScript a none).1.halted = true := by decide +kernel
  exact ⟨ended, goesOn, ((scripts_compose none usual a b ended).1 goesOn).1, halted,
    ((scripts_compose none strict a b ended).2.1 halted).1⟩

end Session

end Inventory
