import Inventory.Proofs.SaveNames
import Inventory.Proofs.Scripts
import Inventory.Proofs.Snapshots
import Inventory.Shell.Repl

set_option autoImplicit false

namespace Inventory

namespace Saves

theorem nodup_names (saves : Saves) : saves.names.Nodup := by
  have strict : saves.names.Pairwise (· < ·) := List.pairwise_map.2 saves.ordered
  exact strict.imp String.ne_of_lt

theorem mem_names_iff (saves : Saves) (name : String) :
    name ∈ saves.names ↔ (saves.find? name).isSome := by
  rw [find?, Option.isSome_map, List.find?_isSome, names, List.mem_map]
  simp

end Saves

theorem Session.state_runLine_of_save {session : Session} {line : String} {name : Option String}
    (saves : (session.parse line).action = .save name) :
    (session.runLine line).2.state = session.state.save name := by
  rw [runLine, state_step, saves]
  rfl

namespace Repl

variable {session : Session} {line name : String}

theorem answer_of_script (plain : ∀ order, Text.trim line.toList ≠ ':' :: order) :
    answer session line = .done (.ok (.output
      (scriptLines (session.runLine line).1 (session.runLine line).2)), (session.runLine line).2) := by
  rw [answer]
  split
  next order colon => exact absurd colon (plain order)
  next => rfl

theorem splitOrder_append {order gap argument : List Char}
    (plain : order.all fun c => !Text.isBlank c) (filled : gap ≠ []) (blank : gap.all Text.isBlank)
    (inked : Text.Inked argument) :
    splitOrder (order ++ (gap ++ argument)) = (String.ofList order, String.ofList argument) := by
  have passes := List.all_eq_true.1 plain
  have spaces := List.all_eq_true.1 blank
  have trimmed : Text.trim (gap ++ argument) = argument :=
    Text.trim_eq (congrArg _ (List.append_nil argument).symm) spaces (List.forall_mem_nil _) inked
  cases gap with
  | nil => exact absurd rfl filled
  | cons c rest =>
    have space : Text.isBlank c := spaces c List.mem_cons_self
    rw [splitOrder, List.takeWhile_append_of_pos passes, List.dropWhile_append_of_pos passes,
      List.cons_append, List.takeWhile_cons_of_neg (by simp [space]),
      List.dropWhile_cons_of_neg (by simp [space]), List.append_nil, ← List.cons_append, trimmed]

theorem answer_dump (inked : Text.Inked name.toList) :
    answer session (":dump " ++ name) =
      .done ((session.dump (saveOfArgument name)).map .output, session) := by
  have whole : Text.Inked ([':'] ++ ("dump ".toList ++ name.toList)) :=
    (Text.inked_singleton (by decide)).append inked _
  have split : (":dump " ++ name).toList =
      [] ++ (([':'] ++ ("dump ".toList ++ name.toList)) ++ []) := by
    rw [List.append_nil, String.toList_append]
    rfl
  have trimmed : Text.trim (":dump " ++ name).toList = ':' :: ("dump ".toList ++ name.toList) :=
    Text.trim_eq split (List.forall_mem_nil _) (List.forall_mem_nil _) whole
  have parts : splitOrder ("dump".toList ++ ([' '] ++ name.toList)) = ("dump", name) := by
    rw [splitOrder_append (by decide) (by decide) (by decide) inked, String.ofList_toList,
      String.ofList_toList]
  -- The first blank ends the order; those inside the name are behind it.
  have same : "dump ".toList ++ name.toList = "dump".toList ++ ([' '] ++ name.toList) := rfl
  rw [answer, trimmed, same]
  simp only [obey, parts]
  rfl

theorem answer_saves (session : Session) :
    answer session ":saves" = .done (.ok (.output (saveNames session)), session) := by
  rfl

theorem saveOfArgument_of_ne (filled : name ≠ "") (other : name ≠ "manual") :
    saveOfArgument name = some name := by
  unfold saveOfArgument
  split
  next => exact absurd rfl filled
  next => exact absurd rfl other
  next => rfl

structure Lists (state : Simulation) (lines : List String) : Prop where
  inOrder : lines = (state.manual.toList.map fun _ => "manual") ++ state.named.names
  complete : ∀ name, name ∈ state.named.names ↔ (state.named.find? name).isSome
  once : state.named.names.Nodup
  distinct : lines.Nodup ↔ ¬(state.manual.isSome ∧ (state.named.find? "manual").isSome)

theorem lists_saveNames (session : Session) : Lists session.state (saveNames session) where
  inOrder := rfl
  complete := session.state.named.mem_names_iff
  once := session.state.named.nodup_names
  distinct := by
    have once := session.state.named.nodup_names
    rw [saveNames, ← Saves.mem_names_iff]
    cases session.state.manual with
    | none => simpa using once
    | some data => simp [once]

theorem dump_of_find? {data : GameData} (found : session.state.named.find? name = some data)
    (filled : name ≠ "") : session.dump (some name) = .ok data.slots.describe := by
  unfold Session.dump
  split
  next none => cases none
  next empty => exact absurd (Option.some.inj empty) filled
  next other _ same =>
    cases same
    rw [found]

/-- A save that a line has made under a name can be shown by this name, and it is listed. The name
`manual` is taken by the manual save: it shows this save, and it may be listed twice. -/
theorem named_saves_are_shown (session : Session) (line name : String)
    (saves : (session.parse line).action = .save (some name)) :
    ∃ told after, answer session line = .done (.ok (.output told), after) ∧
      after.state = session.state.save (some name) ∧
      after.state.named.find? name = some session.state.gameData ∧
      (name ≠ "manual" → answer after (":dump " ++ name) =
        .done (.ok (.output session.state.gameData.slots.describe), after)) ∧
      (name = "manual" → answer after (":dump " ++ name) =
        .done ((session.dump (some "")).map .output, after)) ∧
      ∃ listed, answer after ":saves" = .done (.ok (.output listed), after) ∧
        Lists after.state listed := by
  have inked : Text.Inked name.toList := Command.inked_of_save saves
  have filled : name ≠ "" := by
    rintro rfl
    exact inked.filled rfl
  have state : (session.runLine line).2.state = session.state.save (some name) :=
    Session.state_runLine_of_save saves
  have made : (session.runLine line).2.state.named.find? name = some session.state.gameData := by
    have saved := session.state.saved_save (some name) (some name)
    rwa [if_pos rfl, ← state] at saved
  refine ⟨_, _, answer_of_script (Command.no_colon_of_save saves), state, made, ?other, ?manual, _,
    answer_saves _, lists_saveNames _⟩
  case other =>
    intro other
    rw [answer_dump inked, saveOfArgument_of_ne filled other, dump_of_find? made filled]
    rfl
  case manual =>
    rintro rfl
    have kept : (session.runLine line).2.state.manual = session.state.manual := by
      rw [state]
      rfl
    rw [answer_dump inked, saveOfArgument]
    simp only [Session.dump, kept]

theorem save_called_before_fight :
    let session := ((Session.new .empty .usual).runLine "init gamedata 2 apple").2
    (session.parse "Save as before  fight").action = .save (some "before fight") ∧
      ∃ told after, answer session "Save as before  fight" = .done (.ok (.output told), after) ∧
        answer after ":dump before fight" = .done (.ok (.output ["2x apple"]), after) := by
  intro session
  have saves : (session.parse "Save as before  fight").action = .save (some "before fight") := by
    decide +kernel
  have described : session.state.gameData.slots.describe = ["2x apple"] := by decide +kernel
  obtain ⟨told, after, answered, -, -, shown, -⟩ := named_saves_are_shown session _ _ saves
  rw [described] at shown
  exact ⟨saves, told, after, answered, shown (by decide)⟩

theorem save_called_manual_is_hidden :
    let session := ((Session.new (.ofNames ["MaterialA"]) .usual).runLine "init gamedata materiala").2
    let after := (session.runLine "save as manual").2
    let both := (after.runLine "save").2
    (session.parse "save as manual").action = .save (some "manual") ∧
      (∃ told, answer session "save as manual" = .done (.ok (.output told), after)) ∧
      after.state.named.find? "manual" = some session.state.gameData ∧
      answer after (":dump " ++ "manual") = .done (.error (.saveNotFound "manual save"), after) ∧
      answer both ":saves" = .done (.ok (.output ["manual", "manual"]), both) := by
  intro session after both
  have saves : (session.parse "save as manual").action = .save (some "manual") := by decide +kernel
  have inked : Text.Inked "manual".toList := Command.inked_of_save saves
  have hidden : (after.dump (some "")).map Reply.output = .error (.saveNotFound "manual save") := by
    decide +kernel
  have listed : saveNames both = ["manual", "manual"] := by decide +kernel
  refine ⟨saves, ⟨_, answer_of_script (Command.no_colon_of_save saves)⟩, by decide +kernel, ?_, ?_⟩
  next => rw [answer_dump inked, saveOfArgument, hidden]
  next => rw [answer_saves, listed]

end Repl

end Inventory
