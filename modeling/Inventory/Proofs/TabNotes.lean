import Inventory.Slots.FirstTab

set_option autoImplicit false

namespace Inventory

theorem Tab.mem_all (tab : Tab) : tab ∈ Tab.all := by
  cases tab <;> decide

namespace TabScan

/-- What a slot tells about a tab: nothing in an earlier tab, else whether the tab starts there. -/
def note (tab : Tab) (slot : Stack × Nat) : Option (Option Nat) :=
  if slot.1.tab.number < tab.number then none
  else some (if slot.1.tab = tab then some slot.2 else none)

def Caught (scan : TabScan) : Prop :=
  ∀ current ∈ scan.current, ∀ tab : Tab, tab.number ≤ current.number →
    (scan.notes.lookup tab).isSome

theorem caught_initial : initial.Caught := nofun

theorem lookup_singleton (other tab : Tab) (start : Option Nat) :
    [(other, start)].lookup tab = if tab = other then some start else none := by
  by_cases same : tab = other
  next => simp [same]
  next =>
    have differs : (tab == other) = false := by simpa using same
    simp [List.lookup_cons, same, differs]

theorem lookup_pass (notes : List (Tab × Option Nat)) (other tab : Tab) :
    (pass notes other).lookup tab =
      (notes.lookup tab).or (if tab = other then some none else none) := by
  unfold pass
  split
  next noted =>
    split
    next same =>
      obtain ⟨⟨_, start⟩, member, rfl⟩ : ∃ note ∈ notes, note.1 = other := by simpa using noted
      have found : (notes.lookup tab).isSome := by
        simpa [same] using ⟨start, member⟩
      rw [Option.or_of_isSome found]
    next => simp
  next => rw [List.lookup_append, lookup_singleton]

theorem lookup_foldl_pass (others : List Tab) (notes : List (Tab × Option Nat)) (tab : Tab) :
    (others.foldl pass notes).lookup tab =
      (notes.lookup tab).or (if tab ∈ others then some none else none) := by
  induction others generalizing notes with
  | nil => simp
  | cons other rest ih =>
    rw [List.foldl_cons, ih, lookup_pass, Option.or_assoc]
    by_cases same : tab = other <;> simp [same]

theorem lookup_read {scan : TabScan} (caught : scan.Caught) (slot : Stack × Nat) (tab : Tab) :
    (scan.read slot).notes.lookup tab = (scan.notes.lookup tab).or (note tab slot) := by
  unfold read note
  dsimp only
  split
  next inside =>
    -- The slot adds no note, and whatever it tells about a tab comes after the note there is.
    split
    next => simp
    next reached =>
      have noted := caught slot.1.tab inside tab (Nat.not_lt.1 reached)
      rw [Option.or_of_isSome noted]
  next =>
    rw [List.lookup_append, lookup_foldl_pass, lookup_singleton, Option.or_assoc]
    congr 1
    -- The tab is passed, or starts here, or is still to come.
    simp only [List.mem_filter, Tab.mem_all, true_and, decide_eq_true_eq]
    generalize slot.1.tab = here
    cases tab <;> cases here <;> rfl

theorem Caught.read {scan : TabScan} (caught : scan.Caught) (slot : Stack × Nat) :
    (scan.read slot).Caught := by
  intro current inside tab reached
  have here : current = slot.1.tab := by
    unfold TabScan.read at inside
    dsimp only at inside
    split at inside
    next same => simpa [same] using inside.symm
    next => simpa using inside.symm
  subst here
  simp [lookup_read caught, note, Nat.not_lt.2 reached]

theorem lookup_foldl_read {scan : TabScan} (caught : scan.Caught) (slots : List (Stack × Nat))
    (tab : Tab) :
    (slots.foldl read scan).notes.lookup tab =
      (scan.notes.lookup tab).or (slots.findSome? (note tab)) := by
  induction slots generalizing scan with
  | nil => simp
  | cons slot rest ih =>
    rw [List.foldl_cons, ih (caught.read slot), lookup_read caught, Option.or_assoc,
      List.findSome?_cons]
    cases note tab slot <;> rfl

end TabScan

namespace Slots

def StartsTab (slots : Slots) (tab : Tab) (i : Nat) : Prop :=
  (slots[i]?).map Stack.tab = some tab ∧ ∀ other ∈ slots.take i, other.tab.number < tab.number

theorem lookup_tabNotes (slots : Slots) (tab : Tab) :
    slots.tabNotes.lookup tab = slots.zipIdx.findSome? (TabScan.note tab) := by
  rw [tabNotes, TabScan.lookup_foldl_read TabScan.caught_initial]
  rfl

theorem tabHead_nil (tab : Tab) : tabHead [] tab = none := rfl

theorem tabHead_cons (stack : Stack) (rest : Slots) (tab : Tab) :
    tabHead (stack :: rest) tab =
      if stack.tab.number < tab.number then (rest.tabHead tab).map (· + 1)
      else if stack.tab = tab then some 0 else none := by
  -- One place further on, a slot tells the same, with the place one higher.
  have further : TabScan.note tab ∘ (fun slot : Stack × Nat => (slot.1, slot.2 + 1)) =
      Option.map (Option.map (· + 1)) ∘ TabScan.note tab := by
    funext slot
    simp only [Function.comp_apply, TabScan.note]
    split
    next => rfl
    next => split <;> rfl
  rw [tabHead, tabHead, lookup_tabNotes, lookup_tabNotes, List.zipIdx_cons, List.findSome?_cons,
    List.zipIdx_succ, List.findSome?_map, further, ← List.map_findSome?]
  by_cases earlier : stack.tab.number < tab.number
  next =>
    simp only [TabScan.note, earlier, if_true]
    cases rest.zipIdx.findSome? (TabScan.note tab) <;> rfl
  next => simp only [TabScan.note, earlier, if_false, Option.join_some]

theorem startsTab_zero {stack : Stack} {rest : Slots} {tab : Tab} :
    StartsTab (stack :: rest) tab 0 ↔ stack.tab = tab := by
  simp [StartsTab]

theorem startsTab_succ {stack : Stack} {rest : Slots} {tab : Tab} {i : Nat} :
    StartsTab (stack :: rest) tab (i + 1) ↔
      stack.tab.number < tab.number ∧ rest.StartsTab tab i := by
  simp [StartsTab, and_left_comm]

theorem tabHead_eq_some_iff {slots : Slots} {tab : Tab} {i : Nat} :
    slots.tabHead tab = some i ↔ slots.StartsTab tab i := by
  induction slots generalizing i with
  | nil => simp [tabHead_nil, StartsTab]
  | cons stack rest ih =>
    rw [tabHead_cons]
    split
    next earlier =>
      have other : stack.tab ≠ tab := by
        rintro rfl
        exact absurd earlier (Nat.lt_irrefl _)
      cases i with
      | zero => simp [startsTab_zero, other]
      | succ i => simp [startsTab_succ, earlier, ih]
    next reached =>
      cases i with
      | zero => simp [startsTab_zero]
      | succ i => simp [startsTab_succ, reached]

theorem firstArrow_eq_some_iff {slots : Slots} {i : Nat} :
    slots.firstArrow = some i ↔ (slots[i]?).map Stack.kind = some .arrow ∧
      ∀ other ∈ slots.take i, other.kind = .weapon ∨ other.kind = .bow := by
  induction slots generalizing i with
  | nil => simp [firstArrow]
  | cons stack rest ih =>
    have earlier : stack.kind.number < Kind.arrow.number ↔
        stack.kind = .weapon ∨ stack.kind = .bow := by
      cases stack.kind <;> decide
    simp only [firstArrow, earlier]
    split
    next arrow => cases i <;> simp [arrow]
    next other =>
      split
      next passed => cases i <;> simp [other, passed, ih]
      next past => cases i <;> simp [other, past]

end Slots

end Inventory
