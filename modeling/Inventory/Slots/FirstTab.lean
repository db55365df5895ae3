import Inventory.Slots.Basic

/-!
The first tab of a kind. The game reads the slots from the start and notes where a tab starts. A tab
that it has passed is noted as empty, and the first note on a tab counts, so a tab that comes too late
is not found.
-/

set_option autoImplicit false

namespace Inventory

/-- What the game has noted of the slots that it has read: tabs with the slot where they start, or as
empty, and the tab that it is in. -/
structure TabScan where
  notes : List (Tab × Option Nat)
  current : Option Tab

namespace TabScan

def initial : TabScan := ⟨[], none⟩

def pass (notes : List (Tab × Option Nat)) (tab : Tab) : List (Tab × Option Nat) :=
  if notes.any fun note => note.1 = tab then notes else notes ++ [(tab, none)]

def read (scan : TabScan) (slot : Stack × Nat) : TabScan :=
  let tab := slot.1.tab
  if scan.current = some tab then scan
  else
    let earlier := Tab.all.filter fun other => other.number < tab.number
    { notes := earlier.foldl pass scan.notes ++ [(tab, some slot.2)]
      current := some tab }

end TabScan

namespace Slots

def tabNotes (slots : Slots) : List (Tab × Option Nat) :=
  (slots.zipIdx.foldl TabScan.read .initial).notes

def tabHead (slots : Slots) (tab : Tab) : Option Nat := (slots.tabNotes.lookup tab).join

def firstArrow : Slots → Option Nat
  | [] => none
  | stack :: rest =>
    if stack.kind = .arrow then some 0
    else if stack.kind.number < Kind.arrow.number then (firstArrow rest).map (· + 1)
    else none

def firstTab (slots : Slots) (kind : Kind) (counted : Int) : Option Nat :=
  if counted = 0 then none
  else
    match slots.tabHead kind.tab with
    | none => none
    | some head =>
      if kind = .arrow then (firstArrow (slots.drop head)).map (head + ·) else some head

def unequipTab : Slots → Kind → Slots
  | [], _ => []
  | stack :: rest, kind =>
    if stack.tab = kind.tab then
      (if stack.kind = kind then stack.withEquipped false else stack) :: unequipTab rest kind
    else stack :: rest

def unequipFirstTab (slots : Slots) (kind : Kind) (counted : Int) : Slots :=
  match slots.firstTab kind counted with
  | none => slots
  | some head => slots.take head ++ unequipTab (slots.drop head) kind

def equip (slots : Slots) (item : Item) (n : Nat) (counted : Int) : Slots :=
  let cleared := slots.unequipFirstTab item.kind counted
  match cleared.occurrence item n with
  | none => cleared
  | some i => cleared.modify i fun stack => stack.withEquipped true

/-- Unequips the n-th occurrence of an item, or the first one that is equipped. There is always an
arrow to shoot, so arrows stay as they are. -/
def unequip (slots : Slots) (item : Item) (n : Option Nat) : Slots :=
  if item.kind = .arrow then slots
  else
    let index := match n with
      | none => slots.findIdx? fun stack => stack.item = item && stack.equipped
      | some n => slots.occurrence item n
    match index with
    | none => slots
    | some i => slots.modify i fun stack => stack.withEquipped false

end Slots

end Inventory
