import Inventory.Script.Command

set_option autoImplicit false

namespace Inventory

structure SlotView where
  id : String
  count : Option Count
  durability : Option String
  equipped : Bool
  broken : Bool
  animated : Bool
  modifier : Option String
deriving DecidableEq

def Kind.bonuses : Kind → List Bonus
  | .weapon => [.attackUp, .durabilityUp, .criticalHit, .longThrow]
  | .bow => [.attackUp, .durabilityUp, .multiShot, .zoom, .quickShot]
  | .shield => [.attackUp, .durabilityUp, .surfMaster, .guardUp]
  | _ => []

def Stack.modifierName (stack : Stack) : Option String :=
  if stack.kind.isEquipment then
    stack.details.price.bind fun price =>
      (stack.kind.bonuses.find? fun bonus => bonus.isIn price).map Bonus.name
  else if stack.details.effect = .none then none
  else some stack.details.effect.name

namespace SlotView

def ofStack (stack : Stack) (broken animated : Bool) : SlotView :=
  { id := stack.item.id
    count :=
      if stack.kind.isEquipment || (!stack.item.stackable && stack.value = 1) then none
      else some stack.value
    durability :=
      if stack.kind.isEquipment then some (Text.fourDigits stack.value.val) else none
    equipped := stack.equipped
    broken
    animated
    modifier := stack.modifierName }

def text (view : SlotView) : String :=
  let count := match view.count with
    | some count => s!" x{count.val}"
    | none => ""
  let durability := match view.durability with
    | some durability => s!" ({durability})"
    | none => ""
  let modifier := match view.modifier with
    | some modifier => s!" <{modifier}>"
    | none => ""
  let equipped := if view.equipped then " *" else ""
  let broken := if view.broken then " [broken]" else ""
  view.id ++ count ++ durability ++ modifier ++ equipped ++ broken

end SlotView

def Pouch.views (pouch : Pouch) (animated : Bool) : List SlotView :=
  pouch.slots.zipIdx.map fun entry => .ofStack entry.1 (pouch.counted ≤ entry.2) animated

def GameData.views (data : GameData) (animated : Bool) : List SlotView :=
  data.slots.map fun stack => .ofStack stack false animated

inductive Verdict where
  | executed
  | skipped (refusal : Refusal)
  | failed (fault : Fault) (place : Place)
deriving DecidableEq

namespace Verdict

def isExecuted : Verdict → Bool
  | executed => true
  | _ => false

def isSkipped : Verdict → Bool
  | skipped _ => true
  | _ => false

def isFailed : Verdict → Bool
  | failed .. => true
  | _ => false

end Verdict

structure Record where
  number : Nat
  line : String
  command : Command
  verdict : Verdict
  snapshot : Option Simulation
deriving DecidableEq

namespace Record

def refusal (record : Record) : Refusal :=
  match record.verdict with
  | .executed => record.command.action.refusal
  | .skipped refusal => refusal
  | .failed .. => .failed

def messages (record : Record) : List String :=
  match record.verdict with
  | .executed => []
  | .skipped _ => record.command.action.messages
  | .failed fault place => [fault.message ++ " " ++ place.message]

end Record

structure Report where
  source : Option String
  records : List Record
  halted : Bool
deriving DecidableEq

namespace Report

def executed (report : Report) : Nat := report.records.countP fun record => record.verdict.isExecuted

def skipped (report : Report) : List Record :=
  report.records.filter fun record => record.verdict.isSkipped

def failures (report : Report) : List Record :=
  report.records.filter fun record => record.verdict.isFailed

def isClean (report : Report) : Bool := report.records.all fun record => record.verdict.isExecuted

def finalSnapshot (report : Report) : Option Simulation :=
  report.records.reverse.findSome? Record.snapshot

end Report

structure Settings where
  haltOnError : Bool
  keepSnapshots : Bool
  animated : Bool
deriving DecidableEq

namespace Settings

def usual : Settings := ⟨false, true, false⟩

def strict : Settings := { usual with haltOnError := true }

end Settings

structure Session where
  state : Simulation
  catalog : Catalog
  settings : Settings
  history : List Record
deriving DecidableEq

namespace Session

def new (catalog : Catalog) (settings : Settings) : Session := ⟨.initial, catalog, settings, []⟩

def parse (session : Session) (line : String) : Command :=
  .ofLine session.catalog.resolver line

def reset (session : Session) : Session := { session with state := .initial, history := [] }

def judge (command : Command) (place : Place) (state : Simulation) : Simulation × Verdict :=
  if command.action.isHint then (state, .skipped command.action.refusal)
  else
    match command.action.execute state with
    | (after, none) => (after, .executed)
    | (after, some fault) => (after, .failed fault place)

def step (session : Session) (number : Nat) (line : String) (source : Option String) :
    Record × Session :=
  let command := session.parse line
  let place : Place := ⟨source, some number, some (Text.trimmed line)⟩
  let (state, verdict) := judge command place session.state
  let snapshot := if session.settings.keepSnapshots then some state else none
  let record : Record := ⟨number, line, command, verdict, snapshot⟩
  (record, { session with state, history := session.history ++ [record] })

def runLine (session : Session) (line : String) : Record × Session :=
  session.step (session.history.length + 1) line none

def runLines (source : Option String) : Session → Nat → List String → List Record × Bool × Session
  | session, _, [] => ([], false, session)
  | session, number, line :: rest =>
    let (record, after) := session.step number line source
    if record.verdict.isFailed && session.settings.haltOnError then ([record], true, after)
    else
      let (records, halted, last) := runLines source after (number + 1) rest
      (record :: records, halted, last)

def runScript (session : Session) (script : String) (source : Option String) : Report × Session :=
  let (records, halted, after) :=
    runLines source session 1 ((Text.lines script.toList).map String.ofList)
  (⟨source, records, halted⟩, after)

/-- The lines that describe the game data, or a save. The empty name is that of the manual save. -/
def dump (session : Session) (save : Option String) : Except Fault (List String) :=
  match save with
  | none => .ok session.state.gameData.slots.describe
  | some "" =>
    match session.state.manual with
    | some data => .ok data.slots.describe
    | none => .error (.saveNotFound "manual save")
  | some name =>
    match session.state.named.find? name with
    | some data => .ok data.slots.describe
    | none => .error (.saveNotFound name)

end Session

end Inventory
