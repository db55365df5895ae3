import Inventory.Files.Job
import Inventory.Session
import Inventory.StateFile.Layout
import Inventory.Text.Cluster

set_option autoImplicit false

namespace Inventory

namespace Job

def bufferSize : Nat := 8192

def storingText (content : Bytes) : String :=
  if content.length < bufferSize then "flush" else "write to"

def saveState (state : Simulation) (path : String) : Job (Except Fault Unit) := do
  let content := StateFile.toBytes state
  match ← writeFile path content with
  | .ok _ => pure (.ok ())
  | .error (.creating obstacle) =>
    pure (.error (.io s!"failed to create file '{path}': {obstacle.text}"))
  | .error (.storing obstacle) =>
    pure (.error (.io s!"failed to {storingText content} file '{path}': {obstacle.text}"))

def loadState (path : String) : Job (Except Fault Simulation) := do
  match ← readFile path with
  | .error (.opening obstacle) =>
    pure (.error (.io s!"failed to open file '{path}': {obstacle.text}"))
  | .error (.reading obstacle) =>
    pure (.error (.io s!"failed to read file '{path}': {obstacle.text}"))
  | .ok content =>
    match StateFile.ofBytes? content with
    | some state => pure (.ok state)
    | none => pure (.error (.serialization "this is not a saved state"))

def loadCatalog (path : String) : Job (Except Fault Catalog) := do
  let text ← readText "item list" path
  pure (text.map Catalog.ofListText)

def runFile (session : Session) (path : String) : Job (Except Fault (Report × Session)) := do
  let script ← readText "script" path
  pure (script.map fun script => session.runScript script (some path))

end Job

inductive Reply where
  | output (lines : List String)
  | quit
deriving DecidableEq

namespace Repl

def version : String := "0.1.0"

def help : List String :=
  ["Script lines run against the simulation, e.g. `get 2 materiala`.",
   "REPL commands:",
   "  :help            show this message",
   "  :pouch           show the visible inventory",
   "  :dump [save]     show game data, or a save (`manual` for the manual save)",
   "  :saves           list saves",
   "  :history         list lines run so far",
   "  :write PATH      write the state to a file",
   "  :load PATH       read the state from a file",
   "  :reset           start over with an empty state",
   "  :quit            leave"]

def completions (session : Session) : List String :=
  session.catalog.items.map fun item => Text.lower item.id

def pouchLines (session : Session) : List String :=
  let pouch := session.state.pouch
  let views := pouch.views session.settings.animated
  s!"pouch: {pouch.slots.length} slots, {pouch.counted} counted" ::
    views.zipIdx.map fun entry =>
      Text.alignRight 3 (toString (entry.2 + 1)) ++ ": " ++ entry.1.text

def saveNames (session : Session) : List String :=
  (session.state.manual.toList.map fun _ => "manual") ++ session.state.named.names

def historyLines (session : Session) : List String :=
  session.history.map fun record =>
    Text.alignRight 4 (toString record.number) ++ s!" [{record.refusal.text}] {record.line}"

def scriptLines (record : Record) (session : Session) : List String :=
  match record.verdict with
  | .executed => if record.command.action = .nothing then [] else pouchLines session
  | .skipped refusal => Paint.colored Paint.yellow refusal.text :: record.messages
  | .failed .. => record.messages

def saveOfArgument : String → Option String
  | "" => none
  | "manual" => some ""
  | name => some name

def splitOrder (order : List Char) : String × String :=
  (String.ofList (order.takeWhile fun c => !Text.isBlank c),
    String.ofList (Text.trim (order.dropWhile fun c => !Text.isBlank c)))

def pathNeeded (order : String) : Fault := .internal s!":{order} requires a path"

def unknownOrder (order : String) : Fault :=
  .internal s!"unknown REPL command :{order} (try :help)"

def writeOrder (session : Session) (path : String) : Job (Except Fault Reply × Session) := do
  if path.isEmpty then pure (.error (pathNeeded "write"), session)
  else
    let written ← Job.saveState session.state path
    pure (written.map fun _ => .output ["wrote " ++ path], session)

def loadOrder (session : Session) (path : String) : Job (Except Fault Reply × Session) := do
  if path.isEmpty then pure (.error (pathNeeded "load"), session)
  else
    match ← Job.loadState path with
    | .ok state => pure (.ok (.output ["loaded " ++ path]), { session with state })
    | .error fault => pure (.error fault, session)

def obey (session : Session) (order : List Char) : Job (Except Fault Reply × Session) :=
  let (name, argument) := splitOrder order
  let tell (lines : List String) : Job (Except Fault Reply × Session) :=
    pure (.ok (.output lines), session)
  match name with
  | "q" => pure (.ok .quit, session)
  | "quit" => pure (.ok .quit, session)
  | "exit" => pure (.ok .quit, session)
  | "h" => tell help
  | "help" => tell help
  | "pouch" => tell (pouchLines session)
  | "dump" => pure ((session.dump (saveOfArgument argument)).map .output, session)
  | "saves" => tell (saveNames session)
  | "history" => tell (historyLines session)
  | "write" => writeOrder session argument
  | "load" => loadOrder session argument
  | "reset" => pure (.ok (.output []), session.reset)
  | other => pure (.error (unknownOrder other), session)

def answer (session : Session) (input : String) : Job (Except Fault Reply × Session) :=
  match Text.trim input.toList with
  | ':' :: order => obey session order
  | _ =>
    let (record, after) := session.runLine input
    pure (.ok (.output (scriptLines record after)), after)

def errorLine (text : String) : String := Paint.colored Paint.red ("Error: " ++ text)

def turn (session : Session) (line : Bytes) : Job (Option Session) :=
  match Text.ofUtf8? line with
  | none => do
    Job.warnLine (errorLine (Fault.io "stream did not contain valid UTF-8").message)
    pure (some session)
  | some typed => do
    let input := Text.withoutBackspaces typed
    if (Text.trim input.toList).isEmpty then pure (some session)
    else
      match ← answer session input with
      | (.ok (.output lines), after) => do
        Job.printLines lines
        pure (some after)
      | (.ok .quit, _) => pure none
      | (.error fault, after) => do
        Job.warnLine (errorLine fault.message)
        pure (some after)

def banner : List String :=
  [Paint.colored Paint.boldCyan "satchel" ++ " v" ++ version,
   "Type commands to run them. :help lists REPL commands. Ctrl+D exits.",
   ""]

def farewell : List String := ["", "Goodbye!"]

def turns (session : Session) : List Bytes → Job Unit
  | [] => Job.printLines farewell
  | line :: rest => do
    match ← turn session line with
    | some after => turns after rest
    | none => Job.printLines farewell

end Repl

end Inventory
