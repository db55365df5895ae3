import Inventory.Shell.Repl

set_option autoImplicit false

namespace Inventory

structure Options where
  scripts : List String
  items : Option String
  load : Option String
  save : Option String
  batch : Bool
  help : Bool
  version : Bool
  dump : Bool
  haltOnError : Bool
deriving DecidableEq

namespace Options

def none : Options := ⟨[], .none, .none, .none, false, false, false, false, false⟩

/-- Whether an argument asks for more log output. There is no log, so it is read and forgotten. -/
def isVerbosity (argument : String) : Bool :=
  match argument.toList with
  | '-' :: 'v' :: rest => rest.all (· = 'v')
  | _ => argument = "--verbose" || argument = "--trace"

def readFrom (options : Options) : List String → Except String Options
  | [] => .ok options
  | "-h" :: rest => readFrom { options with help := true } rest
  | "--help" :: rest => readFrom { options with help := true } rest
  | "-V" :: rest => readFrom { options with version := true } rest
  | "--version" :: rest => readFrom { options with version := true } rest
  | "-b" :: rest => readFrom { options with batch := true } rest
  | "--batch" :: rest => readFrom { options with batch := true } rest
  | "--dump" :: rest => readFrom { options with dump := true } rest
  | "--halt-on-error" :: rest => readFrom { options with haltOnError := true } rest
  -- An option that needs a path takes whatever comes next, even another option.
  | ["--items"] => .error "--items requires a path"
  | "--items" :: path :: rest => readFrom { options with items := some path } rest
  | ["--load"] => .error "--load requires a path"
  | "--load" :: path :: rest => readFrom { options with load := some path } rest
  | ["--save"] => .error "--save requires a path"
  | "--save" :: path :: rest => readFrom { options with save := some path } rest
  | argument :: rest =>
    if isVerbosity argument then readFrom options rest
    else if argument.toList.head? = some '-' then .error ("unknown option: " ++ argument)
    else readFrom { options with scripts := options.scripts ++ [argument] } rest

def read (arguments : List String) : Except String Options := readFrom none arguments

end Options

inductive Sequel where
  | exit (success : Bool)
  | repl (session : Session) (withBanner : Bool)

namespace CommandLine

def bold (text : String) : String := Paint.colored Paint.bold text

def help : List String :=
  [bold "Satchel" ++ " - Inventory simulator",
   "",
   bold "USAGE:",
   "    satchel [OPTIONS] [SCRIPTS...]",
   "",
   bold "ARGUMENTS:",
   "    [SCRIPTS...]    Scripts to run before starting the REPL",
   "",
   bold "OPTIONS:",
   "    -h, --help         Print help information",
   "    -V, --version      Print version information",
   "    -b, --batch        Run scripts and exit (no REPL)",
   "    --items FILE       Item names, one per line (default: accept any name)",
   "    --load PATH        Start from a saved state",
   "    --save PATH        Write the state after running scripts",
   "    --dump             Print game data and pouch after running scripts",
   "    --halt-on-error    Stop a script at the first failing command",
   "    --trace            Log every command as it runs",
   "    -v, --verbose      More log output (repeat for more)",
   "",
   bold "EXAMPLES:",
   "    satchel                              Start interactive REPL",
   "    satchel --items items.txt run.txt    Run run.txt, then start REPL",
   "    satchel -b --dump run.txt            Run run.txt, print state, exit",
   "",
   bold "REPL COMMANDS:",
   "    :help                Show REPL commands",
   "    :pouch               Show the visible inventory",
   "    :dump [save]         Show game data or a save",
   "    Ctrl+D               Exit REPL"]

def recordLines (source : String) (record : Record) : List String :=
  (Paint.colored Paint.yellow s!"{source}:{record.number}" ++
    s!" {record.refusal.text}: {Text.trimmed record.line}") ::
    record.messages.map fun message => "    " ++ message

def reportLines (report : Report) : List String :=
  (report.records.filter fun record => !record.verdict.isExecuted).flatMap
    (recordLines (report.source.getD "<input>"))

def heading (text : String) : String := Paint.colored Paint.boldCyan text

def dumpLines (session : Session) : List String :=
  let state := session.state
  [heading "=== Game Data ==="] ++ (state.gameData.slots.describe.map fun line => "  " ++ line) ++
    [heading "=== Pouch ===", s!"Broken slots: {state.pouch.broken.val}"] ++
    ((state.pouch.views session.settings.animated).map fun view => "  " ++ view.text) ++ [""]

def failWith (text : String) : Job Sequel := do
  Job.warnLine (Repl.errorLine text)
  pure (.exit false)

def runScripts (session : Session) : List String → Job (Except Fault (Session × Bool))
  | [] => pure (.ok (session, false))
  | path :: rest => do
    match ← Job.runFile session path with
    | .error fault => pure (.error fault)
    | .ok (report, after) => do
      Job.warnLines (reportLines report)
      if report.halted then pure (.ok (after, true)) else runScripts after rest

def openCatalog : Option String → Job (Except Fault Catalog)
  | none => pure (.ok .empty)
  | some path => Job.loadCatalog path

def openState : Option String → Job (Except Fault Simulation)
  | none => pure (.ok .initial)
  | some path => Job.loadState path

def keepState (session : Session) : Option String → Job (Except Fault Unit)
  | none => pure (.ok ())
  | some path => Job.saveState session.state path

def finish (options : Options) (session : Session) (halted : Bool) : Job Sequel := do
  if options.dump then Job.printLines (dumpLines session)
  match ← keepState session options.save with
  | .error fault => failWith fault.message
  | .ok _ =>
    if halted then pure (.exit false)
    else if options.batch then pure (.exit true)
    else pure (.repl session options.scripts.isEmpty)

def work (options : Options) : Job Sequel := do
  match ← openCatalog options.items with
  | .error fault => failWith fault.message
  | .ok catalog => do
    match ← openState options.load with
    | .error fault => failWith fault.message
    | .ok state => do
      let settings := { Settings.usual with haltOnError := options.haltOnError, keepSnapshots := false }
      let session := { Session.new catalog settings with state }
      match ← runScripts session options.scripts with
      | .error fault => failWith fault.message
      | .ok (after, halted) => finish options after halted

def start (arguments : List String) : Job Sequel :=
  match Options.read arguments with
  | .error text => failWith text
  | .ok options =>
    if options.help then do
      Job.printLines help
      pure (.exit true)
    else if options.version then do
      Job.printLine ("satchel " ++ Repl.version)
      pure (.exit true)
    else work options

def run (arguments : List String) (input : List Bytes) : Job Bool := do
  match ← start arguments with
  | .exit success => pure success
  | .repl session withBanner => do
    if withBanner then Job.printLines Repl.banner
    Repl.turns session input
    pure true

def inputLine (piece : Bytes) : Bytes := if piece.getLast? = some 13 then piece.dropLast else piece

def inputLinesOf : List Bytes → List Bytes
  | [] => []
  | [last] => if last.isEmpty then [] else [last]
  | piece :: next :: rest => inputLine piece :: inputLinesOf (next :: rest)

def inputLines (input : Bytes) : List Bytes := inputLinesOf (input.splitOnP (· == 10))

end CommandLine

end Inventory
