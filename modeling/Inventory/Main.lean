import Inventory.Shell.CommandLine

set_option autoImplicit false

namespace Inventory

def obstacleOf : IO.Error → Obstacle
  | .noFileOrDirectory .. => .notFound
  | .inappropriateType _ 21 _ => .isDirectory
  | .inappropriateType _ 20 _ => .notDirectory
  | .invalidArgument _ 36 _ => .nameTooLong
  | .resourceExhausted _ 28 _ => .noSpace
  | .permissionDenied _ code text => .other s!"{text} (os error {code})"
  | error => .other (toString error)

def readHandle (file : IO.FS.Handle) : IO (Except ReadFailure Bytes) := do
  try
    let content ← file.readBinToEnd
    pure (.ok content.data.toList)
  catch error => pure (.error (.reading (obstacleOf error)))

def readDisk (path : String) : IO (Except ReadFailure Bytes) := do
  try readHandle (← IO.FS.Handle.mk path .read)
  catch error => pure (.error (.opening (obstacleOf error)))

def writeHandle (file : IO.FS.Handle) (content : Bytes) : IO (Except WriteFailure Unit) := do
  try
    file.write ⟨content.toArray⟩
    file.flush
    pure (.ok ())
  catch error => pure (.error (.storing (obstacleOf error)))

def writeDisk (path : String) (content : Bytes) : IO (Except WriteFailure Unit) := do
  try writeHandle (← IO.FS.Handle.mk path .write) content
  catch error => pure (.error (.creating (obstacleOf error)))

def Job.toIO {α : Type} : Job α → IO α
  | done result => pure result
  | read path next => do (next (← readDisk path)).toIO
  | write path content next => do (next (← writeDisk path content)).toIO
  | print line next => do
    IO.println line
    next.toIO
  | warn line next => do
    IO.eprintln line
    next.toIO

partial def readLine (input : IO.FS.Stream) (line : Array UInt8) : IO (Option Bytes) := do
  let chunk ← input.read 1
  match chunk.data.toList with
  | [] => pure (if line.isEmpty then none else some line.toList)
  | byte :: _ =>
    if byte = 10 then pure (some (CommandLine.inputLine line.toList))
    else readLine input (line.push byte)

partial def replLoop (input : IO.FS.Stream) (session : Session) : IO Unit := do
  match ← readLine input #[] with
  | none => (Job.printLines Repl.farewell).toIO
  | some line =>
    match ← (Repl.turn session line).toIO with
    | some after => replLoop input after
    | none => (Job.printLines Repl.farewell).toIO

end Inventory

open Inventory in
def main (arguments : List String) : IO UInt32 := do
  match ← (CommandLine.start arguments).toIO with
  | .exit success => pure (if success then 0 else 1)
  | .repl session withBanner => do
    if withBanner then (Job.printLines Repl.banner).toIO
    replLoop (← IO.getStdin) session
    pure 0
