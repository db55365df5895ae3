import Inventory.Basic
import Inventory.Text.Basic

set_option autoImplicit false

namespace Inventory

inductive Obstacle where
  | notFound
  | isDirectory
  | notDirectory
  | nameTooLong
  | badName
  | noSpace
  | other (text : String)
deriving DecidableEq

def Obstacle.text : Obstacle → String
  | notFound => "No such file or directory (os error 2)"
  | isDirectory => "Is a directory (os error 21)"
  | notDirectory => "Not a directory (os error 20)"
  | nameTooLong => "File name too long (os error 36)"
  | badName => "file name contained an unexpected NUL byte"
  | noSpace => "No space left on device (os error 28)"
  | other text => text

inductive ReadFailure where
  | opening (obstacle : Obstacle)
  | reading (obstacle : Obstacle)
deriving DecidableEq

def ReadFailure.obstacle : ReadFailure → Obstacle
  | opening obstacle => obstacle
  | reading obstacle => obstacle

inductive WriteFailure where
  | creating (obstacle : Obstacle)
  | storing (obstacle : Obstacle)
deriving DecidableEq

inductive Job (α : Type) where
  | done (result : α)
  | read (path : String) (next : Except ReadFailure Bytes → Job α)
  | write (path : String) (content : Bytes) (next : Except WriteFailure Unit → Job α)
  | print (line : String) (next : Job α)
  | warn (line : String) (next : Job α)

namespace Job

variable {α β : Type}

def andThen : Job α → (α → Job β) → Job β
  | done result, f => f result
  | read path next, f => read path fun content => (next content).andThen f
  | write path content next, f => write path content fun outcome => (next outcome).andThen f
  | print line next, f => print line (next.andThen f)
  | warn line next, f => warn line (next.andThen f)

instance : Monad Job where
  pure := done
  bind := andThen

def readFile (path : String) : Job (Except ReadFailure Bytes) := read path done

def writeFile (path : String) (content : Bytes) : Job (Except WriteFailure Unit) :=
  write path content done

def printLine (line : String) : Job Unit := print line (done ())

def warnLine (line : String) : Job Unit := warn line (done ())

def printLines : List String → Job Unit
  | [] => done ()
  | line :: rest => print line (printLines rest)

def warnLines : List String → Job Unit
  | [] => done ()
  | line :: rest => warn line (warnLines rest)

def readText (label path : String) : Job (Except Fault String) := do
  let fault (reason : String) : Fault := .io s!"failed to read {label} '{path}': {reason}"
  match ← readFile path with
  | .error failure => pure (.error (fault failure.obstacle.text))
  | .ok content =>
    match Text.ofUtf8? content with
    | some text => pure (.ok text)
    | none => pure (.error (fault "stream did not contain valid UTF-8"))

end Job

end Inventory
