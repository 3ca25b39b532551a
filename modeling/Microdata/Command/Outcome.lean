import Microdata.Command.Directory
import Microdata.Console.Line
import Microdata.Console.Styled
import Microdata.Template.Render
set_option autoImplicit false

/-!
Runs of commands. A run is a list of steps and, at its end, a result or what it broke off with: an
exit code, or an exception that no command answers. `Directory.play` carries out the steps on a
directory; one that fails ends the run with an exception of its own.
-/

namespace Microdata

inductive Stream where
  | output | error
  deriving DecidableEq, Repr

inductive Effect where
  | display (stream : Stream) (lines : List String)
  | save (path : FilePath) (text : String)
  deriving DecidableEq, Repr

inductive Exception where
  | fault (f : Fault)
  | template (e : TemplateError)
  | file (problem : FileProblem) (path : FilePath)
  | style (e : Styled.Problem)
  deriving DecidableEq, Repr

def Exception.message : Exception → String
  | fault f => f.message
  | template e => e.message
  | file problem path => problem.message path
  | style e => e.message

def RenderError.exception : RenderError → Exception
  | template e => .template e
  | fault f => .fault f

/-- What a run breaks off with. -/
inductive Break where
  | exit (code : Nat)
  | raised (e : Exception)
  deriving DecidableEq, Repr

structure Run (α : Type) where
  steps : List Effect
  result : Except Break α

namespace Run

variable {α β : Type}

def done (a : α) : Run α := ⟨[], .ok a⟩

def andThen (r : Run α) (f : α → Run β) : Run β :=
  match r.result with
  | .error b => ⟨r.steps, .error b⟩
  | .ok a => ⟨r.steps ++ (f a).steps, (f a).result⟩

instance : Monad Run where
  pure := done
  bind := andThen

def exit (code : Nat) : Run α := ⟨[], .error (.exit code)⟩

def raise (e : Exception) : Run α := ⟨[], .error (.raised e)⟩

def display (stream : Stream) (lines : List String) : Run Unit := ⟨[.display stream lines], .ok ()⟩

def save (path : FilePath) (text : String) : Run Unit := ⟨[.save path text], .ok ()⟩

def orRaise {ε : Type} (raising : ε → Exception) : Except ε α → Run α
  | .ok a => done a
  | .error e => raise (raising e)

def say (stream : Stream) (styled : String) : Run Unit := do
  let s ← orRaise .style (Styled.shown styled)
  display stream (Console.folded Console.columns s)

def refuse (styled : String) (code : Nat := 1) : Run α := do
  say .error styled
  exit code

/-- The exit code of a run, zero if it did not break off, or the exception that it raises. -/
def status (r : Run α) : Except Exception Nat :=
  match r.result with
  | .ok _ => .ok 0
  | .error (.exit code) => .ok code
  | .error (.raised e) => .error e

end Run

/-- What a run leaves behind, and how it ends. -/
structure Outcome where
  status : Except Exception Nat
  output : List String := []
  error : List String := []
  directory : Directory := {}

namespace Outcome

/-- The exit code of the program: one for an exception. -/
def code (o : Outcome) : Nat :=
  match o.status with
  | .ok code => code
  | .error _ => 1

/-- One step; a text that cannot be saved ends the run. -/
def after (o : Outcome) : Effect → Except Outcome Outcome
  | .display .output lines => .ok { o with output := o.output ++ lines }
  | .display .error lines => .ok { o with error := o.error ++ lines }
  | .save path text =>
    match o.directory.write path text with
    | .ok d => .ok { o with directory := d }
    | .error problem => .error { o with status := .error (.file problem path) }

def afterAll (o : Outcome) : List Effect → Outcome
  | [] => o
  | step :: rest =>
    match o.after step with
    | .ok o => o.afterAll rest
    | .error o => o

def settle (o : Outcome) : Outcome :=
  { o with output := Console.settle o.output, error := Console.settle o.error }

end Outcome

def Directory.play {α : Type} (d : Directory) (r : Run α) : Outcome :=
  (Outcome.afterAll { status := r.status, directory := d } r.steps).settle

end Microdata
