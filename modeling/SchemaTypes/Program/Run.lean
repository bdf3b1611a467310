import SchemaTypes.Registry.Load
import SchemaTypes.Program.Options
set_option autoImplicit false

/-!
One run of the command line over the documents read so far. The inputs are taken relative to the
working directory and loaded in order into one registry, which is then rendered. Documents are read
from files only when loading reaches them: a run that reaches a file not read yet asks for it, and
the caller runs again with the file added, or noted as unreadable. Each new run replays the same
loads over more documents, so the last run is the one a reader of files on demand would make.
-/

namespace SchemaTypes.Program

open SchemaTypes.Component SchemaTypes.Location SchemaTypes.Registry

/-- What one run gives. -/
inductive Outcome where
  | rendered (text : String)
  | needs (path : String)
  | failed (message : String)
  deriving Repr, DecidableEq, Inhabited

def causedBy (doing : String) (e : SchemaError) : String :=
  doing ++ "\n\nCaused by:\n    " ++ e.message

def loadInputs (src : Source) (cwd : DocPath) (unreadable : List String) :
    Registry → List String → Except Outcome Registry
  | reg, [] => .ok reg
  | reg, input :: rest =>
    match Location.parse? input cwd with
    | none => .error (.failed (SchemaError.invalidLocation input).message)
    | some loc =>
      match reg.load src loc with
      | (reg, .ok _) => loadInputs src cwd unreadable reg rest
      | (_, .error (.read shown)) =>
        if Location.isAddress shown || unreadable.contains shown then
          .error (.failed (causedBy ("Failed to load schema " ++ input) (.read shown)))
        else .error (.needs shown)
      | (_, .error e) => .error (.failed (causedBy ("Failed to load schema " ++ input) e))

/-- Runs the command line over the documents read so far, given the files found unreadable. -/
def Options.run (opts : Options) (cwd : DocPath) (src : Source) (unreadable : List String) :
    Outcome :=
  match loadInputs src cwd unreadable (Registry.new opts.config) opts.inputs with
  | .error o => o
  | .ok reg =>
    match reg.render with
    | .ok text => .rendered text
    | .error e => .failed (causedBy "Failed to render declarations" e)

end SchemaTypes.Program
