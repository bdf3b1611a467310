import SchemaTypes.Program.Run
set_option autoImplicit false

/-!
The command line: reads the arguments, loads the schema files they name (reading each file when
loading reaches it), and writes the declarations to standard output or to the output file.
-/

open SchemaTypes SchemaTypes.Program SchemaTypes.Location SchemaTypes.Registry

partial def runReading (opts : Options) (cwd : DocPath) (src : Source) (unreadable : List String) :
    IO Outcome := do
  match opts.run cwd src unreadable with
  | .needs file =>
    match ← (IO.FS.readFile file).toBaseIO with
    | .ok text => runReading opts cwd (src.insert (.path ⟨file⟩) text) unreadable
    | .error _ => runReading opts cwd src (file :: unreadable)
  | outcome => pure outcome

/-- Generates the declarations for the schema files named on the command line. -/
def main (args : List String) : IO UInt32 := do
  match Request.parse args with
  | .error message =>
    IO.eprint ("error: " ++ message ++ "\n\nUsage: xsd-typings [OPTIONS] <INPUTS>...\n\n" ++
      "For more information, try '--help'.\n")
    return 2
  | .ok .help => IO.print usageText; return 0
  | .ok .version => IO.print versionText; return 0
  | .ok (.render opts) =>
    let cwd := (← IO.getEnv "PWD").getD "/"
    match ← runReading opts ⟨cwd⟩ {} [] with
    | .rendered text =>
      match opts.output with
      | some file => IO.FS.writeFile file text; return 0
      | none => IO.print text; return 0
    | .failed message => IO.eprintln ("Error: " ++ message); return 1
    | .needs file => IO.eprintln ("Error: failed to read " ++ file); return 1
