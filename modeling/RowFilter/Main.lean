import RowFilter.Command.Conclusion

/-! The program: files and standard input are the real ones, errors go to standard error, and the
    exit code tells what went wrong. -/

namespace RowFilter.Program

/-- Does an action, and tells whether it succeeded. -/
def succeeds (action : IO Unit) : IO Bool := do
  try
    action
    return true
  catch _ => return false

/-- Gives the result of an action, if it succeeds. -/
def result? {α : Type} (action : IO α) : IO (Option α) := do
  try
    return some (← action)
  catch _ => return none

/-- Access to the files of the machine. -/
def files : Files IO where
  isPresent path := succeeds do
    let _ ← IO.FS.Handle.mk path .read
  read path := result? (IO.FS.readFile path)
  write path content := succeeds (IO.FS.writeFile path content)
  makeDirectory path := succeeds do
    unless path.isEmpty do
      IO.FS.createDirAll path
  input := result? do (← IO.getStdin).readToEnd

/-- The environment of the run. -/
def environment : IO Environment := do
  return ⟨← IO.getEnv "RQ_CONFIG", ← IO.getEnv "XDG_CONFIG_HOME", ← IO.getEnv "HOME",
    ← IO.getEnv "NO_COLOR"⟩

/-- Prints the outcome of a run, and gives the exit code. -/
def conclude (o : Outcome) : IO UInt32 := do
  IO.print o.out
  IO.eprint o.err
  return o.exitCode.toUInt32

end RowFilter.Program

def main (arguments : List String) : IO UInt32 := do
  let e ← RowFilter.Program.environment
  RowFilter.Program.conclude (← RowFilter.Command.runArguments RowFilter.Program.files e arguments)
