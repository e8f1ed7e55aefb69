/-
ComponentWiring.Main — the program on the disk.

The commands run on files and on standard output; a fault of the arguments goes to the
standard error. Everything else is decided by `Invocation.ofArguments` and `Command.run`.
-/
import ComponentWiring.CommandLine

namespace ComponentWiring

/-- What stands at a path of the disk. Reading a directory fails with the status 21. -/
def probeDisk (p : Path) : IO Probe := do
  if let some o := p.obstacle? then return .blocked o
  try return .file (← IO.FS.readFile p.text)
  catch
    | .noFileOrDirectory .. => return .missing
    | .inappropriateType _ 21 _ => return .folder
    | .inappropriateType .. => return .blocked .file
    | .invalidArgument .. => return .blocked .tooLong
    | _ => return .blocked .denied

/-- Writes a file of the disk and the directories above it. -/
def writeDisk (p : Path) (content : String) : IO Bool := do
  try
    let folder := p.folder
    if !folder.text.isEmpty then IO.FS.createDirAll folder.text
    IO.FS.writeFile p.text content
    return true
  catch _ => return false

/-- The file where the user keeps settings for all projects. -/
def userSettingsFile : IO (Option Path) := do
  match ← IO.getEnv "XDG_CONFIG_HOME" with
  | some folder =>
    if (Path.mk folder).isAbsolute then return some ((Path.mk folder).join ⟨"october/october.toml"⟩)
  | none => pure ()
  return (← IO.getEnv "HOME").map fun home => (Path.mk home).join ⟨".config/october/october.toml"⟩

/-- The host that is the disk. -/
def diskHost : Host IO where
  probe := probeDisk
  userSettings := do
    match ← userSettingsFile with
    | some p => probeDisk p
    | none => return .missing
  write := writeDisk
  print := IO.println

end ComponentWiring

open ComponentWiring in
/-- Runs the program. -/
def main (arguments : List String) : IO UInt32 := do
  match Invocation.ofArguments arguments with
  | .print text => IO.print text; return 0
  | .misuse fault => IO.eprint fault.message; return 2
  | .run c =>
    let result ← (c.run diskHost).run
    if let .error fault := result then IO.eprintln ("error: " ++ fault.message)
    return (exitStatus result).toUInt32
