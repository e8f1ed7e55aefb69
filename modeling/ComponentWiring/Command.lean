/-
ComponentWiring.Command — what can be done with a project.

* `Command` — generating sources, checking a project, writing a settings file.
* `Host` — the files and the output that a command works with.
* `Command.run` — runs a command on a host.

A command is the same on every host: on a disk, or on a tree of files that is a value.
-/
import ComponentWiring.Declared.Reader
import ComponentWiring.FileTree
import ComponentWiring.Project
import ComponentWiring.Settings.Document

namespace ComponentWiring

open Java

/-! ## 1. Commands -/

/-- What can be done with a project. -/
inductive Command
  /-- Generates the sources and writes them below the output directory. -/
  | generate (project : Path) (index out : Option Path)
  /-- Says what would be generated. -/
  | check (project : Path) (index : Option Path)
  /-- Writes a settings file with all defaults. -/
  | init (project : Path) (force : Bool)
deriving DecidableEq, Inhabited

/-- Why the settings of a project could not be loaded. -/
inductive LoadFault
  | refused (fault : SettingsFileFault)
  /-- A directory stands where the settings file should. -/
  | folder
  /-- The place where the settings file should lie cannot be reached. -/
  | blocked (cause : Obstacle)
deriving DecidableEq

/-- Why a command could not be carried out. -/
inductive CommandFault
  | settings (root : Path) (fault : LoadFault)
  | index (file : Path)
  | output (folder : Path)
  /-- The settings file is there already. -/
  | settingsExist (file : Path)
  | settingsOutput (file : Path)
  /-- The place where the settings file should lie cannot be reached. -/
  | unreachable (cause : Obstacle)
deriving DecidableEq, Inhabited

/-- A path between quotes. -/
def Path.quoted (p : Path) : String := Text.quoted p.text

/-- The fault in words. -/
def CommandFault.message : CommandFault → String
  | .settings root _ => "Failed to load configuration for " ++ root.quoted
  | .index file => "Failed to read declaration index " ++ file.quoted
  | .output folder => "Failed to write generated sources to " ++ folder.quoted
  | .settingsExist file => file.quoted ++ " already exists. Use --force to overwrite it"
  | .settingsOutput file => "Failed to write " ++ file.quoted
  | .unreachable cause => cause.message

/-- What a command has come to. -/
inductive CommandResult
  | report (r : RunReport)
  /-- The settings file was written. -/
  | created (file : Path)
deriving DecidableEq, Inhabited

/-- Whether nothing was wrong. -/
def CommandResult.isSuccess : CommandResult → Bool
  | .report r => !r.hasErrors
  | .created _ => true

/-! ## 2. Hosts -/

/-- The files and the output that a command works with. -/
structure Host (m : Type → Type) where
  probe : Path → m Probe
  /-- What stands where the user keeps settings for all projects. -/
  userSettings : m Probe
  /-- Writes a file and the directories above it; the answer says whether this was possible. -/
  write : Path → String → m Bool
  /-- Prints a line. -/
  print : String → m Unit

/-! ## 3. Running commands -/

section
variable {m : Type → Type} [Monad m] (host : Host m)

/-- The settings of the first place where something stands, or the defaults. -/
def settingsAmong : List (m Probe) → m (Except LoadFault Settings)
  | [] => return .ok {}
  | probe :: rest => do
    match ← probe with
    | .missing => settingsAmong rest
    | .file content => return (Settings.ofText content).mapError .refused
    | .folder => return .error .folder
    | .blocked cause => return .error (.blocked cause)

/-- Loads a project. Its own settings count before those of the user. -/
def loadProject (root : Path) (index : Option Path) : ExceptT CommandFault m Project := do
  let loaded ← settingsAmong [host.probe (root.join Settings.fileName), host.userSettings]
  let settings ← MonadExcept.ofExcept (loaded.mapError (.settings root))
  let indexFile := root.join (index.getD settings.generation.indexFile)
  let .file content ← host.probe indexFile | throw (.index indexFile)
  match readIndex (.ofPath indexFile) content with
  | .ok types => return { Project.ofDeclarations root settings types with indexFile }
  | .error _ => throw (.index indexFile)

/-- Prints lines. -/
def printAll (lines : List String) : ExceptT CommandFault m Unit :=
  lines.forM fun l => host.print l

/-- A path as a line of a listing. -/
def listed (p : Path) : String := "  " ++ p.text

/-- The lines for the messages that wait for the first subscription of a bus. Other news is
not shown. -/
def heard (bus : Option Bus) : List String :=
  let news := bus.elim [] fun b => (b.drain 0).1
  (news.filterMap Event.diagnostic?).map (·.text)

/-- Writes sources below a directory. -/
def writeSources (folder : Path) : List Source → ExceptT CommandFault m Unit
  | [] => return ()
  | s :: rest => do
    if ← host.write (folder.join s.path) s.text then writeSources folder rest
    else throw (.output folder)

/-- Generates the sources of a project and writes them, if nothing is wrong. The messages are
heard on a bus. -/
def runGenerate (root : Path) (index out : Option Path) : ExceptT CommandFault m RunReport := do
  let project ← loadProject host root index
  let folder := out.getD project.outputDir
  let (report, bus, sources) :=
    project.generateOn (some Bus.empty.subscribe) SourceSet.filer project.noSources
  printAll host (heard bus)
  if !report.hasErrors then
    writeSources host folder sources.sources
    printAll host (sources.sources.map fun s => listed (folder.join s.path))
  return report

/-- Generates the sources of a project and lists them, if nothing is wrong. The messages are
those of the report. -/
def runCheck (root : Path) (index : Option Path) : ExceptT CommandFault m RunReport := do
  let project ← loadProject host root index
  let (report, sources) := project.generate SourceSet.filer project.noSources
  printAll host (report.diagnostics.map (·.text))
  if !report.hasErrors then
    printAll host ("Planned files:" :: sources.sources.map fun s => listed s.path)
  return report

/-- Writes the default settings, which takes force where a settings file is. -/
def runInit (root : Path) (force : Bool) : ExceptT CommandFault m Path := do
  let file := root.join Settings.fileName
  if !force then
    match ← host.probe file with
    | .missing => pure ()
    | .blocked cause => throw (.unreachable cause)
    | .file _ | .folder => throw (.settingsExist file)
  let some text := ({} : Settings).save? | throw (.settingsOutput file)
  if !(← host.write file text) then throw (.settingsOutput file)
  host.print ("Created " ++ file.text)
  return file

/-- Runs a command. -/
def Command.run : Command → ExceptT CommandFault m CommandResult
  | .generate project index out => .report <$> runGenerate host project index out
  | .check project index => .report <$> runCheck host project index
  | .init project force => .created <$> runInit host project force

end

/-! ## 4. The host that is a value -/

/-- A tree of files with the user's settings, and the lines printed so far. -/
structure World where
  tree : FileTree
  userSettings : Option String := none
  printed : List String := []

/-- The commands' view of a world. -/
def World.host : Host (StateM World) where
  probe p := do return (← get).tree.probe p
  userSettings := do return (← get).userSettings.elim .missing .file
  write p content := fun w =>
    match w.tree.write? p content with
    | some tree => (true, { w with tree })
    | none => (false, w)
  print line := modify fun w => { w with printed := w.printed ++ [line] }

/-- Runs a command in a world. -/
def World.run (w : World) (c : Command) : Except CommandFault CommandResult × World :=
  (c.run World.host).run.run w

/-- The exit status of a command: one where something was wrong. -/
def exitStatus : Except CommandFault CommandResult → Nat
  | .ok r => if r.isSuccess then 0 else 1
  | .error _ => 1

end ComponentWiring
