/-
ComponentWiring.Run.Coordinator — rounds one after the other.

* `Registry` — the initializers that were generated, by application class.
* `RunReport` — what one round came to.
* `Coordinator.process` — processes a round. Sources are generated at most once: after a
  success every further round is skipped, as is a round that carries no annotation.
-/
import ComponentWiring.Java.SourceSet
import ComponentWiring.Report.Bus
import ComponentWiring.Run.Plan

namespace ComponentWiring

open Java

/-! ## 1. Handing files over -/

/-- Hands files to a filer, one after the other; the first that is not accepted ends this. -/
def fileAll {σ : Type} (filer : Filer σ) : List SourceFile → σ → Logged (List Path) × σ
  | [], s => (.done [], s)
  | f :: fs, s =>
    match filer.write f s with
    | (.error fault, s) => (.fail (.emission fault.message), s)
    | (.ok path, s) =>
      let (rest, s) := fileAll filer fs s
      (do Logged.tell [.fileEmitted f.package f.type.name (some path)]
          return path :: (← rest), s)

/-- What a successful round has generated. -/
structure Generated where
  application : String
  initializer : String
  files : List Path
deriving DecidableEq, Inhabited

/-- Plans a round and hands its files over. -/
def generate {σ : Type} (s : Settings) (filer : Filer σ) (r : Round) (state : σ) :
    Logged Generated × σ :=
  let planned := plan s r
  match planned.result with
  | .error e => (⟨planned.log, .error e⟩, state)
  | .ok p =>
    let (filed, state) := fileAll filer p.files state
    (do let p ← planned
        let files ← filed
        p.finish
        return { application := p.root.root.qualifiedName
                 initializer := p.initializer.canonicalName
                 files },
     state)

/-! ## 2. Reports -/

/-- What one round came to. -/
structure RunReport where
  round : Nat
  /-- Whether the round had nothing to do. -/
  skipped : Bool := false
  application : Option String := none
  initializer : Option String := none
  /-- The paths under which the files were accepted. -/
  files : List Path := []
  diagnostics : List Diagnostic := []
deriving DecidableEq, Inhabited

namespace RunReport

/-- The number of errors. -/
def errors (r : RunReport) : Nat := errorCount r.diagnostics

/-- Whether something was wrong. -/
def hasErrors (r : RunReport) : Bool := r.errors != 0

/-- Whether the round has generated an initializer. -/
def succeeded (r : RunReport) : Bool := !r.skipped && !r.hasErrors && r.initializer.isSome

end RunReport

/-! ## 3. Rounds -/

/-- The initializers that were generated, by application class. -/
abbrev Registry := Keyed String String

/-- What is remembered from round to round. -/
structure Coordinator where
  settings : Settings
  /-- The applications that sources were generated for. -/
  processed : List String := []
  /-- The number of rounds so far. -/
  rounds : Nat := 0
  registry : Registry := .empty
  /-- Where news is published, if anywhere. -/
  bus : Option Bus := none
deriving Inhabited

namespace Coordinator

/-- Publishes news. -/
def publish (c : Coordinator) (news : List Event) : Coordinator :=
  { c with bus := c.bus.map (·.publish news) }

/-- Remembers a success. -/
def remember (c : Coordinator) (g : Generated) : Coordinator :=
  { c with
    processed := c.processed ++ [g.application]
    registry := c.registry.insert g.application g.initializer }

/-- The report of a round that had work to do, and its log. A failure ends the log. -/
def conclude (round : Nat) (run : Logged Generated) : RunReport × Log :=
  match run.result with
  | .ok g =>
    ({ round
       application := some g.application
       initializer := some g.initializer
       files := g.files
       diagnostics := run.log.diagnostics }, run.log)
  | .error f =>
    let log := run.log.reportAll f.diagnostics
    ({ round, diagnostics := log.diagnostics }, log)

/-- Processes a round that carries the given annotations. -/
def process {σ : Type} (c : Coordinator) (filer : Filer σ) (annotations : List String)
    (r : Round) (state : σ) : RunReport × Coordinator × σ :=
  let n := c.rounds + 1
  let c := { c with rounds := n }
  if annotations.isEmpty || !c.processed.isEmpty then
    ({ round := n, skipped := true }, c.publish [.roundStarted n, .roundSkipped n], state)
  else
    let (run, state) := generate c.settings filer r state
    let (report, log) := conclude n run
    let c := match run.result with
      | .ok g => c.remember g
      | .error _ => c
    let news := .roundStarted n :: log.news
      ++ [.roundCompleted n report.files.length report.errors]
    (report, c.publish news, state)

/-- Processes a round with whichever of the supported annotations it carries. -/
def processRound {σ : Type} (c : Coordinator) (filer : Filer σ) (r : Round) (state : σ) :
    RunReport × Coordinator × σ :=
  c.process filer (r.markersPresent c.settings.framework.markers) r state

end Coordinator

end ComponentWiring
