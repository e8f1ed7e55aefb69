/-
ComponentWiring.Project — a project with its settings and its declared classes.

* `Project.ofDeclarations` — a project from the types of its class index.
* `Project.generateOn` — one round over all declared classes, with a bus for its news.
* `Project.generate` — the same without a bus.
-/
import ComponentWiring.Declared.Platform
import ComponentWiring.Run.Coordinator

namespace ComponentWiring

open Java

/-- A loaded project. -/
structure Project where
  root : Path
  settings : Settings
  /-- The file of the class index. -/
  indexFile : Path
  /-- The types of the platform and of the project. -/
  store : TypeStore
  /-- The names that the project declares, in order. -/
  declared : List String
deriving Inhabited

namespace Project

/-- A project that declares the given types. -/
def ofDeclarations (root : Path) (s : Settings) (types : List TypeElement) : Project where
  root := root
  settings := s
  indexFile := root.join s.generation.indexFile
  store := (Platform.store s.framework).insertAll types
  declared := types.map (·.qualifiedName)

/-- The directory of the generated sources. -/
def outputDir (p : Project) : Path := p.root.join p.settings.generation.outputDir

/-- The one round of a project: all its declared classes are root types. -/
def round (p : Project) : Round := { store := p.store, roots := p.declared }

/-- Rendered sources with the indentation of the project; there are none yet. -/
def noSources (p : Project) : SourceSet := .empty p.settings.generation.indent

/-- Generates the sources of the project and publishes the news on a bus, if there is one. -/
def generateOn {σ : Type} (p : Project) (bus : Option Bus) (filer : Filer σ) (state : σ) :
    RunReport × Option Bus × σ :=
  let (report, c, state) :=
    ({ settings := p.settings, bus } : Coordinator).processRound filer p.round state
  (report, c.bus, state)

/-- Generates the sources of the project. -/
def generate {σ : Type} (p : Project) (filer : Filer σ) (state : σ) : RunReport × σ :=
  let (report, _, state) := p.generateOn none filer state
  (report, state)

end Project

end ComponentWiring
