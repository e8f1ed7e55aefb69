/-
ComponentWiring.Proofs.Command.Preview — checking a project foretells generating its sources.

* `World.does` — what work on the files and the output comes to in a world.
* `World.OnlyReads`, `World.load` — loading a project leaves no trace.
* `World.does_writeSources` — sources are written until one cannot be written.
* `Project.generateOn_agree`, `Project.heard_generateOn` — a listener changes nothing about a round
  and hears the messages of its report.
* `World.Foretells`, `World.check_foretells_generate` — what the two commands come to in the same
  world.

Checking takes its lines from the report, generating from a bus; checking lists what the set of
sources holds, generating writes it. Both start from the same round.
-/
import ComponentWiring.Command
import ComponentWiring.Proofs.Run.News

namespace ComponentWiring

open Java

variable {α β : Type}

/-! ## 1. Work in a world -/

namespace World

/-- What work on the files and the output comes to in a world. -/
def does (w : World) (work : ExceptT CommandFault (StateM World) α) :
    Except CommandFault α × World :=
  work.run.run w

/-- The world with more lines printed. -/
def printing (w : World) (lines : List String) : World := { w with printed := w.printed ++ lines }

@[simp] theorem tree_printing (w : World) (lines : List String) : (w.printing lines).tree = w.tree :=
  rfl

@[simp] theorem printing_nil (w : World) : w.printing [] = w := by
  simp [printing]

@[simp] theorem printing_printing (w : World) (lines more : List String) :
    (w.printing lines).printing more = w.printing (lines ++ more) := by
  simp [printing]

theorem does_pure (w : World) (a : α) : w.does (pure a) = (.ok a, w) := rfl

theorem does_bind_of_ok {w w' : World} {x : ExceptT CommandFault (StateM World) α} {a : α}
    (done : w.does x = (.ok a, w')) (next : α → ExceptT CommandFault (StateM World) β) :
    w.does (x >>= next) = w'.does (next a) := by
  have first : x.run.run w = (.ok a, w') := done
  simp only [does, ExceptT.run_bind, StateT.run_bind, first]
  rfl

theorem does_bind_of_error {w w' : World} {x : ExceptT CommandFault (StateM World) α}
    {fault : CommandFault} (failed : w.does x = (.error fault, w'))
    (next : α → ExceptT CommandFault (StateM World) β) :
    w.does (x >>= next) = (.error fault, w') := by
  have first : x.run.run w = (.error fault, w') := failed
  simp only [does, ExceptT.run_bind, StateT.run_bind, first]
  rfl

theorem does_map_of_ok {w w' : World} {x : ExceptT CommandFault (StateM World) α} {a : α}
    (done : w.does x = (.ok a, w')) (f : α → β) : w.does (f <$> x) = (.ok (f a), w') := by
  rw [map_eq_pure_bind, does_bind_of_ok done, does_pure]

theorem does_map_of_error {w w' : World} {x : ExceptT CommandFault (StateM World) α}
    {fault : CommandFault} (failed : w.does x = (.error fault, w')) (f : α → β) :
    w.does (f <$> x) = (.error fault, w') := by
  rw [map_eq_pure_bind, does_bind_of_error failed]

/-- Lines are printed behind those that are printed already. -/
theorem does_printAll (w : World) (lines : List String) :
    w.does (printAll host lines) = (.ok (), w.printing lines) := by
  induction lines generalizing w with
  | nil =>
    rw [printing_nil]
    rfl
  | cons line rest ih =>
    have first : w.does (host.print line) = (.ok (), w.printing [line]) := rfl
    have later := does_bind_of_ok first fun _ => printAll host rest
    rw [ih, printing_printing] at later
    exact later

theorem does_write (w : World) (p : Path) (text : String) :
    w.does (liftM (host.write p text)) =
      match w.tree.write? p text with
      | some tree => (.ok true, { w with tree })
      | none => (.ok false, w) := by
  show (Except.ok (host.write p text w).1, (host.write p text w).2) = _
  simp only [host]
  cases w.tree.write? p text <;> rfl

/-! ## 2. Loading and writing -/

/-- Work that changes nothing in any world. -/
def OnlyReads (work : ExceptT CommandFault (StateM World) α) : Prop :=
  ∀ w : World, (w.does work).2 = w

theorem onlyReads_pure (a : α) :
    OnlyReads (pure a : ExceptT CommandFault (StateM World) α) := fun _ => rfl

theorem onlyReads_throw (fault : CommandFault) :
    OnlyReads (throw fault : ExceptT CommandFault (StateM World) α) := fun _ => rfl

theorem onlyReads_ofExcept (r : Except CommandFault α) :
    OnlyReads (MonadExcept.ofExcept r : ExceptT CommandFault (StateM World) α) := by
  cases r with
  | error fault => exact onlyReads_throw fault
  | ok a => exact onlyReads_pure a

theorem onlyReads_probe (p : Path) :
    OnlyReads (liftM (host.probe p) : ExceptT CommandFault (StateM World) Probe) := fun _ => rfl

theorem OnlyReads.bind {x : ExceptT CommandFault (StateM World) α}
    {next : α → ExceptT CommandFault (StateM World) β} (h : OnlyReads x)
    (h' : ∀ a, OnlyReads (next a)) : OnlyReads (x >>= next) := by
  intro w
  have same := h w
  rcases first : w.does x with ⟨result, w'⟩
  rw [first] at same
  subst same
  cases result with
  | ok a =>
    rw [does_bind_of_ok first]
    exact h' a _
  | error fault => rw [does_bind_of_error first]

theorem onlyReads_settingsAmong {places : List (ExceptT CommandFault (StateM World) Probe)}
    (h : ∀ probe ∈ places, OnlyReads probe) : OnlyReads (settingsAmong places) := by
  induction places with
  | nil => exact onlyReads_pure _
  | cons probe rest ih =>
    have later := ih fun p hp => h p (List.mem_cons_of_mem _ hp)
    refine (h probe List.mem_cons_self).bind fun found => ?_
    cases found with
    | missing => exact later
    | file content => exact onlyReads_pure _
    | folder => exact onlyReads_pure _
    | blocked cause => exact onlyReads_pure _

theorem onlyReads_loadProject (root : Path) (index : Option Path) :
    OnlyReads (loadProject host root index) := by
  unfold loadProject
  refine OnlyReads.bind (onlyReads_settingsAmong ?_) fun loaded => ?_
  · intro probe hp
    rcases List.mem_cons.mp hp with rfl | hp
    · exact onlyReads_probe _
    · obtain rfl := List.mem_singleton.mp hp
      exact fun _ => rfl
  refine (onlyReads_ofExcept _).bind fun settings => (onlyReads_probe _).bind fun found => ?_
  cases found with
  | file content =>
    dsimp only
    split
    · exact onlyReads_pure _
    · exact onlyReads_throw _
  | missing => exact onlyReads_throw _
  | folder => exact onlyReads_throw _
  | blocked cause => exact onlyReads_throw _

/-- The project of a directory in a world, or why there is none. -/
def load (w : World) (root : Path) (index : Option Path) : Except CommandFault Project :=
  (w.does (loadProject host root index)).1

theorem does_loadProject (w : World) (root : Path) (index : Option Path) :
    w.does (loadProject host root index) = (w.load root index, w) :=
  Prod.ext rfl (onlyReads_loadProject root index w)

/-- Sources with their places below a folder. -/
def placed (folder : Path) (sources : List Source) : List (Path × String) :=
  sources.map fun s => (folder.join s.path, s.text)

/-- Sources are written one after the other, until one cannot be written. -/
theorem does_writeSources (w : World) (folder : Path) (sources : List Source) :
    match w.tree.writeAll? (placed folder sources) with
    | some tree => w.does (writeSources host folder sources) = (.ok (), { w with tree })
    | none => ∃ tree, w.does (writeSources host folder sources) =
        (.error (.output folder), { w with tree }) := by
  induction sources generalizing w with
  | nil => rfl
  | cons s rest ih =>
    have all : w.tree.writeAll? (placed folder (s :: rest)) =
        (w.tree.write? (folder.join s.path) s.text).bind fun tree =>
          tree.writeAll? (placed folder rest) := rfl
    have first := does_write w (folder.join s.path) s.text
    rw [all]
    cases written : w.tree.write? (folder.join s.path) s.text with
    | none =>
      rw [written] at first
      exact ⟨w.tree, does_bind_of_ok first _⟩
    | some tree =>
      rw [written] at first
      have step : w.does (writeSources host folder (s :: rest)) =
          World.does { w with tree } (writeSources host folder rest) := does_bind_of_ok first _
      rw [step]
      exact ih { w with tree }

end World

/-! ## 3. The round of a project -/

/-- The messages of a report as lines. -/
def RunReport.lines (r : RunReport) : List String := r.diagnostics.map (·.text)

/-- A call without errors was skipped, or leaves all files of its plan behind. -/
theorem Coordinator.sources_of_no_errors {c : Coordinator} {annotations : List String} {r : Round}
    {width : Nat}
    (quiet : (c.process SourceSet.filer annotations r (.empty width)).1.hasErrors = false) :
    let called := c.process SourceSet.filer annotations r (.empty width)
    (called.1.skipped = true ∧ called.2.2.sources = []) ∨
      called.1.skipped = false ∧ ∃ p, (plan c.settings r).result = .ok p ∧
        called.2.2.sources = p.files.map (·.kept width) ∧ ∀ f ∈ p.files, f.Renders width := by
  intro called
  by_cases idle : c.IsIdle annotations
  · have skipped : called = _ := process_of_idle idle SourceSet.filer r (.empty width)
    left
    rw [skipped]
    exact ⟨rfl, rfl⟩
  · right
    have succeeded : called.1.succeeded = true := by
      refine (process_succeeded_iff c SourceSet.filer annotations r (.empty width)).mpr ⟨idle, ?_⟩
      cases result : (generate c.settings SourceSet.filer r (.empty width)).1.result with
      | ok g => exact ⟨g, rfl⟩
      | error fault =>
        have failed := (process_hasErrors_iff c SourceSet.filer annotations r (.empty width)).mpr
          ⟨idle, fault, result⟩
        rw [quiet] at failed
        cases failed
    obtain ⟨p, planned, renders, kept, -⟩ := filed_of_succeeded succeeded
    refine ⟨?_, p, planned, kept, renders⟩
    have worked := succeeded
    simp only [RunReport.succeeded, Bool.and_eq_true, Bool.not_eq_true'] at worked
    exact worked.1.1

theorem forall₂_kept {width : Nat} {fs : List SourceFile} (renders : ∀ f ∈ fs, f.Renders width) :
    List.Forall₂ (fun (f : SourceFile) (s : Source) =>
      s.path = f.path ∧ f.render width = .ok s.text) fs (fs.map (·.kept width)) := by
  rw [List.forall₂_map_right_iff, List.forall₂_same]
  intro f hf
  obtain ⟨text, rendered⟩ := renders f hf
  simp [SourceFile.kept, rendered, Except.toOption]

namespace Project

variable (p : Project)

/-- The report of the round of a project. -/
def report : RunReport := (p.generate SourceSet.filer p.noSources).1

/-- The sources that the round of a project leaves behind. -/
def sources : List Source := (p.generate SourceSet.filer p.noSources).2.sources

/-- Whoever listens changes nothing about a round. -/
theorem generateOn_agree (bus : Option Bus) :
    let listened := p.generateOn bus SourceSet.filer p.noSources
    listened.1 = p.report ∧ listened.2.2.sources = p.sources := by
  let k : Call := ⟨SourceSet.filer, p.noSources, none, p.round⟩
  obtain ⟨report, filed⟩ := Coordinator.call_agree (Coordinator.start p.settings .empty bus)
    (Coordinator.start p.settings) rfl rfl k
  have round := (Coordinator.call_round (Coordinator.start p.settings) k).1
  refine ⟨report.trans ?_, congrArg SourceSet.sources filed⟩
  exact congrArg (fun n => { p.report with round := n }) round.symm

/-- A listener who subscribed before the round hears the messages of its report. -/
theorem heard_generateOn :
    heard (p.generateOn (some Bus.empty.subscribe) SourceSet.filer p.noSources).2.1 =
      p.report.lines := by
  let k : Call := ⟨SourceSet.filer, p.noSources, none, p.round⟩
  let c := Coordinator.start p.settings .empty (some Bus.empty.subscribe)
  obtain ⟨news, published, told⟩ := Coordinator.call_bus c k
  have bus : (p.generateOn (some Bus.empty.subscribe) SourceSet.filer p.noSources).2.1 =
      some (Bus.empty.subscribe.publish news) := published
  have waiting : (Bus.empty.subscribe.publish news).waiting 0 = news :=
    Bus.waiting_publish Bus.empty.subscribe news 0 rfl
  have same : (c.step k).report = p.report := (generateOn_agree p _).1
  rw [bus]
  show (((Bus.empty.subscribe.publish news).waiting 0).filterMap Event.diagnostic?).map _ = _
  rw [waiting, told.diagnostics, same]
  rfl

/-- A round without errors was skipped, or left all files of its plan behind, rendered with the
indentation of the project. -/
theorem sources_rendered (quiet : p.report.hasErrors = false) :
    (p.report.skipped = true ∧ p.sources = []) ∨
      p.report.skipped = false ∧ ∃ q, (plan p.settings p.round).result = .ok q ∧
        List.Forall₂ (fun (f : SourceFile) (s : Source) =>
          s.path = f.path ∧ f.render p.settings.generation.indent = .ok s.text)
          q.files p.sources := by
  rcases Coordinator.sources_of_no_errors (c := { settings := p.settings }) quiet with
    skipped | ⟨worked, q, planned, kept, renders⟩
  · exact .inl skipped
  · refine .inr ⟨worked, q, planned, ?_⟩
    have same : p.sources = q.files.map (·.kept p.settings.generation.indent) := kept
    rw [same]
    exact forall₂_kept renders

end Project

/-! ## 4. Checking and generating -/

namespace World

variable {w : World} {root : Path} {index : Option Path} {p : Project}

/-- Checking prints the messages and lists the sources. -/
theorem does_runCheck (loaded : w.load root index = .ok p) :
    w.does (runCheck host root index) = (.ok p.report, w.printing (p.report.lines ++
      if p.report.hasErrors then [] else
        "Planned files:" :: p.sources.map fun s => listed s.path)) := by
  have load := does_loadProject w root index
  rw [loaded] at load
  unfold runCheck Project.report Project.sources
  rw [does_bind_of_ok load]
  generalize p.generate SourceSet.filer p.noSources = run
  obtain ⟨report, set⟩ := run
  dsimp only
  rw [does_bind_of_ok (does_printAll w _)]
  cases errors : report.hasErrors with
  | true => simp [does_pure, RunReport.lines]
  | false =>
    simp only [Bool.not_false, if_true]
    rw [does_bind_of_ok (does_printAll _ _), does_pure, printing_printing]
    rfl

/-- Generating prints the messages and, if nothing is wrong, writes the sources. -/
theorem does_runGenerate (loaded : w.load root index = .ok p) (out : Option Path) :
    w.does (runGenerate host root index out) =
      (w.printing p.report.lines).does (do
        if !p.report.hasErrors then
          let folder := out.getD p.outputDir
          writeSources host folder p.sources
          printAll host (p.sources.map fun s => listed (folder.join s.path))
        return p.report) := by
  have load := does_loadProject w root index
  rw [loaded] at load
  obtain ⟨report, sources⟩ := p.generateOn_agree (some Bus.empty.subscribe)
  have heard := p.heard_generateOn
  unfold runGenerate
  rw [does_bind_of_ok load, ← heard, ← report, ← sources]
  generalize p.generateOn (some Bus.empty.subscribe) SourceSet.filer p.noSources = run
  obtain ⟨report, bus, set⟩ := run
  dsimp only
  rw [does_bind_of_ok (does_printAll w _)]

/-- What checking a project foretells of generating its sources below a folder: `checked` and
`generated` are what the two commands come to in the same world. -/
structure Foretells (w : World) (p : Project) (folder : Path)
    (checked generated : Except CommandFault CommandResult × World) : Prop where
  /-- Checking prints the messages and lists the sources, and does nothing else. -/
  lists : checked = (.ok (.report p.report), w.printing (p.report.lines ++
    if p.report.hasErrors then [] else "Planned files:" :: p.sources.map fun s => listed s.path))
  /-- If something is wrong, generating does the same. -/
  failed : p.report.hasErrors = true → generated = checked
  /-- If nothing is wrong, generating writes the sources that are listed, in this order, and has
  the same report. -/
  written : p.report.hasErrors = false → ∀ tree,
    w.tree.writeAll? (placed folder p.sources) = some tree →
      generated = (checked.1, { w with tree }.printing (p.report.lines ++
        p.sources.map fun (s : Source) => listed (folder.join s.path)))
  /-- Only a source that cannot be written keeps generating from its report. -/
  unwritable : p.report.hasErrors = false →
    w.tree.writeAll? (placed folder p.sources) = none →
      ∃ tree, generated = (.error (.output folder), { w with tree }.printing p.report.lines)
  /-- A round that was not skipped has a plan, and its sources are the files of the plan at the
  indentation of the project. -/
  rendered : p.report.hasErrors = false → (p.report.skipped = true ∧ p.sources = []) ∨
    p.report.skipped = false ∧ ∃ q, (plan p.settings p.round).result = .ok q ∧
      List.Forall₂ (fun (f : SourceFile) (s : Source) =>
        s.path = f.path ∧ f.render p.settings.generation.indent = .ok s.text) q.files p.sources
  /-- A source of a plain path is written below the folder. -/
  below : ∀ s ∈ p.sources, s.path.IsPlain →
    (folder.join s.path).components = folder.components ++ s.path.components
  verdict : (∃ report, generated.1 = .ok report) → exitStatus generated.1 = exitStatus checked.1

theorem foretells_of_load (loaded : w.load root index = .ok p) (out : Option Path) :
    w.Foretells p (out.getD p.outputDir) (w.run (.check root index))
      (w.run (.generate root index out)) := by
  set folder := out.getD p.outputDir
  set checked := w.run (.check root index)
  set generated := w.run (.generate root index out)
  have lists : checked = _ := does_map_of_ok (does_runCheck loaded) CommandResult.report
  have begun := does_runGenerate loaded out
  have wrote := does_writeSources (w.printing p.report.lines) folder p.sources
  rw [tree_printing] at wrote
  have failed : p.report.hasErrors = true → generated = checked := by
    intro errors
    simp only [errors, Bool.not_true, if_false, Bool.false_eq_true, does_pure] at begun
    have done : generated = _ := does_map_of_ok begun CommandResult.report
    rw [done, lists]
    simp [errors]
  have written : p.report.hasErrors = false → ∀ tree,
      w.tree.writeAll? (placed folder p.sources) = some tree →
        generated = (checked.1, { w with tree }.printing (p.report.lines ++
          p.sources.map fun (s : Source) => listed (folder.join s.path))) := by
    intro errors tree all
    rw [all] at wrote
    simp only [errors, Bool.not_false, if_true] at begun
    rw [does_bind_of_ok wrote, does_bind_of_ok (does_printAll _ _), does_pure] at begun
    have done : generated = _ := does_map_of_ok begun CommandResult.report
    rw [done, lists]
    simp [printing, folder]
  have unwritable : p.report.hasErrors = false →
      w.tree.writeAll? (placed folder p.sources) = none →
        ∃ tree, generated = (.error (.output folder), { w with tree }.printing p.report.lines) := by
    intro errors refused
    rw [refused] at wrote
    obtain ⟨tree, stopped⟩ := wrote
    simp only [errors, Bool.not_false, if_true] at begun
    rw [does_bind_of_error stopped] at begun
    exact ⟨tree, does_map_of_error begun _⟩
  have verdict : (∃ report, generated.1 = .ok report) →
      exitStatus generated.1 = exitStatus checked.1 := by
    intro finished
    obtain ⟨report, finished⟩ := finished
    cases errors : p.report.hasErrors with
    | true => rw [failed errors]
    | false =>
      cases all : w.tree.writeAll? (placed folder p.sources) with
      | some tree => rw [written errors tree all]
      | none =>
        obtain ⟨tree, stopped⟩ := unwritable errors all
        rw [stopped] at finished
        cases finished
  exact ⟨lists, failed, written, unwritable, p.sources_rendered,
    fun s _ plain => Path.components_join_of_plain plain _, verdict⟩

/-- Checking a project foretells what generating its sources does in the same world: both fail to
load it, for the same reason and without a trace, or what checking lists is what generating
writes. -/
theorem check_foretells_generate (w : World) (root : Path) (index out : Option Path) :
    match w.load root index with
    | .error fault =>
      w.run (.check root index) = (.error fault, w) ∧
        w.run (.generate root index out) = (.error fault, w)
    | .ok p =>
      w.Foretells p (out.getD p.outputDir) (w.run (.check root index))
        (w.run (.generate root index out)) := by
  cases loaded : w.load root index with
  | error fault =>
    have load := does_loadProject w root index
    rw [loaded] at load
    have unchecked : w.does (runCheck host root index) = (.error fault, w) :=
      does_bind_of_error load _
    have ungenerated : w.does (runGenerate host root index out) = (.error fault, w) :=
      does_bind_of_error load _
    exact ⟨does_map_of_error unchecked _, does_map_of_error ungenerated _⟩
  | ok p => exact foretells_of_load loaded out

end World

end ComponentWiring
