/-
ComponentWiring.Proofs.Settings.Reload — settings come back from the file they were saved to.

* `readTexts?_written` — a record of texts is read with every field.
* `Settings.ofNode?_entries` — the document of settings gives these settings.
* `Settings.parse?_written`, `Settings.ofText_of_parse?` — so does its text, unless they are refused.
* `saved_settings_reload` — saving settings in a directory and loading them from there.

Saving does not ask whether settings are usable, loading does.
-/
import ComponentWiring.Command
import ComponentWiring.Proofs.Document.Records
import ComponentWiring.Proofs.Document.Toml.Sections
import ComponentWiring.Proofs.FileTree

namespace ComponentWiring

open Document

/-! ## 1. Fields -/

section Fields

variable {σ : Type} {fields : List (TextField σ)}

/-- The entries of a record of texts in a document. -/
def textEntries (fields : List (TextField σ)) (s : σ) : List (String × Node) :=
  fields.map fun f => (f.key, .text (f.get s))

theorem map_node_writeTexts (fields : List (TextField σ)) (s : σ) :
    (writeTexts fields s).map (fun p => (p.1, p.2.node)) = textEntries fields s := by
  simp [writeTexts, textEntries, Toml.Scalar.node]

/-- Texts that are all found are set one after the other. -/
theorem foldlM_set {found : List (String × Node)} {base s : σ}
    (each : ∀ f ∈ fields, defaulted? found f.key (f.get base) Node.text? = some (f.get s)) (t : σ) :
    fields.foldlM
        (fun t f => (defaulted? found f.key (f.get base) Node.text?).map (f.set · t)) t =
      some (fields.foldl (fun t f => f.set (f.get s) t) t) := by
  induction fields generalizing t with
  | nil => rfl
  | cons f fields ih =>
    obtain ⟨first, later⟩ := List.forall_mem_cons.mp each
    rw [List.foldlM_cons, first, Option.map_some, Option.bind_eq_bind, Option.bind_some, ih later]
    rfl

/-- Every field is read with its own text, and none with its default. -/
theorem readTexts?_written (distinct : (fields.map (·.key)).Nodup) (base s : σ) (d : Dialect) :
    readTexts? fields base d (.record (textEntries fields s)) =
      some (fields.foldl (fun t f => f.set (f.get s) t) base) := by
  have keys : (textEntries fields s).map Prod.fst = fields.map (·.key) := by
    simp [textEntries]
  have found : Node.record? d (fields.map (·.key)) (.record (textEntries fields s)) =
      some (textEntries fields s) := Node.record?_of_keys d keys distinct
  have each : ∀ f ∈ fields,
      defaulted? (textEntries fields s) f.key (f.get base) Node.text? = some (f.get s) := by
    intro f hf
    have given : (textEntries fields s).lookup f.key = some (.text (f.get s)) :=
      lookup_of_mem (keys ▸ distinct) (List.mem_map_of_mem hf)
    rw [defaulted?, given]
    rfl
  rw [readTexts?, found, Option.bind_eq_bind, Option.bind_some, foldlM_set each]

end Fields

/-- The fields are all that framework names consist of. -/
theorem FrameworkNames.foldl_set_fields (base n : FrameworkNames) :
    FrameworkNames.fields.foldl (fun t f => f.set (f.get n) t) base = n := by
  cases n
  rfl

/-- The fields are all that the names of generated types consist of. -/
theorem Naming.foldl_set_fields (base n : Naming) :
    Naming.fields.foldl (fun t f => f.set (f.get n) t) base = n := by
  cases n
  rfl

theorem FrameworkNames.nodup_keys : (FrameworkNames.fields.map (·.key)).Nodup := by decide

theorem Naming.nodup_keys : (Naming.fields.map (·.key)).Nodup := by decide

/-! ## 2. Documents -/

/-- The entries of generation settings in a document. -/
def Generation.entries (g : Generation) : List (String × Node) :=
  [("duplicate_presenters", .text g.duplicatePresenters.name), ("indent", .integer g.indent),
   ("output_dir", .text g.outputDir.text), ("index_file", .text g.indexFile.text)]

theorem DuplicatePolicy.lookup_name (p : DuplicatePolicy) :
    DuplicatePolicy.names.lookup p.name = some p := by
  cases p <;> decide

theorem count?_natCast {n : Nat} (fits : n < signedBound) : Node.count? (.integer n) = some n := by
  have low : (0 : Int) ≤ n := Int.natCast_nonneg n
  have high : (n : Int) < unsignedBound :=
    Int.ofNat_lt.mpr (Nat.lt_trans fits (by decide))
  simp only [Node.count?, low, high, and_self, if_true, Int.toNat_natCast]

theorem Generation.ofNode?_entries {g : Generation} (fits : g.indent < signedBound) (d : Dialect) :
    Generation.ofNode? d (.record g.entries) = some g := by
  have found : Node.record? d ["duplicate_presenters", "indent", "output_dir", "index_file"]
      (.record g.entries) = some g.entries := Node.record?_of_keys d rfl (by decide)
  have policy (base : DuplicatePolicy) : defaulted? g.entries "duplicate_presenters" base
      (Node.variant? d DuplicatePolicy.names) = some g.duplicatePresenters :=
    DuplicatePolicy.lookup_name g.duplicatePresenters
  have indent (base : Nat) : defaulted? g.entries "indent" base Node.count? = some g.indent := by
    have given : g.entries.lookup "indent" = some (.integer g.indent) := rfl
    rw [defaulted?, given]
    exact count?_natCast fits
  have output (base : Path) :
      defaulted? g.entries "output_dir" base pathOfNode? = some g.outputDir := rfl
  have index (base : Path) :
      defaulted? g.entries "index_file" base pathOfNode? = some g.indexFile := rfl
  simp only [Generation.ofNode?, found, policy, indent, output, index, Option.bind_eq_bind,
    Option.bind_some, Option.pure_def]

/-- The entries of settings in a document. -/
def Settings.entries (s : Settings) : List (String × Node) :=
  [("framework", .record (textEntries FrameworkNames.fields s.framework)),
   ("naming", .record (textEntries Naming.fields s.naming)),
   ("generation", .record s.generation.entries)]

/-- Settings are read with every field from a document that has them all. -/
theorem Settings.ofNode?_entries {s : Settings} (fits : s.generation.indent < signedBound)
    (d : Dialect) : Settings.ofNode? d (.record s.entries) = some s := by
  have found : Node.record? d ["framework", "naming", "generation"] (.record s.entries) =
      some s.entries := Node.record?_of_keys d rfl (by decide)
  have framework (base : FrameworkNames) : defaulted? s.entries "framework" base
      (readTexts? FrameworkNames.fields base d) = some s.framework := by
    have read := readTexts?_written FrameworkNames.nodup_keys base s.framework d
    rwa [FrameworkNames.foldl_set_fields] at read
  have naming (base : Naming) : defaulted? s.entries "naming" base
      (readTexts? Naming.fields base d) = some s.naming := by
    have read := readTexts?_written Naming.nodup_keys base s.naming d
    rwa [Naming.foldl_set_fields] at read
  have generation (base : Generation) : defaulted? s.entries "generation" base
      (Generation.ofNode? d) = some s.generation := Generation.ofNode?_entries fits d
  simp only [Settings.ofNode?, found, framework, naming, generation, Option.bind_eq_bind,
    Option.bind_some, Option.pure_def]

/-! ## 3. Texts -/

theorem isReadable_writeTexts {σ : Type} {fields : List (TextField σ)} {head : String}
    (bare : Toml.IsBareKey head) (keys : ∀ f ∈ fields, Toml.IsBareKey f.key)
    (distinct : (fields.map (·.key)).Nodup) (s : σ) :
    Toml.Section.IsReadable (head, writeTexts fields s) where
  head := bare
  keys p hp := by
    obtain ⟨f, hf, rfl⟩ := List.mem_map.mp hp
    exact keys f hf
  distinct := by simpa [writeTexts, Function.comp_def] using distinct
  values p hp := by
    obtain ⟨f, -, rfl⟩ := List.mem_map.mp hp
    trivial

theorem Generation.isReadable_pairs {g : Generation} (fits : g.indent < signedBound) :
    Toml.Section.IsReadable ("generation", g.pairs) where
  head := show Toml.IsBareKey "generation" by decide
  keys p hp := by
    have bare : ∀ k ∈ g.pairs.map Prod.fst, Toml.IsBareKey k := by
      show ∀ k ∈ ["duplicate_presenters", "indent", "output_dir", "index_file"], Toml.IsBareKey k
      decide
    exact bare p.1 (List.mem_map_of_mem hp)
  distinct := by
    show ["duplicate_presenters", "indent", "output_dir", "index_file"].Nodup
    decide
  values p hp := by
    simp only [Generation.pairs, List.mem_cons, List.not_mem_nil, or_false] at hp
    rcases hp with rfl | rfl | rfl | rfl
    · trivial
    · exact fits
    · trivial
    · trivial

theorem Settings.isReadable_of_mem_sections {s : Settings} (fits : s.generation.indent < signedBound) :
    ∀ t ∈ s.sections, Toml.Section.IsReadable t := by
  have frameworkKeys : ∀ f ∈ FrameworkNames.fields, Toml.IsBareKey f.key := by decide
  have namingKeys : ∀ f ∈ Naming.fields, Toml.IsBareKey f.key := by decide
  intro t ht
  simp only [Settings.sections, List.mem_cons, List.not_mem_nil, or_false] at ht
  rcases ht with rfl | rfl | rfl
  · exact isReadable_writeTexts (by decide) frameworkKeys FrameworkNames.nodup_keys _
  · exact isReadable_writeTexts (by decide) namingKeys Naming.nodup_keys _
  · exact Generation.isReadable_pairs fits

theorem Settings.map_entry_sections (s : Settings) :
    s.sections.map Toml.Section.entry = s.entries := by
  simp only [Settings.sections, List.map_cons, List.map_nil, Toml.Section.entry,
    map_node_writeTexts]
  rfl

/-- The text of a settings file gives the settings that it was written for. -/
theorem Settings.parse?_written {s : Settings} (fits : s.generation.indent < signedBound) :
    Settings.parse? (Toml.writeSections s.sections) = some s := by
  have heads : (s.sections.map Prod.fst).Nodup := by
    show ["framework", "naming", "generation"].Nodup
    decide
  rw [Settings.parse?, Toml.read?_writeSections (Settings.isReadable_of_mem_sections fits) heads,
    Settings.map_entry_sections, Option.bind_eq_bind, Option.bind_some,
    Settings.ofNode?_entries fits]

/-- The settings, unless they are refused. -/
def Settings.checked (s : Settings) : Except SettingsFileFault Settings :=
  match s.check with
  | .ok () => .ok s
  | .error fault => .error (.unusable fault)

theorem Settings.ofText_of_parse? {s : Settings} {text : String}
    (parsed : Settings.parse? text = some s) : Settings.ofText text = s.checked := by
  rw [Settings.ofText, parsed, Settings.checked]
  dsimp only
  cases s.check <;> rfl

/-! ## 4. Files -/

theorem Settings.isStep_fileName : Path.IsStep Settings.fileName.text where
  nonempty := by decide
  noSlash := by decide
  notHere := by decide
  notUp := by decide

/-- The file of a directory decides about its settings. -/
theorem settingsAmong_of_file {w : World} {file : Path} {text : String}
    (stands : w.tree.probe file = .file text) :
    (settingsAmong [World.host.probe file, World.host.userSettings]).run w =
      ((Settings.ofText text).mapError .refused, w) := by
  have found : (World.host.probe file).run w = (.file text, w) := by
    show (w.tree.probe file, w) = _
    rw [stands]
  rw [settingsAmong, StateT.run_bind, found]
  rfl

/-- Settings can be saved in any directory, whether they were before or not. Loading them from there
gives them with every field, or refuses them for the fault that they have. -/
theorem saved_settings_reload {s : Settings} (fits : s.generation.indent < signedBound) :
    ∃ text, s.save? = some text ∧ Settings.parse? text = some s ∧
      Settings.ofText text = s.checked ∧
      ∀ (w : World) (root : Path),
        (w.tree.IsSound → w.tree.probe root = .folder →
          (w.tree.probe (root.join Settings.fileName) = .missing ∨
            ∃ old, w.tree.probe (root.join Settings.fileName) = .file old) →
          ∃ tree, w.tree.write? (root.join Settings.fileName) text = some tree ∧ tree.IsSound) ∧
        ∀ tree, w.tree.write? (root.join Settings.fileName) text = some tree →
          tree.probe (root.join Settings.fileName) = .file text ∧
          (settingsAmong
              [World.host.probe (root.join Settings.fileName), World.host.userSettings]).run
            { w with tree } = (s.checked.mapError .refused, { w with tree }) := by
  have parsed := Settings.parse?_written fits
  have read := Settings.ofText_of_parse? parsed
  refine ⟨Toml.writeSections s.sections, if_pos fits, parsed, read, fun w root => ⟨?_, ?_⟩⟩
  · intro sound there free
    obtain ⟨tree, written⟩ := sound.exists_write? Settings.isStep_fileName (by decide) there free
      (Toml.writeSections s.sections)
    exact ⟨tree, written, sound.write? written⟩
  · intro tree written
    have stands : tree.probe (root.join Settings.fileName) =
        .file (Toml.writeSections s.sections) :=
      FileTree.probe_of_write? written (Path.namesFolder_join Settings.isStep_fileName root)
    have loaded := settingsAmong_of_file (w := { w with tree }) stands
    rw [read] at loaded
    exact ⟨stands, loaded⟩

/-- Settings with texts that need quotes of all kinds. -/
def awkwardSettings : Settings where
  framework := { inject := "\"\"\"\\" }
  naming := { daggerPrefix := "a\r\nb\x00", initializer := "'\n\"" }
  generation := { duplicatePresenters := .reject, indent := 2, outputDir := ⟨"it's \"here\""⟩ }

/-- They are saved beside the index of a project and loaded as they were. -/
theorem awkwardSettings_reload :
    awkwardSettings.generation.indent < signedBound ∧
      ∃ text tree, awkwardSettings.save? = some text ∧
        (FileTree.ofFiles [] [(⟨"project/october-index.toml"⟩, "")]).write?
          (Path.join ⟨"project"⟩ Settings.fileName) text = some tree ∧
        tree.probe (Path.join ⟨"project"⟩ Settings.fileName) = .file text ∧
        Settings.ofText text = .ok awkwardSettings ∧
        (settingsAmong
            [World.host.probe (Path.join ⟨"project"⟩ Settings.fileName),
              World.host.userSettings]).run { tree } = (.ok awkwardSettings, { tree }) := by
  have fits : awkwardSettings.generation.indent < signedBound := by decide
  have accepted : awkwardSettings.checked = .ok awkwardSettings := rfl
  let before : World := { tree := FileTree.ofFiles [] [(⟨"project/october-index.toml"⟩, "")] }
  obtain ⟨text, saved, -, read, files⟩ := saved_settings_reload fits
  obtain ⟨tree, written, -⟩ := (files before ⟨"project"⟩).1 (FileTree.isSound_ofFiles _ _)
    (by decide) (.inl (by decide))
  obtain ⟨stands, loaded⟩ := (files before ⟨"project"⟩).2 tree written
  rw [accepted] at read loaded
  exact ⟨fits, text, tree, saved, written, stands, read, loaded⟩

end ComponentWiring
