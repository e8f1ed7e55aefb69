/-
ComponentWiring.Proofs.Run.Writes — a set of sources after any sequence of writes.

* `SourceSet.writeAll` — files are handed over one after the other, whatever becomes of them.
* `SourceSet.accepted` — the files among them that were accepted.
* `SourceSet.IsRecordOf` — a set of sources holds these files, rendered, in this order.
* `SourceSet.isRecordOf_writeAll` — it holds the accepted files.
* `SourceSet.writeAll_records` — what becomes of each write, and what is found afterwards.

The set is asked for a location before a file is rendered, so a file that lies where another one was
accepted is a duplicate even if it cannot be rendered.
-/
import ComponentWiring.Proofs.Run.Filing
import Mathlib.Data.List.Forall2

namespace ComponentWiring.Java.SourceSet

/-! ## 1. Sequences of writes -/

/-- The set after files were handed to it one after the other, whatever became of them. -/
def writeAll (fs : List SourceFile) (s : SourceSet) : SourceSet :=
  fs.foldl (fun s f => (s.write f).2) s

/-- Whether the set accepts a file. -/
def accepts (s : SourceSet) (f : SourceFile) : Bool := (s.write f).1.toOption.isSome

/-- The files that are accepted of those handed over one after the other, in order. -/
def accepted : List SourceFile → SourceSet → List SourceFile
  | [], _ => []
  | f :: fs, s =>
    if s.accepts f then f :: accepted fs (s.write f).2 else accepted fs (s.write f).2

/-- The set holds the files in this order, each as it is rendered alone. -/
structure IsRecordOf (s : SourceSet) (width : Nat) (done : List SourceFile) : Prop where
  width_eq : s.width = width
  renders : ∀ f ∈ done, f.Renders width
  entries : s.files.entries = done.map fun f => (f.location, f.kept width)

variable {s : SourceSet} {width : Nat} {f g : SourceFile} {fs done : List SourceFile}

namespace IsRecordOf

theorem keys_eq (h : s.IsRecordOf width done) : s.files.keys = done.map (·.location) := by
  rw [Keyed.keys, h.entries, List.map_map]
  rfl

theorem sources_eq (h : s.IsRecordOf width done) : s.sources = done.map (·.kept width) := by
  rw [sources, Keyed.values, h.entries, List.map_map]
  rfl

theorem render_eq (h : s.IsRecordOf width done) (hf : f ∈ done) :
    f.render width = .ok (f.kept width).text := by
  obtain ⟨text, rendered⟩ := h.renders f hf
  rw [SourceFile.kept, rendered]
  rfl

/-- No two of the files lie at the same location. -/
theorem nodup (h : s.IsRecordOf width done) : (done.map (·.location)).Nodup :=
  h.keys_eq ▸ s.files.keys_nodup

/-- A write adds the file behind all others if it is accepted, and changes nothing otherwise. -/
theorem write (h : s.IsRecordOf width done) (f : SourceFile) :
    (s.accepts f = true ∧ (s.write f).2.IsRecordOf width (done ++ [f])) ∨
      (s.accepts f = false ∧ (s.write f).2 = s) := by
  rcases write_cases f s with ⟨new, renders, written⟩ | ⟨fault, refused⟩
  · rw [accepts, written]
    refine .inl ⟨rfl, h.width_eq, ?_, ?_⟩
    · rw [h.width_eq] at renders
      exact List.forall_mem_append.mpr ⟨h.renders, List.forall_mem_singleton.mpr renders⟩
    · show (s.files.insert f.location (f.kept s.width)).entries = _
      rw [Keyed.entries_insert_of_new new, h.entries, h.width_eq, List.map_append]
      rfl
  · rw [accepts, refused]
    exact .inr ⟨rfl, rfl⟩

/-- After any sequence of writes, the accepted files stand behind the others. -/
theorem writeAll (h : s.IsRecordOf width done) (fs : List SourceFile) :
    (writeAll fs s).IsRecordOf width (done ++ accepted fs s) := by
  induction fs generalizing s done with
  | nil => simpa [SourceSet.writeAll, accepted] using h
  | cons f fs ih =>
    rw [SourceSet.writeAll, List.foldl_cons, ← SourceSet.writeAll, accepted]
    rcases h.write f with ⟨taken, record⟩ | ⟨refused, same⟩
    · rw [if_pos taken, List.append_cons]
      exact ih record
    · rw [refused, same, if_neg Bool.false_ne_true]
      exact ih h

end IsRecordOf

/-- A set that is filled from nothing is a record of the accepted files. -/
theorem isRecordOf_writeAll (width : Nat) (fs : List SourceFile) :
    (writeAll fs (.empty width)).IsRecordOf width (accepted fs (.empty width)) :=
  have nothing : (SourceSet.empty width).IsRecordOf width [] := ⟨rfl, List.forall_mem_nil _, rfl⟩
  nothing.writeAll fs

/-! ## 2. Answers -/

/-- What a set answers to a file, given the files that it has accepted. -/
structure Answers (s : SourceSet) (width : Nat) (done : List SourceFile) (f : SourceFile) :
    Prop where
  /-- The file is a duplicate exactly if an accepted one has the same path, whether or not it can
  be rendered. -/
  duplicate : ∀ name, (s.write f).1 = .error (.duplicate name) ↔
    (∃ g ∈ done, g.path.components = f.path.components) ∧ name = f.className.canonicalName
  /-- Any other file is refused exactly if it cannot be rendered, and for what the rendering
  meets. -/
  format : ∀ fault, (s.write f).1 = .error (.format fault) ↔
    (∀ g ∈ done, g.path.components ≠ f.path.components) ∧ f.render width = .error fault
  /-- It is accepted otherwise, under its own path. -/
  accepted : ∀ path, (s.write f).1 = .ok path ↔
    (∀ g ∈ done, g.path.components ≠ f.path.components) ∧ f.Renders width ∧ path = f.path
  /-- A refused file leaves the set as it is. -/
  unchanged : ∀ fault, (s.write f).1 = .error fault → (s.write f).2 = s

theorem IsRecordOf.answers (h : s.IsRecordOf width done) (f : SourceFile) :
    s.Answers width done f := by
  have taken_iff : f.location ∈ s.files.keys ↔
      ∃ g ∈ done, g.path.components = f.path.components := by
    rw [h.keys_eq, List.mem_map]
    rfl
  by_cases taken : f.location ∈ s.files.keys
  · have before := taken_iff.mp taken
    have not_free : ¬ ∀ g ∈ done, g.path.components ≠ f.path.components := by
      obtain ⟨g, hg, same⟩ := before
      exact fun free => free g hg same
    have answer := write_of_taken taken
    refine ⟨fun name => ?_, fun fault => ?_, fun path => ?_, fun _ _ => by rw [answer]⟩
    · rw [answer, and_iff_right before]
      simp [eq_comm]
    · exact iff_of_false (by simp [answer]) fun h => not_free h.1
    · exact iff_of_false (by simp [answer]) fun h => not_free h.1
  · have none_before := fun before => taken (taken_iff.mpr before)
    have free : ∀ g ∈ done, g.path.components ≠ f.path.components :=
      fun g hg same => none_before ⟨g, hg, same⟩
    cases rendered : f.render width with
    | error fault =>
      have answer := write_of_unrenderable taken (h.width_eq ▸ rendered)
      have fails : ¬ f.Renders width := fun ⟨text, h⟩ => nomatch rendered.symm.trans h
      refine ⟨fun name => ?_, fun fault => ?_, fun path => ?_, fun _ _ => by rw [answer]⟩
      · exact iff_of_false (by simp [answer]) fun h => none_before h.1
      · rw [answer, and_iff_right free, rendered]
        simp
      · exact iff_of_false (by simp [answer]) fun h => fails h.2.1
    | ok text =>
      have renders : f.Renders width := ⟨text, rendered⟩
      have answer := write_of_new taken (h.width_eq ▸ renders)
      refine ⟨fun name => ?_, fun fault => ?_, fun path => ?_, fun fault refused => ?_⟩
      · exact iff_of_false (by simp [answer]) fun h => none_before h.1
      · exact iff_of_false (by simp [answer]) fun h => nomatch rendered.symm.trans h.2
      · rw [answer, and_iff_right free, and_iff_right renders]
        simp [eq_comm]
      · simp [answer] at refused

/-! ## 3. Look-ups -/

/-- Files of one package and one name lie at the same location. -/
theorem location_congr (package : f.package = g.package) (name : f.type.name = g.type.name) :
    f.location = g.location := by
  simp only [SourceFile.location, SourceFile.path, package, name]

/-- The file is the one of the package and the name. -/
def isNamed (package name : String) (f : SourceFile) : Bool :=
  f.package = package && f.type.name = name

/-- Of the files that a set holds, one at most has a given package and name. -/
theorem IsRecordOf.filter_isNamed (h : s.IsRecordOf width done) (package name : String) :
    done.filter (isNamed package name) = [] ∨ ∃ f, done.filter (isNamed package name) = [f] := by
  cases named : done.filter (isNamed package name) with
  | nil => exact .inl rfl
  | cons f rest =>
    cases rest with
    | nil => exact .inr ⟨f, rfl⟩
    | cons g rest =>
      have own (x : SourceFile) (hx : x ∈ [f, g]) : x.package = package ∧ x.type.name = name := by
        have mem : x ∈ done.filter (isNamed package name) := by
          rw [named]
          exact List.mem_append_left rest hx
        simpa [isNamed] using (List.mem_filter.mp mem).2
      obtain ⟨packageOfF, nameOfF⟩ := own f (by simp)
      obtain ⟨packageOfG, nameOfG⟩ := own g (by simp)
      have same : f.location = g.location :=
        location_congr (packageOfF.trans packageOfG.symm) (nameOfF.trans nameOfG.symm)
      have distinct : ((done.filter (isNamed package name)).map (·.location)).Nodup :=
        (List.filter_sublist.map _).nodup h.nodup
      rw [named, List.map_cons, List.map_cons, same] at distinct
      exact absurd List.mem_cons_self (List.nodup_cons.mp distinct).1

/-- What is found under a package and a name is the file that has them. -/
theorem IsRecordOf.get?_eq (h : s.IsRecordOf width done) (package name : String) :
    s.get? package name = (done.filter (isNamed package name)).head?.map (·.kept width) := by
  rw [get?, h.sources_eq, List.find?_map, List.head?_filter]
  rfl

/-- After any sequence of writes, successful or not, the set holds the accepted files in the order
of writing, under distinct paths and each as it is rendered alone. What the next write comes to is
decided by the paths of these files and by the rendering of the next one. What is found under a
package and a name is the one accepted file that has them. -/
theorem writeAll_records (width : Nat) (fs : List SourceFile) :
    let s := writeAll fs (.empty width)
    let done := accepted fs (.empty width)
    List.Forall₂ (fun f (kept : Source) => kept.package = f.package ∧ kept.name = f.type.name ∧
      kept.path = f.path ∧ f.render width = .ok kept.text) done s.sources ∧
    (s.sources.map (·.path.components)).Nodup ∧
    (∀ f, s.Answers width done f) ∧
    ∀ package name,
      (done.filter (isNamed package name) = [] ∧ s.get? package name = none) ∨
      ∃ f text, done.filter (isNamed package name) = [f] ∧ f.render width = .ok text ∧
        s.get? package name = some ⟨package, name, f.path, text⟩ := by
  intro s done
  have record : s.IsRecordOf width done := isRecordOf_writeAll width fs
  refine ⟨?_, ?_, record.answers, fun package name => ?_⟩
  · rw [record.sources_eq, List.forall₂_map_right_iff, List.forall₂_same]
    exact fun f hf => ⟨rfl, rfl, rfl, record.render_eq hf⟩
  · rw [record.sources_eq, List.map_map]
    exact record.nodup
  · rw [record.get?_eq]
    rcases record.filter_isNamed package name with none_named | ⟨f, one⟩
    · exact .inl ⟨none_named, by rw [none_named]; rfl⟩
    · obtain ⟨hf, named⟩ := List.mem_filter.mp (one ▸ List.mem_singleton_self f :
        f ∈ done.filter (isNamed package name))
      obtain ⟨rfl, rfl⟩ : f.package = package ∧ f.type.name = name := by
        simpa [isNamed] using named
      exact .inr ⟨f, _, one, record.render_eq hf, by rw [one]; rfl⟩

end ComponentWiring.Java.SourceSet
