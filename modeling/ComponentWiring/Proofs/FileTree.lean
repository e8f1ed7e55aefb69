/-
ComponentWiring.Proofs.FileTree — what was written to a file is found there.

* `Path.namesFolder_join` — the path of a name in a directory may be that of a file.
* `FileTree.Opens`, `FileTree.Keeps` — where a walk goes on, and trees in which it goes on as well.
* `FileTree.walk_of_makeFolders` — the directories that were made can be walked through.
* `FileTree.probe_of_write?` — a file that was written is there, with its contents.
* `FileTree.IsSound`, `FileTree.IsSound.write?` — no directory stands where a file is, and writing
  keeps it so.
* `FileTree.IsSound.exists_write?` — a file can be written in a directory, or written again.
-/
import ComponentWiring.FileTree
import ComponentWiring.Proofs.Java.Locations

namespace ComponentWiring

open Text

/-! ## 1. Paths of files -/

namespace Path

variable {n : String}

/-- A step is the last segment of a path that it is joined to. -/
theorem exists_segments_join (h : IsStep n) (p : Path) :
    ∃ before, segments '/' (p.join ⟨n⟩).text.toList = before ++ [n.toList] := by
  have alone : segments '/' n.toList = [n.toList] := segments_of_not_mem h.noSlash
  have relative : (⟨n⟩ : Path).isAbsolute = false := by
    have noSlash : n.toList.head? ≠ some '/' := fun slash => h.noSlash (List.mem_of_head? slash)
    simpa [isAbsolute] using noSlash
  rw [join, relative, if_neg Bool.false_ne_true]
  split
  next direct =>
    rcases Bool.or_eq_true_iff.mp direct with unwritten | slashed
    · refine ⟨[], ?_⟩
      rw [String.isEmpty_iff.mp unwritten, String.empty_append, alone]
      rfl
    · obtain ⟨ds, spelled⟩ := List.getLast?_eq_some_iff.mp (of_decide_eq_true slashed)
      refine ⟨segments '/' ds, ?_⟩
      rw [String.toList_append, spelled, List.append_assoc, List.singleton_append,
        segments_append_sep, alone]
  next =>
    refine ⟨segments '/' p.text.toList, ?_⟩
    have spelled : (p.text ++ "/" ++ n).toList = p.text.toList ++ '/' :: n.toList := by simp
    rw [spelled, segments_append_sep, alone]

/-- A path that ends in a step may be that of a file. -/
theorem namesFolder_join (h : IsStep n) (p : Path) : (p.join ⟨n⟩).namesFolder = false := by
  obtain ⟨before, split⟩ := exists_segments_join h p
  rw [namesFolder, split, List.reverse_append, List.reverse_singleton, List.singleton_append]
  cases before.reverse with
  | nil => rfl
  | cons s r => simp [h.nonempty, h.notHere]

end Path

/-! ## 2. Places above others -/

/-- The place leads down to the other one. -/
def Place.IsAbove (q p : Place) : Prop :=
  ∃ more, more ≠ [] ∧ p = { q with names := more ++ q.names }

theorem Place.IsAbove.trans {p q r : Place} (h : r.IsAbove q) (h' : q.IsAbove p) : r.IsAbove p := by
  obtain ⟨more, some_name, rfl⟩ := h
  obtain ⟨more', -, rfl⟩ := h'
  exact ⟨more' ++ more, by simp [some_name], by simp⟩

theorem Place.not_isAbove_of_top {p q : Place} (top : p.names = []) : ¬ q.IsAbove p := by
  rintro ⟨more, some_name, rfl⟩
  exact some_name (List.append_eq_nil_iff.mp top).1

theorem Place.step_name (trail : List String) (p : Place) (n : String) :
    (p.step trail (.name n)).names = [] ∨
      p.step trail (.name n) = { p with names := n :: p.names } := by
  obtain ⟨absolute, ups, names⟩ := p
  cases ups with
  | zero => exact .inr rfl
  | succ k =>
    cases names with
    | cons m names => exact .inr rfl
    | nil =>
      by_cases back : trail[k]? = some n
      · exact .inl (by simp [step, back])
      · exact .inr (by simp [step, back])

/-- Above the next place of a walk there is nothing new but the place it comes from. -/
theorem Place.isAbove_step {trail : List String} {p q : Place} {c : Path.Component}
    (above : q.IsAbove (p.step trail c)) : q = p ∨ q.IsAbove p := by
  cases c with
  | root => exact absurd above (not_isAbove_of_top rfl)
  | here => exact .inr above
  | up =>
    obtain ⟨absolute, ups, names⟩ := p
    cases names with
    | nil =>
      cases absolute with
      | true => exact .inr above
      | false => exact absurd above (not_isAbove_of_top rfl)
    | cons n names =>
      have below : Place.IsAbove ⟨absolute, ups, names⟩ ⟨absolute, ups, n :: names⟩ :=
        ⟨[n], List.cons_ne_nil _ _, rfl⟩
      exact .inr (above.trans below)
  | name n =>
    rcases step_name trail p n with top | down
    · exact absurd above (not_isAbove_of_top top)
    · rw [down] at above
      obtain ⟨_ | ⟨m, more⟩, some_name, same⟩ := above
      · exact absurd rfl some_name
      obtain ⟨absolute, ups, names⟩ := p
      simp only [Place.mk.injEq, List.cons_append, List.cons.injEq] at same
      obtain ⟨rfl, rfl, rfl, rfl⟩ := same
      cases more with
      | nil => exact .inl rfl
      | cons m' more => exact .inr ⟨m' :: more, List.cons_ne_nil _ _, rfl⟩

namespace FileTree

variable {t t' u : FileTree} {p q : Place} {cs : List Path.Component} {c : Path.Component}

theorem isFolder_iff : t.isFolder p = true ↔
    p.names = [] ∨ p ∈ t.folders ∨ ∃ r ∈ t.files.keys, p.IsAbove r := by
  have below (r : Place) : (r.absolute == p.absolute && r.ups == p.ups &&
      decide (p.names.length < r.names.length) && p.names.isSuffixOf r.names) = true ↔
        p.IsAbove r := by
    simp only [Bool.and_eq_true, beq_iff_eq, decide_eq_true_eq, List.isSuffixOf_iff_suffix]
    constructor
    · rintro ⟨⟨⟨absolute, ups⟩, shorter⟩, more, names⟩
      refine ⟨more, ?_, ?_⟩
      · rintro rfl
        rw [← names] at shorter
        exact Nat.lt_irrefl _ shorter
      · rw [names, ← absolute, ← ups]
    · rintro ⟨more, some_name, rfl⟩
      have longer := List.length_pos_iff.mpr some_name
      exact ⟨⟨⟨rfl, rfl⟩, by simpa using longer⟩, more, rfl⟩
  simp only [isFolder, Bool.or_eq_true, List.isEmpty_iff, List.contains_iff_mem, List.any_eq_true,
    below, or_assoc]

/-! ## 3. Walks -/

/-- A walk that comes to the place goes on: a directory stands there and no file. -/
def Opens (t : FileTree) (p : Place) : Prop := t.files.get? p = none ∧ t.isFolder p = true

/-- A walk that goes on in the one tree goes on in the other. -/
structure Keeps (t u : FileTree) : Prop where
  trail : u.trail = t.trail
  opens : ∀ p, t.Opens p → u.Opens p

theorem Keeps.trans (h : t.Keeps t') (h' : t'.Keeps u) : t.Keeps u :=
  ⟨h'.trail.trans h.trail, fun p opened => h'.opens p (h.opens p opened)⟩

theorem walk_of_opens (opened : t.Opens p) (short : c.isTooLong = false)
    (cs : List Path.Component) : t.walk p (c :: cs) = t.walk (p.step t.trail c) cs := by
  rw [walk, opened.1, opened.2, short]
  rfl

theorem walk_nil_eq_folder_iff : t.walk p [] = (.folder, q) ↔ t.Opens p ∧ p = q := by
  rw [walk, Opens]
  cases t.files.get? p <;> cases t.isFolder p <;> simp

theorem walk_cons_eq_folder_iff :
    t.walk p (c :: cs) = (.folder, q) ↔
      t.Opens p ∧ c.isTooLong = false ∧ t.walk (p.step t.trail c) cs = (.folder, q) := by
  rw [walk, Opens]
  cases t.files.get? p <;> cases t.isFolder p <;> cases c.isTooLong <;> simp

/-- From a directory a walk goes on. -/
theorem walk_append_of_folder (arrived : t.walk p cs = (.folder, q)) (short : c.isTooLong = false) :
    t.walk p (cs ++ [c]) = t.walk (q.step t.trail c) [] := by
  induction cs generalizing p with
  | nil =>
    obtain ⟨opened, rfl⟩ := walk_nil_eq_folder_iff.mp arrived
    exact walk_of_opens opened short []
  | cons d cs ih =>
    obtain ⟨opened, shortFirst, later⟩ := walk_cons_eq_folder_iff.mp arrived
    rw [List.cons_append, walk_of_opens opened shortFirst, ih later]

/-! ## 4. Making directories -/

/-- The tree with a directory at the place. -/
def withFolder (t : FileTree) (p : Place) : FileTree :=
  if t.isFolder p then t else { t with folders := p :: t.folders }

theorem files_withFolder (t : FileTree) (p : Place) : (t.withFolder p).files = t.files := by
  unfold withFolder
  split <;> rfl

theorem trail_withFolder (t : FileTree) (p : Place) : (t.withFolder p).trail = t.trail := by
  unfold withFolder
  split <;> rfl

theorem isFolder_withFolder_iff :
    (t.withFolder p).isFolder q = true ↔ t.isFolder q = true ∨ q = p := by
  unfold withFolder
  split
  next folder =>
    refine ⟨.inl, ?_⟩
    rintro (known | rfl)
    · exact known
    · exact folder
  next =>
    simp only [isFolder_iff, List.mem_cons]
    grind

theorem keeps_withFolder (t : FileTree) (p : Place) : t.Keeps (t.withFolder p) where
  trail := trail_withFolder t p
  opens q opened := by
    rw [Opens, files_withFolder, isFolder_withFolder_iff]
    exact ⟨opened.1, .inl opened.2⟩

theorem makeFolders_nil_eq_some_iff :
    t.makeFolders p [] = some (t', q) ↔
      t.files.get? p = none ∧ t.withFolder p = t' ∧ p = q := by
  rw [makeFolders, withFolder]
  cases t.files.get? p <;> cases t.isFolder p <;> simp

theorem makeFolders_cons_eq_some_iff :
    t.makeFolders p (c :: cs) = some (t', q) ↔
      t.files.get? p = none ∧ c.isTooLong = false ∧
        (t.withFolder p).makeFolders (p.step t.trail c) cs = some (t', q) := by
  rw [makeFolders, withFolder]
  cases t.files.get? p <;> cases c.isTooLong <;> cases t.isFolder p <;> simp

theorem opens_withFolder (free : t.files.get? p = none) : (t.withFolder p).Opens p := by
  rw [Opens, files_withFolder, isFolder_withFolder_iff]
  exact ⟨free, .inr rfl⟩

/-- Making directories keeps those that are there, and ends in one. -/
theorem keeps_of_makeFolders (made : t.makeFolders p cs = some (t', q)) :
    t.Keeps t' ∧ t'.Opens q := by
  induction cs generalizing t p with
  | nil =>
    obtain ⟨free, rfl, rfl⟩ := makeFolders_nil_eq_some_iff.mp made
    exact ⟨keeps_withFolder t p, opens_withFolder free⟩
  | cons c cs ih =>
    obtain ⟨-, -, later⟩ := makeFolders_cons_eq_some_iff.mp made
    obtain ⟨kept, opened⟩ := ih later
    exact ⟨(keeps_withFolder t p).trans kept, opened⟩

/-- The directories that were made can be walked through, also when more is added. -/
theorem walk_of_makeFolders (made : t.makeFolders p cs = some (t', q)) (kept : t'.Keeps u)
    (short : c.isTooLong = false) : u.walk p (cs ++ [c]) = u.walk (q.step t'.trail c) [] := by
  induction cs generalizing t p with
  | nil =>
    obtain ⟨free, rfl, rfl⟩ := makeFolders_nil_eq_some_iff.mp made
    rw [List.nil_append, walk_of_opens (kept.opens p (opens_withFolder free)) short, kept.trail]
  | cons d cs ih =>
    obtain ⟨free, shortFirst, later⟩ := makeFolders_cons_eq_some_iff.mp made
    have keptAll := (keeps_of_makeFolders later).1.trans kept
    have opened : u.Opens p := keptAll.opens p (opens_withFolder free)
    have sameTrail : u.trail = t.trail := by rw [keptAll.trail, trail_withFolder]
    rw [List.cons_append, walk_of_opens opened shortFirst, sameTrail, ih later]

/-- No directory has to be made on the way to a directory. -/
theorem makeFolders_of_folder (arrived : t.walk p cs = (.folder, q)) :
    t.makeFolders p cs = some (t, q) := by
  induction cs generalizing p with
  | nil =>
    obtain ⟨opened, rfl⟩ := walk_nil_eq_folder_iff.mp arrived
    exact makeFolders_nil_eq_some_iff.mpr ⟨opened.1, if_pos opened.2, rfl⟩
  | cons c cs ih =>
    obtain ⟨opened, short, later⟩ := walk_cons_eq_folder_iff.mp arrived
    rw [makeFolders_cons_eq_some_iff, withFolder, if_pos opened.2]
    exact ⟨opened.1, short, ih later⟩

/-! ## 5. Writing files -/

/-- The tree with a file at the place. -/
def withFile (t : FileTree) (p : Place) (content : String) : FileTree :=
  { t with files := t.files.insert p content }

theorem isFolder_withFile_iff {content : String} :
    (t.withFile p content).isFolder q = true ↔ t.isFolder q = true ∨ q.IsAbove p := by
  have keys (r : Place) : r ∈ (t.withFile p content).files.keys ↔ r ∈ t.files.keys ∨ r = p := by
    rw [withFile, Keyed.keys_insert]
    split
    next known =>
      refine ⟨.inl, ?_⟩
      rintro (old | rfl)
      · exact old
      · exact known
    next => simp
  have folders : (t.withFile p content).folders = t.folders := rfl
  simp only [isFolder_iff, keys, folders, or_and_right, exists_or, exists_eq_left, or_assoc]

theorem get?_withFile (t : FileTree) (p q : Place) (content : String) :
    (t.withFile p content).files.get? q = if p = q then some content else t.files.get? q :=
  Keyed.get?_insert ..

/-- A file where no directory stands is in the way of no walk. -/
theorem keeps_withFile (noFolder : t.isFolder p = false) (content : String) :
    t.Keeps (t.withFile p content) where
  trail := rfl
  opens q opened := by
    have other : p ≠ q := by
      rintro rfl
      exact Bool.false_ne_true (noFolder.symm.trans opened.2)
    rw [Opens, get?_withFile, if_neg other, isFolder_withFile_iff]
    exact ⟨opened.1, .inl opened.2⟩

section Write

variable {path : Path} {n content : String}

/-- A file is written behind the directories of its path, where no directory stands. -/
theorem write?_of_name (ends : path.components = cs ++ [.name n]) :
    t.write? path content =
      if path.obstacle?.isSome || (Path.Component.name n).isTooLong then none
      else (t.makeFolders .start cs).bind fun (t', q) =>
        if t'.isFolder (q.step t'.trail (.name n)) then none
        else some (t'.withFile (q.step t'.trail (.name n)) content) := by
  rw [write?, ends, List.getLast?_concat, List.dropLast_concat, Option.bind_eq_bind,
    Option.bind_some]
  split <;> rfl

/-- The path of a file ends in its name. -/
theorem exists_name_of_write? (written : t.write? path content = some u) :
    ∃ cs n, path.components = cs ++ [.name n] := by
  rcases List.eq_nil_or_concat path.components with none | ⟨cs, last, ends⟩
  · rw [write?, none] at written
    cases written
  rw [List.concat_eq_append] at ends
  cases last with
  | name n => exact ⟨cs, n, ends⟩
  | root | here | up =>
    simp [write?, ends] at written

/-- What writing a file comes to. -/
theorem exists_makeFolders_of_write? (written : t.write? path content = some u) :
    path.obstacle? = none ∧ ∃ cs n t' q, path.components = cs ++ [.name n] ∧
      (Path.Component.name n).isTooLong = false ∧ t.makeFolders .start cs = some (t', q) ∧
        t'.isFolder (q.step t'.trail (.name n)) = false ∧
          u = t'.withFile (q.step t'.trail (.name n)) content := by
  obtain ⟨cs, n, ends⟩ := exists_name_of_write? written
  rw [write?_of_name ends, Option.ite_none_left_eq_some] at written
  obtain ⟨possible, written⟩ := written
  obtain ⟨⟨t', q⟩, made, written⟩ := Option.bind_eq_some_iff.mp written
  rw [Option.ite_none_left_eq_some] at written
  obtain ⟨noFolder, finished⟩ := by simpa using written
  obtain ⟨reachable, short⟩ := by simpa using possible
  exact ⟨reachable, cs, n, t', q, ends, short, made, noFolder, finished.symm⟩

/-- A file that was written is there, with its contents. -/
theorem probe_of_write? (written : t.write? path content = some u)
    (ofFile : path.namesFolder = false) : u.probe path = .file content := by
  obtain ⟨reachable, cs, n, t', q, ends, short, made, noFolder, rfl⟩ :=
    exists_makeFolders_of_write? written
  rw [probe, reachable, ends, walk_of_makeFolders made (keeps_withFile noFolder content) short, walk,
    get?_withFile, if_pos rfl, ofFile]
  rfl

end Write

/-! ## 6. Sound trees -/

/-- No directory stands where a file is, and directories stand above every directory. -/
structure IsSound (t : FileTree) : Prop where
  noFile : ∀ p, t.isFolder p = true → t.files.get? p = none
  above : ∀ p ∈ t.folders, ∀ q, q.IsAbove p → t.isFolder q = true

theorem IsSound.isFolder_of_isAbove (sound : t.IsSound) (folder : t.isFolder p = true)
    (above : q.IsAbove p) : t.isFolder q = true := by
  rcases isFolder_iff.mp folder with top | made | ⟨r, file, below⟩
  · exact absurd above (Place.not_isAbove_of_top top)
  · exact sound.above p made q above
  · exact isFolder_iff.mpr (.inr (.inr ⟨r, file, above.trans below⟩))

/-- A walk stands below directories only. -/
def IsReached (t : FileTree) (p : Place) : Prop := ∀ q, q.IsAbove p → t.isFolder q = true

theorem IsSound.withFolder (sound : t.IsSound) (free : t.files.get? p = none)
    (reached : t.IsReached p) : (t.withFolder p).IsSound where
  noFile q folder := by
    rw [files_withFolder]
    rcases isFolder_withFolder_iff.mp folder with known | rfl
    · exact sound.noFile q known
    · exact free
  above q made r above := by
    rw [isFolder_withFolder_iff]
    have known : t.isFolder q = true ∨ q = p :=
      isFolder_withFolder_iff.mp (isFolder_iff.mpr (.inr (.inl made)))
    rcases known with known | rfl
    · exact .inl (sound.isFolder_of_isAbove known above)
    · exact .inl (reached r above)

theorem IsReached.step (reached : t.IsReached p) (c : Path.Component) :
    (t.withFolder p).IsReached (p.step t.trail c) := by
  intro q above
  rw [isFolder_withFolder_iff]
  rcases Place.isAbove_step above with same | above
  · exact .inr same
  · exact .inl (reached q above)

/-- Making directories keeps a tree sound. -/
theorem IsSound.makeFolders (sound : t.IsSound) (reached : t.IsReached p)
    (made : t.makeFolders p cs = some (t', q)) : t'.IsSound ∧ t'.IsReached q := by
  induction cs generalizing t p with
  | nil =>
    obtain ⟨free, rfl, rfl⟩ := makeFolders_nil_eq_some_iff.mp made
    refine ⟨sound.withFolder free reached, fun r above => ?_⟩
    exact isFolder_withFolder_iff.mpr (.inl (reached r above))
  | cons c cs ih =>
    obtain ⟨free, -, later⟩ := makeFolders_cons_eq_some_iff.mp made
    exact ih (sound.withFolder free reached) (reached.step c) later

theorem IsSound.withFile (sound : t.IsSound) (noFolder : t.isFolder p = false)
    (reached : t.IsReached p) (content : String) : (t.withFile p content).IsSound := by
  have same (q : Place) : (t.withFile p content).isFolder q = true ↔ t.isFolder q = true := by
    rw [isFolder_withFile_iff]
    exact ⟨fun known => known.elim id (reached q), .inl⟩
  refine ⟨fun q folder => ?_, fun q made r above => ?_⟩
  · have other : p ≠ q := by
      rintro rfl
      exact Bool.false_ne_true (noFolder.symm.trans ((same p).mp folder))
    rw [get?_withFile, if_neg other]
    exact sound.noFile q ((same q).mp folder)
  · exact (same r).mpr (sound.above q made r above)

/-- Writing a file keeps a tree sound. -/
theorem IsSound.write? {path : Path} {content : String} (sound : t.IsSound)
    (written : t.write? path content = some u) : u.IsSound := by
  obtain ⟨-, cs, n, t', q, -, -, made, noFolder, rfl⟩ := exists_makeFolders_of_write? written
  have reached : t.IsReached .start := fun q above => absurd above (Place.not_isAbove_of_top rfl)
  obtain ⟨sound', reached'⟩ := sound.makeFolders reached made
  have opened := (keeps_of_makeFolders made).2
  refine sound'.withFile noFolder (fun r above => ?_) content
  rcases Place.isAbove_step above with rfl | above
  · exact opened.2
  · exact reached' r above

theorem isSound_empty (trail : List String) : (empty trail).IsSound where
  noFile _ _ := rfl
  above _ made := absurd made List.not_mem_nil

/-- Trees of files are sound. -/
theorem isSound_ofFiles (trail : List String) (l : List (Path × String)) :
    (ofFiles trail l).IsSound := by
  refine List.foldlRecOn l _ (isSound_empty trail) fun t sound f _ => ?_
  cases written : t.write? f.1 f.2 with
  | none => exact sound
  | some u => exact sound.write? written

/-- Where a path can be followed, its walk tells what stands there. -/
theorem walk_of_probe {path : Path} {found : Probe} (open_path : ∀ o, found ≠ .blocked o)
    (stands : t.probe path = found) :
    path.obstacle? = none ∧ (t.walk .start path.components).1 = found := by
  rw [probe] at stands
  cases obstacle : path.obstacle? with
  | some o =>
    rw [obstacle] at stands
    exact absurd stands.symm (open_path o)
  | none =>
    rw [obstacle] at stands
    refine ⟨rfl, ?_⟩
    cases walked : (t.walk .start path.components).1 with
    | file content =>
      rw [walked] at stands
      dsimp only at stands
      split at stands
      · exact absurd stands.symm (open_path .file)
      · exact stands
    | folder | missing | blocked cause =>
      rw [walked] at stands
      exact stands

theorem IsSound.isFolder_of_walk (sound : t.IsSound) (elsewhere : (t.walk p []).1 ≠ .folder) :
    t.isFolder p = false := by
  rw [Bool.eq_false_iff]
  intro folder
  rw [walk, sound.noFile p folder, folder] at elsewhere
  exact elsewhere rfl

/-- A file can be written in a directory, whether it is new or not. -/
theorem IsSound.exists_write? {folder : Path} {n : String} (sound : t.IsSound)
    (step : Path.IsStep n) (short : (Path.Component.name n).isTooLong = false)
    (there : t.probe folder = .folder)
    (free : t.probe (folder.join ⟨n⟩) = .missing ∨ ∃ old, t.probe (folder.join ⟨n⟩) = .file old)
    (content : String) : ∃ u, t.write? (folder.join ⟨n⟩) content = some u := by
  have ends := Path.components_join (p := folder) step
  obtain ⟨q, arrived⟩ : ∃ q, t.walk .start folder.components = (.folder, q) :=
    ⟨_, Prod.ext (walk_of_probe (by simp) there).2 rfl⟩
  obtain ⟨reachable, elsewhere⟩ : (folder.join ⟨n⟩).obstacle? = none ∧
      (t.walk .start (folder.join ⟨n⟩).components).1 ≠ .folder := by
    rcases free with missing | ⟨old, file⟩
    · obtain ⟨reachable, found⟩ := walk_of_probe (by simp) missing
      exact ⟨reachable, by simp [found]⟩
    · obtain ⟨reachable, found⟩ := walk_of_probe (by simp) file
      exact ⟨reachable, by simp [found]⟩
  rw [ends, walk_append_of_folder arrived short] at elsewhere
  have noFolder := sound.isFolder_of_walk elsewhere
  refine ⟨t.withFile (q.step t.trail (.name n)) content, ?_⟩
  rw [write?_of_name ends, reachable, short, makeFolders_of_folder arrived]
  simp [noFolder]

end FileTree

end ComponentWiring
