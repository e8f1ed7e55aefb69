/-
ComponentWiring.FileTree — the files and directories below a working directory, as a value.

* `FileTree.probe` — what stands at a path.
* `FileTree.write?` — writing a file, creating the directories above it.
* `FileTree.listing` — every file with its contents.

A tree lets a command be run, and reasoned about, without a disk.
-/
import ComponentWiring.Keyed
import ComponentWiring.Path

namespace ComponentWiring

/-! ## 1. Places -/

/-- A place relative to the working directory, or to the root for an absolute path:
so many directories up, then down through the names (the last one first). -/
structure Place where
  absolute : Bool
  ups : Nat
  names : List String
deriving DecidableEq, Inhabited

/-- The working directory itself. -/
def Place.start : Place := ⟨false, 0, []⟩

/-- The place one component further. `trail` holds the names on the way up from the working
directory, its own name first: a step down along it leads back. -/
def Place.step (trail : List String) (p : Place) : Path.Component → Place
  | .root => ⟨true, 0, []⟩
  | .here => p
  | .up =>
    match p.names with
    | _ :: r => { p with names := r }
    | [] => if p.absolute then p else { p with ups := p.ups + 1 }
  | .name n =>
    match p.ups, p.names with
    | k + 1, [] => if trail[k]? = some n then { p with ups := k } else { p with names := [n] }
    | _, names => { p with names := n :: names }

/-- The names on the way down, the first one first. -/
def Place.steps (p : Place) : List String := p.names.reverse

/-! ## 2. Trees -/

/-- Files with their contents, and the directories that were made. -/
structure FileTree where
  files : Keyed Place String
  folders : List Place
  /-- The names on the way up from the working directory, its own name first, as far as
  they are known. -/
  trail : List String := []

/-- What a path leads to. -/
inductive Probe
  /-- A file with its contents. -/
  | file (content : String)
  | folder
  | missing
  /-- The path cannot be followed. -/
  | blocked (cause : Obstacle)
deriving DecidableEq

namespace FileTree

/-- The empty tree. -/
def empty (trail : List String) : FileTree := ⟨Keyed.empty, [], trail⟩

/-- Whether a directory stands at the place: one that was made, one that holds a file,
or one above the working directory. -/
def isFolder (t : FileTree) (p : Place) : Bool :=
  p.names.isEmpty || t.folders.contains p ||
    t.files.keys.any fun q =>
      q.absolute == p.absolute && q.ups == p.ups && p.names.length < q.names.length
        && p.names.isSuffixOf q.names

/-- What stands at the end of a walk through the components. A name is looked up only where
a directory stands. -/
def walk (t : FileTree) : Place → List Path.Component → Probe × Place
  | p, [] =>
    match t.files.get? p with
    | some content => (.file content, p)
    | none => (if t.isFolder p then .folder else .missing, p)
  | p, c :: cs =>
    match t.files.get? p with
    | some _ => (.blocked .file, p)
    | none =>
      if !t.isFolder p then (.missing, p)
      else if c.isTooLong then (.blocked .tooLong, p)
      else walk t (p.step t.trail c) cs

/-- What stands at a path. A file cannot be reached by a path that ends like one of a
directory. -/
def probe (t : FileTree) (p : Path) : Probe :=
  match p.obstacle? with
  | some o => .blocked o
  | none =>
    match (t.walk .start p.components).1 with
    | .file content => if p.namesFolder then .blocked .file else .file content
    | found => found

/-- Makes the directories of a walk that are missing. -/
def makeFolders (t : FileTree) : Place → List Path.Component → Option (FileTree × Place)
  | p, [] =>
    if (t.files.get? p).isSome then none
    else if t.isFolder p then some (t, p)
    else some ({ t with folders := p :: t.folders }, p)
  | p, c :: cs =>
    if (t.files.get? p).isSome || c.isTooLong then none
    else if t.isFolder p then makeFolders t (p.step t.trail c) cs
    else makeFolders { t with folders := p :: t.folders } (p.step t.trail c) cs

/-- The tree after writing a file, together with the directories above it. A path that
cannot be followed, or leads to a directory, cannot be written. -/
def write? (t : FileTree) (p : Path) (content : String) : Option FileTree := do
  let cs := p.components
  let last ← cs.getLast?
  if p.obstacle?.isSome || last.isTooLong then failure
  let (t, place) ← t.makeFolders .start cs.dropLast
  let target := place.step t.trail last
  match last with
  | .name _ =>
    if t.isFolder target then none
    else some { t with files := t.files.insert target content }
  | _ => none

/-- The tree after writing files one after the other, if all of them can be written. -/
def writeAll? (t : FileTree) (l : List (Path × String)) : Option FileTree :=
  l.foldlM (fun t f => t.write? f.1 f.2) t

/-- The tree of the given files. -/
def ofFiles (trail : List String) (l : List (Path × String)) : FileTree :=
  l.foldl (fun t f => (t.write? f.1 f.2).getD t) (empty trail)

/-- The files below the working directory, as paths from it and in their order. -/
def listing (t : FileTree) : List (String × String) :=
  let below := t.files.entries.filterMap fun (p, content) =>
    if p.absolute || p.ups != 0 then none else some (Text.joinTexts "/" p.steps, content)
  below.mergeSort fun a b => decide (a.1 ≤ b.1)

/-- The files of the listing that another tree does not hold, or not with these contents. -/
def changesSince (t before : FileTree) : List (String × String) :=
  let old := before.listing
  t.listing.filter fun f => !old.contains f

end FileTree

end ComponentWiring
