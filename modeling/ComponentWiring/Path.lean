/-
ComponentWiring.Path — slash-separated paths.

* `Path` — a path as it is written.
* `Path.components` — what it leads through: two spellings with the same components name
  the same place.
* `Path.join`, `Path.extension?` — building paths and reading the extension of a file.
* `Obstacle`, `Path.obstacle?` — why a path cannot be followed.
-/
import ComponentWiring.Text.Segments

namespace ComponentWiring

/-- A path as it is written. -/
structure Path where
  text : String
deriving DecidableEq, Inhabited

namespace Path

/-! ## 1. Components -/

/-- One step of a path. -/
inductive Component
  /-- The slash at the start of an absolute path. -/
  | root
  /-- A single dot at the start of a relative path. -/
  | here
  /-- Two dots: the directory above. -/
  | up
  /-- The name of a file or directory. -/
  | name (n : String)
deriving DecidableEq

/-- Whether the path starts at the root. -/
def isAbsolute (p : Path) : Bool :=
  p.text.toList.head? == some '/'

/-- The component a segment stands for. Empty segments and single dots stand for none. -/
def Component.ofSegment (s : List Char) : Option Component :=
  if s = [] || s = ['.'] then none
  else if s = ['.', '.'] then some .up
  else some (.name (String.ofList s))

/-- The components of a path. -/
def components (p : Path) : List Component :=
  let segs := Text.segments '/' p.text.toList
  let steps := segs.filterMap Component.ofSegment
  if p.isAbsolute then .root :: steps
  else if segs.head? = some ['.'] then .here :: steps
  else steps

/-- Whether the path ends in a slash or in a slash and a dot, as only the path of a
directory may. -/
def namesFolder (p : Path) : Bool :=
  match (Text.segments '/' p.text.toList).reverse with
  | s :: _ :: _ => s = [] || s = ['.']
  | _ => false

/-- Whether two spellings name the same place. -/
def same (p q : Path) : Bool := p.components = q.components

/-! ## 2. Building -/

/-- The path `q` seen from `p`: an absolute `q` stands for itself, any other follows `p`
after a slash, unless `p` is empty or ends in one. -/
def join (p q : Path) : Path :=
  if q.isAbsolute then q
  else if p.text.isEmpty || p.text.toList.getLast? = some '/' then ⟨p.text ++ q.text⟩
  else ⟨p.text ++ "/" ++ q.text⟩

/-- The path as it continues the path of a directory: without the dots and slashes before
its first step. -/
def continuation (p : Path) : Path :=
  ⟨String.ofList (Text.joinWith '/'
    ((Text.segments '/' p.text.toList).dropWhile fun s => s = [] || s = ['.']))⟩

/-- The path of several steps taken one after the other. -/
def ofSteps (l : List String) : Path :=
  l.foldl (fun p s => p.join ⟨s⟩) ⟨""⟩

/-- A path is relative and leads only downwards. -/
def IsPlain (p : Path) : Prop :=
  ∀ c ∈ p.components, ∃ n, c = .name n

instance (p : Path) : Decidable p.IsPlain :=
  decidable_of_iff (p.components.all fun c => match c with | .name _ => true | _ => false) (by
    simp only [IsPlain, List.all_eq_true]
    constructor
    · intro h c hc
      have := h c hc
      cases c <;> simp_all
    · intro h c hc
      obtain ⟨n, rfl⟩ := h c hc
      rfl)

/-! ## 3. File names -/

/-- The name of the file a path leads to. -/
def fileName? (p : Path) : Option String :=
  match p.components.getLast? with
  | some (.name n) => some n
  | _ => none

/-- The part before the last slash. -/
def folder (p : Path) : Path :=
  ⟨String.ofList (Text.joinWith '/' (Text.segments '/' p.text.toList).dropLast)⟩

/-- The extension of a file: what follows the last dot of its name, unless that dot is
the first character. -/
def extension? (p : Path) : Option String := do
  let n ← p.fileName?
  let segs := Text.segments '.' n.toList
  let stem := Text.joinWith '.' segs.dropLast
  if segs.length ≤ 1 || stem.isEmpty then none
  else segs.getLast?.map String.ofList

end Path

/-! ## 4. Obstacles -/

/-- Why a path cannot be followed. -/
inductive Obstacle
  /-- It leads through a file. -/
  | file
  /-- The path, or one of its names, is too long. -/
  | tooLong
  /-- The path holds a null character, at which a path ends for the system. -/
  | null
  /-- The user may not follow it. -/
  | denied
deriving DecidableEq, Inhabited

/-- The obstacle as the system words it. -/
def Obstacle.message : Obstacle → String
  | .file => "Not a directory (os error 20)"
  | .tooLong => "File name too long (os error 36)"
  | .null => "file name contained an unexpected NUL byte"
  | .denied => "Permission denied (os error 13)"

/-- The number of bytes that a name may have. -/
def nameLimit : Nat := 255

/-- A path has fewer bytes than this. -/
def pathLimit : Nat := 4096

/-- Whether a step is a name that is too long. -/
def Path.Component.isTooLong : Path.Component → Bool
  | .name n => nameLimit < n.utf8ByteSize
  | _ => false

/-- What is wrong with a path wherever it leads. -/
def Path.obstacle? (p : Path) : Option Obstacle :=
  if p.text.toList.contains '\x00' then some .null
  else if pathLimit ≤ p.text.utf8ByteSize then some .tooLong
  else none

end ComponentWiring
