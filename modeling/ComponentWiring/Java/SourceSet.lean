/-
ComponentWiring.Java.SourceSet — rendered sources, and where files are handed to.

* `WriteFault` — why a file is not accepted.
* `Filer` — anything that takes finished files, one for each path.
* `SourceSet` — the filer that keeps what it is given, in order.
* `Filer.refusing` — a filer that refuses some of the files it is handed.
-/
import ComponentWiring.Java.Render

namespace ComponentWiring.Java

/-! ## 1. Faults and filers -/

/-- Why a file is not accepted, or a name is none. -/
inductive WriteFault
  /-- The text is no class name. -/
  | invalidName (text : String)
  | format (fault : FormatFault)
  /-- A file of the same path was written before. -/
  | duplicate (canonicalName : String)
  /-- The device that keeps the files failed. -/
  | device (reason : String)
deriving Inhabited

/-- The fault in words. -/
def WriteFault.message : WriteFault → String
  | .invalidName text => "Invalid class name: " ++ text
  | .format fault => "Invalid code format: " ++ fault.message
  | .duplicate name => "File already written: " ++ name
  | .device reason => "IO error: " ++ reason

/-- Takes finished files: the answer is the path under which the file was accepted, and
what the filer has become. -/
structure Filer (σ : Type) where
  write : SourceFile → σ → Except WriteFault Path × σ

/-! ## 2. Sources in memory -/

/-- A rendered file. -/
structure Source where
  package : String
  name : String
  path : Path
  text : String
deriving DecidableEq, Inhabited

/-- Rendered files under the components of their paths, in the order of writing. -/
structure SourceSet where
  width : Nat
  files : Keyed (List Path.Component) Source

namespace SourceSet

/-- No sources yet; `width` is the number of spaces of one level of indentation. -/
def empty (width : Nat) : SourceSet := ⟨width, .empty⟩

instance : Inhabited SourceSet := ⟨empty 4⟩

/-- The sources in the order of writing. -/
def sources (s : SourceSet) : List Source := s.files.values

/-- The number of sources. -/
def size (s : SourceSet) : Nat := s.files.size

/-- The first source of a package and a name. -/
def get? (s : SourceSet) (package name : String) : Option Source :=
  s.sources.find? fun f => f.package = package && f.name = name

/-- Renders a file and keeps it. Whether the path is taken is asked first. -/
def write (f : SourceFile) (s : SourceSet) : Except WriteFault Path × SourceSet :=
  let path := f.path
  if s.files.contains path.components then (.error (.duplicate f.className.canonicalName), s)
  else match f.render s.width with
    | .error fault => (.error (.format fault), s)
    | .ok text =>
      (.ok path, { s with files := s.files.insert path.components ⟨f.package, f.type.name, path, text⟩ })

/-- The filer that keeps what it is given. -/
def filer : Filer SourceSet := ⟨write⟩

end SourceSet

/-! ## 3. Refusals -/

/-- A filer that refuses the files whose numbers are listed, counting every file it is
handed from one, and hands all others on. -/
def Filer.refusing {σ : Type} (filer : Filer σ) (numbers : List Nat) (reason : String) :
    Filer (Nat × σ) where
  write f := fun (n, s) =>
    if numbers.contains (n + 1) then (.error (.device reason), (n + 1, s))
    else
      let (answer, s) := filer.write f s
      (answer, (n + 1, s))

end ComponentWiring.Java
