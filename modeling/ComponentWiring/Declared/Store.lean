/-
ComponentWiring.Declared.Store — all types that a run knows.

* `TypeStore` — the types by qualified name, in the order in which the names came.
* `TypeStore.insert` — declares a type; a known name keeps its place and gets the new type.
* `TypeStore.resolve` — the declared type of a reference.

The main statements say what `insert` does to `get?` and to `names`.
-/
import ComponentWiring.Declared.Element

namespace ComponentWiring

/-- Types by qualified name. -/
structure TypeStore where
  types : Keyed String TypeElement
  named : ∀ e ∈ types.entries, e.2.qualifiedName = e.1

namespace TypeStore

/-- The store without types. -/
def empty : TypeStore := ⟨.empty, by simp [Keyed.empty]⟩

instance : Inhabited TypeStore := ⟨empty⟩

/-- Declares a type under its name. -/
def insert (s : TypeStore) (t : TypeElement) : TypeStore :=
  ⟨s.types.insert t.qualifiedName t, Entries.forall_put s.named rfl⟩

/-- Declares types one after the other. -/
def insertAll (s : TypeStore) (ts : List TypeElement) : TypeStore := ts.foldl insert s

/-- The type of a name. -/
def get? (s : TypeStore) (name : String) : Option TypeElement := s.types.get? name

/-- Whether the name is declared. -/
def contains (s : TypeStore) (name : String) : Bool := s.types.contains name

/-- The declared names in order. -/
def names (s : TypeStore) : List String := s.types.keys

/-- The declared types in order. -/
def elements (s : TypeStore) : List TypeElement := s.types.values

/-- The number of declared types. -/
def size (s : TypeStore) : Nat := s.types.size

/-- The declared type of a reference. -/
def resolve (s : TypeStore) (r : TypeRef) : Option TypeElement := r.name?.bind s.get?

theorem get?_insert (s : TypeStore) (t : TypeElement) (n : String) :
    (s.insert t).get? n = if t.qualifiedName = n then some t else s.get? n :=
  Keyed.get?_insert s.types t.qualifiedName n t

theorem names_insert (s : TypeStore) (t : TypeElement) :
    (s.insert t).names =
      if t.qualifiedName ∈ s.names then s.names else s.names ++ [t.qualifiedName] :=
  Keyed.keys_insert s.types t.qualifiedName t

theorem get?_eq_none_iff {s : TypeStore} {n : String} : s.get? n = none ↔ n ∉ s.names :=
  Keyed.get?_eq_none_iff

/-- A type is stored under its own name. -/
theorem qualifiedName_of_get? {s : TypeStore} {n : String} {t : TypeElement}
    (h : s.get? n = some t) : t.qualifiedName = n :=
  s.named (n, t) (Entries.mem_of_get?_eq_some h)

end TypeStore

end ComponentWiring
