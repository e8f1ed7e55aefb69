/-
ComponentWiring.Declared.Round — one round of annotation processing.

* `Round` — a store with the names of the root types of the round.
* `Round.elementsWith` — the elements that carry an annotation.
* `Round.markersPresent` — which annotations occur at all.
-/
import ComponentWiring.Declared.Store

namespace ComponentWiring

/-- A round over the root types of a store. -/
structure Round where
  store : TypeStore
  roots : List String
  /-- Whether this is the round after the last one with root types. -/
  isOver : Bool := false

namespace Round

/-- The round after the last one; it has no root types. -/
def final (store : TypeStore) : Round := ⟨store, [], true⟩

/-- The root types that are declared, in order. -/
def rootElements (r : Round) : List TypeElement := r.roots.filterMap r.store.get?

/-- The elements of a type that carry an annotation: the type, then its methods. -/
def carriers (marker : String) (t : TypeElement) : List Element :=
  (if (t.marker? marker).isSome then [.type t] else [])
    ++ (t.methods.filter fun m => (m.marker? marker).isSome).map (.method · t)

/-- The elements that carry an annotation, in order. -/
def elementsWith (r : Round) (marker : String) : List Element :=
  r.rootElements.flatMap (carriers marker)

/-- The annotations that occur among the given ones, each once. -/
def markersPresent (r : Round) (annotations : List String) : List String :=
  (annotations.filter fun a => !(r.elementsWith a).isEmpty).eraseDups

end Round

end ComponentWiring
