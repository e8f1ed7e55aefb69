/-
ComponentWiring.Declared.Hierarchy — supertypes of declared types.

* `TypeStore.hasCycle` — whether a type can be reached from itself.
* `TypeStore.isValid` — whether everything above a type is known, of the right kind and
  free of cycles.
* `TypeStore.superclassChain` — the superclasses of a type, nearest first.
* `TypeStore.findInterface`, `TypeStore.findDeclaringInterface` — search for an interface.
* `TypeStore.classify` — what discovery asks about a candidate.

A store may hold anything: missing types, wrong kinds and cycles. Every walk keeps a list of the
names it has visited. The number after which it would give up is never reached, for a walk goes on
only with new names of declared types.
-/
import ComponentWiring.Declared.Store

namespace ComponentWiring

namespace TypeStore

/-! ## 1. Cycles -/

/-- The declared supertypes of a type: its superclass, then its interfaces. -/
def supertypes (s : TypeStore) (t : TypeElement) : List TypeElement :=
  (t.superclass :: t.interfaces).filterMap s.resolve

/-- Whether the search that goes on with the types of the stack meets the name, given how it goes on
with other stacks. It looks at the type on top, and puts the supertypes on the stack, the last one
on top, if the type is met first. -/
def meetsWith (s : TypeStore) (name : String) (meets : List String → List TypeElement → Bool)
    (seen : List String) : List TypeElement → Bool
  | [] => false
  | u :: stack =>
    if u.qualifiedName = name then true
    else if seen.contains u.qualifiedName then meets seen stack
    else meets (u.qualifiedName :: seen) ((s.supertypes u).reverse ++ stack)

/-- Whether the search that goes on with the types of the stack meets the name among so many of
them. -/
def meets (s : TypeStore) (name : String) : Nat → List String → List TypeElement → Bool
  | 0 => fun _ _ => false
  | fuel + 1 => s.meetsWith name (s.meets name fuel)

/-- How many types get on a stack on which the supertypes of each type are put once. -/
def stackings (s : TypeStore) (t : TypeElement) : Nat :=
  (s.supertypes t ++ s.elements.flatMap s.supertypes).length

/-- Whether the type can be reached from itself. -/
def hasCycle (s : TypeStore) (t : TypeElement) : Bool :=
  s.meets t.qualifiedName (s.stackings t) [] (s.supertypes t).reverse

/-! ## 2. Validity -/

section Visits

variable (s : TypeStore) (visit : List String → TypeElement → Option (List String))

/-- Visits the type of a reference, which has to be declared and of the kind. -/
def visitAs (kind : ElementKind) (visited : List String) (r : TypeRef) : Option (List String) :=
  match s.resolve r with
  | some p => if p.kind = kind then visit visited p else none
  | none => none

/-- Visits the superclass. There need not be one. -/
def visitSuperclass (visited : List String) : TypeRef → Option (List String)
  | .absent => some visited
  | r => s.visitAs visit .classType visited r

/-- Visits a type, given the names visited before and how its supertypes are visited. The result are
the names visited then, or nothing as soon as something is wrong. -/
def visitWith (visited : List String) (t : TypeElement) : Option (List String) :=
  if visited.contains t.qualifiedName then
    -- Either a cycle, or a type to which several ways lead.
    if s.hasCycle t then none else some visited
  else if t.methods.any (·.hasUnresolved) then none
  else
    (s.visitSuperclass visit (t.qualifiedName :: visited) t.superclass).bind fun visited =>
      t.interfaces.foldlM (s.visitAs visit .interfaceType) visited

end Visits

/-- Visits a type and everything above it, in at most as many types above each other. -/
def visit (s : TypeStore) : Nat → List String → TypeElement → Option (List String)
  | 0 => fun _ _ => none
  | fuel + 1 => s.visitWith (s.visit fuel)

/-- Whether the type and everything above it is in order and lies on no cycle. -/
def isValid (s : TypeStore) (t : TypeElement) : Bool :=
  (s.visit (s.size + 2) [] t).isSome

/-! ## 3. Superclasses -/

/-- How the walk up the superclasses ends. -/
inductive ChainEnd
  /-- At a class without a superclass. -/
  | root
  /-- At a type that is unresolved, not declared, or met before. -/
  | unresolved (name : String)
deriving DecidableEq, Inhabited

/-- The superclasses of a type, given the names met before. -/
def chainAfter (s : TypeStore) : Nat → List String → TypeElement → List String × ChainEnd
  | 0, _, _ => ([], .root)
  | fuel + 1, met, t =>
    match t.superclass with
    | .absent => ([], .root)
    | .unresolved n => ([], .unresolved n)
    | .named n =>
      if met.contains n then ([], .unresolved n)
      else match s.get? n with
        | none => ([n], .unresolved n)
        | some parent =>
          let (rest, chainEnd) := s.chainAfter fuel (n :: met) parent
          (n :: rest, chainEnd)

/-- The names of the superclasses, nearest first, and how the walk ended. -/
def superclassChain (s : TypeStore) (t : TypeElement) : List String × ChainEnd :=
  s.chainAfter (s.size + 1) [t.qualifiedName] t

/-- Whether a class of the name is among the superclasses. -/
def inheritsFrom (s : TypeStore) (t : TypeElement) (name : String) : Bool :=
  (s.superclassChain t).1.contains name

/-! ## 4. Interfaces -/

/-- The course of a search: it ends at a type, or goes on with the names that are visited. -/
abbrev Search := Except TypeElement (List String)

/-- The type at which the search has ended. -/
def Search.found? : Search → Option TypeElement
  | .error t => some t
  | .ok _ => none

section Searches

variable (s : TypeStore) (target : String)

section

variable (search : List String → List TypeRef → Search)

/-- Searches one reference, given how the interfaces of its type are searched. A name that was
visited before is passed over. -/
def searchWith (visited : List String) (r : TypeRef) : Search :=
  match s.resolve r with
  | none => .ok visited
  | some t =>
    if visited.contains t.qualifiedName then .ok visited
    else if t.qualifiedName = target then .error t
    else search (t.qualifiedName :: visited) t.interfaces

/-- Searches references one after the other for the interface of the name, the interfaces of each
before the next one. -/
def searchEach (visited : List String) (refs : List TypeRef) : Search :=
  refs.foldlM (searchWith s target search) visited

end

/-- Searches references and everything above them, in at most as many interfaces above each
other. -/
def search : Nat → List String → List TypeRef → Search
  | 0 => fun visited _ => .ok visited
  | fuel + 1 => searchEach s target (search fuel)

/-- Searches references with as many interfaces above each other as there can be. -/
def searchAll (visited : List String) (refs : List TypeRef) : Search :=
  s.search target (s.size + 1) visited refs

/-- Whether one reference is the target or leads to it. -/
def searchBelow (visited : List String) (r : TypeRef) : Search :=
  match s.resolve r with
  | none => .ok visited
  | some t =>
    if t.qualifiedName = target then .error t
    else match s.searchAll target visited t.interfaces with
      | .error _ => .error t
      | .ok visited => .ok visited

end Searches

/-- The declared interface of the name, if a reference leads to it. -/
def findInterface (s : TypeStore) (refs : List TypeRef) (target : String) : Option TypeElement :=
  (s.searchAll target [] refs).found?

/-- The first reference that is the target or leads to it. What earlier references have
led to is not searched again. -/
def findDeclaringAfter (s : TypeStore) (target : String) (visited : List String)
    (refs : List TypeRef) : Option TypeElement :=
  Search.found? (refs.foldlM (s.searchBelow target) visited)

/-- The declared type among the references through which the target is reached. -/
def findDeclaringInterface (s : TypeStore) (refs : List TypeRef) (target : String) :
    Option TypeElement :=
  s.findDeclaringAfter target [] refs

/-! ## 5. Classification -/

/-- What discovery asks about a candidate. -/
structure Classification where
  /-- The superclasses, nearest first. -/
  bases : List String
  chainEnd : ChainEnd
  /-- Whether the presenter base is among the superclasses. -/
  isPresenter : Bool
  /-- The interface through which the contract is reached. -/
  contract : Option String
deriving DecidableEq, Inhabited

/-- The nearest superclass among the given names. -/
def Classification.firstBaseIn (c : Classification) (names : List String) : Option String :=
  c.bases.find? names.contains

/-- Whether the name is among the superclasses. -/
def Classification.derivesFrom (c : Classification) (name : String) : Bool :=
  c.bases.contains name

/-- The classification of a candidate, given the presenter base and the interface that all
contracts extend. -/
def classify (s : TypeStore) (t : TypeElement) (presenterBase contractRoot : String) :
    Classification :=
  let (bases, chainEnd) := s.superclassChain t
  { bases, chainEnd
    isPresenter := bases.contains presenterBase
    contract := (s.findDeclaringInterface t.interfaces contractRoot).map (·.qualifiedName) }

end TypeStore

end ComponentWiring
