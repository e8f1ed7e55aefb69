/-
ComponentWiring.Proofs.Java.Parts — what is written as a part of what, and how far it indents.

* `Part`, `Part.Holds`, `Part.Emits` — code and declarations, and those that are written inside
  them.
* `Part.induct` — what carries over from the parts of a part to the part itself holds of all parts.
* `Move`, `runMoves` — a counter that never drops below zero and returns to where it was.
* `Part.moves` — what writing a part does to the indentation.

Not all that a declaration is made of is written: an anonymous class has no annotations on the page,
and a method without a body has no code there.
-/
import ComponentWiring.Proofs.Java.Emission
import Mathlib.Logic.Relation

namespace ComponentWiring.Java

/-! ## 1. Parts -/

/-- Code or a declaration. -/
inductive Part
  | code (code : Code)
  | marker (u : AnnotationUse)
  | field (inInterface : Bool) (f : FieldDecl)
  | method (inInterface : Bool) (m : MethodDecl)
  | type (t : TypeDecl)

/-- The code or the anonymous class that an argument is. -/
def CodeArg.part? : CodeArg → Option Part
  | .block code => some (.code code)
  | .anonymous t => some (.type t)
  | _ => none

namespace Part

/-- The writer of a part. -/
def emit (im : Imports) : Part → Emit
  | .code c => emitCode im c
  | .marker u => emitAnnotation im u
  | .field inInterface f => emitField im inInterface f
  | .method inInterface m => emitMethod im inInterface m
  | .type t => emitType im t

/-- The first part is written with the second one directly inside it. -/
inductive Holds : Part → Part → Prop
  | argument {code : Code} {s : Segment} {x : CodeArg} {n : Part} (hs : s ∈ code)
      (hx : x ∈ s.arguments) (hn : x.part? = some n) : Holds (.code code) n
  | member {u : AnnotationUse} {m : String × Code} (hm : m ∈ u.members) :
    Holds (.marker u) (.code m.2)
  | markOfField {inInterface : Bool} {f : FieldDecl} {u : AnnotationUse} (hu : u ∈ f.annotations) :
    Holds (.field inInterface f) (.marker u)
  | initializer {inInterface : Bool} {f : FieldDecl} {code : Code}
      (initial : f.initializer = some code) : Holds (.field inInterface f) (.code code)
  | markOfMethod {inInterface : Bool} {m : MethodDecl} {u : AnnotationUse}
      (hu : u ∈ m.annotations) : Holds (.method inInterface m) (.marker u)
  | body {inInterface : Bool} {m : MethodDecl} (body : hasBody inInterface m.modifiers = true) :
    Holds (.method inInterface m) (.code m.code)
  | creation {t : TypeDecl} {code : Code} (anonymous : t.kind = .anonymous code) :
    Holds (.type t) (.code code)
  | markOfType {t : TypeDecl} {u : AnnotationUse} (named : t.isAnonymous = false)
      (hu : u ∈ t.annotations) : Holds (.type t) (.marker u)
  | fieldOf {t : TypeDecl} {f : FieldDecl} (hf : f ∈ t.fields) :
    Holds (.type t) (.field t.isInterface f)
  | methodOf {t : TypeDecl} {m : MethodDecl} (hm : m ∈ t.methods) :
    Holds (.type t) (.method t.isInterface m)

/-- The first part is written with the second one somewhere inside it, or they are the same. -/
def Emits : Part → Part → Prop := Relation.ReflTransGen Holds

theorem Emits.self (n : Part) : n.Emits n := .refl

theorem Emits.trans {n n' n'' : Part} (h : n.Emits n') (h' : n'.Emits n'') : n.Emits n'' :=
  Relation.ReflTransGen.trans h h'

theorem Emits.holds {n n' n'' : Part} (h : n.Emits n') (h' : n'.Holds n'') : n.Emits n'' :=
  Relation.ReflTransGen.tail h h'

/-! ## 2. Induction -/

/-- The size of what is written. -/
noncomputable def size : Part → Nat
  | .code c => sizeOf c
  | .marker u => sizeOf u
  | .field _ f => sizeOf f
  | .method _ m => sizeOf m
  | .type t => sizeOf t

theorem size_lt_of_part? {x : CodeArg} {n : Part} (h : x.part? = some n) : n.size < sizeOf x := by
  cases x <;> cases h <;> simp [size]

/-- A part is larger than those that are written inside it. -/
theorem Holds.size_lt {n n' : Part} (h : n.Holds n') : n'.size < n.size := by
  cases h with
  | @argument code s x _ hs hx hn =>
    obtain ⟨format, arguments⟩ := s
    have inCode := List.sizeOf_lt_of_mem hs
    have inArguments : sizeOf x < sizeOf arguments := List.sizeOf_lt_of_mem hx
    have inArgument := size_lt_of_part? hn
    rw [Segment.mk.sizeOf_spec] at inCode
    show n'.size < sizeOf code
    omega
  | @member u m hm =>
    obtain ⟨type, members⟩ := u
    obtain ⟨name, code⟩ := m
    have inMembers : sizeOf (name, code) < sizeOf members := List.sizeOf_lt_of_mem hm
    rw [Prod.mk.sizeOf_spec] at inMembers
    simp only [size, AnnotationUse.mk.sizeOf_spec]
    omega
  | @markOfField _ f u hu =>
    obtain ⟨type, name, modifiers, annotations, initializer⟩ := f
    have inMarks : sizeOf u < sizeOf annotations := List.sizeOf_lt_of_mem hu
    simp only [size, FieldDecl.mk.sizeOf_spec]
    omega
  | @initializer _ f code initial =>
    obtain ⟨type, name, modifiers, annotations, initializer⟩ := f
    cases initial
    simp only [size, FieldDecl.mk.sizeOf_spec, Option.some.sizeOf_spec]
    omega
  | @markOfMethod _ m u hu =>
    obtain ⟨name, modifiers, annotations, typeVariables, returns, parameters, code⟩ := m
    have inMarks : sizeOf u < sizeOf annotations := List.sizeOf_lt_of_mem hu
    simp only [size, MethodDecl.mk.sizeOf_spec]
    omega
  | @body _ m _ =>
    obtain ⟨name, modifiers, annotations, typeVariables, returns, parameters, code⟩ := m
    simp only [size, MethodDecl.mk.sizeOf_spec]
    omega
  | @creation t code anonymous =>
    obtain ⟨kind, modifiers, annotations, superclass, superinterfaces, fields, methods⟩ := t
    cases anonymous
    simp only [size, TypeDecl.mk.sizeOf_spec, TypeKind.anonymous.sizeOf_spec]
    omega
  | @markOfType t u _ hu =>
    obtain ⟨kind, modifiers, annotations, superclass, superinterfaces, fields, methods⟩ := t
    have inMarks : sizeOf u < sizeOf annotations := List.sizeOf_lt_of_mem hu
    simp only [size, TypeDecl.mk.sizeOf_spec]
    omega
  | @fieldOf t f hf =>
    obtain ⟨kind, modifiers, annotations, superclass, superinterfaces, fields, methods⟩ := t
    have inFields : sizeOf f < sizeOf fields := List.sizeOf_lt_of_mem hf
    simp only [size, TypeDecl.mk.sizeOf_spec]
    omega
  | @methodOf t m hm =>
    obtain ⟨kind, modifiers, annotations, superclass, superinterfaces, fields, methods⟩ := t
    have inMethods : sizeOf m < sizeOf methods := List.sizeOf_lt_of_mem hm
    simp only [size, TypeDecl.mk.sizeOf_spec]
    omega

/-- What carries over from the parts inside a part to the part itself holds of all parts. -/
theorem induct {P : Part → Prop} (step : ∀ n, (∀ n', n.Holds n' → P n') → P n) (n : Part) : P n :=
  step n fun n' _ => induct step n'
termination_by n.size
decreasing_by
  rename_i held
  exact held.size_lt

end Part

/-! ## 3. Counting -/

/-- What is done to the level of indentation. -/
inductive Move
  | up
  | down
  /-- Moves that lead back to the level at which they begin. -/
  | back (moves : List Move)

mutual
/-- The level after a move, if it can be made. -/
def Move.run : Move → Nat → Option Nat
  | .up, a => some (a + 1)
  | .down, 0 => none
  | .down, a + 1 => some a
  | .back ms, a => if runMoves ms a = some a then some a else none
/-- The level after moves, if all of them can be made. -/
def runMoves : List Move → Nat → Option Nat
  | [], a => some a
  | m :: ms, a => (m.run a).bind (runMoves ms)
end

theorem runMoves_up (ms : List Move) (a : Nat) : runMoves (.up :: ms) a = runMoves ms (a + 1) := by
  rw [runMoves, Move.run, Option.bind_some]

theorem runMoves_down (ms : List Move) (a : Nat) :
    runMoves (.down :: ms) (a + 1) = runMoves ms a := by
  rw [runMoves, Move.run, Option.bind_some]

theorem runMoves_down_zero (ms : List Move) : runMoves (.down :: ms) 0 = none := by
  rw [runMoves, Move.run, Option.bind_none]

theorem runMoves_back (ms ms' : List Move) (a : Nat) :
    runMoves (.back ms :: ms') a = if runMoves ms a = some a then runMoves ms' a else none := by
  rw [runMoves, Move.run]
  split
  · exact Option.bind_some ..
  · exact Option.bind_none ..

theorem runMoves_append (ms ms' : List Move) (a : Nat) :
    runMoves (ms ++ ms') a = (runMoves ms a).bind (runMoves ms') := by
  induction ms generalizing a with
  | nil => rfl
  | cons m ms ih =>
    rw [List.cons_append, runMoves, runMoves, Option.bind_assoc]
    exact congrArg _ (funext ih)

/-! ## 4. Moves of what is written -/

/-- The moves of a format, whose arguments make theirs in their places. -/
def weave : List Mark → List (List Move) → List Move
  | .indent :: ms, xs => .up :: weave ms xs
  | .outdent :: ms, xs => .down :: weave ms xs
  | .hole _ :: ms, x :: xs => x ++ weave ms xs
  | _, _ => []

mutual
/-- The moves of an argument. -/
def CodeArg.moves : CodeArg → List Move
  | .block code => movesOfCode code
  | .anonymous t => t.moves
  | _ => []
/-- The moves of arguments, one by one. -/
def movesOfArguments : List CodeArg → List (List Move)
  | [] => []
  | x :: xs => x.moves :: movesOfArguments xs
/-- The moves of a segment. -/
def Segment.moves : Segment → List Move
  | ⟨format, arguments⟩ =>
    weave ((formatMarks format.toList).getD []) (movesOfArguments arguments)
/-- The moves of code. -/
def movesOfCode : List Segment → List Move
  | [] => []
  | s :: code => s.moves ++ movesOfCode code
/-- The moves of the members of an annotation. -/
def movesOfMembers : List (String × List Segment) → List Move
  | [] => []
  | (_, code) :: ms => movesOfCode code ++ movesOfMembers ms
/-- The moves of an annotation. -/
def AnnotationUse.moves : AnnotationUse → List Move
  | ⟨_, members⟩ => movesOfMembers members
/-- The moves of annotations. -/
def movesOfAnnotations : List AnnotationUse → List Move
  | [] => []
  | u :: us => u.moves ++ movesOfAnnotations us
/-- The moves of an initial value. -/
def movesOfInitializer : Option (List Segment) → List Move
  | none => []
  | some code => movesOfCode code
/-- The moves of a field. -/
def FieldDecl.moves : FieldDecl → List Move
  | ⟨_, _, _, annotations, initializer⟩ =>
    movesOfAnnotations annotations ++ movesOfInitializer initializer
/-- The moves of fields. -/
def movesOfFields : List FieldDecl → List Move
  | [] => []
  | f :: fs => f.moves ++ movesOfFields fs
/-- The moves of a method: those of its code, if it is written, lead back. -/
def MethodDecl.moves (inInterface : Bool) : MethodDecl → List Move
  | ⟨_, modifiers, annotations, _, _, _, code⟩ =>
    movesOfAnnotations annotations
      ++ if hasBody inInterface modifiers then [.up, .back (movesOfCode code), .down] else []
/-- The moves of methods. -/
def movesOfMethods (inInterface : Bool) : List MethodDecl → List Move
  | [] => []
  | m :: ms => m.moves inInterface ++ movesOfMethods inInterface ms
/-- The moves of the line that opens a type, given its annotations. -/
def TypeKind.moves (marks : List Move) : TypeKind → List Move
  | .anonymous arguments => movesOfCode arguments
  | _ => marks
/-- The moves of a type: its members stand one level deeper. -/
def TypeDecl.moves : TypeDecl → List Move
  | ⟨kind, _, annotations, _, _, fields, methods⟩ =>
    let isInterface := match kind with | .interfaceNamed _ => true | _ => false
    kind.moves (movesOfAnnotations annotations)
      ++ (.up :: movesOfFields fields ++ movesOfMethods isInterface methods ++ [.down])
end

/-- The moves of a part. -/
def Part.moves : Part → List Move
  | .code c => movesOfCode c
  | .marker u => u.moves
  | .field _ f => f.moves
  | .method inInterface m => m.moves inInterface
  | .type t => t.moves

/-! The moves of a list are those of its elements, one after the other. -/

theorem movesOfCode_eq (code : Code) : movesOfCode code = (code.map Segment.moves).flatten := by
  induction code with
  | nil => rfl
  | cons s code ih => rw [movesOfCode, ih, List.map_cons, List.flatten_cons]

theorem movesOfMembers_eq (ms : List (String × Code)) :
    movesOfMembers ms = (ms.map fun m => movesOfCode m.2).flatten := by
  induction ms with
  | nil => rfl
  | cons m ms ih => rw [movesOfMembers, ih, List.map_cons, List.flatten_cons]

theorem movesOfAnnotations_eq (us : List AnnotationUse) :
    movesOfAnnotations us = (us.map AnnotationUse.moves).flatten := by
  induction us with
  | nil => rfl
  | cons u us ih => rw [movesOfAnnotations, ih, List.map_cons, List.flatten_cons]

theorem movesOfFields_eq (fs : List FieldDecl) :
    movesOfFields fs = (fs.map FieldDecl.moves).flatten := by
  induction fs with
  | nil => rfl
  | cons f fs ih => rw [movesOfFields, ih, List.map_cons, List.flatten_cons]

theorem movesOfMethods_eq (inInterface : Bool) (ms : List MethodDecl) :
    movesOfMethods inInterface ms = (ms.map (MethodDecl.moves inInterface)).flatten := by
  induction ms with
  | nil => rfl
  | cons m ms ih => rw [movesOfMethods, ih, List.map_cons, List.flatten_cons]

theorem AnnotationUse.moves_eq (u : AnnotationUse) : u.moves = movesOfMembers u.members := by
  cases u
  rfl

theorem FieldDecl.moves_eq (f : FieldDecl) :
    f.moves = movesOfAnnotations f.annotations ++ movesOfInitializer f.initializer := by
  cases f
  rfl

theorem MethodDecl.moves_eq (inInterface : Bool) (m : MethodDecl) : m.moves inInterface =
    movesOfAnnotations m.annotations ++ if hasBody inInterface m.modifiers then
      [.up, .back (movesOfCode m.code), .down] else [] := by
  cases m
  rfl

theorem TypeDecl.moves_eq (t : TypeDecl) : t.moves =
    t.kind.moves (movesOfAnnotations t.annotations) ++
      (.up :: movesOfFields t.fields ++ movesOfMethods t.isInterface t.methods ++ [.down]) := by
  obtain ⟨kind, modifiers, annotations, superclass, superinterfaces, fields, methods⟩ := t
  cases kind <;> rfl

/-- An argument moves as the part that it is. -/
theorem CodeArg.moves_eq (x : CodeArg) : x.moves = (x.part?.map Part.moves).getD [] := by
  cases x <;> simp [part?, moves, Part.moves]

end ComponentWiring.Java
