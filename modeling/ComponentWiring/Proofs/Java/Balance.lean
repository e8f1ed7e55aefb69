/-
ComponentWiring.Proofs.Java.Balance — where indentation is balanced.

* `netMoves`, `level_of_runMoves` — how far moves lead, whatever the level at which they begin.
* `Part.Embeds`, `Part.Inlines` — the code of a declaration, and the code in its lines.
* `SourceFile.IsBalanced` — all declarations lead back to their level, and close at it.
* `SourceFile.isBalanced_iff_inlined_level` — a file that was rendered is balanced exactly if the
  code in the lines of its declarations is.

The writer compares levels before and after the code of a method only. The code of annotations and
fields and the arguments of anonymous classes may lead to another level.
-/
import ComponentWiring.Proofs.Java.WellFormed

namespace ComponentWiring.Java

/-! ## 1. Counting -/

/-- How far a move leads. -/
def Move.net : Move → Int
  | .up => 1
  | .down => -1
  | .back _ => 0

/-- How far moves lead. -/
def netMoves : List Move → Int
  | [] => 0
  | m :: ms => m.net + netMoves ms

@[simp] theorem netMoves_nil : netMoves [] = 0 := rfl

@[simp] theorem netMoves_cons (m : Move) (ms : List Move) :
    netMoves (m :: ms) = m.net + netMoves ms := rfl

@[simp] theorem netMoves_append (ms ms' : List Move) :
    netMoves (ms ++ ms') = netMoves ms + netMoves ms' := by
  induction ms with
  | nil => exact (Int.zero_add _).symm
  | cons m ms ih => rw [List.cons_append, netMoves_cons, netMoves_cons, ih, Int.add_assoc]

/-- Moves that can be made lead as far as they do at every level. -/
theorem level_of_runMoves {ms : List Move} {a b : Nat} (h : runMoves ms a = some b) :
    (b : Int) = a + netMoves ms := by
  induction ms generalizing a with
  | nil =>
    cases h
    simp
  | cons m ms ih =>
    rw [netMoves_cons]
    cases m with
    | up =>
      rw [runMoves_up] at h
      have rest := ih h
      simp only [Move.net]
      omega
    | down =>
      cases a with
      | zero =>
        rw [runMoves_down_zero] at h
        cases h
      | succ a =>
        rw [runMoves_down] at h
        have rest := ih h
        simp only [Move.net]
        omega
    | back inner =>
      rw [runMoves_back] at h
      split at h
      · have rest := ih h
        simp only [Move.net]
        omega
      · cases h

/-- The moves can be made from some level. -/
def CanRun (ms : List Move) : Prop := ∃ a b, runMoves ms a = some b

theorem CanRun.inside {ms ms' : List Move} (h : CanRun ms') (inside : ms <:+: ms') :
    CanRun ms := by
  obtain ⟨before, behind, rfl⟩ := inside
  obtain ⟨a, b, run⟩ := h
  rw [runMoves_append, Option.bind_eq_some_iff] at run
  obtain ⟨c, run, -⟩ := run
  rw [runMoves_append, Option.bind_eq_some_iff] at run
  obtain ⟨d, -, run⟩ := run
  exact ⟨d, c, run⟩

/-! ## 2. Moves inside moves -/

theorem infix_flatten_map {α β : Type} (f : α → List β) {l : List α} {x : α} (hx : x ∈ l) :
    f x <:+: (l.map f).flatten :=
  List.infix_of_mem_flatten (List.mem_map_of_mem hx)

/-- Arguments that fill all placeholders make their moves. -/
theorem infix_weave {ms : List Mark} {xs : List CodeArg} (fitting : List.Forall₂
      (fun ph x => CodeArg.isFor x ph = true) (ms.filterMap Mark.placeholder?) xs)
    {x : CodeArg} (hx : x ∈ xs) : x.moves <:+: weave ms (movesOfArguments xs) := by
  induction ms generalizing xs with
  | nil =>
    cases fitting
    cases hx
  | cons m ms ih =>
    cases m with
    | indent | outdent => exact (ih fitting hx).trans (List.suffix_cons ..).isInfix
    | hole ph =>
      cases fitting with
      | cons _ fitting =>
        rw [movesOfArguments, weave]
        rcases List.mem_cons.mp hx with rfl | hx
        · exact (List.prefix_append ..).isInfix
        · exact (ih fitting hx).trans (List.suffix_append ..).isInfix

/-- Moves of a segment include those of its arguments. -/
theorem Segment.IsWellFormed.infix_moves {s : Segment} (h : s.IsWellFormed) {x : CodeArg}
    (hx : x ∈ s.arguments) : x.moves <:+: s.moves := by
  obtain ⟨format, xs⟩ := s
  obtain ⟨ps, proper, split, fitting⟩ := h
  rw [Segment.moves, formatMarks_eq_some_iff.mpr ⟨ps, proper, split, rfl⟩]
  refine infix_weave ?_ hx
  rwa [Option.getD_some, List.filterMap_filterMap]

namespace Part

/-- The code of a method that has a body comes back to the level at which it begins. -/
theorem level_of_canRun {inInterface : Bool} {m : MethodDecl}
    (body : hasBody inInterface m.modifiers = true) (run : CanRun (m.moves inInterface)) :
    ∃ a, runMoves (movesOfCode m.code) a = some a := by
  rw [MethodDecl.moves_eq, if_pos body] at run
  have alone : CanRun [.back (movesOfCode m.code)] :=
    run.inside ⟨movesOfAnnotations m.annotations ++ [.up], [.down], by simp⟩
  obtain ⟨a, b, run⟩ := alone
  rw [runMoves_back] at run
  split at run
  next level => exact ⟨a, level⟩
  next => cases run

theorem canRun_marker {us : List AnnotationUse} {rest : List Move}
    (run : CanRun (movesOfAnnotations us ++ rest)) {u : AnnotationUse} (hu : u ∈ us) :
    CanRun u.moves := by
  have marks := run.inside (List.prefix_append ..).isInfix
  rw [movesOfAnnotations_eq] at marks
  exact marks.inside (infix_flatten_map AnnotationUse.moves hu)

/-- What is written inside a part can make its moves if the part can. -/
theorem Holds.canRun {n n' : Part} (h : n.Holds n') (sound : n.IsSound) (run : CanRun n.moves) :
    CanRun n'.moves := by
  cases h with
  | @argument c s x _ hs hx hn =>
    have own : x.moves = n'.moves := by rw [CodeArg.moves_eq, hn, Option.map_some, Option.getD_some]
    rw [moves, movesOfCode_eq] at run
    rw [← own]
    exact (run.inside (infix_flatten_map Segment.moves hs)).inside
      ((isSound_code.mp sound s hs).wellFormed.infix_moves hx)
  | @member u m hm =>
    rw [moves, AnnotationUse.moves_eq, movesOfMembers_eq] at run
    exact run.inside (infix_flatten_map (fun m : String × Code => movesOfCode m.2) hm)
  | @markOfField _ f u hu =>
    rw [moves, FieldDecl.moves_eq] at run
    exact canRun_marker run hu
  | @initializer _ f c initial =>
    rw [moves, FieldDecl.moves_eq, initial] at run
    exact run.inside (List.suffix_append ..).isInfix
  | @markOfMethod inInterface m u hu =>
    rw [moves, MethodDecl.moves_eq] at run
    exact canRun_marker run hu
  | @body inInterface m body =>
    obtain ⟨a, level⟩ := level_of_canRun body run
    exact ⟨a, a, level⟩
  | @creation t c anonymous =>
    rw [moves, TypeDecl.moves_eq, anonymous] at run
    exact run.inside (List.prefix_append ..).isInfix
  | @markOfType t u named hu =>
    have marks : t.kind.moves (movesOfAnnotations t.annotations) =
        movesOfAnnotations t.annotations := by
      cases kind : t.kind with
      | classNamed | interfaceNamed => rfl
      | anonymous c => simp [TypeDecl.isAnonymous, kind] at named
    rw [moves, TypeDecl.moves_eq, marks] at run
    exact canRun_marker run hu
  | @fieldOf t f hf =>
    rw [moves, TypeDecl.moves_eq] at run
    refine run.inside ((infix_flatten_map FieldDecl.moves hf).trans ?_)
    rw [← movesOfFields_eq]
    exact ⟨t.kind.moves (movesOfAnnotations t.annotations) ++ [.up],
      movesOfMethods t.isInterface t.methods ++ [.down], by simp⟩
  | @methodOf t m hm =>
    rw [moves, TypeDecl.moves_eq] at run
    refine run.inside ((infix_flatten_map (MethodDecl.moves t.isInterface) hm).trans ?_)
    rw [← movesOfMethods_eq]
    exact ⟨t.kind.moves (movesOfAnnotations t.annotations) ++ .up :: movesOfFields t.fields,
      [.down], by simp⟩

/-- Everything that is written inside a sound part can make its moves if the part can. -/
theorem Emits.canRun {n n' : Part} (h : n.Emits n') (sound : n.IsSound) (run : CanRun n.moves) :
    CanRun n'.moves := by
  induction h with
  | refl => exact run
  | tail emitted held ih =>
    have inner : IsSound _ := fun n'' inside => sound n'' (emitted.trans inside)
    exact held.canRun inner ih

/-! ## 3. Levels of declarations -/

/-- The code stands in the lines of the declaration: a member of an annotation, the initial value of
a field, or the arguments with which an anonymous class is created. -/
inductive Inlines : Part → Code → Prop
  | member {u : AnnotationUse} {m : String × Code} (hm : m ∈ u.members) : Inlines (.marker u) m.2
  | initializer {inInterface : Bool} {f : FieldDecl} {c : Code} (initial : f.initializer = some c) :
    Inlines (.field inInterface f) c
  | creation {t : TypeDecl} {c : Code} (anonymous : t.kind = .anonymous c) : Inlines (.type t) c

/-- The code is written with the declaration: in its lines, or as the body of a method. -/
inductive Embeds : Part → Code → Prop
  | inlined {n : Part} {c : Code} (h : n.Inlines c) : Embeds n c
  | body {inInterface : Bool} {m : MethodDecl} (body : hasBody inInterface m.modifiers = true) :
    Embeds (.method inInterface m) m.code

/-- Whether the part is a declaration or an annotation. -/
def isDeclaration : Part → Bool
  | .code _ => false
  | _ => true

/-- All code in the lines of what is written inside the part comes back to its level. -/
def InlinesLevel (n : Part) : Prop :=
  ∀ n' c, n.Emits n' → n'.Inlines c → netMoves (movesOfCode c) = 0

theorem InlinesLevel.holds {n n' : Part} (h : n.InlinesLevel) (held : n.Holds n') :
    n'.InlinesLevel :=
  fun n'' c inner => h n'' c (.trans (.single held) inner)

theorem netMoves_flatten_map {α : Type} {f : α → List Move} {l : List α}
    (h : ∀ x ∈ l, netMoves (f x) = 0) : netMoves (l.map f).flatten = 0 := by
  induction l with
  | nil => rfl
  | cons x l ih =>
    obtain ⟨first, rest⟩ := List.forall_mem_cons.mp h
    rw [List.map_cons, List.flatten_cons, netMoves_append, first, ih rest, Int.add_zero]

theorem netMoves_annotations {us : List AnnotationUse}
    (h : ∀ u ∈ us, (marker u).InlinesLevel) : netMoves (movesOfAnnotations us) = 0 := by
  rw [movesOfAnnotations_eq]
  refine netMoves_flatten_map fun u hu => ?_
  rw [AnnotationUse.moves_eq, movesOfMembers_eq]
  exact netMoves_flatten_map fun m hm => h u hu _ m.2 (.self _) (.member hm)

theorem netMoves_field {inInterface : Bool} {f : FieldDecl}
    (h : (field inInterface f).InlinesLevel) : netMoves f.moves = 0 := by
  have marks := netMoves_annotations fun u hu => h.holds (.markOfField hu)
  have value : netMoves (movesOfInitializer f.initializer) = 0 := by
    cases initial : f.initializer with
    | none => rfl
    | some c => exact h _ c (.self _) (.initializer initial)
  rw [FieldDecl.moves_eq, netMoves_append, marks, value, Int.add_zero]

theorem netMoves_method {inInterface : Bool} {m : MethodDecl}
    (h : (method inInterface m).InlinesLevel) : netMoves (m.moves inInterface) = 0 := by
  have marks := netMoves_annotations fun u hu => h.holds (.markOfMethod hu)
  rw [MethodDecl.moves_eq, netMoves_append, marks]
  split <;> simp [Move.net]

theorem netMoves_type {t : TypeDecl} (h : (type t).InlinesLevel) : netMoves t.moves = 0 := by
  have fields : netMoves (movesOfFields t.fields) = 0 := by
    rw [movesOfFields_eq]
    exact netMoves_flatten_map fun f hf => netMoves_field (h.holds (.fieldOf hf))
  have methods : netMoves (movesOfMethods t.isInterface t.methods) = 0 := by
    rw [movesOfMethods_eq]
    exact netMoves_flatten_map fun m hm => netMoves_method (h.holds (.methodOf hm))
  have opening : netMoves (t.kind.moves (movesOfAnnotations t.annotations)) = 0 := by
    cases kind : t.kind with
    | anonymous c => exact h _ c (.self _) (.creation kind)
    | classNamed | interfaceNamed =>
      have named : t.isAnonymous = false := by rw [TypeDecl.isAnonymous, kind]
      exact netMoves_annotations fun u hu => h.holds (.markOfType named hu)
  rw [TypeDecl.moves_eq]
  simp [opening, fields, methods, Move.net]

/-- A declaration comes back to its level if all code in the lines inside it does. -/
theorem netMoves_moves {n : Part} (h : n.InlinesLevel) (declared : n.isDeclaration = true) :
    netMoves n.moves = 0 := by
  cases n with
  | code => cases declared
  | marker u =>
    have alone := netMoves_annotations fun v hv => List.mem_singleton.mp hv ▸ h
    rwa [movesOfAnnotations_eq, List.map_singleton, List.flatten_singleton] at alone
  | field inInterface f => exact netMoves_field h
  | method inInterface m => exact netMoves_method h
  | type t => exact netMoves_type h

end Part

/-! ## 4. Ends of lines -/

namespace Page

/-- The last line on which something is written. -/
def lastLine? (p : Page) : Option Line :=
  if p.isLineStart then p.lines.back? else some p.current

/-- A line has just ended. -/
structure IsAfterLine (p : Page) : Prop where
  start : p.isLineStart = true
  ended : ∃ (ls : Array Line) (l : Line), p.lines = ls.push l

theorem isAfterLine_put (p : Page) : (p.put '\n').IsAfterLine :=
  ⟨rfl, p.lines, p.current, rfl⟩

theorem isAfterLine_write (p : Page) {s t : String} (ends : s = t ++ "\n") :
    (p.write s).IsAfterLine := by
  rw [ends, write_append]
  exact isAfterLine_put (p.write t)

theorem IsAfterLine.indent {p : Page} (h : p.IsAfterLine) : p.indent.IsAfterLine :=
  ⟨h.start, h.ended⟩

theorem isLineStart_finishLine (p : Page) : p.finishLine.isLineStart = true := by
  unfold finishLine
  split
  · assumption
  · exact p.isAfterLine_put.start

theorem eq_of_outdent {p q : Page} (moved : Java.outdent p = .ok q) :
    q = { p with depth := q.depth } := by
  unfold Java.outdent outdent? at moved
  split at moved
  next up =>
    split at up
    · cases up
    · cases up
      cases moved
      rfl
  next => cases moved

theorem IsAfterLine.outdent {p q : Page} (h : p.IsAfterLine) (moved : Java.outdent p = .ok q) :
    q.IsAfterLine := by
  rw [eq_of_outdent moved]
  exact ⟨h.start, h.ended⟩

/-- A brace at the start of a line stands alone on it. -/
theorem write_brace {p : Page} (start : p.isLineStart = true) :
    p.write "\x7d" = { p with current := ⟨p.depth, "\x7d"⟩ } := by
  have put : p.put '\x7d' = { p with current := ⟨p.depth, "\x7d"⟩ } := by
    rw [Page.put, if_neg (by decide), if_pos start]
    rfl
  exact put

theorem lastLine?_write_brace {p : Page} (start : p.isLineStart = true) :
    (p.write "\x7d").lastLine? = some ⟨p.depth, "\x7d"⟩ := by
  rw [write_brace start]
  rfl

theorem lastLine?_put_brace {p : Page} (start : p.isLineStart = true) :
    ((p.write "\x7d").put '\n').lastLine? = some ⟨p.depth, "\x7d"⟩ := by
  rw [write_brace start]
  simp [put, lastLine?, isLineStart, Line.blank]

theorem IsAfterLine.print {p : Page} (h : p.IsAfterLine) (width : Nat) :
    ∃ before, p.print width = before ++ "\n" := by
  obtain ⟨ls, l, lines⟩ := h.ended
  have nothing : p.current.print width = "" := if_pos h.start
  refine ⟨String.join (ls.toList.map fun l => l.print width ++ "\n") ++ l.print width, ?_⟩
  rw [Page.print, nothing, lines]
  simp [String.append_assoc]

end Page

variable {im : Imports} {p q : Page}

theorem isAfterLine_emitField {inInterface : Bool} {f : FieldDecl}
    (written : emitField im inInterface f p = .ok q) : q.IsAfterLine := by
  obtain ⟨type, name, modifiers, annotations, initializer⟩ := f
  rw [emitField, bind_ok_iff] at written
  obtain ⟨annotated, -, written⟩ := written
  obtain ⟨valued, -, written⟩ := (bind_ok_iff ..).mp written
  cases written
  exact valued.isAfterLine_write (t := ";") rfl

theorem isAfterLine_emitFields {inInterface isFirst : Bool} {fs : List FieldDecl}
    (after : p.IsAfterLine) (written : emitFields im inInterface isFirst fs p = .ok q) :
    q.IsAfterLine := by
  induction fs generalizing isFirst p with
  | nil =>
    cases written
    exact after
  | cons f fs ih =>
    rw [emitFields_cons, bind_ok_iff] at written
    obtain ⟨p', first, rest⟩ := written
    exact ih (isAfterLine_emitField first) rest

/-- A method with a body ends in a brace at the start of a line. -/
theorem emitMethod_closes {inInterface : Bool} {m : MethodDecl}
    (written : emitMethod im inInterface m p = .ok q)
    (body : hasBody inInterface m.modifiers = true) :
    ∃ r : Page, r.isLineStart = true ∧ q = (r.write "\x7d").put '\n' := by
  obtain ⟨name, modifiers, annotations, typeVariables, returns, parameters, code⟩ := m
  rw [emitMethod, bind_ok_iff] at written
  obtain ⟨annotated, -, written⟩ := written
  rw [if_pos body, bind_ok_iff] at written
  obtain ⟨coded, done, written⟩ := written
  obtain ⟨closed, moved, written⟩ := (bind_ok_iff ..).mp written
  split at written
  next same =>
    cases written
    refine ⟨closed, ?_, rfl⟩
    rw [Page.eq_of_outdent moved]
    exact coded.isLineStart_finishLine
  next other => cases written

theorem isAfterLine_emitMethod {inInterface : Bool} {m : MethodDecl}
    (written : emitMethod im inInterface m p = .ok q) : q.IsAfterLine := by
  by_cases body : hasBody inInterface m.modifiers = true
  · obtain ⟨r, -, rfl⟩ := emitMethod_closes written body
    exact Page.isAfterLine_put _
  · obtain ⟨name, modifiers, annotations, typeVariables, returns, parameters, code⟩ := m
    rw [emitMethod, bind_ok_iff] at written
    obtain ⟨annotated, -, written⟩ := written
    rw [if_neg body] at written
    have last : q = Page.write (annotated.write _) ";\n" := (Except.ok.inj written).symm
    rw [last]
    exact Page.isAfterLine_write _ (t := ";") rfl

theorem isAfterLine_emitMethods {inInterface isFirst : Bool} {ms : List MethodDecl}
    (after : p.IsAfterLine) (written : emitMethods im inInterface isFirst ms p = .ok q) :
    q.IsAfterLine := by
  induction ms generalizing isFirst p with
  | nil =>
    cases written
    exact after
  | cons m ms ih =>
    rw [emitMethods_cons, bind_ok_iff] at written
    obtain ⟨p', first, rest⟩ := written
    exact ih (isAfterLine_emitMethod first) rest

/-- The line that opens a type was written, and the depth of the page is left to the members. -/
theorem isAfterLine_emitCreation {supertypes : List TypeExpr} {code : Code}
    (written : emitCreation im supertypes (.anonymous code) p = .ok q) : q.IsAfterLine := by
  cases supertypes with
  | nil =>
    rw [emitCreation] at written
    cases written
  | cons t ts =>
    rw [emitCreation, bind_ok_iff] at written
    obtain ⟨coded, -, written⟩ := written
    cases written
    exact coded.isAfterLine_write (t := ") \x7b") rfl

/-- A type ends in a brace at the start of a line. -/
theorem emitType_closes {t : TypeDecl} (written : emitType im t p = .ok q) :
    ∃ r : Page, r.IsAfterLine ∧
      q = if t.isAnonymous then r.write "\x7d" else (r.write "\x7d").put '\n' := by
  obtain ⟨kind, modifiers, annotations, superclass, superinterfaces, fs, ms⟩ := t
  have members {isInterface isFirst : Bool} {opened fielded ended closed : Page}
      (after : opened.IsAfterLine)
      (fields : emitFields im isInterface true fs opened.indent = .ok fielded)
      (methods : emitMethods im isInterface isFirst ms fielded = .ok ended)
      (moved : outdent ended = .ok closed) : closed.IsAfterLine :=
    (isAfterLine_emitMethods (isAfterLine_emitFields after.indent fields) methods).outdent moved
  have line {x : Except FormatFault Page} {opened : Page} (start : String)
      (opening : x.map (·.write (start ++ " \x7b\n")) = .ok opened) : opened.IsAfterLine := by
    cases x with
    | error => cases opening
    | ok r =>
      cases opening
      exact r.isAfterLine_write (t := start ++ " \x7b") (by rw [String.append_assoc]; rfl)
  -- The three kinds differ in the line that opens the type, and in what closes it.
  cases kind
  all_goals
    rw [emitType, bind_ok_iff] at written
    obtain ⟨opened, opening, written⟩ := written
    obtain ⟨fielded, fields, written⟩ := (bind_ok_iff ..).mp written
    obtain ⟨ended, methods, written⟩ := (bind_ok_iff ..).mp written
    obtain ⟨closed, moved, written⟩ := (bind_ok_iff ..).mp written
    cases written
    refine ⟨closed, members ?_ fields methods moved, rfl⟩
  case classNamed | interfaceNamed => exact line _ opening
  case anonymous => exact isAfterLine_emitCreation opening

/-! ## 5. Balanced files -/

/-- Whether the part is closed by a brace. -/
def Part.isBraced : Part → Bool
  | .method inInterface m => hasBody inInterface m.modifiers
  | .type _ => true
  | _ => false

/-- The brace that closes a part stands alone on a line, at the level at which the part ends. -/
theorem Part.lastLine?_emit {n : Part} (braced : n.isBraced = true)
    (written : n.emit im p = .ok q) : q.lastLine? = some ⟨q.depth, "\x7d"⟩ := by
  cases n with
  | code | marker | field => cases braced
  | method inInterface m =>
    obtain ⟨r, start, rfl⟩ := emitMethod_closes written braced
    rw [Page.lastLine?_put_brace start]
    simp
  | type t =>
    obtain ⟨r, after, rfl⟩ := emitType_closes written
    split
    · rw [Page.lastLine?_write_brace after.start, Page.depth_write]
    · rw [Page.lastLine?_put_brace after.start]
      simp

/-- Indentation is balanced everywhere in what is written of a file. -/
structure SourceFile.IsBalanced (f : SourceFile) : Prop where
  /-- Every declaration and annotation comes back to the level at which it begins. -/
  levels : ∀ n, (Part.type f.type).Emits n → n.isDeclaration = true →
    ∀ p q, n.emit (.of f) p = .ok q → q.depth = p.depth
  /-- The brace that closes a type or a method stands at the level at which this begins. -/
  braces : ∀ n, (Part.type f.type).Emits n → n.isBraced = true →
    ∀ p q, n.emit (.of f) p = .ok q → q.lastLine? = some ⟨p.depth, "\x7d"⟩
  /-- The last line is a brace without indentation. -/
  ending : ∀ width text, f.render width = .ok text → ∃ before, text = before ++ "\n\x7d\n"
  /-- In the code of every declaration there are as many indents as outdents. -/
  blocks : ∀ n c, (Part.type f.type).Emits n → n.Embeds c → netMoves (movesOfCode c) = 0

/-- A declaration comes back to its level if the code in the lines inside it does. -/
theorem Part.depth_emit {n : Part} (h : n.InlinesLevel) (declared : n.isDeclaration = true)
    (written : n.emit im p = .ok q) : q.depth = p.depth := by
  obtain ⟨-, moved⟩ := (n.isFollowed im p q.depth).mp ⟨q, written, rfl⟩
  have level := level_of_runMoves moved
  rw [netMoves_moves h declared] at level
  omega

/-- The text of a file whose type comes back to its level ends in a brace without indentation. -/
theorem SourceFile.ending_of_level {f : SourceFile} (level : (Part.type f.type).InlinesLevel)
    {width : Nat} {text : String} (rendered : f.render width = .ok text) :
    ∃ before, text = before ++ "\n\x7d\n" := by
  obtain ⟨⟨named, -⟩, q, written, rfl⟩ := render_ok_iff.mp rendered
  have depth : q.depth = 0 := by
    have same := Part.depth_emit level rfl written
    rwa [Page.depth_write] at same
  obtain ⟨r, after, rfl⟩ := emitType_closes written
  rw [named, if_neg Bool.false_ne_true, Page.depth_put, Page.depth_write] at depth
  obtain ⟨before, printed⟩ := after.print width
  refine ⟨before, ?_⟩
  have last : (r.write "\x7d").put '\n' = r.write "\x7d\n" := rfl
  rw [named, if_neg Bool.false_ne_true, last, Page.print_write depth, printed, String.append_assoc]
  rfl

/-- A file that was rendered is balanced exactly if there are as many indents as outdents in each
member of an annotation, each initial value of a field, and the arguments of each anonymous class.
The writer sees to the code of methods, and to nothing else. -/
theorem SourceFile.isBalanced_iff_inlined_level {f : SourceFile} {width : Nat} {text : String}
    (rendered : f.render width = .ok text) :
    f.IsBalanced ↔
      ∀ n c, (Part.type f.type).Emits n → n.Inlines c → netMoves (movesOfCode c) = 0 := by
  obtain ⟨-, q, written, -⟩ := render_ok_iff.mp rendered
  obtain ⟨sound, a, run⟩ := emitType_ok_iff.mp ⟨q, written⟩
  constructor
  · intro h n c emitted inlined
    exact h.blocks n c emitted (.inlined inlined)
  · intro h
    have inside {n : Part} (emitted : (Part.type f.type).Emits n) : n.InlinesLevel :=
      fun n' c inner => h n' c (emitted.trans inner)
    refine ⟨?levels, ?braces, ?ending, ?blocks⟩
    case levels =>
      intro n emitted declared p q written
      exact Part.depth_emit (inside emitted) declared written
    case braces =>
      intro n emitted braced p q written
      have declared : n.isDeclaration = true := by
        cases n with
        | code => cases braced
        | marker | field | method | type => rfl
      rw [← Part.depth_emit (inside emitted) declared written]
      exact Part.lastLine?_emit braced written
    case ending =>
      intro width text rendered
      exact ending_of_level (inside (.self _)) rendered
    case blocks =>
      intro n c emitted embedded
      cases embedded with
      | inlined inlined => exact h n c emitted inlined
      | body body =>
        obtain ⟨b, level⟩ := Part.level_of_canRun body (emitted.canRun sound ⟨0, a, run⟩)
        have same := level_of_runMoves level
        omega

/-- A class whose only field has the initial value. -/
def initialized (format : String) : SourceFile where
  package := ""
  type := { TypeDecl.ofKind (.classNamed "Bad") with
    fields := [{ FieldDecl.plain (.variable "int") "x" with
      initializer := some (Code.of format) }] }

theorem ok_of_toOption {ε α : Type} {x : Except ε α} {a : α} (h : x.toOption = some a) :
    x = .ok a := by
  cases x with
  | error => cases h
  | ok b => exact congrArg Except.ok (Option.some.inj h)

theorem isBalanced_iff_inlined_level_of_initialized :
    (initialized "$>1$<").render 4 = .ok "class Bad \x7b\n    int x = 1;\n\x7d\n" ∧
      ((initialized "$>1$<").IsBalanced ↔ ∀ n c, (Part.type (initialized "$>1$<").type).Emits n →
        n.Inlines c → netMoves (movesOfCode c) = 0) := by
  have rendered : (initialized "$>1$<").render 4 =
      .ok "class Bad \x7b\n    int x = 1;\n\x7d\n" :=
    ok_of_toOption (by decide +kernel)
  exact ⟨rendered, SourceFile.isBalanced_iff_inlined_level rendered⟩

/-- The initial value of the field indents the brace of the class, and yet the class is rendered. -/
theorem not_isBalanced_of_initialized :
    (initialized "$>1").render 4 = .ok "class Bad \x7b\n    int x = 1;\n    \x7d\n" ∧
      ¬ (initialized "$>1").IsBalanced := by
  refine ⟨ok_of_toOption (by decide +kernel), fun h => ?_⟩
  have unmatched : netMoves (movesOfCode (Code.of "$>1")) = 1 := by decide +kernel
  have matched := h.blocks _ _ (.single (.fieldOf List.mem_cons_self))
    (.inlined (.initializer rfl))
  rw [unmatched] at matched
  cases matched

end ComponentWiring.Java
