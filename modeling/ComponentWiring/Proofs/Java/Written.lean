/-
ComponentWiring.Proofs.Java.Written — what is known of code and declarations that were written.

* `Draws.takes` — a writer that succeeds on one page succeeds on every page of the same depth.
* `fits_of_emitFormat` — the arguments of a format that was written fit its marks.
* `Code.IsLevel` — code whose arguments fit and that ends at the depth at which it begins.
* `TypeDecl.Encloses` — a type and the anonymous classes in the code of its methods.
* `TypeDecl.IsLevel`, `isLevel_of_emitType` — in a type that was written, the code of all
  methods is level, that of anonymous classes included.

`Proofs.Java.Emission` says what is enough to write a declaration; here it is said what the
writer has seen to when it is done.
-/
import ComponentWiring.Proofs.Java.Strokes
import ComponentWiring.Proofs.Run.Stages

namespace ComponentWiring.Java

variable {im : Imports} {p q : Page} {a b : Nat}

/-- Whether a writer succeeds, and how far it moves, depends on the depth of the page only. -/
theorem Draws.takes {w : Imports → Emit} {cs : List ClassName} (h : Draws w cs)
    (written : w im p = .ok q) (im' : Imports) : Emit.Takes (w im') p.depth q.depth := by
  obtain ⟨r, -, drawn⟩ := h p.depth
  have first := (drawn im p rfl).symm.trans written
  cases r with
  | error fault => cases first
  | ok ss =>
    cases first
    intro p' hp'
    refine ⟨drawAll im' ss p', drawn im' p' hp', ?_⟩
    rw [depth_drawAll, depth_drawAll, hp']

/-! ## 1. Formats -/

theorem depth_of_outdent (moved : outdent p = .ok q) : p.depth = q.depth + 1 := by
  unfold outdent Page.outdent? at moved
  cases depth : p.depth with
  | zero =>
    rw [depth] at moved
    cases moved
  | succ n =>
    rw [depth] at moved
    cases moved
    rfl

/-- The arguments of a format that was written fit its marks. -/
theorem fits_of_emitFormat {format : String} {cs : List Char} {xs : List CodeArg}
    (written : emitFormat format cs (argumentWriters im xs) p = .ok q) :
    ∃ ms, formatMarks cs = some ms ∧ Fits im ms xs p.depth q.depth := by
  -- The induction follows the format, as in `emitFormat_takes`.
  induction cs using formatMarks.induct generalizing xs p with
  | case1 =>
    cases xs <;> rw [argumentWriters, emitFormat] at written <;> cases written
    exact ⟨[], rfl, .nil _⟩
  | case2 =>
    rw [emitFormat] at written
    cases written
  | case3 r ih =>
    rw [emitFormat_dollar] at written
    obtain ⟨ms, marks, fits⟩ := ih written
    rw [Page.depth_put] at fits
    exact ⟨ms, by simpa [formatMarks] using marks, fits⟩
  | case4 r _ ih =>
    rw [emitFormat_indent] at written
    obtain ⟨ms, marks, fits⟩ := ih written
    exact ⟨.indent :: ms, by simp [formatMarks, marks], .indent fits⟩
  | case5 r _ _ ih =>
    rw [emitFormat_outdent, bind_ok_iff] at written
    obtain ⟨p', moved, written⟩ := written
    obtain ⟨ms, marks, fits⟩ := ih written
    rw [depth_of_outdent moved]
    exact ⟨.outdent :: ms, by simp [formatMarks, marks], .outdent fits⟩
  | case6 l r noDollar noIndent noOutdent unknown =>
    rw [emitFormat.eq_4 _ _ _ _ _ unknown, if_neg noDollar, if_neg noIndent,
      if_neg noOutdent] at written
    cases written
  | case7 l r noDollar noIndent noOutdent ph known ih =>
    cases xs with
    | nil =>
      rw [argumentWriters, emitFormat.eq_5 _ _ _ _ _ known, if_neg noDollar, if_neg noIndent,
        if_neg noOutdent] at written
      cases written
    | cons x xs =>
      rw [argumentWriters, emitFormat_hole known, bind_ok_iff] at written
      obtain ⟨p', first, written⟩ := written
      obtain ⟨ms, marks, fits⟩ := ih written
      refine ⟨.hole ph :: ms, ?_, .hole ((argument_draws x ph).takes first im) fits⟩
      rw [formatMarks, if_neg noDollar, if_neg noIndent, if_neg noOutdent, known, marks]
      rfl
  | case8 l r noEnd noMark ih =>
    rw [emitFormat] at written
    · obtain ⟨ms, marks, fits⟩ := ih written
      rw [Page.depth_put] at fits
      refine ⟨ms, ?_, fits⟩
      rw [formatMarks]
      · exact marks
      · exact noEnd
      · exact noMark
    · exact noEnd
    · exact noMark

/-- An argument that fits is written for its placeholder. -/
theorem Fits.argument {ms : List Mark} {xs : List CodeArg} (h : Fits im ms xs a b) {x : CodeArg}
    (hx : x ∈ xs) : ∃ ph c d, Emit.Takes (emitArgument im x ph) c d := by
  induction h with
  | nil => cases hx
  | indent _ ih | outdent _ ih => exact ih hx
  | hole taken _ ih =>
    rcases List.mem_cons.mp hx with rfl | hx
    · exact ⟨_, _, _, taken⟩
    · exact ih hx

/-! ## 2. Code -/

/-- The arguments of all segments fit, and the code ends at the depth at which it begins. -/
structure Code.IsLevel (im : Imports) (code : Code) : Prop where
  fits : ∀ s ∈ code, ∃ ms c d,
    formatMarks s.format.toList = some ms ∧ Fits im ms s.arguments c d
  level : ∃ c, Emit.Takes (emitCode im code) c c

/-- In code that was written, the arguments of all segments fit. -/
theorem fits_of_emitCode {code : Code} (written : emitCode im code p = .ok q) :
    ∀ s ∈ code, ∃ ms c d, formatMarks s.format.toList = some ms ∧ Fits im ms s.arguments c d := by
  induction code generalizing p with
  | nil => exact List.forall_mem_nil _
  | cons s code ih =>
    obtain ⟨format, xs⟩ := s
    rw [emitCode, bind_ok_iff] at written
    obtain ⟨p', first, rest⟩ := written
    rw [emitSegment] at first
    obtain ⟨ms, marks, fits⟩ := fits_of_emitFormat first
    exact List.forall_mem_cons.mpr ⟨⟨ms, _, _, marks, fits⟩, ih rest⟩

theorem isLevel_of_emitCode {code : Code} (written : emitCode im code p = .ok q)
    (back : q.depth = p.depth) : code.IsLevel im := by
  refine ⟨fits_of_emitCode written, p.depth, ?_⟩
  have taken := (code_draws code).takes written im
  rwa [back] at taken

/-- The anonymous class is an argument of the code, or of a block in it. -/
inductive Code.Creates : Code → TypeDecl → Prop
  | argument {code : Code} {s : Segment} {t : TypeDecl} (hs : s ∈ code)
      (ht : .anonymous t ∈ s.arguments) : Creates code t
  | block {code inner : Code} {s : Segment} {t : TypeDecl} (hs : s ∈ code)
      (hinner : .block inner ∈ s.arguments) (ht : Creates inner t) : Creates code t

/-- The anonymous classes in code that was written were written as well. -/
theorem Code.Creates.written {code : Code} {t : TypeDecl} (h : code.Creates t)
    (written : ∃ p q, emitCode im code p = .ok q) : ∃ p q, emitType im t p = .ok q := by
  -- Only the placeholder of literals takes a block or a class.
  have argument {code : Code} {s : Segment} {x : CodeArg} (hs : s ∈ code) (hx : x ∈ s.arguments)
      (written : ∃ p q, emitCode im code p = .ok q) :
      ∃ ph p q, emitArgument im x ph p = .ok q := by
    obtain ⟨p, q, written⟩ := written
    obtain ⟨ms, c, d, -, fits⟩ := fits_of_emitCode written s hs
    obtain ⟨ph, c, d, taken⟩ := fits.argument hx
    obtain ⟨q, done, -⟩ := taken { Page.start with depth := c } rfl
    exact ⟨ph, _, q, done⟩
  induction h with
  | argument hs ht =>
    obtain ⟨ph, p, q, done⟩ := argument hs ht written
    cases ph with
    | literal =>
      rw [emitArgument] at done
      exact ⟨p, q, done⟩
    | type | text | name => simp [emitArgument] at done
  | block hs hinner _ ih =>
    obtain ⟨ph, p, q, done⟩ := argument hs hinner written
    cases ph with
    | literal =>
      rw [emitArgument] at done
      exact ih ⟨p, q, done⟩
    | type | text | name => simp [emitArgument] at done

/-! ## 3. Methods -/

/-- The code of a method that was written with its code is level. -/
theorem isLevel_of_emitMethod {inInterface : Bool} {m : MethodDecl}
    (written : emitMethod im inInterface m p = .ok q)
    (body : hasBody inInterface m.modifiers = true) : Code.IsLevel im m.code := by
  obtain ⟨name, modifiers, annotations, typeVariables, returns, parameters, code⟩ := m
  rw [emitMethod, bind_ok_iff] at written
  obtain ⟨annotated, -, written⟩ := written
  rw [if_pos body, bind_ok_iff] at written
  obtain ⟨coded, done, written⟩ := written
  obtain ⟨closed, moved, written⟩ := (bind_ok_iff ..).mp written
  refine isLevel_of_emitCode done ?_
  have up := depth_of_outdent moved
  rw [Page.depth_finishLine] at up
  split at written
  next same => rw [up, same, Page.depth_indent]
  next other => cases written

theorem emitMethods_cases {inInterface isFirst : Bool} {ms : List MethodDecl}
    (written : emitMethods im inInterface isFirst ms p = .ok q) :
    ∀ m ∈ ms, ∃ p q, emitMethod im inInterface m p = .ok q := by
  induction ms generalizing isFirst p with
  | nil => exact List.forall_mem_nil _
  | cons m ms ih =>
    rw [emitMethods, bind_ok_iff] at written
    obtain ⟨p', first, rest⟩ := written
    exact List.forall_mem_cons.mpr ⟨⟨_, _, first⟩, ih rest⟩

/-! ## 4. Types -/

/-- In a type that was written, the methods were written. -/
theorem methods_of_emitType {t : TypeDecl} (written : emitType im t p = .ok q) :
    ∀ m ∈ t.methods, ∃ p q, emitMethod im t.isInterface m p = .ok q := by
  obtain ⟨kind, modifiers, annotations, superclass, superinterfaces, fields, methods⟩ := t
  -- The three kinds differ in the line that opens the type, and in what closes it.
  cases kind
  all_goals
    rw [emitType, bind_ok_iff] at written
    obtain ⟨opened, -, written⟩ := written
    obtain ⟨fielded, -, written⟩ := (bind_ok_iff ..).mp written
    obtain ⟨ended, written, -⟩ := (bind_ok_iff ..).mp written
    exact emitMethods_cases written

/-- The type itself, the anonymous classes that the code of its methods creates, and those that
they create in turn. -/
inductive TypeDecl.Encloses : TypeDecl → TypeDecl → Prop
  | self (t : TypeDecl) : Encloses t t
  | created {t u v : TypeDecl} {m : MethodDecl} (hm : m ∈ t.methods)
      (body : hasBody t.isInterface m.modifiers = true) (creates : Code.Creates m.code u)
      (encloses : Encloses u v) : Encloses t v

/-- The code of all methods of the type, and of the anonymous classes in it, is level. -/
def TypeDecl.IsLevel (im : Imports) (t : TypeDecl) : Prop :=
  ∀ u, t.Encloses u → ∀ m ∈ u.methods, hasBody u.isInterface m.modifiers = true →
    Code.IsLevel im m.code

theorem TypeDecl.Encloses.written {t u : TypeDecl} (h : t.Encloses u)
    (written : ∃ p q, emitType im t p = .ok q) : ∃ p q, emitType im u p = .ok q := by
  induction h with
  | self => exact written
  | created hm body creates _ ih =>
    obtain ⟨p, q, written⟩ := written
    obtain ⟨p, q, written⟩ := methods_of_emitType written _ hm
    obtain ⟨-, c, taken⟩ := isLevel_of_emitMethod written body
    obtain ⟨q, coded, -⟩ := taken { Page.start with depth := c } rfl
    exact ih (creates.written ⟨_, q, coded⟩)

/-- What was written is level throughout: the writer lets no method end elsewhere, however deep the
anonymous class to which it belongs. -/
theorem isLevel_of_emitType {t : TypeDecl} (written : emitType im t p = .ok q) :
    t.IsLevel im := by
  intro u encloses m hm body
  obtain ⟨p, q, written⟩ := encloses.written ⟨p, q, written⟩
  obtain ⟨p, q, written⟩ := methods_of_emitType written m hm
  exact isLevel_of_emitMethod written body

end ComponentWiring.Java
