/-
ComponentWiring.Proofs.Java.WellFormed — exactly which files are rendered.

* `Follows` — a writer succeeds exactly under a condition and if the level can make its moves.
* `Part.IsFollowed`, `Part.isFollowed` — so does the writer of every part, if the part is sound.
* `SourceFile.IsWellFormed`, `SourceFile.renders_iff_isWellFormed` — a file is rendered exactly if
  it is well formed.

Soundness says nothing of levels and the moves say nothing of anything else, so the two halves of
the question are answered apart from each other.
-/
import ComponentWiring.Proofs.Java.Soundness
import ComponentWiring.Proofs.Java.Written

namespace ComponentWiring.Java

/-! ## 1. Writers -/

/-- On every page, the writer succeeds exactly if the condition holds and the moves can be made from
the depth of the page, and then it ends at the depth to which they lead. -/
def Follows (w : Emit) (P : Prop) (ms : List Move) : Prop :=
  ∀ p b, (∃ q, w p = .ok q ∧ q.depth = b) ↔ P ∧ runMoves ms p.depth = some b

namespace Follows

variable {w w' : Emit} {P P' : Prop} {ms ms' : List Move}

theorem congr (h : Follows w P ms) (same : ∀ p, w' p = w p) : Follows w' P ms := by
  intro p b
  rw [same]
  exact h p b

theorem iff (h : Follows w P ms) (same : P' ↔ P) : Follows w P' ms := by
  intro p b
  rw [same]
  exact h p b

/-- Changes of a page that leave its depth alone. -/
theorem still {f : Page → Page} (same : ∀ p, (f p).depth = p.depth) :
    Follows (fun p => .ok (f p)) True [] := by
  intro p b
  simp [runMoves, same]

theorem behind (h : Follows w P ms) {f : Page → Page} (same : ∀ p, (f p).depth = p.depth) :
    Follows (fun p => w (f p)) P ms := by
  intro p b
  rw [← same p]
  exact h (f p) b

theorem fault (f : FormatFault) (wrong : ¬ P) : Follows (fun _ => .error f) P ms := by
  intro p b
  simp [wrong]

theorem indent : Follows (fun p => .ok p.indent) True [.up] := by
  intro p b
  simp [runMoves, Move.run]

theorem outdent : Follows Java.outdent True [.down] := by
  intro p b
  unfold Java.outdent Page.outdent?
  cases p.depth with
  | zero => simp [runMoves, Move.run]
  | succ a => simp [runMoves, Move.run]

theorem bind (h : Follows w P ms) (h' : Follows w' P' ms') :
    Follows (fun p => w p >>= w') (P ∧ P') (ms ++ ms') := by
  intro p c
  calc (∃ r, (w p >>= w') = .ok r ∧ r.depth = c)
      ↔ ∃ q, w p = .ok q ∧ ∃ r, w' q = .ok r ∧ r.depth = c := by
        simp only [bind_ok_iff]
        exact ⟨fun ⟨r, ⟨q, first, second⟩, hr⟩ => ⟨q, first, r, second, hr⟩,
          fun ⟨q, first, r, second, hr⟩ => ⟨r, ⟨q, first, second⟩, hr⟩⟩
    _ ↔ ∃ b, (∃ q, w p = .ok q ∧ q.depth = b) ∧ P' ∧ runMoves ms' b = some c := by
        simp only [h' _ c]
        exact ⟨fun ⟨q, first, rest⟩ => ⟨_, ⟨q, first, rfl⟩, rest⟩,
          fun ⟨_, ⟨q, first, same⟩, rest⟩ => ⟨q, first, same ▸ rest⟩⟩
    _ ↔ (P ∧ P') ∧ runMoves (ms ++ ms') p.depth = some c := by
        simp only [h p, runMoves_append, Option.bind_eq_some_iff]
        exact ⟨fun ⟨b, ⟨hP, first⟩, hP', rest⟩ => ⟨⟨hP, hP'⟩, b, first, rest⟩,
          fun ⟨⟨hP, hP'⟩, b, first, rest⟩ => ⟨b, ⟨hP, first⟩, hP', rest⟩⟩

/-- A writer and a change that leaves the depth alone. -/
theorem before (h : Follows w P ms) {f : Page → Page} (same : ∀ p, (f p).depth = p.depth) :
    Follows (fun p => w p >>= fun q => .ok (f q)) P ms := by
  have both := (h.bind (still same)).iff (and_true P).symm.to_iff
  rwa [List.append_nil] at both

theorem takes_iff (h : Follows w P ms) {a b : Nat} :
    Emit.Takes w a b ↔ P ∧ runMoves ms a = some b := by
  constructor
  · intro taken
    exact (h { Page.start with depth := a } b).mp (taken _ rfl)
  · rintro given p rfl
    exact (h p b).mpr given

end Follows

/-- The writer of the part succeeds exactly if the part is sound and the level can make its
moves. -/
def Part.IsFollowed (im : Imports) (n : Part) : Prop := Follows (n.emit im) n.IsSound n.moves

variable {im : Imports}

/-! ## 2. Code -/

/-- An argument is written for the placeholders that take it, if what it holds is written. -/
theorem emitArgument_follows {x : CodeArg} (h : ∀ n, x.part? = some n → n.IsFollowed im)
    (ph : Placeholder) :
    Follows (emitArgument im x ph) (x.isFor ph = true ∧ x.IsSound) x.moves := by
  have mismatch (unfit : x.isFor ph = false) (same : ∀ p, emitArgument im x ph p =
      .error (.mismatch ph x)) :
      Follows (emitArgument im x ph) (x.isFor ph = true ∧ x.IsSound) x.moves :=
    (Follows.fault (.mismatch ph x) (by simp [unfit])).congr same
  have text (s : String) (fit : x.isFor ph = true) (no_part : x.part? = none)
      (same : ∀ p, emitArgument im x ph p = .ok (p.write s)) :
      Follows (emitArgument im x ph) (x.isFor ph = true ∧ x.IsSound) x.moves := by
    have written := Follows.still fun p => p.depth_write s
    have sound : x.IsSound := fun n hn => by simp [no_part] at hn
    have no_moves : x.moves = [] := by simp [CodeArg.moves_eq, no_part]
    rw [no_moves]
    exact (written.congr same).iff (by simp [fit, sound])
  have inner (n : Part) (fit : x.isFor ph = true) (hn : x.part? = some n)
      (same : ∀ p, emitArgument im x ph p = n.emit im p) :
      Follows (emitArgument im x ph) (x.isFor ph = true ∧ x.IsSound) x.moves := by
    have sound : x.IsSound ↔ n.IsSound := by simp [CodeArg.IsSound, hn]
    have moves : x.moves = n.moves := by simp [CodeArg.moves_eq, hn]
    rw [moves]
    exact ((h n hn).congr same).iff (by simp [fit, sound])
  cases x with
  | type t =>
    cases ph with
    | type => exact text (im.spellType t) rfl rfl fun p => by rw [emitArgument]
    | literal | text | name => exact mismatch rfl fun p => by simp [emitArgument]
  | literal s =>
    cases ph with
    | literal => exact text s rfl rfl fun p => by rw [emitArgument]
    | type | text | name => exact mismatch rfl fun p => by simp [emitArgument]
  | text s =>
    cases ph with
    | text => exact text (stringLiteral s) rfl rfl fun p => by rw [emitArgument]
    | type | literal | name => exact mismatch rfl fun p => by simp [emitArgument]
  | name s =>
    cases ph with
    | literal | name => exact text s rfl rfl fun p => by rw [emitArgument]
    | type | text => exact mismatch rfl fun p => by simp [emitArgument]
  | block code =>
    cases ph with
    | literal => exact inner (.code code) rfl rfl fun p => by rw [emitArgument, Part.emit]
    | type | text | name => exact mismatch rfl fun p => by simp [emitArgument]
  | anonymous t =>
    cases ph with
    | literal => exact inner (.type t) rfl rfl fun p => by rw [emitArgument, Part.emit]
    | type | text | name => exact mismatch rfl fun p => by simp [emitArgument]

/-- The arguments fit the marks exactly if each is for its placeholder and sound, and then they lead
where the moves lead. -/
theorem fits_iff {ms : List Mark} {xs : List CodeArg} {a b : Nat}
    (h : ∀ x ∈ xs, ∀ n, x.part? = some n → n.IsFollowed im) :
    Fits im ms xs a b ↔ (List.Forall₂ (fun ph x => CodeArg.isFor x ph = true)
        (ms.filterMap Mark.placeholder?) xs ∧ ∀ x ∈ xs, x.IsSound) ∧
      runMoves (weave ms (movesOfArguments xs)) a = some b := by
  induction ms generalizing xs a with
  | nil =>
    cases xs with
    | nil =>
      constructor
      · rintro ⟨⟩
        simp [weave, runMoves]
      · rintro ⟨-, same⟩
        obtain rfl : a = b := by simpa [weave, runMoves] using same
        exact .nil a
    | cons x xs =>
      constructor
      · rintro ⟨⟩
      · rintro ⟨⟨more, -⟩, -⟩
        cases more
  | cons m ms ih =>
    cases m with
    | indent =>
      rw [weave, runMoves_up]
      refine Iff.trans ⟨?_, .indent⟩ (ih h)
      rintro ⟨⟩
      assumption
    | outdent =>
      cases a with
      | zero =>
        rw [weave, runMoves_down_zero]
        constructor
        · rintro ⟨⟩
        · rintro ⟨-, impossible⟩
          cases impossible
      | succ a =>
        rw [weave, runMoves_down]
        refine Iff.trans ⟨?_, .outdent⟩ (ih h)
        rintro ⟨⟩
        assumption
    | hole ph =>
      cases xs with
      | nil =>
        constructor
        · rintro ⟨⟩
        · rintro ⟨⟨missing, -⟩, -⟩
          cases missing
      | cons x xs =>
        obtain ⟨first, rest⟩ := List.forall_mem_cons.mp h
        have taken (b : Nat) := (emitArgument_follows first ph).takes_iff (a := a) (b := b)
        have kinds : (Mark.hole ph :: ms).filterMap Mark.placeholder? =
            ph :: ms.filterMap Mark.placeholder? := rfl
        rw [movesOfArguments, weave, runMoves_append, kinds, List.forall₂_cons,
          List.forall_mem_cons, Option.bind_eq_some_iff]
        constructor
        · intro fits
          cases fits with
          | hole written fits =>
            obtain ⟨⟨fit, sound⟩, start⟩ := (taken _).mp written
            obtain ⟨⟨fitting, sounds⟩, goal⟩ := (ih rest).mp fits
            exact ⟨⟨⟨fit, fitting⟩, sound, sounds⟩, _, start, goal⟩
        · rintro ⟨⟨⟨fit, fitting⟩, sound, sounds⟩, c, start, goal⟩
          exact .hole ((taken c).mpr ⟨⟨fit, sound⟩, start⟩)
            ((ih rest).mpr ⟨⟨fitting, sounds⟩, goal⟩)

theorem emitSegment_follows {s : Segment}
    (h : ∀ x ∈ s.arguments, ∀ n, x.part? = some n → n.IsFollowed im) :
    Follows (emitSegment im s) s.IsSound s.moves := by
  obtain ⟨format, xs⟩ := s
  have kinds (ps : List Piece) : (ps.filterMap Piece.mark?).filterMap Mark.placeholder? =
      ps.filterMap fun x => x.mark?.bind Mark.placeholder? := List.filterMap_filterMap
  intro p b
  have written : (∃ q, emitSegment im ⟨format, xs⟩ p = .ok q ∧ q.depth = b) ↔
      ∃ ms, formatMarks format.toList = some ms ∧ Fits im ms xs p.depth b := by
    constructor
    · rintro ⟨q, done, rfl⟩
      exact fits_of_emitFormat done
    · rintro ⟨ms, marks, fits⟩
      exact emitFormat_takes format marks fits p rfl
  rw [written]
  constructor
  · rintro ⟨ms, marks, fits⟩
    obtain ⟨⟨fitting, sounds⟩, moved⟩ := (fits_iff h).mp fits
    obtain ⟨ps, proper, split, rfl⟩ := formatMarks_eq_some_iff.mp marks
    rw [kinds] at fitting
    refine ⟨⟨⟨ps, proper, split, fitting⟩, sounds⟩, ?_⟩
    rwa [Segment.moves, marks]
  · rintro ⟨⟨⟨ps, proper, split, fitting⟩, sounds⟩, moved⟩
    have marks := formatMarks_eq_some_iff.mpr ⟨ps, proper, split, rfl⟩
    rw [Segment.moves, marks] at moved
    rw [← kinds] at fitting
    exact ⟨_, marks, (fits_iff h).mpr ⟨⟨fitting, sounds⟩, moved⟩⟩

/-- Code is written if what its arguments hold is written. -/
theorem emitCode_follows {code : Code} (h : ∀ s ∈ code, ∀ x ∈ s.arguments, ∀ n,
      x.part? = some n → n.IsFollowed im) :
    Follows (emitCode im code) (∀ s ∈ code, s.IsSound) (movesOfCode code) := by
  induction code with
  | nil => exact (Follows.still fun _ => rfl).iff (iff_true_intro (List.forall_mem_nil _))
  | cons s code ih =>
    obtain ⟨first, rest⟩ := List.forall_mem_cons.mp h
    rw [movesOfCode]
    have both := (emitSegment_follows first).bind (ih rest)
    exact (both.congr fun p => emitCode_cons s code p).iff List.forall_mem_cons

/-! ## 3. Annotations and fields -/

theorem emitMembers_follows (named isFirst : Bool) {ms : List (String × Code)}
    (h : ∀ m ∈ ms, (Part.code m.2).IsFollowed im) :
    Follows (emitMembers im named isFirst ms) (∀ m ∈ ms, (Part.code m.2).IsSound)
      (movesOfMembers ms) := by
  induction ms generalizing isFirst with
  | nil => exact (Follows.still fun _ => rfl).iff (iff_true_intro (List.forall_mem_nil _))
  | cons m ms ih =>
    obtain ⟨name, code⟩ := m
    obtain ⟨first, rest⟩ := List.forall_mem_cons.mp h
    have member : Follows (emitMember im named (name, code)) (Part.code code).IsSound
        (movesOfCode code) :=
      first.behind (f := fun p => if named then p.write (name ++ " = ") else p) fun p => by
        cases named
        · rfl
        · exact p.depth_write _
    have separated := member.behind (f := fun p => if isFirst then p else p.write ", ") fun p => by
      cases isFirst
      · exact p.depth_write _
      · rfl
    rw [movesOfMembers]
    have both := separated.bind (ih false rest)
    exact (both.congr fun p => emitMembers_cons named isFirst _ ms p).iff List.forall_mem_cons

/-- An annotation is written if the code of its members is. -/
theorem emitAnnotation_follows {u : AnnotationUse}
    (h : ∀ m ∈ u.members, (Part.code m.2).IsFollowed im) :
    (Part.marker u).IsFollowed im := by
  obtain ⟨type, members⟩ := u
  rw [Part.IsFollowed, Part.emit, Part.moves, AnnotationUse.moves]
  by_cases none_there : members.isEmpty = true
  · obtain rfl := List.isEmpty_iff.mp none_there
    refine ((Follows.still fun p => p.depth_write ("@" ++ im.spell type)).congr fun p => ?_).iff ?_
    · unfold emitAnnotation
      rw [if_pos none_there]
    · exact Part.isSound_marker.trans (iff_true_intro (List.forall_mem_nil _))
  · have list := ((emitMembers_follows (!isSingleValue members) true h).behind
      (f := fun p => (p.write ("@" ++ im.spell type)).write "(") fun p => by simp).before
      (f := fun p => p.write ")") fun p => p.depth_write _
    refine (list.congr fun p => ?_).iff Part.isSound_marker
    unfold emitAnnotation
    rw [if_neg none_there]
    rfl

theorem emitAnnotations_follows {us : List AnnotationUse}
    (h : ∀ u ∈ us, (Part.marker u).IsFollowed im) :
    Follows (emitAnnotations im us) (∀ u ∈ us, (Part.marker u).IsSound)
      (movesOfAnnotations us) := by
  induction us with
  | nil => exact (Follows.still fun _ => rfl).iff (iff_true_intro (List.forall_mem_nil _))
  | cons u us ih =>
    obtain ⟨first, rest⟩ := List.forall_mem_cons.mp h
    rw [movesOfAnnotations]
    have both := first.bind ((ih rest).behind (f := (·.put '\n')) fun p => p.depth_put _)
    exact (both.congr fun p => emitAnnotations_cons u us p).iff List.forall_mem_cons

/-- A field is written if its annotations and its initial value are. -/
theorem emitField_follows (inInterface : Bool) {f : FieldDecl}
    (marked : ∀ u ∈ f.annotations, (Part.marker u).IsFollowed im)
    (initial : ∀ c, f.initializer = some c → (Part.code c).IsFollowed im) :
    (Part.field inInterface f).IsFollowed im := by
  obtain ⟨type, name, modifiers, annotations, initializer⟩ := f
  have value : Follows (emitInitializer im initializer)
      (∀ c, initializer = some c → (Part.code c).IsSound) (movesOfInitializer initializer) := by
    cases initializer with
    | none => exact (Follows.still fun _ => rfl).iff (by simp)
    | some c =>
      exact ((initial c rfl).behind (f := (·.write " = ")) fun p => p.depth_write _).iff (by simp)
  have line := (value.before (f := (·.write ";\n")) fun p => p.depth_write _).behind
    (f := (·.write (modifierText modifiers (impliedOfFields inInterface)
      ++ im.spellType type ++ " " ++ name))) fun p => p.depth_write _
  rw [Part.IsFollowed, Part.emit, Part.moves, FieldDecl.moves]
  refine (((emitAnnotations_follows marked).bind line).congr fun p => ?_).iff Part.isSound_field
  rw [emitField]
  rfl

theorem emitFields_follows (inInterface isFirst : Bool) {fs : List FieldDecl}
    (h : ∀ f ∈ fs, (Part.field inInterface f).IsFollowed im) :
    Follows (emitFields im inInterface isFirst fs) (∀ f ∈ fs, (Part.field inInterface f).IsSound)
      (movesOfFields fs) := by
  induction fs generalizing isFirst with
  | nil => exact (Follows.still fun _ => rfl).iff (iff_true_intro (List.forall_mem_nil _))
  | cons f fs ih =>
    obtain ⟨first, rest⟩ := List.forall_mem_cons.mp h
    rw [movesOfFields]
    have both := (first.behind (depth_gap isFirst)).bind (ih false rest)
    exact (both.congr fun p => emitFields_cons inInterface isFirst f fs p).iff List.forall_mem_cons

/-! ## 4. Methods -/

/-- The code of a method is written one level deeper and leads back. -/
theorem emitBody_follows {code : Code} {P : Prop} {ms : List Move}
    (h : Follows (emitCode im code) P ms) (name : String) :
    Follows (fun p => do
      let q ← emitCode im code (p.write " \x7b\n").indent
      let q ← outdent q.finishLine
      if q.depth = p.depth then return q.write "\x7d\n"
      else throw (.unbalancedMethod name)) P [.up, .back ms, .down] := by
  intro p b
  have moved : runMoves [.up, .back ms, .down] p.depth = some b ↔
      runMoves ms (p.depth + 1) = some (p.depth + 1) ∧ p.depth = b := by
    rw [runMoves_up, runMoves_back, runMoves_down, runMoves]
    split <;> simp_all
  have code := h (p.write " \x7b\n").indent (p.depth + 1)
  rw [Page.depth_indent, Page.depth_write] at code
  rw [moved, ← and_assoc, ← code]
  constructor
  · rintro ⟨r, written, rfl⟩
    obtain ⟨q, coded, written⟩ := bind_ok_iff.mp written
    obtain ⟨closed, up, written⟩ := bind_ok_iff.mp written
    have level := depth_of_outdent up
    rw [Page.depth_finishLine] at level
    split at written
    next same =>
      cases written
      exact ⟨⟨q, coded, by rw [level, same]⟩, by rw [Page.depth_write, same]⟩
    next other => cases written
  · rintro ⟨⟨q, coded, level⟩, rfl⟩
    obtain ⟨closed, up, same⟩ :=
      outdent_takes p.depth q.finishLine (by rw [Page.depth_finishLine, level])
    refine ⟨closed.write "\x7d\n", ?_, by rw [Page.depth_write, same]⟩
    refine bind_ok_iff.mpr ⟨q, coded, bind_ok_iff.mpr ⟨closed, up, ?_⟩⟩
    exact if_pos same

/-- A method is written if its annotations are, and its code if it has a body. -/
theorem emitMethod_follows (inInterface : Bool) {m : MethodDecl}
    (marked : ∀ u ∈ m.annotations, (Part.marker u).IsFollowed im)
    (coded : hasBody inInterface m.modifiers = true → (Part.code m.code).IsFollowed im) :
    (Part.method inInterface m).IsFollowed im := by
  obtain ⟨name, modifiers, annotations, typeVariables, returns, parameters, code⟩ := m
  have annotated := emitAnnotations_follows marked
  have signature (p : Page) : (p.write (signatureText im inInterface modifiers typeVariables returns
      name parameters)).depth = p.depth := p.depth_write _
  rw [Part.IsFollowed, Part.emit, Part.moves, MethodDecl.moves]
  by_cases body : hasBody inInterface modifiers = true
  · have rest := (emitBody_follows (coded body) name).behind signature
    rw [if_pos body]
    refine ((annotated.bind rest).congr fun p => ?_).iff ?_
    · simp only [emitMethod, if_pos body, Page.depth_write]
    · exact Part.isSound_method.trans (and_congr_right fun _ => by simp [body])
  · have rest := (Follows.still fun p => p.depth_write ";\n").behind signature
    rw [if_neg body]
    refine ((annotated.bind rest).congr fun p => ?_).iff ?_
    · simp only [emitMethod, if_neg body]
      rfl
    · exact Part.isSound_method.trans (and_congr_right fun _ => by simp [body])

theorem emitMethods_follows (inInterface isFirst : Bool) {ms : List MethodDecl}
    (h : ∀ m ∈ ms, (Part.method inInterface m).IsFollowed im) :
    Follows (emitMethods im inInterface isFirst ms) (∀ m ∈ ms, (Part.method inInterface m).IsSound)
      (movesOfMethods inInterface ms) := by
  induction ms generalizing isFirst with
  | nil => exact (Follows.still fun _ => rfl).iff (iff_true_intro (List.forall_mem_nil _))
  | cons m ms ih =>
    obtain ⟨first, rest⟩ := List.forall_mem_cons.mp h
    rw [movesOfMethods]
    have both := (first.behind (depth_gap isFirst)).bind (ih false rest)
    exact (both.congr fun p => emitMethods_cons inInterface isFirst m ms p).iff List.forall_mem_cons

/-! ## 5. Types -/

/-- The line that opens an anonymous class is written if there is a supertype and the arguments are
written. -/
theorem emitCreation_follows {code : Code} (superclass : Option TypeExpr)
    (superinterfaces : List TypeExpr) (h : (Part.code code).IsFollowed im) :
    Follows (emitCreation im (superclass.toList ++ superinterfaces) (.anonymous code))
      ((superclass ≠ none ∨ superinterfaces ≠ []) ∧ (Part.code code).IsSound)
      (movesOfCode code) := by
  have supertypes : (superclass ≠ none ∨ superinterfaces ≠ []) ↔
      superclass.toList ++ superinterfaces ≠ [] := by
    cases superclass <;> simp
  rw [supertypes]
  cases superclass.toList ++ superinterfaces with
  | nil => exact (Follows.fault .noSupertype (by simp)).congr fun p => by rw [emitCreation]
  | cons t ts =>
    have line := (h.behind (f := (·.write ("new " ++ im.spellType t ++ "("))) fun p =>
      p.depth_write _).before (f := (·.write ") \x7b\n")) fun p => p.depth_write _
    refine (line.congr fun p => ?_).iff (by simp)
    rw [emitCreation]
    rfl

/-- The members of a type are written one level deeper, and what closes the type at the level at
which they began. -/
theorem emitMembersOf_follows (isFirst : Bool) {inInterface : Bool} {fs : List FieldDecl}
    {ms : List MethodDecl} {close : Page → Page} (closes : ∀ p, (close p).depth = p.depth)
    (fields : ∀ f ∈ fs, (Part.field inInterface f).IsFollowed im)
    (methods : ∀ m ∈ ms, (Part.method inInterface m).IsFollowed im) :
    Follows (fun p => do
      let p ← emitFields im inInterface true fs p.indent
      let p ← emitMethods im inInterface isFirst ms p
      let p ← outdent p
      .ok (close p))
      ((∀ f ∈ fs, (Part.field inInterface f).IsSound) ∧
        ∀ m ∈ ms, (Part.method inInterface m).IsSound)
      (.up :: movesOfFields fs ++ movesOfMethods inInterface ms ++ [.down]) := by
  have ends := (emitMethods_follows inInterface isFirst methods).bind
    (Follows.outdent.before closes)
  have all := Follows.indent.bind ((emitFields_follows inInterface true fields).bind ends)
  simp only [List.singleton_append, ← List.append_assoc] at all
  exact all.iff (by simp)

/-- A type is written if its parts are: the arguments of an anonymous class, or the annotations of
another one, and the members. -/
theorem emitType_follows {t : TypeDecl}
    (arguments : ∀ c, t.kind = .anonymous c → (Part.code c).IsFollowed im)
    (marked : t.isAnonymous = false → ∀ u ∈ t.annotations, (Part.marker u).IsFollowed im)
    (fields : ∀ f ∈ t.fields, (Part.field t.isInterface f).IsFollowed im)
    (methods : ∀ m ∈ t.methods, (Part.method t.isInterface m).IsFollowed im) :
    (Part.type t).IsFollowed im := by
  rw [Part.IsFollowed, Part.emit, Part.moves, TypeDecl.moves_eq]
  obtain ⟨kind, modifiers, annotations, superclass, superinterfaces, fs, ms⟩ := t
  have named (isInterface : Bool) (start : String) (p : Page) : (p.write (start
      ++ supertypeText im isInterface superclass superinterfaces ++ " \x7b\n")).depth = p.depth :=
    p.depth_write _
  have closes (p : Page) : ((p.write "\x7d").put '\n').depth = p.depth := by simp
  cases kind with
  | classNamed name =>
    have all := (emitAnnotations_follows (marked rfl)).bind
      ((emitMembersOf_follows fs.isEmpty closes fields methods).behind
        (named false (modifierText modifiers [] ++ "class" ++ " " ++ name)))
    refine (all.congr fun p => ?_).iff ?_
    · rw [emitType]
      cases emitAnnotations im annotations p <;> rfl
    · exact Part.isSound_type.trans (by simp [Part.IsShaped, TypeDecl.isAnonymous])
  | interfaceNamed name =>
    have all := (emitAnnotations_follows (marked rfl)).bind
      ((emitMembersOf_follows fs.isEmpty closes fields methods).behind
        (named true (modifierText modifiers [] ++ "interface" ++ " " ++ name)))
    refine (all.congr fun p => ?_).iff ?_
    · rw [emitType]
      cases emitAnnotations im annotations p <;> rfl
    · exact Part.isSound_type.trans (by simp [Part.IsShaped, TypeDecl.isAnonymous])
  | anonymous code =>
    have all := (emitCreation_follows superclass superinterfaces (arguments code rfl)).bind
      (emitMembersOf_follows fs.isEmpty (fun p => p.depth_write "\x7d") fields methods)
    refine (all.congr fun p => ?_).iff ?_
    · rw [emitType]
      rfl
    · exact Part.isSound_type.trans (by simp [Part.IsShaped, TypeDecl.isAnonymous, and_assoc])

/-! ## 6. Everything -/

/-- The writer of a part succeeds exactly if the part is sound and the level can make its moves. -/
theorem Part.isFollowed (im : Imports) (n : Part) : n.IsFollowed im := by
  induction n using Part.induct with
  | step n inside =>
    cases n with
    | code c =>
      exact (emitCode_follows fun s hs x hx n hn => inside n (.argument hs hx hn)).iff isSound_code
    | marker u => exact emitAnnotation_follows fun m hm => inside _ (.member hm)
    | field inInterface f =>
      exact emitField_follows inInterface (fun u hu => inside _ (.markOfField hu))
        fun c initial => inside _ (.initializer initial)
    | method inInterface m =>
      exact emitMethod_follows inInterface (fun u hu => inside _ (.markOfMethod hu))
        fun body => inside _ (.body body)
    | type t =>
      exact emitType_follows (fun c anonymous => inside _ (.creation anonymous))
        (fun named u hu => inside _ (.markOfType named hu)) (fun f hf => inside _ (.fieldOf hf))
        fun m hm => inside _ (.methodOf hm)

/-! ## 7. Files -/

/-- What it takes for a file to be rendered. -/
structure SourceFile.IsWellFormed (f : SourceFile) : Prop where
  named : f.type.isAnonymous = false ∧ f.type.name ≠ ""
  /-- All anonymous classes that are written have a supertype. -/
  supertypes : ∀ t, (Part.type f.type).Emits (.type t) → t.isAnonymous = true →
    t.superclass ≠ none ∨ t.superinterfaces ≠ []
  /-- All formats that are written can be split into pieces, and the arguments fit. -/
  formats : ∀ c, (Part.type f.type).Emits (.code c) → ∀ s ∈ c, s.IsWellFormed
  /-- The level never drops below zero, and comes back in the code of every method. -/
  level : ∃ a, runMoves f.type.moves 0 = some a

theorem SourceFile.isSound_iff {f : SourceFile} : (Part.type f.type).IsSound ↔
    (∀ t, (Part.type f.type).Emits (.type t) → t.isAnonymous = true →
      t.superclass ≠ none ∨ t.superinterfaces ≠ []) ∧
    ∀ c, (Part.type f.type).Emits (.code c) → ∀ s ∈ c, s.IsWellFormed := by
  constructor
  · intro sound
    exact ⟨fun t => sound (.type t), fun c => sound (.code c)⟩
  · rintro ⟨supertypes, formats⟩ n emitted
    cases n with
    | code c => exact formats c emitted
    | type t => exact supertypes t emitted
    | marker | field | method => trivial

theorem map_ok_iff {ε α β : Type} {x : Except ε α} {g : α → β} {b : β} :
    x.map g = .ok b ↔ ∃ a, x = .ok a ∧ g a = b := by
  cases x <;> simp [Except.map]

namespace SourceFile

variable {f : SourceFile}

/-- A file is rendered if its type has a name and is written. -/
theorem render_ok_iff {width : Nat} {text : String} : f.render width = .ok text ↔
    (f.type.isAnonymous = false ∧ f.type.name ≠ "") ∧ ∃ q,
      emitType (.of f) f.type (Page.start.write (f.header (.of f))) = .ok q ∧
        q.print width = text := by
  have allowed : (f.type.isAnonymous || f.type.name.isEmpty) = false ↔
      f.type.isAnonymous = false ∧ f.type.name ≠ "" := by
    simp
  rw [render, map_ok_iff, page, ← allowed]
  cases f.type.isAnonymous || f.type.name.isEmpty with
  | true => simp
  | false => simp

/-- The type of a file is written if it is sound and the level can make its moves. -/
theorem emitType_ok_iff :
    (∃ q, emitType (.of f) f.type (Page.start.write (f.header (.of f))) = .ok q) ↔
      (Part.type f.type).IsSound ∧ ∃ a, runMoves f.type.moves 0 = some a := by
  have followed := (Part.type f.type).isFollowed (.of f) (Page.start.write (f.header (.of f)))
  rw [Page.depth_write] at followed
  constructor
  · rintro ⟨q, done⟩
    obtain ⟨sound, level⟩ := (followed _).mp ⟨q, done, rfl⟩
    exact ⟨sound, _, level⟩
  · rintro ⟨sound, a, level⟩
    obtain ⟨q, done, -⟩ := (followed a).mpr ⟨sound, level⟩
    exact ⟨q, done⟩

/-- A file is rendered exactly if it is well formed. The code of a method that is written without a
body has no part in that: the method is written in the same way whatever the code is. -/
theorem renders_iff_isWellFormed (f : SourceFile) (width : Nat) :
    ((∃ text, f.render width = .ok text) ↔ f.IsWellFormed) ∧
      ∀ im inInterface m code, hasBody inInterface m.modifiers = false →
        emitMethod im inInterface { m with code } = emitMethod im inInterface m := by
  constructor
  · constructor
    · rintro ⟨text, rendered⟩
      obtain ⟨named, q, written, -⟩ := render_ok_iff.mp rendered
      obtain ⟨sound, level⟩ := emitType_ok_iff.mp ⟨q, written⟩
      obtain ⟨supertypes, formats⟩ := isSound_iff.mp sound
      exact ⟨named, supertypes, formats, level⟩
    · intro h
      have sound := isSound_iff.mpr ⟨h.supertypes, h.formats⟩
      obtain ⟨q, written⟩ := emitType_ok_iff.mpr ⟨sound, h.level⟩
      exact ⟨_, render_ok_iff.mpr ⟨h.named, q, written, rfl⟩⟩
  · rintro im inInterface ⟨name, modifiers, annotations, typeVariables, returns, parameters, code⟩
      code' no_body
    funext p
    simp only [emitMethod, no_body, Bool.false_eq_true, if_false]

end SourceFile

end ComponentWiring.Java
