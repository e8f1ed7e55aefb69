/-
ComponentWiring.Proofs.Java.Strokes — what declarations write, apart from how classes are spelled.

* `Stroke` — one change to a page: a fixed text, a class to be spelled, or a move.
* `Draws` — at every depth, a writer makes the same strokes whatever a file imports, or always
  meets the same fault; the classes among its strokes are listed, place by place.
* `type_draws` — a type is written so, and the classes among its strokes are its occurrences.
* `isContinuedBy_drawAll` — strokes add to the text of a page.

The classes among the strokes are all that a writer spells: the strokes are the same for every
set of imports, so no other part of the text can depend on how a class is spelled.
-/
import ComponentWiring.Proofs.Java.Emission
import ComponentWiring.Proofs.Java.Occurrences

namespace ComponentWiring.Java

/-! ## 1. Strokes -/

/-- One change to a page. -/
inductive Stroke
  | text (s : String)
  /-- A class, as the file spells it. -/
  | spelled (c : ClassName)
  | indent
  | outdent
  | finishLine
deriving DecidableEq

namespace Stroke

/-- The page with one more stroke, in a file with these imports. -/
def draw (im : Imports) (p : Page) : Stroke → Page
  | .text s => p.write s
  | .spelled c => p.write (im.spell c)
  | .indent => p.indent
  | .outdent => { p with depth := p.depth - 1 }
  | .finishLine => p.finishLine

/-- The class that a stroke spells. -/
def class? : Stroke → Option ClassName
  | .spelled c => some c
  | _ => none

/-- The depth after a stroke. -/
def move (a : Nat) : Stroke → Nat
  | .indent => a + 1
  | .outdent => a - 1
  | _ => a

theorem depth_draw (im : Imports) (p : Page) (s : Stroke) :
    (draw im p s).depth = move p.depth s := by
  cases s <;> simp [draw, move]

end Stroke

/-- The page with all strokes, one after the other. -/
def drawAll (im : Imports) (ss : List Stroke) (p : Page) : Page := ss.foldl (Stroke.draw im) p

theorem depth_drawAll (im : Imports) (ss : List Stroke) (p : Page) :
    (drawAll im ss p).depth = ss.foldl Stroke.move p.depth := by
  induction ss generalizing p with
  | nil => rfl
  | cons s ss ih => rw [drawAll, List.foldl_cons, ← drawAll, ih, Stroke.depth_draw, List.foldl_cons]

theorem drawAll_append (im : Imports) (ss ss' : List Stroke) (p : Page) :
    drawAll im (ss ++ ss') p = drawAll im ss' (drawAll im ss p) :=
  List.foldl_append

/-! ## 2. Writers -/

/-- The classes that strokes spell, one for each place. -/
def spelledBy (ss : List Stroke) : List ClassName := ss.filterMap Stroke.class?

theorem spelledBy_append (ss ss' : List Stroke) :
    spelledBy (ss ++ ss') = spelledBy ss ++ spelledBy ss' :=
  List.filterMap_append

/-- At the depth, the writer makes the same strokes whatever a file imports, or always meets the
same fault; these are the classes it spells, in order. -/
def DrawsAt (a : Nat) (w : Imports → Emit) (cs : List ClassName) : Prop :=
  ∃ r : Except FormatFault (List Stroke), (∀ ss, r = .ok ss → spelledBy ss = cs) ∧
    ∀ im p, p.depth = a → w im p = r.map fun ss => drawAll im ss p

/-- The writer makes the same strokes whatever a file imports, at every depth. -/
def Draws (w : Imports → Emit) (cs : List ClassName) : Prop := ∀ a, DrawsAt a w cs

variable {w w' : Imports → Emit} {cs ds : List ClassName} {a : Nat}

theorem DrawsAt.congr (h : DrawsAt a w cs) (same : ∀ im p, p.depth = a → w' im p = w im p) :
    DrawsAt a w' cs := by
  obtain ⟨r, classes, drawn⟩ := h
  exact ⟨r, classes, fun im p hp => (same im p hp).trans (drawn im p hp)⟩

theorem DrawsAt.bind (h : DrawsAt a w cs) (h' : Draws w' ds) :
    DrawsAt a (fun im p => w im p >>= w' im) (cs ++ ds) := by
  obtain ⟨r, classes, drawn⟩ := h
  cases r with
  | error fault =>
    refine ⟨.error fault, fun ss made => ?_, fun im p hp => ?_⟩
    · cases made
    · show (w im p >>= w' im) = _
      rw [drawn im p hp]
      rfl
  | ok ss =>
    -- Where the second writer starts follows from the strokes of the first one.
    obtain ⟨r', classes', drawn'⟩ := h' (ss.foldl Stroke.move a)
    refine ⟨r'.map (ss ++ ·), fun all made => ?_, fun im p hp => ?_⟩
    · cases r' with
      | error fault => cases made
      | ok ss' =>
        cases made
        rw [spelledBy_append, classes ss rfl, classes' ss' rfl]
    · have second : w' im (drawAll im ss p) = r'.map fun ss' => drawAll im ss' (drawAll im ss p) :=
        drawn' im _ (by rw [depth_drawAll, hp])
      show (w im p >>= w' im) = _
      rw [drawn im p hp]
      show w' im (drawAll im ss p) = _
      rw [second]
      cases r' with
      | error fault => rfl
      | ok ss' => exact congrArg Except.ok (drawAll_append im ss ss' p).symm

namespace Draws

theorem congr (h : Draws w cs) (same : ∀ im p, w' im p = w im p) : Draws w' cs :=
  fun a => (h a).congr fun im p _ => same im p

theorem of_eq (h : Draws w cs) (same : cs = ds) : Draws w ds := same ▸ h

theorem bind (h : Draws w cs) (h' : Draws w' ds) :
    Draws (fun im p => w im p >>= w' im) (cs ++ ds) :=
  fun a => (h a).bind h'

theorem nothing : Draws (fun _ p => .ok p) [] := by
  refine fun _ => ⟨.ok [], ?_, fun _ _ _ => rfl⟩
  intro ss made
  cases made
  rfl

theorem fault (f : FormatFault) : Draws (fun _ _ => .error f) cs := by
  refine fun _ => ⟨.error f, ?_, fun _ _ _ => rfl⟩
  intro ss made
  cases made

theorem stroke (s : Stroke) : Draws (fun im p => .ok (s.draw im p)) s.class?.toList := by
  refine fun _ => ⟨.ok [s], fun ss made => ?_, fun _ _ _ => rfl⟩
  cases made
  cases s <;> rfl

theorem indent : Draws (fun _ p => .ok p.indent) [] := (stroke .indent).congr fun _ _ => rfl

theorem finishLine : Draws (fun _ p => .ok p.finishLine) [] :=
  (stroke .finishLine).congr fun _ _ => rfl

theorem outdent : Draws (fun _ p => Java.outdent p) [] := by
  intro a
  cases a with
  | zero =>
    refine ((fault .tooManyOutdents) 0).congr fun _ p hp => ?_
    rw [Java.outdent, Page.outdent?, hp]
  | succ a =>
    refine ((stroke .outdent) (a + 1)).congr fun _ p hp => ?_
    rw [Java.outdent, Page.outdent?, hp, Stroke.draw, hp]
    rfl

/-- Only pages of one depth are taken. -/
theorem onlyAt (h : Draws w cs) (a : Nat) (f : FormatFault) :
    Draws (fun im p => if p.depth = a then w im p else .error f) cs := by
  intro b
  by_cases same : b = a
  · exact (h b).congr fun _ p hp => if_pos (hp.trans same)
  · exact (fault f b).congr fun _ p hp => if_neg fun e => same (hp.symm.trans e)

end Draws

/-! ## 3. Texts -/

namespace Page

theorem write_append (p : Page) (s t : String) : p.write (s ++ t) = (p.write s).write t := by
  rw [write, write, write, putAll, putAll, putAll, String.toList_append, List.foldl_append]

theorem write_singleton (p : Page) (c : Char) : p.write (String.singleton c) = p.put c := by
  simp [write, putAll]

end Page

/-- The text is made of fixed texts and of classes as the file spells them, which are these, in
order. -/
def Spells (text : Imports → String) (cs : List ClassName) : Prop :=
  Draws (fun im p => .ok (p.write (text im))) cs

namespace Spells

variable {text text' : Imports → String}

theorem fixed (s : String) : Spells (fun _ => s) [] :=
  (Draws.stroke (.text s)).congr fun _ _ => rfl

theorem spell (c : ClassName) : Spells (fun im => im.spell c) [c] :=
  (Draws.stroke (.spelled c)).congr fun _ _ => rfl

theorem append (h : Spells text cs) (h' : Spells text' ds) :
    Spells (fun im => text im ++ text' im) (cs ++ ds) :=
  (Draws.bind h h').congr fun im p => congrArg Except.ok (p.write_append (text im) (text' im))

theorem before (s : String) (h : Spells text cs) : Spells (fun im => s ++ text im) cs :=
  (fixed s).append h

theorem after (h : Spells text cs) (s : String) : Spells (fun im => text im ++ s) cs :=
  (h.append (fixed s)).of_eq (List.append_nil cs)

/-- A text and what is written behind it. -/
theorem leading (h : Spells text cs) (h' : Draws w ds) :
    Draws (fun im p => w im (p.write (text im))) (cs ++ ds) :=
  Draws.bind h h'

/-- A text behind what is written. -/
theorem trailing (h : Spells text ds) (h' : Draws w cs) :
    Draws (fun im p => w im p >>= fun q => .ok (q.write (text im))) (cs ++ ds) :=
  Draws.bind h' h

theorem joinTexts {α : Type} {write : Imports → α → String} {refs : α → List ClassName}
    (sep : String) {l : List α} (h : ∀ x ∈ l, Spells (fun im => write im x) (refs x)) :
    Spells (fun im => Text.joinTexts sep (l.map (write im))) (l.flatMap refs) := by
  induction l with
  | nil => exact fixed ""
  | cons x l ih =>
    have first := h x List.mem_cons_self
    have rest := ih fun y hy => h y (List.mem_cons_of_mem x hy)
    rw [List.flatMap_cons]
    cases l with
    | nil => exact first.of_eq (by simp)
    | cons y l => exact (first.after sep).append rest

end Spells

/-! ## 4. Types -/

theorem Imports.spellTypes_eq_map (im : Imports) (ts : List TypeExpr) :
    im.spellTypes ts = ts.map im.spellType := by
  induction ts with
  | nil => rfl
  | cons t ts ih => rw [Imports.spellTypes, ih, List.map_cons]

mutual
/-- A type is spelled with the classes it refers to. -/
theorem spellType_spells : ∀ t : TypeExpr, Spells (fun im => im.spellType t) t.references
  | .void => .fixed "void"
  | .ofClass c => .spell c
  | .parameterized raw arguments => by
    have list := Spells.joinTexts ", " (spellTypes_spell arguments)
    simp only [← Imports.spellTypes_eq_map, ← TypeExpr.referencesOfAll_eq_flatMap] at list
    exact (((Spells.spell raw).after "<").append list).after ">"
  | .variable name => .fixed name
  | .wildcard => .fixed "?"
  | .extending bound => (spellType_spells bound).before "? extends "
/-- Types are spelled with the classes they refer to. -/
theorem spellTypes_spell : ∀ ts : List TypeExpr, ∀ t ∈ ts,
    Spells (fun im => im.spellType t) t.references
  | [] => List.forall_mem_nil _
  | t :: ts => List.forall_mem_cons.mpr ⟨spellType_spells t, spellTypes_spell ts⟩
end

/-! ## 5. Formats and code -/

/-- A fixed text and what is written behind it. -/
theorem Draws.behind (h : Draws w cs) (s : String) : Draws (fun im p => w im (p.write s)) cs :=
  (Spells.fixed s).leading h

theorem Draws.behindChar (h : Draws w cs) (c : Char) : Draws (fun im p => w im (p.put c)) cs :=
  (h.behind (String.singleton c)).congr fun im p => by rw [Page.write_singleton]

/-- A format is drawn if its arguments are. -/
theorem emitFormat_draws (format : String) (chars : List Char) {xs : List CodeArg}
    (h : ∀ x ∈ xs, ∀ ph, Draws (fun im => emitArgument im x ph) x.occurrences) :
    Draws (fun im => emitFormat format chars (argumentWriters im xs))
      (occurrencesOfArguments xs) := by
  induction chars using formatMarks.induct generalizing xs with
  | case1 =>
    cases xs with
    | nil => exact Draws.nothing.congr fun im p => by rw [argumentWriters, emitFormat]
    | cons x xs => exact (Draws.fault _).congr fun im p => by rw [argumentWriters, emitFormat]
  | case2 => exact (Draws.fault _).congr fun im p => by rw [emitFormat]
  | case3 r ih => exact ((ih h).behindChar '$').congr fun im p => emitFormat_dollar format r _ p
  | case4 r _ ih =>
    exact (Draws.indent.bind (ih h)).congr fun im p => emitFormat_indent format r _ p
  | case5 r _ _ ih =>
    exact (Draws.outdent.bind (ih h)).congr fun im p => emitFormat_outdent format r _ p
  | case6 l r dollar more less unknown =>
    refine (Draws.fault (.unknownPlaceholder l)).congr fun im p => ?_
    rw [emitFormat.eq_4 _ _ _ _ _ unknown, if_neg dollar, if_neg more, if_neg less]
  | case7 l r dollar more less ph known ih =>
    cases xs with
    | nil =>
      refine (Draws.fault (.missingArgument ph format)).congr fun im p => ?_
      rw [argumentWriters, emitFormat.eq_5 _ _ _ _ _ known, if_neg dollar, if_neg more, if_neg less]
    | cons x xs =>
      obtain ⟨first, rest⟩ := List.forall_mem_cons.mp h
      refine ((first ph).bind (ih rest)).congr fun im p => ?_
      rw [argumentWriters, emitFormat_hole known]
  | case8 l r noEnd noMark ih =>
    refine ((ih h).behindChar l).congr fun im p => ?_
    rw [emitFormat]
    · exact noEnd
    · exact noMark

theorem emitCode_draws_nil : Draws (fun im => emitCode im []) [] :=
  Draws.nothing.congr fun im p => by rw [emitCode]

theorem emitCode_draws_cons {format : String} {xs : List CodeArg} {code : Code}
    (first : ∀ x ∈ xs, ∀ ph, Draws (fun im => emitArgument im x ph) x.occurrences)
    (rest : Draws (fun im => emitCode im code) (occurrencesOfCode code)) :
    Draws (fun im => emitCode im (⟨format, xs⟩ :: code))
      (occurrencesOfCode (⟨format, xs⟩ :: code)) := by
  rw [occurrencesOfCode]
  refine ((emitFormat_draws format format.toList first).bind rest).congr fun im p => ?_
  rw [emitCode, emitSegment]

/-! ## 6. Annotations and fields -/

theorem emitMember_draws (named : Bool) {m : String × List Segment}
    (h : Draws (fun im => emitCode im m.2) (occurrencesOfCode m.2)) :
    Draws (fun im => emitMember im named m) (occurrencesOfCode m.2) := by
  obtain ⟨name, code⟩ := m
  cases named with
  | true => exact (h.behind (name ++ " = ")).congr fun im p => by rw [emitMember, if_pos rfl]
  | false => exact h.congr fun im p => by rw [emitMember, if_neg Bool.false_ne_true]

theorem emitMembers_draws (named isFirst : Bool) {ms : List (String × List Segment)}
    (h : ∀ m ∈ ms, Draws (fun im => emitCode im m.2) (occurrencesOfCode m.2)) :
    Draws (fun im => emitMembers im named isFirst ms) (occurrencesOfMembers ms) := by
  induction ms generalizing isFirst with
  | nil => exact Draws.nothing.congr fun im p => by rw [emitMembers]
  | cons m ms ih =>
    obtain ⟨first, rest⟩ := List.forall_mem_cons.mp h
    have member := emitMember_draws named first
    rw [occurrencesOfMembers]
    cases isFirst with
    | true =>
      refine (member.bind (ih false rest)).congr fun im p => ?_
      rw [emitMembers, if_pos rfl]
    | false =>
      refine ((member.behind ", ").bind (ih false rest)).congr fun im p => ?_
      rw [emitMembers, if_neg Bool.false_ne_true]

/-- An annotation is drawn if the code of its members is. -/
theorem emitAnnotation_draws {u : AnnotationUse}
    (h : ∀ m ∈ u.members, Draws (fun im => emitCode im m.2) (occurrencesOfCode m.2)) :
    Draws (fun im => emitAnnotation im u) u.occurrences := by
  obtain ⟨type, members⟩ := u
  have marker : Spells (fun im => "@" ++ im.spell type) [type] := (Spells.spell type).before "@"
  rw [AnnotationUse.occurrences]
  cases members with
  | nil =>
    refine (marker.leading .nothing).congr fun im p => ?_
    unfold emitAnnotation
    rfl
  | cons m ms =>
    have list := (emitMembers_draws (!isSingleValue (m :: ms)) true h).behind "("
    have all := marker.leading ((Spells.fixed ")").trailing list)
    refine all.of_eq (by simp) |>.congr fun im p => ?_
    unfold emitAnnotation
    rw [if_neg (by simp)]
    rfl

theorem emitAnnotations_draws {us : List AnnotationUse}
    (h : ∀ u ∈ us, Draws (fun im => emitAnnotation im u) u.occurrences) :
    Draws (fun im => emitAnnotations im us) (occurrencesOfAnnotations us) := by
  induction us with
  | nil => exact Draws.nothing.congr fun im p => by rw [emitAnnotations]
  | cons u us ih =>
    obtain ⟨first, rest⟩ := List.forall_mem_cons.mp h
    rw [occurrencesOfAnnotations]
    refine (first.bind ((ih rest).behindChar '\n')).congr fun im p => ?_
    rw [emitAnnotations]

/-- A field is drawn if its annotations and its initial value are. -/
theorem emitField_draws (inInterface : Bool) {f : FieldDecl}
    (marked : ∀ u ∈ f.annotations, Draws (fun im => emitAnnotation im u) u.occurrences)
    (initial : ∀ code, f.initializer = some code →
      Draws (fun im => emitCode im code) (occurrencesOfCode code)) :
    Draws (fun im => emitField im inInterface f) f.occurrences := by
  obtain ⟨type, name, modifiers, annotations, initializer⟩ := f
  have head : Spells (fun im => modifierText modifiers (impliedOfFields inInterface)
      ++ im.spellType type ++ " " ++ name) type.references :=
    (((spellType_spells type).before _).after " ").after name
  have value : Draws (fun im => emitInitializer im initializer)
      (occurrencesOfInitializer initializer) := by
    cases initializer with
    | none => exact Draws.nothing.congr fun im p => by rw [emitInitializer]
    | some code =>
      exact ((initial code rfl).behind " = ").congr fun im p => by rw [emitInitializer]
  rw [FieldDecl.occurrences]
  have line := head.leading ((Spells.fixed ";\n").trailing value)
  refine ((emitAnnotations_draws marked).bind line).of_eq (by simp) |>.congr fun im p => ?_
  rw [emitField]
  rfl

theorem gap_draws (isFirst : Bool) (h : Draws w cs) :
    Draws (fun im p => w im (gap isFirst p)) cs := by
  cases isFirst with
  | true => exact h
  | false => exact h.behindChar '\n'

theorem emitFields_draws (inInterface isFirst : Bool) {fs : List FieldDecl}
    (h : ∀ f ∈ fs, Draws (fun im => emitField im inInterface f) f.occurrences) :
    Draws (fun im => emitFields im inInterface isFirst fs) (occurrencesOfFields fs) := by
  induction fs generalizing isFirst with
  | nil => exact Draws.nothing.congr fun im p => by rw [emitFields]
  | cons f fs ih =>
    obtain ⟨first, rest⟩ := List.forall_mem_cons.mp h
    rw [occurrencesOfFields]
    refine ((gap_draws isFirst first).bind (ih false rest)).congr fun im p => ?_
    rw [emitFields]

/-! ## 7. Methods -/

theorem signatureText_spells (inInterface : Bool) (modifiers : List Modifier)
    (typeVariables : List String) (returns : TypeExpr) (name : String)
    (parameters : List Parameter) :
    Spells (fun im => signatureText im inInterface modifiers typeVariables returns name parameters)
      (returns.references ++ parameters.flatMap (·.type.references)) := by
  have list : Spells (fun im => Text.joinTexts ", " (parameters.map (parameterText im)))
      (parameters.flatMap (·.type.references)) :=
    Spells.joinTexts ", " fun p _ =>
      (((spellType_spells p.type).before (modifierText p.modifiers [])).after " ").after p.name
  exact ((((((spellType_spells returns).before _).after " ").after name).after "(").append
    list).after ")"

/-- The code of a method that has any is drawn at one level more, and leads back. -/
theorem emitBody_draws {code : Code} (h : Draws (fun im => emitCode im code) cs) (name : String) :
    Draws (fun im p => do
      let q ← emitCode im code (p.write " \x7b\n").indent
      let q ← outdent q.finishLine
      if q.depth = p.depth then return q.write "\x7d\n"
      else throw (.unbalancedMethod name)) cs := by
  intro a
  have closed : Draws (fun _ q =>
      if q.depth = a then .ok (q.write "\x7d\n") else .error (.unbalancedMethod name)) [] :=
    Draws.onlyAt (Spells.fixed "\x7d\n") a (.unbalancedMethod name)
  have code := Draws.indent.bind (h.bind (Draws.finishLine.bind (Draws.outdent.bind closed)))
  refine ((code.behind " \x7b\n").of_eq (by simp) a).congr fun im p hp => ?_
  rw [hp]
  rfl

/-- A method is drawn if its annotations and its code are. -/
theorem emitMethod_draws (inInterface : Bool) {m : MethodDecl}
    (marked : ∀ u ∈ m.annotations, Draws (fun im => emitAnnotation im u) u.occurrences)
    (code : Draws (fun im => emitCode im m.code) (occurrencesOfCode m.code)) :
    Draws (fun im => emitMethod im inInterface m) (m.occurrences inInterface) := by
  obtain ⟨name, modifiers, annotations, typeVariables, returns, parameters, code'⟩ := m
  have signature :=
    signatureText_spells inInterface modifiers typeVariables returns name parameters
  have annotated := emitAnnotations_draws marked
  rw [MethodDecl.occurrences]
  by_cases body : hasBody inInterface modifiers = true
  · have rest := signature.leading (emitBody_draws code name)
    refine (annotated.bind rest).of_eq (by simp [body]) |>.congr fun im p => ?_
    simp only [emitMethod, if_pos body, Page.depth_write]
  · have rest := signature.leading (Spells.fixed ";\n")
    refine (annotated.bind rest).of_eq (by simp [body]) |>.congr fun im p => ?_
    simp only [emitMethod, if_neg body]
    rfl

theorem emitMethods_draws (inInterface isFirst : Bool) {ms : List MethodDecl}
    (h : ∀ m ∈ ms, Draws (fun im => emitMethod im inInterface m) (m.occurrences inInterface)) :
    Draws (fun im => emitMethods im inInterface isFirst ms)
      (occurrencesOfMethods inInterface ms) := by
  induction ms generalizing isFirst with
  | nil => exact Draws.nothing.congr fun im p => by rw [emitMethods]
  | cons m ms ih =>
    obtain ⟨first, rest⟩ := List.forall_mem_cons.mp h
    rw [occurrencesOfMethods]
    refine ((gap_draws isFirst first).bind (ih false rest)).congr fun im p => ?_
    rw [emitMethods]

/-! ## 8. Types -/

theorem supertypeText_spells (isInterface : Bool) (superclass : Option TypeExpr)
    (superinterfaces : List TypeExpr) :
    Spells (fun im => supertypeText im isInterface superclass superinterfaces)
      (TypeExpr.referencesOfAll (superclass.toList ++ superinterfaces)) := by
  have first : Spells (fun im => superclass.elim "" fun t => " extends " ++ im.spellType t)
      (TypeExpr.referencesOfAll superclass.toList) := by
    cases superclass with
    | none => exact .fixed ""
    | some t => exact ((spellType_spells t).before " extends ").of_eq (List.append_nil _).symm
  have rest : Spells (fun im => if superinterfaces.isEmpty then ""
      else (if isInterface then " extends " else " implements ")
        ++ Text.joinTexts ", " (superinterfaces.map im.spellType))
      (TypeExpr.referencesOfAll superinterfaces) := by
    cases superinterfaces with
    | nil => exact .fixed ""
    | cons t ts =>
      rw [TypeExpr.referencesOfAll_eq_flatMap]
      exact (Spells.joinTexts ", " (spellTypes_spell (t :: ts))).before _
  refine (first.append rest).of_eq ?_
  simp only [TypeExpr.referencesOfAll_eq_flatMap, List.flatMap_append]

/-- The first line of an anonymous class is drawn if its arguments are. -/
theorem emitCreation_draws {code : Code} (annotated : List ClassName) (supertypes : List TypeExpr)
    (h : Draws (fun im => emitCode im code) (occurrencesOfCode code)) :
    Draws (fun im => emitCreation im supertypes (.anonymous code))
      (TypeKind.occurrences annotated supertypes (.anonymous code)) := by
  cases supertypes with
  | nil => exact (Draws.fault .noSupertype).congr fun im p => by rw [emitCreation]
  | cons t ts =>
    have line := (((spellType_spells t).before "new ").after "(").leading
      ((Spells.fixed ") \x7b\n").trailing h)
    rw [TypeKind.occurrences]
    refine line.of_eq (by simp [TypeExpr.referencesOfAll]) |>.congr fun im p => ?_
    rw [emitCreation]
    rfl

/-- The members of a type and what closes it are drawn at one level more. -/
theorem emitMembersOf_draws (isFirst : Bool) {inInterface : Bool} {fs : List FieldDecl}
    {ms : List MethodDecl} {close : Imports → Emit}
    (fields : ∀ f ∈ fs, Draws (fun im => emitField im inInterface f) f.occurrences)
    (methods : ∀ m ∈ ms, Draws (fun im => emitMethod im inInterface m) (m.occurrences inInterface))
    (closes : Draws close []) :
    Draws (fun im p => do
      let p ← emitFields im inInterface true fs p.indent
      let p ← emitMethods im inInterface isFirst ms p
      let p ← outdent p
      close im (p.write "\x7d"))
      (occurrencesOfFields fs ++ occurrencesOfMethods inInterface ms) := by
  have ends := (emitMethods_draws inInterface isFirst methods).bind
    (Draws.outdent.bind (closes.behind "\x7d"))
  exact (Draws.indent.bind ((emitFields_draws inInterface true fields).bind ends)).of_eq (by simp)

/-- A type is drawn if its parts are: the arguments of an anonymous class, annotations, fields and
methods. -/
theorem emitType_draws {t : TypeDecl}
    (arguments : ∀ code, t.kind = .anonymous code →
      Draws (fun im => emitCode im code) (occurrencesOfCode code))
    (marked : ∀ u ∈ t.annotations, Draws (fun im => emitAnnotation im u) u.occurrences)
    (fields : ∀ f ∈ t.fields, Draws (fun im => emitField im t.isInterface f) f.occurrences)
    (methods : ∀ m ∈ t.methods,
      Draws (fun im => emitMethod im t.isInterface m) (m.occurrences t.isInterface)) :
    Draws (fun im => emitType im t) t.occurrences := by
  obtain ⟨kind, modifiers, annotations, superclass, superinterfaces, fs, ms⟩ := t
  have annotated := emitAnnotations_draws marked
  have named (isInterface : Bool) (start : String) :=
    (((supertypeText_spells isInterface superclass superinterfaces).before start).after
      " \x7b\n").leading (emitMembersOf_draws fs.isEmpty fields methods
        (Draws.nothing.behindChar '\n'))
  rw [TypeDecl.occurrences]
  cases kind with
  | classNamed name =>
    have all := annotated.bind (named false (modifierText modifiers [] ++ "class" ++ " " ++ name))
    refine all.of_eq (by simp [TypeKind.occurrences]) |>.congr fun im p => ?_
    rw [emitType]
    cases emitAnnotations im annotations p <;> rfl
  | interfaceNamed name =>
    have all := annotated.bind
      (named true (modifierText modifiers [] ++ "interface" ++ " " ++ name))
    refine all.of_eq (by simp [TypeKind.occurrences]) |>.congr fun im p => ?_
    rw [emitType]
    cases emitAnnotations im annotations p <;> rfl
  | anonymous code =>
    have all := (emitCreation_draws (occurrencesOfAnnotations annotations)
      (superclass.toList ++ superinterfaces) (arguments code rfl)).bind
        (emitMembersOf_draws fs.isEmpty fields methods Draws.nothing)
    refine all.congr fun im p => ?_
    rw [emitType]
    rfl

/-! ## 9. Everything -/

/-- An argument is drawn if the code or the anonymous class in it is. -/
theorem emitArgument_draws {x : CodeArg}
    (block : ∀ code, x = .block code → Draws (fun im => emitCode im code) (occurrencesOfCode code))
    (anonymous : ∀ t, x = .anonymous t → Draws (fun im => emitType im t) t.occurrences)
    (ph : Placeholder) : Draws (fun im => emitArgument im x ph) x.occurrences := by
  have mismatch : Draws (fun _ _ => .error (.mismatch ph x)) x.occurrences := .fault _
  cases x with
  | type t =>
    cases ph with
    | type => exact (spellType_spells t).congr fun im p => by rw [emitArgument]
    | literal | text | name => exact mismatch.congr fun im p => by simp [emitArgument]
  | literal s =>
    cases ph with
    | literal => exact (Spells.fixed s).congr fun im p => by rw [emitArgument]
    | type | text | name => exact mismatch.congr fun im p => by simp [emitArgument]
  | text s =>
    cases ph with
    | text => exact (Spells.fixed (stringLiteral s)).congr fun im p => by rw [emitArgument]
    | type | literal | name => exact mismatch.congr fun im p => by simp [emitArgument]
  | name s =>
    cases ph with
    | literal | name => exact (Spells.fixed s).congr fun im p => by rw [emitArgument]
    | type | text => exact mismatch.congr fun im p => by simp [emitArgument]
  | block code =>
    cases ph with
    | literal => exact (block code rfl).congr fun im p => by rw [emitArgument]
    | type | text | name => exact mismatch.congr fun im p => by simp [emitArgument]
  | anonymous t =>
    cases ph with
    | literal => exact (anonymous t rfl).congr fun im p => by rw [emitArgument]
    | type | text | name => exact mismatch.congr fun im p => by simp [emitArgument]

mutual
theorem argument_draws : ∀ (x : CodeArg) (ph : Placeholder),
    Draws (fun im => emitArgument im x ph) x.occurrences
  | .type _ | .literal _ | .text _ | .name _ => emitArgument_draws (by simp) (by simp)
  | .block code =>
    emitArgument_draws (fun _ same => by cases same; exact code_draws code) (by simp)
  | .anonymous t =>
    emitArgument_draws (by simp) (fun _ same => by cases same; exact type_draws t)
theorem arguments_draw : ∀ xs : List CodeArg, ∀ x ∈ xs, ∀ ph,
    Draws (fun im => emitArgument im x ph) x.occurrences
  | [] => List.forall_mem_nil _
  | x :: xs => List.forall_mem_cons.mpr ⟨argument_draws x, arguments_draw xs⟩
theorem code_draws : ∀ code : List Segment,
    Draws (fun im => emitCode im code) (occurrencesOfCode code)
  | [] => emitCode_draws_nil
  | ⟨_, xs⟩ :: code => emitCode_draws_cons (arguments_draw xs) (code_draws code)
theorem members_draw : ∀ ms : List (String × List Segment), ∀ m ∈ ms,
    Draws (fun im => emitCode im m.2) (occurrencesOfCode m.2)
  | [] => List.forall_mem_nil _
  | (_, code) :: ms => List.forall_mem_cons.mpr ⟨code_draws code, members_draw ms⟩
theorem annotations_draw : ∀ us : List AnnotationUse, ∀ u ∈ us,
    Draws (fun im => emitAnnotation im u) u.occurrences
  | [] => List.forall_mem_nil _
  | ⟨_, members⟩ :: us =>
    List.forall_mem_cons.mpr ⟨emitAnnotation_draws (members_draw members), annotations_draw us⟩
theorem fields_draw (inInterface : Bool) : ∀ fs : List FieldDecl, ∀ f ∈ fs,
    Draws (fun im => emitField im inInterface f) f.occurrences
  | [] => List.forall_mem_nil _
  | ⟨_, _, _, annotations, none⟩ :: fs =>
    List.forall_mem_cons.mpr ⟨emitField_draws inInterface (annotations_draw annotations)
      (fun _ impossible => by cases impossible), fields_draw inInterface fs⟩
  | ⟨_, _, _, annotations, some code⟩ :: fs =>
    List.forall_mem_cons.mpr ⟨emitField_draws inInterface (annotations_draw annotations)
      (fun _ same => by cases same; exact code_draws code), fields_draw inInterface fs⟩
theorem methods_draw (inInterface : Bool) : ∀ ms : List MethodDecl, ∀ m ∈ ms,
    Draws (fun im => emitMethod im inInterface m) (m.occurrences inInterface)
  | [] => List.forall_mem_nil _
  | ⟨_, _, annotations, _, _, _, code⟩ :: ms =>
    List.forall_mem_cons.mpr ⟨emitMethod_draws inInterface (annotations_draw annotations)
      (code_draws code), methods_draw inInterface ms⟩
theorem kind_draws : ∀ (kind : TypeKind) (code : Code), kind = .anonymous code →
    Draws (fun im => emitCode im code) (occurrencesOfCode code)
  | .anonymous code, _, same => by
    cases same
    exact code_draws code
/-- A type is written by the same strokes whatever the file imports, and spells the classes that
occur in it, each in its place. -/
theorem type_draws : ∀ t : TypeDecl, Draws (fun im => emitType im t) t.occurrences
  | ⟨kind, _, annotations, _, _, fields, methods⟩ =>
    emitType_draws (kind_draws kind) (annotations_draw annotations) (fields_draw _ fields)
      (methods_draw _ methods)
end

/-! ## 10. The text of a page -/

namespace Page

/-- A character adds itself to the text of a page, behind the indentation that starts a line. -/
theorem print_put (p : Page) (c : Char) (width : Nat) :
    (p.put c).print width = p.print width ++ (if c = '\n' ∨ p.isLineStart = false then ""
      else String.ofList (List.replicate (p.depth * width) ' ')) ++ String.singleton c := by
  unfold put
  by_cases lineEnd : c = '\n'
  · subst lineEnd
    simp [print, Line.print, Line.blank, String.append_assoc]
  · by_cases start : p.isLineStart = true
    · have nothing : p.current.print width = "" := if_pos start
      have first : Line.print width ⟨p.depth, String.singleton c⟩ =
          String.ofList (List.replicate (p.depth * width) ' ') ++ String.singleton c :=
        if_neg (by simp)
      rw [if_neg lineEnd, if_pos start, if_neg (by simp [lineEnd, start]), print, print, first,
        nothing, String.append_empty, String.append_assoc]
    · have before : p.current.print width =
          String.ofList (List.replicate (p.current.depth * width) ' ') ++ p.current.text :=
        if_neg start
      have after : Line.print width { p.current with text := p.current.text.push c } =
          String.ofList (List.replicate (p.current.depth * width) ' ') ++ p.current.text.push c :=
        if_neg (by simp)
      rw [if_neg lineEnd, if_neg start, if_pos (.inr (by simpa using start)), print, print, after,
        before, String.append_empty, String.push_eq_append]
      simp only [String.append_assoc]

/-- What is written at the outermost depth is added to the text of a page as it stands. -/
theorem print_write {p : Page} (outermost : p.depth = 0) (s : String) (width : Nat) :
    (p.write s).print width = p.print width ++ s := by
  have chars (cs : List Char) : (p.putAll cs).print width = p.print width ++ String.ofList cs := by
    induction cs generalizing p with
    | nil => simp [putAll]
    | cons c cs ih =>
      have rest : ((p.put c).putAll cs).print width = (p.put c).print width ++ String.ofList cs :=
        ih (by rw [depth_put, outermost])
      have first : (p.put c).print width = p.print width ++ String.singleton c := by
        rw [print_put, outermost]
        simp
      show ((p.put c).putAll cs).print width = _
      rw [rest, first, String.append_assoc, ← String.toList_inj]
      simp
  rw [write, chars, String.ofList_toList]

/-- The text of the second page starts with the text of the first one, at every width. -/
def IsContinuedBy (p q : Page) : Prop := ∀ width, ∃ rest, q.print width = p.print width ++ rest

theorem IsContinuedBy.refl (p : Page) : p.IsContinuedBy p := fun _ => ⟨"", by simp⟩

theorem IsContinuedBy.trans {p q r : Page} (h : p.IsContinuedBy q) (h' : q.IsContinuedBy r) :
    p.IsContinuedBy r := by
  intro width
  obtain ⟨s, hs⟩ := h width
  obtain ⟨t, ht⟩ := h' width
  exact ⟨s ++ t, by rw [ht, hs, String.append_assoc]⟩

theorem isContinuedBy_put (p : Page) (c : Char) : p.IsContinuedBy (p.put c) :=
  fun width => ⟨_, by rw [print_put, String.append_assoc]⟩

theorem isContinuedBy_putAll (p : Page) (cs : List Char) : p.IsContinuedBy (p.putAll cs) := by
  induction cs generalizing p with
  | nil => exact .refl p
  | cons c cs ih => exact (p.isContinuedBy_put c).trans (ih (p.put c))

end Page

theorem Stroke.isContinuedBy_draw (im : Imports) (p : Page) (s : Stroke) :
    p.IsContinuedBy (s.draw im p) := by
  cases s with
  | text s => exact p.isContinuedBy_putAll s.toList
  | spelled c => exact p.isContinuedBy_putAll (im.spell c).toList
  | indent => exact fun width => ⟨"", by rw [String.append_empty]; rfl⟩
  | outdent => exact fun width => ⟨"", by rw [String.append_empty]; rfl⟩
  | finishLine =>
    rw [draw, Page.finishLine]
    split
    · exact .refl p
    · exact p.isContinuedBy_put '\n'

/-- Strokes add to the text of a page. -/
theorem isContinuedBy_drawAll (im : Imports) (ss : List Stroke) (p : Page) :
    p.IsContinuedBy (drawAll im ss p) := by
  induction ss generalizing p with
  | nil => exact .refl p
  | cons s ss ih => exact (s.isContinuedBy_draw im p).trans (ih (s.draw im p))

end ComponentWiring.Java
