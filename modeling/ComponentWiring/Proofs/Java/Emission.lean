/-
ComponentWiring.Proofs.Java.Emission — when code and declarations can be written.

* `Emit.Takes` — a writer succeeds on every page of one depth and leaves it at another.
* `Mark`, `formatMarks` — a format without its text: its indents, outdents and placeholders.
* `Fits` — arguments fit the placeholders of a format.
* `emitFormat_takes`, `emitCode_append_takes` — code whose arguments fit is written.
* `emitMethod_keeps`, `emitType_keeps`, … — declarations whose code is level are written.
* `SourceFile.render_ok` — a file with a name and such a type is rendered, at every width.

Whether something can be written depends on depths and on the kinds of arguments alone, so
none of these statements is about the text that is written.
-/
import ComponentWiring.Java.Render

namespace ComponentWiring.Java

/-! ## 1. Depths of pages -/

namespace Page

@[simp] theorem depth_put (p : Page) (c : Char) : (p.put c).depth = p.depth := by
  unfold put
  split
  · rfl
  · split <;> rfl

@[simp] theorem depth_putAll (p : Page) (cs : List Char) : (p.putAll cs).depth = p.depth := by
  unfold putAll
  induction cs generalizing p with
  | nil => rfl
  | cons c cs ih => rw [List.foldl_cons, ih, depth_put]

@[simp] theorem depth_write (p : Page) (s : String) : (p.write s).depth = p.depth :=
  depth_putAll p s.toList

@[simp] theorem depth_indent (p : Page) : p.indent.depth = p.depth + 1 := rfl

@[simp] theorem depth_finishLine (p : Page) : p.finishLine.depth = p.depth := by
  unfold finishLine
  split
  · rfl
  · exact depth_put p '\n'

end Page

@[simp] theorem depth_gap (isFirst : Bool) (p : Page) : (gap isFirst p).depth = p.depth := by
  cases isFirst
  · exact p.depth_put '\n'
  · rfl

/-! ## 2. Writers -/

/-- The writer succeeds on every page of depth `a`, and what it leaves has depth `b`. -/
def Emit.Takes (w : Emit) (a b : Nat) : Prop :=
  ∀ p : Page, p.depth = a → ∃ q, w p = .ok q ∧ q.depth = b

/-- The writer succeeds on every page and leaves its depth as it is. -/
def Emit.Keeps (w : Emit) : Prop := ∀ a, w.Takes a a

theorem Emit.Keeps.on {w : Emit} (h : w.Keeps) (p : Page) : ∃ q, w p = .ok q ∧ q.depth = p.depth :=
  h p.depth p rfl

theorem outdent_takes (a : Nat) : Emit.Takes outdent (a + 1) a := by
  intro p hp
  refine ⟨{ p with depth := a }, ?_, rfl⟩
  unfold outdent Page.outdent?
  rw [hp]

/-! ## 3. Formats -/

/-- What a format asks for besides its text. -/
inductive Mark
  | indent
  | outdent
  | hole (p : Placeholder)
deriving DecidableEq

/-- The marks of a format in order, if it is well formed. -/
def formatMarks : List Char → Option (List Mark)
  | [] => some []
  | ['$'] => none
  | '$' :: c :: r =>
    if c = '$' then formatMarks r
    else if c = '>' then (formatMarks r).map (.indent :: ·)
    else if c = '<' then (formatMarks r).map (.outdent :: ·)
    else match Placeholder.ofLetter? c with
      | none => none
      | some ph => (formatMarks r).map (.hole ph :: ·)
  | _ :: r => formatMarks r

/-- The arguments fit the marks, and writing both leads from the first depth to the second. -/
inductive Fits (im : Imports) : List Mark → List CodeArg → Nat → Nat → Prop
  | nil (a : Nat) : Fits im [] [] a a
  | indent {ms : List Mark} {xs : List CodeArg} {a b : Nat} :
    Fits im ms xs (a + 1) b → Fits im (.indent :: ms) xs a b
  | outdent {ms : List Mark} {xs : List CodeArg} {a b : Nat} :
    Fits im ms xs a b → Fits im (.outdent :: ms) xs (a + 1) b
  | hole {ph : Placeholder} {x : CodeArg} {ms : List Mark} {xs : List CodeArg} {a b c : Nat} :
    Emit.Takes (emitArgument im x ph) a b → Fits im ms xs b c →
      Fits im (.hole ph :: ms) (x :: xs) a c

variable {im : Imports} {a b c : Nat}

theorem emitFormat_dollar (format : String) (r : List Char) (ws : List (Placeholder → Emit))
    (p : Page) : emitFormat format ('$' :: '$' :: r) ws p = emitFormat format r ws (p.put '$') :=
  rfl

theorem emitFormat_indent (format : String) (r : List Char) (ws : List (Placeholder → Emit))
    (p : Page) : emitFormat format ('$' :: '>' :: r) ws p = emitFormat format r ws p.indent :=
  rfl

theorem emitFormat_outdent (format : String) (r : List Char) (ws : List (Placeholder → Emit))
    (p : Page) :
    emitFormat format ('$' :: '<' :: r) ws p = outdent p >>= emitFormat format r ws :=
  rfl

theorem emitFormat_hole {l : Char} {ph : Placeholder} (h : Placeholder.ofLetter? l = some ph)
    (format : String) (r : List Char) (w : Placeholder → Emit) (ws : List (Placeholder → Emit))
    (p : Page) :
    emitFormat format ('$' :: l :: r) (w :: ws) p = w ph p >>= emitFormat format r ws := by
  have letters : l ≠ '$' ∧ l ≠ '>' ∧ l ≠ '<' := by
    refine ⟨?_, ?_, ?_⟩ <;> rintro rfl <;> cases h
  rw [emitFormat.eq_6 _ _ _ _ ph _ _ h, if_neg letters.1, if_neg letters.2.1, if_neg letters.2.2]

/-- A well-formed format is written if the arguments fit. -/
theorem emitFormat_takes (format : String) {cs : List Char} {ms : List Mark} {xs : List CodeArg}
    (marks : formatMarks cs = some ms) (fits : Fits im ms xs a b) :
    Emit.Takes (emitFormat format cs (argumentWriters im xs)) a b := by
  -- The induction follows the format; every mark of it takes the first step of `fits`.
  induction cs using formatMarks.induct generalizing ms xs a with
  | case1 =>
    cases marks
    cases fits
    intro p hp
    exact ⟨p, rfl, hp⟩
  | case2 => cases marks
  | case3 r ih =>
    intro p hp
    rw [emitFormat_dollar]
    exact ih (by simpa [formatMarks] using marks) fits _ (by simpa using hp)
  | case4 r _ ih =>
    obtain ⟨ms, rest, rfl⟩ : ∃ ms', formatMarks r = some ms' ∧ .indent :: ms' = ms :=
      Option.map_eq_some_iff.mp marks
    cases fits with
    | indent fits =>
      intro p hp
      rw [emitFormat_indent]
      exact ih rest fits _ (by simpa using hp)
  | case5 r _ _ ih =>
    obtain ⟨ms, rest, rfl⟩ : ∃ ms', formatMarks r = some ms' ∧ .outdent :: ms' = ms :=
      Option.map_eq_some_iff.mp marks
    cases fits with
    | outdent fits =>
      intro p hp
      obtain ⟨q, moved, hq⟩ := outdent_takes _ p hp
      rw [emitFormat_outdent, moved]
      exact ih rest fits q hq
  | case6 l r _ _ _ unknown => simp_all [formatMarks]
  | case7 l r _ _ _ ph known ih =>
    obtain ⟨ms, rest, rfl⟩ : ∃ ms', formatMarks r = some ms' ∧ .hole ph :: ms' = ms := by
      rw [formatMarks] at marks
      simp_all
    cases fits with
    | hole taken fits =>
      intro p hp
      obtain ⟨q, written, hq⟩ := taken p hp
      rw [argumentWriters, emitFormat_hole known, written]
      exact ih rest fits q hq
  | case8 l r noEnd noMark ih =>
    rw [formatMarks] at marks
    · intro p hp
      rw [emitFormat]
      · exact ih marks fits _ (by simpa using hp)
      · exact noEnd
      · exact noMark
    · exact noEnd
    · exact noMark

/-! ## 4. Arguments -/

/-- Whether an argument is written where it stands, without code of its own. -/
def CodeArg.suits : CodeArg → Placeholder → Bool
  | .type _, .type | .text _, .text | .name _, .name | .name _, .literal | .literal _, .literal =>
    true
  | _, _ => false

theorem emitArgument_keeps {x : CodeArg} {ph : Placeholder} (h : x.suits ph = true) :
    Emit.Keeps (emitArgument im x ph) := by
  intro a p hp
  cases x <;> cases ph <;> simp only [CodeArg.suits, Bool.false_eq_true] at h
  all_goals exact ⟨_, rfl, by rw [Page.depth_write, hp]⟩

theorem emitArgument_anonymous_takes {t : TypeDecl} (h : Emit.Takes (emitType im t) a b) :
    Emit.Takes (emitArgument im (.anonymous t) .literal) a b := by
  intro p hp
  exact h p hp

/-- The depth to which a format leads whose arguments are all written where they stand. -/
def endDepth : List Mark → List CodeArg → Nat → Option Nat
  | [], [], a => some a
  | .indent :: ms, xs, a => endDepth ms xs (a + 1)
  | .outdent :: ms, xs, a + 1 => endDepth ms xs a
  | .hole ph :: ms, x :: xs, a => if x.suits ph then endDepth ms xs a else none
  | _, _, _ => none

theorem fits_of_endDepth {ms : List Mark} {xs : List CodeArg} (h : endDepth ms xs a = some b) :
    Fits im ms xs a b := by
  induction ms, xs, a using endDepth.induct with
  | case1 a =>
    cases h
    exact .nil _
  | case2 ms xs a ih => exact .indent (ih h)
  | case3 ms xs a ih => exact .outdent (ih h)
  | case4 ph ms x xs a suits ih =>
    rw [endDepth, if_pos suits] at h
    exact .hole (emitArgument_keeps suits a) (ih h)
  | case5 ph ms x xs a unsuited =>
    rw [endDepth, if_neg unsuited] at h
    cases h
  | case6 ms xs a _ _ _ _ => simp_all [endDepth]

/-! ## 5. Code -/

theorem emitSegment_takes {format : String} {xs : List CodeArg} {ms : List Mark}
    (marks : formatMarks format.toList = some ms) (fits : Fits im ms xs a b) :
    Emit.Takes (emitSegment im ⟨format, xs⟩) a b := by
  intro p hp
  exact emitFormat_takes format marks fits p hp

theorem emitCode_nil_takes (a : Nat) : Emit.Takes (emitCode im []) a a :=
  fun p hp => ⟨p, rfl, hp⟩

theorem emitCode_cons (s : Segment) (code : Code) (p : Page) :
    emitCode im (s :: code) p = emitSegment im s p >>= emitCode im code := rfl

theorem emitCode_cons_takes {s : Segment} {code : Code} (hs : Emit.Takes (emitSegment im s) a b)
    (hcode : Emit.Takes (emitCode im code) b c) : Emit.Takes (emitCode im (s :: code)) a c := by
  intro p hp
  obtain ⟨q, written, hq⟩ := hs p hp
  rw [emitCode_cons, written]
  exact hcode q hq

theorem emitCode_append (code code' : Code) (p : Page) :
    emitCode im (code ++ code') p = emitCode im code p >>= emitCode im code' := by
  induction code generalizing p with
  | nil => rfl
  | cons s code ih =>
    rw [List.cons_append, emitCode_cons, emitCode_cons]
    cases emitSegment im s p with
    | error fault => rfl
    | ok q => exact ih q

theorem emitCode_append_takes {code code' : Code} (h : Emit.Takes (emitCode im code) a b)
    (h' : Emit.Takes (emitCode im code') b c) : Emit.Takes (emitCode im (code ++ code')) a c := by
  intro p hp
  obtain ⟨q, written, hq⟩ := h p hp
  rw [emitCode_append, written]
  exact h' q hq

theorem emitCode_flatten_takes {codes : List Code}
    (h : ∀ code ∈ codes, Emit.Takes (emitCode im code) a a) :
    Emit.Takes (emitCode im codes.flatten) a a := by
  induction codes with
  | nil => exact emitCode_nil_takes a
  | cons code codes ih =>
    rw [List.flatten_cons]
    exact emitCode_append_takes (h code (by simp)) (ih fun d hd => h d (by simp [hd]))

theorem emitCode_of_takes {format : String} {xs : List CodeArg} (ms : List Mark)
    (marks : formatMarks format.toList = some ms) (fits : Fits im ms xs a b) :
    Emit.Takes (emitCode im (Code.of format xs)) a b :=
  emitCode_cons_takes (emitSegment_takes marks fits) (emitCode_nil_takes b)

/-! ## 6. Annotations and fields -/

theorem emitMember_keeps (named : Bool) {m : String × List Segment}
    (h : Emit.Keeps (emitCode im m.2)) : Emit.Keeps (emitMember im named m) := by
  obtain ⟨name, code⟩ := m
  intro a p hp
  refine h a _ ?_
  split
  · rw [Page.depth_write, hp]
  · exact hp

theorem emitMembers_cons (named isFirst : Bool) (m : String × List Segment)
    (ms : List (String × List Segment)) (p : Page) :
    emitMembers im named isFirst (m :: ms) p
      = emitMember im named m (if isFirst then p else p.write ", ")
        >>= emitMembers im named false ms := rfl

theorem emitMembers_keeps (named isFirst : Bool) {ms : List (String × List Segment)}
    (h : ∀ m ∈ ms, Emit.Keeps (emitCode im m.2)) :
    Emit.Keeps (emitMembers im named isFirst ms) := by
  induction ms generalizing isFirst with
  | nil => exact fun a p hp => ⟨p, rfl, hp⟩
  | cons m ms ih =>
    intro a p hp
    obtain ⟨q, written, hq⟩ := emitMember_keeps named (h m (by simp)) a
      (if isFirst then p else p.write ", ") (by split <;> simp [hp])
    rw [emitMembers_cons, written]
    exact ih false (fun m hm => h m (by simp [hm])) a q hq

/-- An annotation is written if the code of its members is. -/
theorem emitAnnotation_keeps {u : AnnotationUse}
    (h : ∀ m ∈ u.members, Emit.Keeps (emitCode im m.2)) :
    Emit.Keeps ( emitAnnotation im u) := by
  obtain ⟨type, members⟩ := u
  intro a p hp
  unfold emitAnnotation
  by_cases none_there : members.isEmpty = true
  · exact ⟨_, if_pos none_there, by rw [Page.depth_write, hp]⟩
  · obtain ⟨q, written, hq⟩ := emitMembers_keeps (!isSingleValue members) true h a
      ((p.write ("@" ++ im.spell type)).write "(") (by simp [hp])
    refine ⟨q.write ")", ?_, by rw [Page.depth_write, hq]⟩
    rw [if_neg none_there, written]
    rfl

theorem emitAnnotations_cons (u : AnnotationUse) (us : List AnnotationUse) (p : Page) :
    emitAnnotations im (u :: us) p
      = ( emitAnnotation im u p >>= fun q => emitAnnotations im us (q.put '\n')) := rfl

theorem emitAnnotations_keeps {us : List AnnotationUse}
    (h : ∀ u ∈ us, Emit.Keeps ( emitAnnotation im u)) : Emit.Keeps (emitAnnotations im us) := by
  induction us with
  | nil => exact fun a p hp => ⟨p, rfl, hp⟩
  | cons u us ih =>
    intro a p hp
    obtain ⟨q, written, hq⟩ := h u (by simp) a p hp
    rw [emitAnnotations_cons, written]
    exact ih (fun v hv => h v (by simp [hv])) a _ (by rw [Page.depth_put, hq])

/-- A field without initial value is written if its annotations are. -/
theorem emitField_keeps (inInterface : Bool) {f : FieldDecl} (bare : f.initializer = none)
    (h : ∀ u ∈ f.annotations, Emit.Keeps ( emitAnnotation im u)) :
    Emit.Keeps (emitField im inInterface f) := by
  obtain ⟨type, name, modifiers, annotations, initializer⟩ := f
  cases bare
  intro a p hp
  obtain ⟨q, written, hq⟩ := emitAnnotations_keeps h a p hp
  have same : emitField im inInterface ⟨type, name, modifiers, annotations, none⟩ p
      = (emitAnnotations im annotations p >>= fun q => .ok ((q.write
          (modifierText modifiers (impliedOfFields inInterface) ++ im.spellType type ++ " "
            ++ name)).write ";\n")) := rfl
  rw [same, written]
  exact ⟨_, rfl, by rw [Page.depth_write, Page.depth_write, hq]⟩

theorem emitFields_cons (inInterface isFirst : Bool) (f : FieldDecl) (fs : List FieldDecl)
    (p : Page) :
    emitFields im inInterface isFirst (f :: fs) p
      = emitField im inInterface f (gap isFirst p) >>= emitFields im inInterface false fs := rfl

theorem emitFields_keeps (inInterface isFirst : Bool) {fs : List FieldDecl}
    (h : ∀ f ∈ fs, Emit.Keeps (emitField im inInterface f)) :
    Emit.Keeps (emitFields im inInterface isFirst fs) := by
  induction fs generalizing isFirst with
  | nil => exact fun a p hp => ⟨p, rfl, hp⟩
  | cons f fs ih =>
    intro a p hp
    obtain ⟨q, written, hq⟩ := h f (by simp) a (gap isFirst p) (by rw [depth_gap, hp])
    rw [emitFields_cons, written]
    exact ih false (fun g hg => h g (by simp [hg])) a q hq

/-! ## 7. Methods -/

/-- The code of a method, if it has any, leads back to the depth at which it begins. -/
def MethodDecl.IsLevel (im : Imports) (inInterface : Bool) (m : MethodDecl) : Prop :=
  hasBody inInterface m.modifiers = true → Emit.Keeps (emitCode im m.code)

/-- A method is written if its annotations and its code are. -/
theorem emitMethod_keeps {inInterface : Bool} {m : MethodDecl}
    (marked : ∀ u ∈ m.annotations, Emit.Keeps ( emitAnnotation im u))
    (level : m.IsLevel im inInterface) : Emit.Keeps (emitMethod im inInterface m) := by
  obtain ⟨name, modifiers, annotations, typeVariables, returns, parameters, code⟩ := m
  intro a p hp
  obtain ⟨q, written, hq⟩ := emitAnnotations_keeps marked a p hp
  show ∃ r, (emitAnnotations im annotations p >>= _) = .ok r ∧ _
  rw [written]
  generalize signatureText im inInterface modifiers typeVariables returns name parameters =
    signature
  by_cases body : hasBody inInterface modifiers = true
  · obtain ⟨r, coded, hr⟩ := level body (a + 1) ((q.write signature).write " \x7b\n").indent
      (by simp [hq])
    obtain ⟨t, moved, ht⟩ := outdent_takes a r.finishLine (by rw [Page.depth_finishLine, hr])
    refine ⟨t.write "\x7d\n", ?_, by rw [Page.depth_write, ht]⟩
    refine (if_pos body).trans ?_
    have depths : t.depth = ((q.write signature).write " \x7b\n").depth := by simp [ht, hq]
    show (emitCode im code _ >>= _) = _
    rw [show emitCode im code _ = .ok r from coded]
    show (outdent r.finishLine >>= _) = _
    rw [moved]
    exact if_pos depths
  · refine ⟨(q.write signature).write ";\n", if_neg body, ?_⟩
    rw [Page.depth_write, Page.depth_write, hq]

theorem emitMethods_cons (inInterface isFirst : Bool) (m : MethodDecl) (ms : List MethodDecl)
    (p : Page) :
    emitMethods im inInterface isFirst (m :: ms) p
      = emitMethod im inInterface m (gap isFirst p) >>= emitMethods im inInterface false ms := rfl

theorem emitMethods_keeps (inInterface isFirst : Bool) {ms : List MethodDecl}
    (h : ∀ m ∈ ms, Emit.Keeps (emitMethod im inInterface m)) :
    Emit.Keeps (emitMethods im inInterface isFirst ms) := by
  induction ms generalizing isFirst with
  | nil => exact fun a p hp => ⟨p, rfl, hp⟩
  | cons m ms ih =>
    intro a p hp
    obtain ⟨q, written, hq⟩ := h m (by simp) a (gap isFirst p) (by rw [depth_gap, hp])
    rw [emitMethods_cons, written]
    exact ih false (fun n hn => h n (by simp [hn])) a q hq

/-! ## 8. Types and files -/

/-- The members of a type can be written. -/
structure TypeDecl.HasMembers (im : Imports) (t : TypeDecl) : Prop where
  fields : ∀ f ∈ t.fields, Emit.Keeps (emitField im t.isInterface f)
  methods : ∀ m ∈ t.methods, Emit.Keeps (emitMethod im t.isInterface m)

/-- The members of a type are written after the line that opens it, and what follows them is
written at the depth of that line. -/
theorem emitMembersOf_takes {t : TypeDecl} (members : t.HasMembers im) {p : Page}
    (hp : p.depth = a) : ∃ q, q.depth = a ∧ ∀ close : Page → Except FormatFault Page, (do
      let p ← emitFields im t.isInterface true t.fields p.indent
      let p ← emitMethods im t.isInterface t.fields.isEmpty t.methods p
      close (← outdent p)) = close q := by
  obtain ⟨q, written, hq⟩ := emitFields_keeps t.isInterface true members.fields (a + 1) p.indent
    (by rw [Page.depth_indent, hp])
  obtain ⟨r, written', hr⟩ := emitMethods_keeps t.isInterface t.fields.isEmpty members.methods
    (a + 1) q hq
  obtain ⟨u, moved, hu⟩ := outdent_takes a r hr
  refine ⟨u, hu, fun close => ?_⟩
  rw [written]
  show (emitMethods im t.isInterface t.fields.isEmpty t.methods q >>= fun p =>
    outdent p >>= close) = _
  rw [written']
  show (outdent r >>= close) = _
  rw [moved]
  rfl

/-- A class or an interface is written if its annotations and its members are. -/
theorem emitType_keeps {t : TypeDecl} (named : t.isAnonymous = false)
    (marked : ∀ u ∈ t.annotations, Emit.Keeps ( emitAnnotation im u)) (members : t.HasMembers im) :
    Emit.Keeps (emitType im t) := by
  obtain ⟨kind, modifiers, annotations, superclass, superinterfaces, fields, methods⟩ := t
  intro a p hp
  obtain ⟨q, written, hq⟩ := emitAnnotations_keeps marked a p hp
  have opened (s : String) : (q.write s).depth = a := by rw [Page.depth_write, hq]
  cases kind with
  | anonymous => cases named
  | classNamed name =>
    obtain ⟨r, hr, ends⟩ := emitMembersOf_takes members (opened _)
    refine ⟨(r.write "\x7d").put '\n', ?_, by simp [hr]⟩
    show (Except.map _ (emitAnnotations im annotations p) >>= _) = _
    rw [written]
    exact ends fun p => .ok ((p.write "\x7d").put '\n')
  | interfaceNamed name =>
    obtain ⟨r, hr, ends⟩ := emitMembersOf_takes members (opened _)
    refine ⟨(r.write "\x7d").put '\n', ?_, by simp [hr]⟩
    show (Except.map _ (emitAnnotations im annotations p) >>= _) = _
    rw [written]
    exact ends fun p => .ok ((p.write "\x7d").put '\n')

/-- An anonymous class without arguments is written if it has a supertype and its members are. -/
theorem emitType_anonymous_keeps {t : TypeDecl} (anonymous : t.kind = .anonymous [])
    (supertype : t.superinterfaces ≠ []) (members : t.HasMembers im) :
    Emit.Keeps (emitType im t) := by
  obtain ⟨kind, modifiers, annotations, superclass, superinterfaces, fields, methods⟩ := t
  cases anonymous
  intro a p hp
  have created : ∃ q,
      emitCreation im (superclass.toList ++ superinterfaces) (.anonymous []) p = .ok q
      ∧ q.depth = a := by
    obtain ⟨s, rest, same⟩ : ∃ s rest, superclass.toList ++ superinterfaces = s :: rest :=
      List.exists_cons_of_ne_nil (by simp_all)
    rw [same]
    exact ⟨_, rfl, by simp [hp]⟩
  obtain ⟨q, created, hq⟩ := created
  obtain ⟨r, hr, ends⟩ := emitMembersOf_takes members hq
  refine ⟨r.write "\x7d", ?_, by simp [hr]⟩
  show (emitCreation im _ _ p >>= _) = _
  rw [created]
  exact ends fun p => .ok (p.write "\x7d")

/-- A file with a name and a type that can be written is rendered, at every width. -/
theorem SourceFile.render_ok {f : SourceFile} (named : f.type.isAnonymous = false)
    (name : f.type.name ≠ "") (written : Emit.Keeps (emitType (.of f) f.type)) (width : Nat) :
    ∃ text, f.render width = .ok text := by
  obtain ⟨p, done, -⟩ := written.on (Page.start.write (f.header (.of f)))
  have allowed : ¬ (f.type.isAnonymous || f.type.name.isEmpty) = true := by
    simp [named, name]
  refine ⟨p.print width, ?_⟩
  rw [render, page, if_neg allowed]
  show (emitType _ _ _).map _ = _
  rw [done]
  rfl

end ComponentWiring.Java
