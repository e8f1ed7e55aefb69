/-
ComponentWiring.Proofs.Run.LoadedFlags — compiled classes and references to classes.

* `NamesClass` — the texts that name a class.
* `ModuleRef.resolve_ofText` — such a text names the same module as a compiled class and by
  reference.
* `ClassDeclaration.SameUpToFlags` — entries that differ in which literals are loaded.
* `loadedFlags_irrelevant` — a project comes to the same with either of them.

Entries that differ in flags become the same when compiled classes are replaced by references to
them (`ClassLiteral.toReference`), and a run does not notice the replacement.
-/
import ComponentWiring.Proofs.Declared.Values
import ComponentWiring.Proofs.Run.Literals
import ComponentWiring.Proofs.Text.Blank

namespace ComponentWiring

open Document

/-! ## 1. Texts -/

/-- The trimmed text names a class: there is a type, and it is not unresolved. -/
structure NamesClass (text : String) : Prop where
  notEmpty : Text.trim text ≠ ""
  notVoid : Text.trim text ≠ "void"
  notError : ¬ "error:".toList <+: (Text.trim text).toList

/-- A text may be trimmed before its type arguments are left out. -/
theorem withoutArguments_trim (text : String) :
    withoutArguments (Text.trim text) = withoutArguments text := by
  have keeps (c : Char) (blank : Text.isBlank c = true) : (c != '<') = true := by
    rw [bne_iff_ne]
    rintro rfl
    exact absurd blank (by decide)
  have chars : (Text.trim text).toList = Text.trimChars text.toList := String.toList_ofList
  rw [withoutArguments, withoutArguments, chars, Text.trim, Text.trim, String.toList_ofList,
    String.toList_ofList, Text.trimChars_takeWhile_trimChars keeps]

theorem TypeRef.ofText_of_namesClass {text : String} (names : NamesClass text) :
    ofText text = .named (withoutArguments text) := by
  have resolved : Text.dropStart? "error:".toList (Text.trim text).toList = none := by
    rw [Option.eq_none_iff_forall_ne_some]
    intro rest dropped
    exact names.notError ⟨rest, (Text.dropStart?_eq_some_iff.mp dropped).symm⟩
  have given : ¬ ((Text.trim text).isEmpty = true ∨ Text.trim text = "void") := by
    rw [String.isEmpty_iff, not_or]
    exact ⟨names.notEmpty, names.notVoid⟩
  simp only [ofText, Bool.or_eq_true, decide_eq_true_eq, if_neg given, resolved,
    withoutArguments_trim]

/-- A text that names a class names one module, loaded or not, declared or not. -/
theorem ModuleRef.resolve_ofText {text : String} (names : NamesClass text) (s : TypeStore)
    (loaded : Bool) :
    resolve s (some (.ofText text loaded)) = .ofName (withoutArguments text) := by
  cases loaded with
  | true => rw [ClassLiteral.ofText, if_pos rfl, ClassLiteral.ofLoaded, resolve, ofName]
  | false =>
    rw [ClassLiteral.ofText, if_neg Bool.false_ne_true, TypeRef.ofText_of_namesClass names,
      resolve_byName]

-- Neither the white space nor the type arguments belong to the name.
example : ModuleRef.resolve .empty (some (.ofText " a.B <C> " true)) = ⟨"a.B", "B"⟩ := by decide

/-! ## 2. References only -/

/-- The reference to the class of a compiled class. -/
def ClassLiteral.toReference : ClassLiteral → ClassLiteral
  | .loaded name simple =>
    if simple = simpleName name then .byReference (.named name) else .loaded name simple
  | c => c

theorem ClassLiteral.toReference_ofText {text : String} (names : NamesClass text) (loaded : Bool) :
    (ofText text loaded).toReference = .byReference (.named (withoutArguments text)) := by
  cases loaded with
  | true => rw [ofText, if_pos rfl, ofLoaded, toReference, if_pos rfl]
  | false =>
    rw [ofText, if_neg Bool.false_ne_true, TypeRef.ofText_of_namesClass names]
    rfl

theorem keepsModules_toReference : KeepsModules ClassLiteral.toReference := by
  intro s c
  cases c with
  | byReference type => rfl
  | loaded name simple =>
    rw [ClassLiteral.toReference]
    split
    · next same =>
      subst same
      exact ModuleRef.resolve_byName s name
    · rfl

/-! ## 3. Declarations -/

section Declarations

variable (f : ClassLiteral → ClassLiteral)

/-- The entry of a method with other class literals in its annotations. -/
def MethodDeclaration.mapLiterals (d : MethodDeclaration) : MethodDeclaration :=
  { d with annotations := d.annotations.map (·.mapLiterals f) }

/-- The entry with other class literals in its annotations and those of its methods. -/
def ClassDeclaration.mapLiterals (d : ClassDeclaration) : ClassDeclaration :=
  { d with
    annotations := d.annotations.map (·.mapLiterals f)
    methods := d.methods.map (·.mapLiterals f) }

theorem MethodDeclaration.toElement_mapLiterals (d : MethodDeclaration) (owner : String) :
    (d.mapLiterals f).toElement owner = (d.toElement owner).map (·.mapLiterals f) := by
  have name : (d.mapLiterals f).name = d.name := rfl
  rw [toElement, toElement, name]
  split <;> rfl

theorem ClassDeclaration.toElement_mapLiterals (d : ClassDeclaration) :
    (d.mapLiterals f).toElement = d.toElement.map (·.mapLiterals f) := by
  have name : (d.mapLiterals f).declaredName = d.declaredName := rfl
  by_cases blank : d.declaredName = ""
  · rw [toElement_of_blank blank, toElement_of_blank (name.trans blank)]
    rfl
  by_cases type : d.kind.isType = true
  · have methods := mapM_map (fun m => MethodDeclaration.toElement_mapLiterals f m d.declaredName)
      d.methods
    rw [toElement_of_isType blank type, toElement_of_isType (d := d.mapLiterals f) blank type]
    show (List.mapM _ (d.methods.map (MethodDeclaration.mapLiterals f)) >>= _) = _
    rw [name, methods, map_bind]
    cases d.methods.mapM (MethodDeclaration.toElement d.declaredName) <;> rfl
  · rw [Bool.not_eq_true] at type
    rw [toElement_of_not_isType blank type,
      toElement_of_not_isType (d := d.mapLiterals f) blank type]
    rfl

theorem elementsAfter_mapLiterals (seen : List String) (ds : List ClassDeclaration) :
    elementsAfter seen (ds.map (·.mapLiterals f)) =
      (elementsAfter seen ds).map (List.map (·.mapLiterals f)) := by
  induction ds generalizing seen with
  | nil => rfl
  | cons d ds ih =>
    rw [List.map_cons, elementsAfter, elementsAfter, ClassDeclaration.toElement_mapLiterals]
    cases d.toElement with
    | error fault => rfl
    | ok t =>
      have name : (t.mapLiterals f).qualifiedName = t.qualifiedName := rfl
      simp only [bind, Except.bind, Except.map, name, ih]
      split
      · rfl
      · cases elementsAfter (t.qualifiedName :: seen) ds <;> rfl

end Declarations

/-! ## 4. Flags -/

/-- The values are the same, or both name a class by the same text, loaded or not. -/
inductive AnnotationValue.SameUpToFlag : AnnotationValue → AnnotationValue → Prop
  | same (v : AnnotationValue) : SameUpToFlag v v
  | flag {text : String} (names : NamesClass text) (loaded loaded' : Bool) :
    SameUpToFlag (.classLiteral (.ofText text loaded)) (.classLiteral (.ofText text loaded'))

/-- The annotations have the same members up to flags. -/
structure AnnotationElement.SameUpToFlags (a a' : AnnotationElement) : Prop where
  type : a.type = a'.type
  values : List.Forall₂ (fun e e' => e.1 = e'.1 ∧ AnnotationValue.SameUpToFlag e.2 e'.2)
    a.values.entries a'.values.entries

/-- The methods are the same up to flags in their annotations. -/
structure MethodDeclaration.SameUpToFlags (d d' : MethodDeclaration) : Prop where
  rest : { d with annotations := [] } = { d' with annotations := [] }
  annotations : List.Forall₂ AnnotationElement.SameUpToFlags d.annotations d'.annotations

/-- The entries are the same up to flags in their annotations and those of their methods. -/
structure ClassDeclaration.SameUpToFlags (d d' : ClassDeclaration) : Prop where
  rest : { d with annotations := [], methods := [] } = { d' with annotations := [], methods := [] }
  annotations : List.Forall₂ AnnotationElement.SameUpToFlags d.annotations d'.annotations
  methods : List.Forall₂ MethodDeclaration.SameUpToFlags d.methods d'.methods

theorem map_eq_map_of_forall₂ {α β : Type} {R : α → α → Prop} {g : α → β}
    (same : ∀ a a', R a a' → g a = g a') {l l' : List α} (each : List.Forall₂ R l l') :
    l.map g = l'.map g := by
  rw [← List.forall₂_eq_eq_eq, List.forall₂_map_left_iff, List.forall₂_map_right_iff]
  exact each.imp same

theorem AnnotationValue.SameUpToFlag.mapLiteral_eq {v v' : AnnotationValue}
    (same : SameUpToFlag v v') :
    v.mapLiteral ClassLiteral.toReference = v'.mapLiteral ClassLiteral.toReference := by
  cases same with
  | same => rfl
  | flag names loaded loaded' =>
    simp only [mapLiteral, ClassLiteral.toReference_ofText names]

theorem AnnotationElement.SameUpToFlags.mapLiterals_eq {a a' : AnnotationElement}
    (same : SameUpToFlags a a') :
    a.mapLiterals ClassLiteral.toReference = a'.mapLiterals ClassLiteral.toReference := by
  rw [mapLiterals, mapLiterals, mk.injEq]
  refine ⟨same.type, Keyed.ext_entries (map_eq_map_of_forall₂ ?_ same.values)⟩
  rintro ⟨member, v⟩ ⟨_, v'⟩ ⟨rfl, value⟩
  exact congrArg (member, ·) value.mapLiteral_eq

theorem MethodDeclaration.SameUpToFlags.mapLiterals_eq {d d' : MethodDeclaration}
    (same : SameUpToFlags d d') :
    d.mapLiterals ClassLiteral.toReference = d'.mapLiterals ClassLiteral.toReference := by
  have annotations := map_eq_map_of_forall₂
    (fun _ _ same => AnnotationElement.SameUpToFlags.mapLiterals_eq same) same.annotations
  have rest := same.rest
  rw [mk.injEq] at rest
  rw [mapLiterals, mapLiterals, mk.injEq]
  exact ⟨rest.1, rest.2.1, rest.2.2.1, rest.2.2.2.1, annotations⟩

theorem ClassDeclaration.SameUpToFlags.mapLiterals_eq {d d' : ClassDeclaration}
    (same : SameUpToFlags d d') :
    d.mapLiterals ClassLiteral.toReference = d'.mapLiterals ClassLiteral.toReference := by
  have annotations := map_eq_map_of_forall₂
    (fun _ _ same => AnnotationElement.SameUpToFlags.mapLiterals_eq same) same.annotations
  have methods := map_eq_map_of_forall₂
    (fun _ _ same => MethodDeclaration.SameUpToFlags.mapLiterals_eq same) same.methods
  have rest := same.rest
  rw [mk.injEq] at rest
  rw [mapLiterals, mapLiterals, mk.injEq]
  obtain ⟨name, package, kind, superclass, interfaces, parameters, modifiers, -, -⟩ := rest
  exact ⟨name, package, kind, superclass, interfaces, parameters, modifiers, annotations, methods⟩

theorem AnnotationValue.eq_of_isNamedBy {entries : List (String × Node)} {text : String}
    {loaded : Bool} {v : AnnotationValue} (named : ClassLiteral.IsNamedBy entries text loaded)
    (read : ofNode? (.record entries) = some v) : v = .classLiteral (.ofText text loaded) := by
  obtain ⟨readable, -⟩ := ofNode?_record_iff.mp read
  have spelled := (ofNode?_eq_some_iff _ _).mpr (.classLiteral named readable)
  exact Option.some.inj (read.symm.trans spelled)

/-- Records that name a class by the same text are read as values that differ in the flag only. -/
theorem AnnotationValue.sameUpToFlag_of_isNamedBy {entries entries' : List (String × Node)}
    {text : String} {loaded loaded' : Bool} {v v' : AnnotationValue} (names : NamesClass text)
    (named : ClassLiteral.IsNamedBy entries text loaded)
    (named' : ClassLiteral.IsNamedBy entries' text loaded')
    (read : ofNode? (.record entries) = some v) (read' : ofNode? (.record entries') = some v') :
    v.SameUpToFlag v' := by
  rw [eq_of_isNamedBy named read, eq_of_isNamedBy named' read']
  exact .flag names loaded loaded'

/-! ## 5. Indexes -/

theorem elementsOf_map_eq {β : Type} {ds ds' : List ClassDeclaration}
    (same : List.Forall₂ ClassDeclaration.SameUpToFlags ds ds') {run : List TypeElement → β}
    (keeps : ∀ ts, run (ts.map (·.mapLiterals ClassLiteral.toReference)) = run ts) :
    (elementsOf ds).map run = (elementsOf ds').map run := by
  have through (ds : List ClassDeclaration) : (elementsOf ds).map run =
      (elementsOf (ds.map (·.mapLiterals ClassLiteral.toReference))).map run := by
    rw [elementsOf, elementsOf, elementsAfter_mapLiterals]
    cases elementsAfter [] ds with
    | error fault => rfl
    | ok ts => exact congrArg Except.ok (keeps ts).symm
  rw [through ds, through ds', map_eq_map_of_forall₂ ?_ same]
  exact fun _ _ => ClassDeclaration.SameUpToFlags.mapLiterals_eq

/-- A text that names a class names the same module as a compiled class and by reference, in every
store. So it makes no difference for a project which of the classes in the annotations of its index
are said to be loaded: the report, the news and the sources are the same. -/
theorem loadedFlags_irrelevant :
    (∀ text, NamesClass text → ∀ s, ModuleRef.resolve s (some (.ofText text true)) =
      ModuleRef.resolve s (some (.ofText text false))) ∧
    (∀ entries entries' text loaded loaded' v v', NamesClass text →
      ClassLiteral.IsNamedBy entries text loaded → ClassLiteral.IsNamedBy entries' text loaded' →
      AnnotationValue.ofNode? (.record entries) = some v →
      AnnotationValue.ofNode? (.record entries') = some v' → v.SameUpToFlag v') ∧
    (∀ format format' index index' ds ds',
      (IndexFormat.document? format index).bind (declarationsOfNode? format.dialect) = some ds →
      (IndexFormat.document? format' index').bind (declarationsOfNode? format'.dialect) = some ds' →
      List.Forall₂ ClassDeclaration.SameUpToFlags ds ds' →
      ∀ (σ : Type) (root : Path) (settings : Settings) (bus : Option Bus) (filer : Java.Filer σ)
        (state : σ),
        (readIndex format index).map (fun ts =>
          (Project.ofDeclarations root settings ts).generateOn bus filer state) =
        (readIndex format' index').map (fun ts =>
          (Project.ofDeclarations root settings ts).generateOn bus filer state)) := by
  refine ⟨?_, fun _ _ _ _ _ _ _ => AnnotationValue.sameUpToFlag_of_isNamedBy, ?_⟩
  · intro text names s
    rw [ModuleRef.resolve_ofText names, ModuleRef.resolve_ofText names]
  · intro format format' index index' ds ds' decoded decoded' same σ root settings bus filer state
    rw [readIndex, readIndex, elementsOfNode, elementsOfNode, decoded, decoded']
    exact elementsOf_map_eq same fun ts =>
      Project.generateOn_mapLiterals keepsModules_toReference root settings ts bus filer state

/-- The text of a class with white space and type arguments. -/
def spacedModule : String := " com.x.B <T> "

/-- An index with an application, one of whose modules has that text and more after it. -/
def moduleIndex (flag : String) : String :=
  "class=[\x7bname=\"com.x.App\",extends=\"android.app.Application\",annotations=[[\""
    ++ sampleMarker ++ "\",\x7bapplication=\x7bclass=\"" ++ spacedModule ++ "\"" ++ flag
    ++ "\x7d,activity=\x7bclass=\"com.x.C\"\x7d,fragment=\x7bclass=\"com.x.D\"\x7d\x7d]]\x7d]"

/-- The application as it is declared. -/
def moduleApplication (loaded : Bool) : ClassDeclaration where
  name := "com.x.App"
  superclass := some ({} : FrameworkNames).applicationBase
  annotations := [⟨sampleMarker, Keyed.ofList
    [("application", .classLiteral (.ofText spacedModule loaded)),
      ("activity", .classLiteral (.ofText "com.x.C" false)),
      ("fragment", .classLiteral (.ofText "com.x.D" false))]⟩]

theorem namesClass_spacedModule : NamesClass spacedModule := ⟨by decide, by decide, by decide⟩

theorem moduleApplication_sameUpToFlags :
    (moduleApplication true).SameUpToFlags (moduleApplication false) where
  rest := rfl
  annotations := .cons ⟨rfl, .cons ⟨rfl, .flag namesClass_spacedModule true false⟩
    (.cons ⟨rfl, .same _⟩ (.cons ⟨rfl, .same _⟩ .nil))⟩ .nil
  methods := .nil

/-- The document of the index, with what stands in place of the flag. -/
def moduleDocument (flag : List (String × Node)) : Node :=
  .record [("class", .list [.record [("name", .text "com.x.App"),
    ("extends", .text "android.app.Application"),
    ("annotations", .list [.list [.text sampleMarker, .record
      [("application", .record (("class", .text spacedModule) :: flag)),
        ("activity", .record [("class", .text "com.x.C")]),
        ("fragment", .record [("class", .text "com.x.D")])]]])]])]

theorem declarationsOf_moduleIndex :
    (IndexFormat.toml.document? (moduleIndex ",loaded=true")).bind
        (declarationsOfNode? IndexFormat.toml.dialect) = some [moduleApplication true] ∧
      (IndexFormat.toml.document? (moduleIndex "")).bind
        (declarationsOfNode? IndexFormat.toml.dialect) = some [moduleApplication false] := by
  have loaded : IndexFormat.toml.document? (moduleIndex ",loaded=true") =
      some (moduleDocument [("loaded", .bool true)]) := by decide +kernel
  have referred : IndexFormat.toml.document? (moduleIndex "") = some (moduleDocument []) := by
    decide +kernel
  rw [loaded, referred]
  exact ⟨rfl, rfl⟩

/-- The application with the module loaded. -/
def moduleType : TypeElement :=
  sampleClass "com.x.App" ({} : FrameworkNames).applicationBase sampleMarker
    [("application", .classLiteral (.ofText spacedModule true)),
      ("activity", .classLiteral (.ofText "com.x.C" false)),
      ("fragment", .classLiteral (.ofText "com.x.D" false))]

/-- The project of some types. -/
def moduleProject (types : List TypeElement) : Project := .ofDeclarations default {} types

/-- The application can be planned. The name of its module is that of a class. -/
theorem moduleProject_planned :
    ∃ p, (plan {} (moduleProject [moduleType]).round).result = .ok p ∧
      p.root.applicationModule = .ofName "com.x.B" := by
  let root : ApplicationRoot :=
    ⟨.ofElement moduleType, .ofName "com.x.B", .ofName "com.x.C", .ofName "com.x.D"⟩
  have found : (applicationRoot {} (moduleProject [moduleType]).round).toOption = some root := by
    decide +kernel
  obtain ⟨p, planned, same⟩ := planned_of_noPresenters (s := {}) default_areReadable
    default_namesApart found (by decide +kernel)
    (fun tier => by cases tier <;> decide +kernel) (fun tier => by cases tier <;> decide +kernel)
    (fun tier => by cases tier <;> decide +kernel)
  exact ⟨p, planned, by rw [same]⟩

/-- An application generates the same, and succeeds, with a module that is loaded and with one that
is referred to. -/
theorem loadedFlags_irrelevant_of_oneModule :
    ModuleRef.resolve .empty (some (.ofText spacedModule true)) =
      ModuleRef.resolve .empty (some (.ofText spacedModule false)) ∧
    (readIndex .toml (moduleIndex ",loaded=true")).map (fun ts =>
      (moduleProject ts).generateOn none Java.SourceSet.filer (.empty 4)) =
    (readIndex .toml (moduleIndex "")).map (fun ts =>
      (moduleProject ts).generateOn none Java.SourceSet.filer (.empty 4)) ∧
    ∃ ts, readIndex .toml (moduleIndex ",loaded=true") = .ok ts ∧
      ((moduleProject ts).generateOn none Java.SourceSet.filer (.empty 4)).1.succeeded = true := by
  obtain ⟨modules, -, runs⟩ := loadedFlags_irrelevant
  obtain ⟨decoded, decoded'⟩ := declarationsOf_moduleIndex
  refine ⟨modules spacedModule namesClass_spacedModule .empty, ?_, ?_⟩
  · exact runs .toml .toml _ _ _ _ decoded decoded' (.cons moduleApplication_sameUpToFlags .nil) _
      default {} none Java.SourceSet.filer (.empty 4)
  · obtain ⟨p, planned, -⟩ := moduleProject_planned
    have read : readIndex .toml (moduleIndex ",loaded=true") = .ok [moduleType] := by
      rw [readIndex, elementsOfNode, decoded]
      rfl
    have report (q : Project) : (q.generateOn none Java.SourceSet.filer (.empty 4)).1 =
        ((Coordinator.start q.settings).processRound Java.SourceSet.filer q.round (.empty 4)).1 :=
      rfl
    refine ⟨[moduleType], read, ?_⟩
    rw [report]
    exact Coordinator.start_succeeds_of_plan planned (by decide +kernel) .empty none 4

end ComponentWiring
