/-
ComponentWiring.Proofs.Declared.Values — what the members of annotations are read as.

* `AnnotationValue.SpelledBy` — the nodes that spell a value, without an order of alternatives.
* `AnnotationValue.listsStayLists_iff` — whether lists are read as lists hangs on how class literals
  are written.
* `AnnotationValue.ofNode?_eq_some_iff` — a node is read as the value that it spells.
* `get?_of_valuesOfNode?` — what an annotation holds for a member.
* `TypeElement.IsAnnotatedFrom` — the members that the entry of a type writes.
* `annotationLists_exact` — lists stay lists, in every index.
-/
import ComponentWiring.Proofs.Declared.Declarations
import ComponentWiring.Proofs.Document.Records
import ComponentWiring.Proofs.Keyed

namespace ComponentWiring

open Document

/-! ## 1. What nodes spell -/

/-- The entries name a class once. They may say once whether it is loaded; otherwise it is not. -/
structure ClassLiteral.IsNamedBy (entries : List (String × Node)) (name : String) (loaded : Bool) :
    Prop where
  name : entries.filter (·.1 = "class") = [("class", .text name)]
  loaded : entries.filter (·.1 = "loaded") = [("loaded", .bool loaded)] ∨
    entries.filter (·.1 = "loaded") = [] ∧ loaded = false

namespace AnnotationValue

/-- The node spells the value. -/
inductive SpelledBy : Node → AnnotationValue → Prop
  | bool (b : Bool) : SpelledBy (.bool b) (.bool b)
  | int (n : Int) (fits : -(signedBound : Int) ≤ n ∧ n < signedBound) :
    SpelledBy (.integer n) (.int n)
  | text (s : String) : SpelledBy (.text s) (.text s)
  /-- What the other entries hold does not matter, as long as it can be read. -/
  | classLiteral {entries : List (String × Node)} {name : String} {loaded : Bool}
    (named : ClassLiteral.IsNamedBy entries name loaded)
    (readable : ∀ e ∈ entries, e.2.isReadable = true) :
    SpelledBy (.record entries) (.classLiteral (.ofText name loaded))
  | list {items : List Node} {vs : List AnnotationValue} (each : List.Forall₂ SpelledBy items vs) :
    SpelledBy (.list items) (.list vs)

/-! ## 2. Class literals -/

theorem ofNodeAs?_named_eq_some_iff {n : Node} {c : ClassLiteral} :
    ClassLiteral.ofNodeAs? .named n = some c ↔ ∃ entries name loaded, n = .record entries ∧
      ClassLiteral.IsNamedBy entries name loaded ∧ c = .ofText name loaded := by
  cases n with
  | record entries =>
    have known : ∀ k ∈ ["class", "loaded"],
        (entries.filter (["class", "loaded"].contains ·.1)).lookup k = entries.lookup k :=
      fun k hk => lookup_knownFields hk
    have pair {P : String → Prop} : (∀ k ∈ ["class", "loaded"], P k) ↔ P "class" ∧ P "loaded" := by
      rw [List.forall_mem_cons, List.forall_mem_singleton]
    rw [pair] at known
    simp only [ClassLiteral.ofNodeAs?, Node.fields?, Option.bind_eq_bind, Option.bind_eq_some_iff,
      required?, defaulted?_eq_some_iff, knownFields?_eq_some_iff, pair, Node.text?_eq_some_iff,
      Node.bool?_eq_some_iff, Option.pure_def, Option.some.injEq, Node.record.injEq]
    constructor
    · rintro ⟨_, ⟨rfl, once⟩, name, ⟨_, named, rfl⟩, loaded, given, rfl⟩
      rw [known.1] at named
      rw [known.2] at given
      have spelled := filter_key_eq_singleton_iff.mpr ⟨once.1, named⟩
      refine ⟨entries, name, loaded, rfl, ⟨spelled, ?_⟩, rfl⟩
      rcases given with ⟨missing, rfl⟩ | ⟨_, given, rfl⟩
      · exact .inr ⟨filter_key_eq_nil_iff.mpr missing, rfl⟩
      · exact .inl (filter_key_eq_singleton_iff.mpr ⟨once.2, given⟩)
    · rintro ⟨_, name, loaded, rfl, spelled, rfl⟩
      obtain ⟨onceNamed, named⟩ := filter_key_eq_singleton_iff.mp spelled.name
      refine ⟨_, ⟨rfl, onceNamed, ?_⟩, name, ⟨_, known.1.trans named, rfl⟩, loaded, ?_, rfl⟩
      · rcases spelled.loaded with given | ⟨missing, -⟩
        · exact (filter_key_eq_singleton_iff.mp given).1
        · simp [missing]
      · rw [known.2]
        rcases spelled.loaded with given | ⟨missing, rfl⟩
        · exact .inr ⟨_, (filter_key_eq_singleton_iff.mp given).2, rfl⟩
        · exact .inl ⟨filter_key_eq_nil_iff.mp missing, rfl⟩
  | null | bool | integer | text | list | fraction | unreadable =>
    exact iff_of_false nofun nofun

theorem ofNodeAs?_named_eq_none {n : Node} (other : ∀ entries, n ≠ .record entries) :
    ClassLiteral.ofNodeAs? .named n = none := by
  refine Option.eq_none_iff_forall_ne_some.mpr fun c read => ?_
  obtain ⟨entries, _, _, record, _⟩ := ofNodeAs?_named_eq_some_iff.mp read
  exact other entries record

/-! ## 3. Lists -/

theorem ofShapesAs?_eq_mapM (form : RecordForm) (items : List Node) :
    ofShapesAs? form items = items.mapM (ofShapeAs? form) := by
  induction items with
  | nil => rfl
  | cons n items ih => rw [ofShapesAs?, ih, List.mapM_cons]

theorem ofNode?_eq_some_iff_shape {n : Node} {v : AnnotationValue} :
    ofNode? n = some v ↔ n.isReadable = true ∧ ofShapeAs? .named n = some v := by
  rw [ofNode?, ofNodeAs?, Option.ite_none_right_eq_some]

/-- None of the things that are tried before is written as a list. -/
theorem ofShapeAs?_named_list (items : List Node) :
    ofShapeAs? .named (.list items) = (items.mapM (ofShapeAs? .named)).map .list := by
  rw [ofShapeAs?, firstOf?, ofNodeAs?_named_eq_none (n := .list items) nofun, ofShapesAs?_eq_mapM]
  rfl

/-- A list is read item by item, and always as a list. -/
theorem ofNode?_list_iff {items : List Node} {v : AnnotationValue} :
    ofNode? (.list items) = some v ↔
      ∃ vs, v = .list vs ∧ List.Forall₂ (fun n v => ofNode? n = some v) items vs := by
  simp only [ofNode?_eq_some_iff_shape, List.forall₂_and_left, Node.isReadable,
    Node.allReadable_iff, ofShapeAs?_named_list, Option.map_eq_some_iff, mapM_eq_some_iff]
  constructor
  · rintro ⟨readable, vs, each, rfl⟩
    exact ⟨vs, rfl, readable, each⟩
  · rintro ⟨vs, rfl, readable, each⟩
    exact ⟨readable, vs, each, rfl⟩

/-- Lists stay lists exactly if class literals are written with their field names. Otherwise a list
of one text is a class literal. -/
theorem listsStayLists_iff (form : RecordForm) :
    (∀ items vs, List.Forall₂ (fun n v => ofNodeAs? form n = some v) items vs →
      ofNodeAs? form (.list items) = some (.list vs)) ↔ form = .named := by
  constructor
  · intro stay
    cases form with
    | named => rfl
    | namedOrListed =>
      have text : ofNodeAs? .namedOrListed (.text "a") = some (.text "a") := rfl
      cases stay [.text "a"] [.text "a"] (.cons text .nil)
  · rintro rfl items vs each
    exact ofNode?_list_iff.mpr ⟨vs, rfl, each⟩

theorem ofNode?_record_iff {entries : List (String × Node)} {v : AnnotationValue} :
    ofNode? (.record entries) = some v ↔ (∀ e ∈ entries, e.2.isReadable = true) ∧
      ∃ name loaded, ClassLiteral.IsNamedBy entries name loaded ∧
        v = .classLiteral (.ofText name loaded) := by
  have shape : ofShapeAs? .named (.record entries) =
      (ClassLiteral.ofNodeAs? .named (.record entries)).map .classLiteral := by
    rw [ofShapeAs?, firstOf?]
    · cases ClassLiteral.ofNodeAs? .named (.record entries) <;> rfl
    · exact fun _ => nofun
  simp only [ofNode?_eq_some_iff_shape, Node.isReadable, Node.allReadableEntries_iff, shape,
    Option.map_eq_some_iff, ofNodeAs?_named_eq_some_iff, Node.record.injEq]
  constructor
  · rintro ⟨readable, _, ⟨_, name, loaded, rfl, named, rfl⟩, rfl⟩
    exact ⟨readable, name, loaded, named, rfl⟩
  · rintro ⟨readable, name, loaded, named, rfl⟩
    exact ⟨readable, _, ⟨entries, name, loaded, rfl, named, rfl⟩, rfl⟩

/-! ## 4. All nodes -/

/-- A node is read as the value that it spells. -/
theorem ofNode?_eq_some_iff (n : Node) (v : AnnotationValue) :
    ofNode? n = some v ↔ SpelledBy n v := by
  match n with
  | .null | .fraction | .unreadable =>
    exact iff_of_false nofun nofun
  | .bool b | .text s =>
    constructor
    · rintro ⟨⟩
      constructor
    · rintro ⟨⟩
      rfl
  | .integer i =>
    have shape : ofShapeAs? .named (.integer i) = (Node.integer i).int64?.map .int := by
      show ((Node.integer i).int64?.map AnnotationValue.int <|> none) = _
      cases (Node.integer i).int64? <;> rfl
    simp only [ofNode?_eq_some_iff_shape, Node.isReadable, true_and, shape, Node.int64?,
      Option.map_eq_some_iff, Option.ite_none_right_eq_some, Option.some.injEq]
    constructor
    · rintro ⟨_, ⟨fits, rfl⟩, rfl⟩
      exact .int i fits
    · intro spelled
      cases spelled with
      | int _ fits => exact ⟨i, ⟨fits, rfl⟩, rfl⟩
  | .record entries =>
    rw [ofNode?_record_iff]
    constructor
    · rintro ⟨readable, name, loaded, named, rfl⟩
      exact .classLiteral named readable
    · intro spelled
      cases spelled with
      | classLiteral named readable => exact ⟨readable, _, _, named, rfl⟩
  | .list items =>
    have each : ∀ n ∈ items, ∀ v, ofNode? n = some v ↔ SpelledBy n v :=
      fun n _ v => ofNode?_eq_some_iff n v
    simp only [ofNode?_list_iff, forall₂_congr_left each]
    constructor
    · rintro ⟨vs, rfl, spelled⟩
      exact .list spelled
    · intro spelled
      cases spelled with
      | list spelled => exact ⟨_, rfl, spelled⟩

end AnnotationValue

open AnnotationValue

/-! ## 5. Members -/

theorem valuesOfNode?_record_iff {entries : List (String × Node)}
    {values : Keyed String AnnotationValue} :
    valuesOfNode? (.record entries) = some values ↔ ∃ pairs, values = .ofList pairs ∧
      List.Forall₂ (fun e p => e.1 = p.1 ∧ ofNode? e.2 = some p.2) entries pairs := by
  simp only [valuesOfNode?, Option.bind_eq_bind, Option.bind_eq_some_iff, Option.pure_def,
    Option.some.injEq, mapM_eq_some_iff, Option.map_eq_some_iff]
  constructor
  · rintro ⟨pairs, each, rfl⟩
    refine ⟨pairs, rfl, each.imp ?_⟩
    rintro _ _ ⟨v, made, rfl⟩
    exact ⟨rfl, made⟩
  · rintro ⟨pairs, rfl, each⟩
    exact ⟨pairs, each.imp fun _ _ ⟨key, made⟩ => ⟨_, made, Prod.ext key rfl⟩, rfl⟩

/-- Members are read if each of them spells a value. -/
theorem exists_valuesOfNode?_iff {entries : List (String × Node)} :
    (∃ values, valuesOfNode? (.record entries) = some values) ↔
      ∀ e ∈ entries, ∃ v, SpelledBy e.2 v := by
  have pairs_iff : (∃ pairs : List (String × AnnotationValue),
      List.Forall₂ (fun e p => e.1 = p.1 ∧ ofNode? e.2 = some p.2) entries pairs) ↔
        ∀ e ∈ entries, ∃ v, SpelledBy e.2 v := by
    induction entries with
    | nil => simp
    | cons e entries ih =>
      rw [List.forall_mem_cons, ← ih]
      simp only [List.forall₂_cons_left_iff, ofNode?_eq_some_iff]
      constructor
      · rintro ⟨_, p, pairs, ⟨-, spelled⟩, rest, rfl⟩
        exact ⟨⟨p.2, spelled⟩, pairs, rest⟩
      · rintro ⟨⟨v, spelled⟩, pairs, rest⟩
        exact ⟨_, (e.1, v), pairs, ⟨rfl, spelled⟩, rest, rfl⟩
  rw [← pairs_iff]
  simp only [valuesOfNode?_record_iff]
  constructor
  · rintro ⟨_, pairs, -, each⟩
    exact ⟨pairs, each⟩
  · rintro ⟨pairs, each⟩
    exact ⟨_, pairs, rfl, each⟩

/-- A member has the value that its node spells, the last one if it was written repeatedly. -/
theorem get?_of_valuesOfNode? {entries : List (String × Node)}
    {values : Keyed String AnnotationValue}
    (read : valuesOfNode? (.record entries) = some values) (member : String) :
    values.get? member = (Keyed.lastValue? entries member).bind AnnotationValue.ofNode? := by
  obtain ⟨pairs, rfl, each⟩ := valuesOfNode?_record_iff.mp read
  rw [Keyed.get?_ofList, Keyed.lastValue?_of_forall₂ each]

/-- The members of an annotation as they are written. -/
def AnnotationElement.memberNodes (d : Dialect) (n : Node) : List (String × Node) :=
  match (n.record? d ["type", "values"]).bind (·.lookup "values") with
  | some (.record entries) => entries
  | _ => []

/-- The annotation has a value for each member that the node writes, and no others. -/
def AnnotationElement.IsReadFrom (d : Dialect) (n : Node) (a : AnnotationElement) : Prop :=
  ∀ member v, a.values.get? member = some v ↔
    ∃ value, Keyed.lastValue? (memberNodes d n) member = some value ∧ SpelledBy value v

theorem AnnotationElement.isReadFrom_of_ofNode? {d : Dialect} {n : Node} {a : AnnotationElement}
    (read : ofNode? d n = some a) : a.IsReadFrom d n := by
  simp only [ofNode?, Option.bind_eq_bind, Option.bind_eq_some_iff, defaulted?_eq_some_iff,
    Option.pure_def, Option.some.injEq] at read
  obtain ⟨found, given, type, -, values, made, rfl⟩ := read
  intro member v
  rw [memberNodes, given, Option.bind_some]
  rcases made with ⟨missing, rfl⟩ | ⟨node, written, made⟩
  · simp [missing, Keyed.lastValue?]
  · rw [written]
    cases node with
    | record entries =>
      rw [get?_of_valuesOfNode? made, Option.bind_eq_some_iff]
      simp only [ofNode?_eq_some_iff]
    | null | bool | integer | text | list | fraction | unreadable => cases made

/-! ## 6. Declarations -/

/-- The annotations of a method have the members that its entry writes. -/
def MethodElement.IsAnnotatedFrom (d : Dialect) (n : Node) (m : MethodElement) : Prop :=
  List.Forall₂ (AnnotationElement.IsReadFrom d)
    (n.listField d ["name", "modifiers", "returns", "parameters", "annotations"] "annotations")
    m.annotations

theorem MethodDeclaration.isAnnotatedFrom_of_ofNode? {d : Dialect} {n : Node}
    {m : MethodDeclaration} {e : MethodElement} (read : ofNode? d n = some m)
    (declares : m.Declares e) : e.IsAnnotatedFrom d n := by
  simp only [ofNode?, Option.bind_eq_bind, Option.bind_eq_some_iff, Option.pure_def,
    Option.some.injEq] at read
  obtain ⟨found, given, _, -, _, -, _, -, _, -, annotations, made, rfl⟩ := read
  rw [MethodElement.IsAnnotatedFrom, declares.annotations]
  exact (forall₂_listField given made).imp fun _ _ => AnnotationElement.isReadFrom_of_ofNode?

/-- The fields of a type in an index. -/
def ClassDeclaration.fields : List String :=
  ["name", "package", "kind", "extends", "implements", "type_parameters", "modifiers",
    "annotations", "methods"]

/-- The annotations of a type and of its methods have the members that its entry writes. -/
structure TypeElement.IsAnnotatedFrom (d : Dialect) (n : Node) (t : TypeElement) : Prop where
  own : List.Forall₂ (AnnotationElement.IsReadFrom d)
    (n.listField d ClassDeclaration.fields "annotations") t.annotations
  methods : List.Forall₂ (MethodElement.IsAnnotatedFrom d)
    (n.listField d ClassDeclaration.fields "methods") t.methods

theorem ClassDeclaration.isAnnotatedFrom_of_ofNode? {d : Dialect} {n : Node}
    {c : ClassDeclaration} {t : TypeElement} (read : ofNode? d n = some c)
    (declares : c.Declares t) : t.IsAnnotatedFrom d n := by
  simp only [ofNode?, Option.bind_eq_bind, Option.bind_eq_some_iff, Option.pure_def,
    Option.some.injEq] at read
  obtain ⟨found, given, _, -, _, -, _, -, _, -, _, -, _, -, _, -, annotations, own, methods, made,
    rfl⟩ := read
  refine ⟨?_, forall₂_trans ?_ (forall₂_listField given made) declares.methods⟩
  · rw [declares.annotations]
    exact (forall₂_listField given own).imp fun _ _ => AnnotationElement.isReadFrom_of_ofNode?
  · exact fun _ _ _ => MethodDeclaration.isAnnotatedFrom_of_ofNode?

/-! ## 7. Indexes -/

theorem readIndex_isAnnotatedFrom {format : IndexFormat} {text : String} {ts : List TypeElement}
    (read : readIndex format text = .ok ts) : ∃ n, format.document? text = some n ∧
      List.Forall₂ (TypeElement.IsAnnotatedFrom format.dialect)
        (n.listField format.dialect ["class"] "class") ts := by
  unfold readIndex elementsOfNode at read
  split at read
  · next ds decoded =>
    obtain ⟨n, document, decoded⟩ := Option.bind_eq_some_iff.mp decoded
    simp only [declarationsOfNode?, Option.bind_eq_bind, Option.bind_eq_some_iff] at decoded
    obtain ⟨found, given, made⟩ := decoded
    have declared := (elementsAfter_ok_iff.mp read).2
    refine ⟨n, document, forall₂_trans ?_ (forall₂_listField given made) declared⟩
    exact fun _ _ _ => ClassDeclaration.isAnnotatedFrom_of_ofNode?
  · cases read

/-- A list is read as the list of what its items are read as, in order and at every depth. Only a
record that names a class is read as a class literal. The members of all annotations of an index are
read so, on types and on methods. For this to hold it takes a class literal that is written with its
field names: the values of a list are tried as its fields otherwise, before they are tried as a
list. -/
theorem annotationLists_exact :
    (∀ items vs, List.Forall₂ (fun n v => ofNode? n = some v) items vs →
      ofNode? (.list items) = some (.list vs)) ∧
    (∀ n c, ofNode? n = some (.classLiteral c) → ∃ entries name loaded, n = .record entries ∧
      ClassLiteral.IsNamedBy entries name loaded ∧ c = .ofText name loaded) ∧
    (∀ n v, ofNode? n = some v ↔ SpelledBy n v) ∧
    (∀ entries, (∃ values, valuesOfNode? (.record entries) = some values) ↔
      ∀ e ∈ entries, ∃ v, SpelledBy e.2 v) ∧
    (∀ format text ts, readIndex format text = .ok ts → ∃ n, format.document? text = some n ∧
      List.Forall₂ (TypeElement.IsAnnotatedFrom format.dialect)
        (n.listField format.dialect ["class"] "class") ts) ∧
    ∀ form, (∀ items vs, List.Forall₂ (fun n v => ofNodeAs? form n = some v) items vs →
      ofNodeAs? form (.list items) = some (.list vs)) ↔ form = .named := by
  refine ⟨fun items vs each => ofNode?_list_iff.mpr ⟨vs, rfl, each⟩, fun n c read => ?_,
    ofNode?_eq_some_iff, fun _ => exists_valuesOfNode?_iff, fun _ _ _ => readIndex_isAnnotatedFrom,
    listsStayLists_iff⟩
  rw [ofNode?_eq_some_iff] at read
  cases read with
  | classLiteral named => exact ⟨_, _, _, rfl, named, rfl⟩

/-- An annotation whose member holds lists of one and of two items. -/
def nestedLists : String :=
  "class=[\x7bname=\"A\",annotations=[[\"M\",\x7bv=[[\"a\"],[\"a\",true]]\x7d]]\x7d]"

/-- No list is taken for a class literal that is written without its field names. -/
theorem annotationLists_exact_of_nestedLists :
    ofNode? (.list [.list [.text "a"], .list [.text "a", .bool true]]) =
      some (.list [.list [.text "a"], .list [.text "a", .bool true]]) ∧
    (∃ entries name loaded, Node.record [("class", .text "a")] = .record entries ∧
      ClassLiteral.IsNamedBy entries name loaded ∧
        ClassLiteral.byReference (.named "a") = .ofText name loaded) ∧
    ∃ ts n, readIndex .toml nestedLists = .ok ts ∧ IndexFormat.toml.document? nestedLists = some n ∧
      List.Forall₂ (TypeElement.IsAnnotatedFrom IndexFormat.toml.dialect)
        (n.listField IndexFormat.toml.dialect ["class"] "class") ts := by
  obtain ⟨lists, classes, -, -, indexes, -⟩ := annotationLists_exact
  have first : ofNode? (.list [.text "a"]) = some (.list [.text "a"]) :=
    lists _ _ (.cons rfl .nil)
  have second : ofNode? (.list [.text "a", .bool true]) = some (.list [.text "a", .bool true]) :=
    lists _ _ (.cons rfl (.cons rfl .nil))
  refine ⟨lists _ _ (.cons first (.cons second .nil)), classes _ _ rfl, ?_⟩
  have document : IndexFormat.toml.document? nestedLists = some (.record [("class", .list
      [.record [("name", .text "A"), ("annotations", .list [.list [.text "M", .record [("v", .list
        [.list [.text "a"], .list [.text "a", .bool true]])]]])]])]) := by decide +kernel
  have read : ∃ ts, readIndex .toml nestedLists = .ok ts := by
    rw [readIndex, document]
    exact ⟨_, rfl⟩
  obtain ⟨ts, read⟩ := read
  obtain ⟨n, written, annotated⟩ := indexes .toml nestedLists ts read
  exact ⟨ts, n, read, written, annotated⟩

end ComponentWiring
