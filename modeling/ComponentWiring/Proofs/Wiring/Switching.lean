/-
ComponentWiring.Proofs.Wiring.Switching — generated switches do what the dispatch says.

* `SwitchCase`, `readClassSwitch` — the cases of code that switches over the name of a class.
* `executed` — the statements that a switch runs for a name.
* `Dispatch.routing` — a dispatch after tiers were let into it, one after the other.
* `Dispatch.switchCode_drawn` — what is written for the switch of a tier.
* `Dispatch.switchCode_means_resolve` — a switch injects an object as the class that the tier
  answers.

A label is a string literal, so it is compared with a name only after it was read as one. Cases run
into each other unless a break stands between them.
-/
import ComponentWiring.Proofs.Java.Literals
import ComponentWiring.Proofs.Java.Strokes
import ComponentWiring.Proofs.Wiring.Calls
import ComponentWiring.Proofs.Wiring.Dispatch
import Mathlib.Data.List.Induction

namespace ComponentWiring

namespace Java

/-! ## 1. Switches -/

/-- A case of a switch over texts. -/
structure SwitchCase where
  /-- The label as it is written. -/
  label : String
  body : List Statement

/-- Whether the expression is the name of the class of the object in the variable. -/
def Expr.isClassNameOf (x : String) : Expr → Bool
  | .call (.call (.variable y) "getClass" []) "getName" [] => y = x
  | _ => false

/-- The statements before the first label, and the cases up to the end of the switch. -/
def groupCases : List Statement → Option (List Statement × List SwitchCase)
  | [] => none
  | [.close] => some ([], [])
  | .close :: _ => none
  | .switchOn _ :: _ => none
  | .caseOf text :: r =>
    (groupCases r).map fun (body, cases) => ([], ⟨stringLiteral text, body⟩ :: cases)
  | s :: r => (groupCases r).map fun (body, cases) => (s :: body, cases)

/-- The cases of code that switches over the name of the class of an object. Code without statements
is a switch without cases. -/
def readClassSwitch (object : String) : List Statement → Option (List SwitchCase)
  | [] => some []
  | .switchOn subject :: r =>
    if subject.isClassNameOf object then
      match groupCases r with
      | some ([], cases) => some cases
      | _ => none
    else none
  | _ => none

/-- Whether the statement leaves the switch. -/
def Statement.isBreak : Statement → Bool
  | .breakOut => true
  | _ => false

/-- Whether the label of the case stands for the text. -/
def SwitchCase.isFor (text : String) (c : SwitchCase) : Bool := literalValue? c.label = some text

/-- The statements that a switch runs for a text: those behind its label up to the next break,
whatever labels stand on the way. -/
def executed (cases : List SwitchCase) (text : String) : List Statement :=
  ((cases.dropWhile (!·.isFor text)).flatMap (·.body)).takeWhile (!·.isBreak)

theorem executed_cons_of_isFor {c : SwitchCase} {text : String} (h : c.isFor text = true)
    {s : Statement} (body : c.body = [s, .breakOut]) (stays : s.isBreak = false)
    (cases : List SwitchCase) : executed (c :: cases) text = [s] := by
  have leaves : Statement.isBreak .breakOut = true := rfl
  simp [executed, h, body, stays, leaves]

theorem executed_cons_of_not_isFor {c : SwitchCase} {text : String} (h : c.isFor text = false)
    (cases : List SwitchCase) : executed (c :: cases) text = executed cases text := by
  simp [executed, h]

theorem isFor_stringLiteral (text label : String) (body : List Statement) :
    SwitchCase.isFor text ⟨stringLiteral label, body⟩ = decide (label = text) := by
  simp [SwitchCase.isFor, literalValue?_stringLiteral]

end Java

open Java

/-! ## 2. Cases of a dispatch -/

/-- The call by which a switch injects an object as a class. -/
def injection (getter injectMethod : String) (c : AnnotatedClass) : Statement :=
  .evaluate (.call (.own getter []) injectMethod [.cast (.ofClass c.className) (.variable "o")])

/-- The case for a class under its name at run time. -/
def injectionCase (getter injectMethod : String) (e : String × AnnotatedClass) : SwitchCase :=
  ⟨stringLiteral e.1, [injection getter injectMethod e.2, .breakOut]⟩

theorem literalValue?_injectionCase (getter injectMethod : String) (e : String × AnnotatedClass) :
    literalValue? (injectionCase getter injectMethod e).label = some e.1 :=
  literalValue?_stringLiteral e.1

theorem groupCases_caseStatements (getter injectMethod : String)
    (es : List (String × AnnotatedClass)) :
    groupCases ((es.flatMap fun e => caseStatements injectMethod getter e.1 e.2) ++ [.close]) =
      some ([], es.map (injectionCase getter injectMethod)) := by
  induction es with
  | nil => rfl
  | cons e es ih =>
    rw [List.flatMap_cons, List.append_assoc]
    simp only [caseStatements, List.cons_append, List.nil_append] at ih ⊢
    simp only [groupCases, ih, Option.map_some, List.map_cons]
    rfl

/-- The first pair of a name decides which case runs. -/
theorem executed_injectionCases (getter injectMethod : String) (es : List (String × AnnotatedClass))
    (n : String) : executed (es.map (injectionCase getter injectMethod)) n =
      ((Entries.get? n es).map (injection getter injectMethod)).toList := by
  induction es with
  | nil => rfl
  | cons e es ih =>
    obtain ⟨name, c⟩ := e
    rw [List.map_cons, Entries.get?]
    have decided : (injectionCase getter injectMethod (name, c)).isFor n = decide (name = n) :=
      isFor_stringLiteral n name _
    by_cases same : name = n
    · rw [executed_cons_of_isFor (decided.trans (decide_eq_true same)) rfl rfl, if_pos same]
      rfl
    · rw [executed_cons_of_not_isFor (decided.trans (decide_eq_false same)), if_neg same, ih]

/-! ## 3. Written cases -/

/-- What is written for a case: its label, the call, and the way out. -/
def caseStrokes (getter injectMethod label : String) (c : ClassName) : List Stroke :=
  [.text "case ", .text label, .text ":\n", .indent, .text getter, .text "().", .text injectMethod,
   .text "((", .spelled c, .text ") o);\n", .text "break;\n", .outdent]

/-- What is written for a switch with the labels and classes of its cases. -/
def switchStrokes (getter injectMethod : String) (cases : List (String × ClassName)) :
    List Stroke :=
  if cases.isEmpty then []
  else [.text "switch (o.getClass().getName()) \x7b\n", .indent]
    ++ cases.flatMap (fun c => caseStrokes getter injectMethod c.1 c.2)
    ++ [.outdent, .text "\x7d\n"]

variable {im : Imports} {p : Page}

theorem emitCode_append_of_ok {code : Code} {q : Page} (h : emitCode im code p = .ok q)
    (code' : Code) : emitCode im (code ++ code') p = emitCode im code' q := by
  rw [emitCode_append, h]
  rfl

theorem outdent_of_depth {a : Nat} (h : p.depth = a + 1) :
    outdent p = .ok { p with depth := p.depth - 1 } := by
  rw [outdent, Page.outdent?, h]
  rfl

/-- A case is written in one way, at whatever depth it stands. -/
theorem emitCode_caseCode (getter injectMethod runtimeName : String) (c : AnnotatedClass) :
    emitCode im (Dispatch.caseCode injectMethod getter runtimeName c) p =
      .ok (drawAll im (caseStrokes getter injectMethod (stringLiteral runtimeName) c.className)
        p) := by
  have lines : emitCode im (Code.of "case $S:\n$>" [.text runtimeName]
      ++ Code.statement "$N().$N(($T) o)"
        [.name getter, .name injectMethod, .type (.ofClass c.className)]
      ++ Code.statement "break") p =
      .ok (drawAll im [.text "case ", .text (stringLiteral runtimeName), .text ":\n", .indent,
        .text getter, .text "().", .text injectMethod, .text "((", .spelled c.className,
        .text ") o);\n", .text "break;\n"] p) := by
    simp [Code.of, Code.statement, emitCode, emitSegment, emitFormat, argumentWriters, emitArgument,
      Placeholder.ofLetter?, Imports.spellType, drawAll, Stroke.draw, Page.write, Page.putAll]
    rfl
  have back {a : Nat} {q : Page} (h : q.depth = a + 1) : emitCode im Code.outdent q =
      .ok (drawAll im [.outdent] q) := by
    rw [Code.outdent, Code.of, emitCode, emitSegment]
    simp [emitFormat, Placeholder.ofLetter?, outdent_of_depth h, argumentWriters, emitCode, drawAll,
      Stroke.draw, bind, Except.bind]
  rw [Dispatch.caseCode, emitCode_append_of_ok lines, back (a := p.depth), ← drawAll_append]
  · rfl
  · rw [depth_drawAll]
    rfl

theorem emitCode_cases (getter injectMethod : String) (es : List (String × AnnotatedClass)) :
    emitCode im (es.flatMap fun e => Dispatch.caseCode injectMethod getter e.1 e.2) p =
      .ok (drawAll im (es.flatMap fun e =>
        caseStrokes getter injectMethod (stringLiteral e.1) e.2.className) p) := by
  induction es generalizing p with
  | nil => rfl
  | cons e es ih =>
    rw [List.flatMap_cons, List.flatMap_cons, emitCode_append, emitCode_caseCode, drawAll_append]
    exact ih

/-- A switch is written in one way, at whatever depth it stands. -/
theorem Dispatch.switchCode_drawn (d : Dispatch) (tier : Tier) (getter : String) :
    emitCode im (d.switchCode tier getter) p = .ok (drawAll im (switchStrokes getter d.injectMethod
      ((d.entries tier).map fun e => (stringLiteral e.1, e.2.className))) p) := by
  have opened : emitCode im (Code.opening "switch (o.getClass().getName())") p =
      .ok (drawAll im [.text "switch (o.getClass().getName()) \x7b\n", .indent] p) := by
    simp [Code.of, Code.opening, emitCode, emitSegment, emitFormat, argumentWriters, drawAll,
      Stroke.draw, Page.write, Page.putAll]
    rfl
  have closed {a : Nat} {q : Page} (h : q.depth = a + 1) : emitCode im Code.closing q =
      .ok (drawAll im [.outdent, .text "\x7d\n"] q) := by
    rw [Code.closing, Code.of, emitCode, emitSegment]
    simp [emitFormat, Placeholder.ofLetter?, outdent_of_depth h, argumentWriters, emitCode, drawAll,
      Stroke.draw, Page.write, Page.putAll, bind, Except.bind]
  have level (es : List (String × AnnotatedClass)) (a : Nat) : (es.flatMap fun e =>
      caseStrokes getter d.injectMethod (stringLiteral e.1) e.2.className).foldl Stroke.move a =
        a := by
    induction es with
    | nil => rfl
    | cons e es ih =>
      rw [List.flatMap_cons, List.foldl_append]
      exact ih
  unfold switchCode switchStrokes
  cases d.entries tier with
  | nil => rfl
  | cons e es =>
    dsimp only
    rw [if_neg (by simp), drawAll_append, drawAll_append, List.flatMap_map, List.append_assoc,
      emitCode_append_of_ok opened, emitCode_append_of_ok (emitCode_cases _ _ _)]
    refine closed (a := p.depth) ?_
    rw [depth_drawAll, level, depth_drawAll]
    rfl

/-! ## 4. What a switch does -/

namespace Dispatch

/-- The dispatch into which the tiers were let, one after the other. -/
def routing (injectMethod : String) (tiers : List (Tier × ClassName × ClassMap)) : Dispatch :=
  tiers.foldl (fun d t => d.withTier t.1 t.2.1 t.2.2) { injectMethod }

theorem routing_concat (injectMethod : String) (tiers : List (Tier × ClassName × ClassMap))
    (t : Tier × ClassName × ClassMap) : routing injectMethod (tiers ++ [t]) =
      (routing injectMethod tiers).withTier t.1 t.2.1 t.2.2 :=
  List.foldl_concat ..

theorem injectMethod_routing (injectMethod : String) (tiers : List (Tier × ClassName × ClassMap)) :
    (routing injectMethod tiers).injectMethod = injectMethod := by
  induction tiers using List.reverseRecOn with
  | nil => rfl
  | append_singleton tiers t ih =>
    rw [routing_concat]
    exact ih

/-- Classes are dispatched under their names at run time. -/
theorem binaryName_of_mem_entries {injectMethod : String}
    {tiers : List (Tier × ClassName × ClassMap)} {tier : Tier} {e : String × AnnotatedClass}
    (he : e ∈ (routing injectMethod tiers).entries tier) : e.2.binaryName = e.1 := by
  induction tiers using List.reverseRecOn with
  | nil => cases he
  | append_singleton tiers t ih =>
    obtain ⟨other, component, m⟩ := t
    rw [routing_concat] at he
    by_cases same : other = tier
    · have table : ((routing injectMethod tiers).withTier other component m).tables.get? tier =
          some (tableOf component m) := by rw [tables_withTier, if_pos same]
      have found : ((routing injectMethod tiers).withTier other component m).resolve tier e.1 =
          some e.2 := by
        rw [entries, table] at he
        rw [resolve, table]
        exact Keyed.get?_eq_some_iff.mpr he
      rw [resolve_of_table table] at found
      exact (ClassMap.mem_of_namedLast? found).2
    · rw [entries, tables_withTier, if_neg same] at he
      exact ih he

theorem resolve_eq_get?_entries (d : Dispatch) (tier : Tier) (n : String) :
    d.resolve tier n = Entries.get? n (d.entries tier) := by
  unfold resolve entries
  cases d.tables.get? tier <;> rfl

theorem nodup_names_entries (d : Dispatch) (tier : Tier) :
    ((d.entries tier).map Prod.fst).Nodup := by
  unfold entries
  cases d.tables.get? tier with
  | none => exact List.nodup_nil
  | some table => exact table.targets.nodup_keys

theorem readClassSwitch_switchStatements (d : Dispatch) (tier : Tier) (getter : String) :
    readClassSwitch "o" (switchStatements d tier getter) =
      some ((d.entries tier).map (injectionCase getter d.injectMethod)) := by
  unfold switchStatements
  cases d.entries tier with
  | nil => rfl
  | cons e es =>
    have subject : Expr.isClassNameOf "o" (.call (.call (.variable "o") "getClass" []) "getName" [])
        = true := rfl
    dsimp only
    rw [List.cons_append, readClassSwitch, if_pos subject, groupCases_caseStatements]

/-- The switch that is generated for a tier has one case for each target, in their order, with the
name of the target at run time as its label, and no name twice. It runs one call for an object of a
target, which injects the object as the class that the tier answers, and nothing for other
objects. -/
theorem switchCode_means_resolve (injectMethod getter : String)
    (tiers : List (Tier × ClassName × ClassMap)) (tier : Tier) :
    let d := routing injectMethod tiers
    ∃ statements cases, readCode (d.switchCode tier getter) = some statements ∧
      readClassSwitch "o" statements = some cases ∧
      (∀ im p, emitCode im (d.switchCode tier getter) p =
        .ok (drawAll im (switchStrokes getter injectMethod
          ((cases.map (·.label)).zip ((d.targets tier).map (·.className)))) p)) ∧
      List.Forall₂ (fun c target => literalValue? c.label = some target.binaryName ∧
        c.body = [injection getter injectMethod target, .breakOut]) cases (d.targets tier) ∧
      (cases.map fun c => literalValue? c.label).Nodup ∧
      ∀ n, executed cases n = ((d.resolve tier n).map (injection getter injectMethod)).toList := by
  intro d
  have own : d.injectMethod = injectMethod := injectMethod_routing injectMethod tiers
  have read := readCode_switchCode d tier getter
  have grouped := readClassSwitch_switchStatements d tier getter
  rw [own] at grouped
  refine ⟨_, _, read, grouped, fun im p => ?_, ?_, ?_, fun n => ?_⟩
  · rw [switchCode_drawn, own, targets, List.map_map, List.map_map, List.zip_map']
    rfl
  · rw [targets, List.forall₂_map_left_iff, List.forall₂_map_right_iff, List.forall₂_same]
    intro e he
    have named : e.2.binaryName = e.1 := binaryName_of_mem_entries he
    exact ⟨(literalValue?_injectionCase ..).trans (congrArg some named.symm), rfl⟩
  · have labels : (d.entries tier).map ((fun c => literalValue? c.label) ∘
        injectionCase getter injectMethod) = ((d.entries tier).map Prod.fst).map some := by
      rw [List.map_map]
      refine List.map_congr_left fun e _ => ?_
      rw [Function.comp_apply, literalValue?_injectionCase]
      rfl
    rw [List.map_map, labels]
    exact (d.nodup_names_entries tier).map fun _ _ => Option.some.inj
  · rw [executed_injectionCases, resolve_eq_get?_entries]

end Dispatch

end ComponentWiring
