/-
ComponentWiring.Proofs.Java.Typing — when generated code fits the files it is generated with.

* `Declares` — files declare a method on exactly one type of a name.
* `Value` — what an expression comes to: a value of a type, or one of which nothing is known.
* `Scope` — what code can refer to: the files, the methods of its own class, and variables.
* `Scope.Types`, `Scope.Runs` — the types of expressions, and statements that respect them.
* `Scope.Checks` — all methods of a class do.

A call on a type of the files needs a declared method with just the types of its arguments, and
comes to a value of the declared type. Types of other origin are not looked into. What they answer is
used as the code likes, which concerns the class that builds the root component, and the class of an
object.
-/
import Mathlib.Data.List.Nodup
import ComponentWiring.Proofs.Java.Statements

namespace ComponentWiring.Java

/-! ## 1. Declared methods -/

/-- Exactly one of the files is for the class, and it declares such a method. -/
def Declares (files : List SourceFile) (c : ClassName) (method : String)
    (parameters : List TypeExpr) (returns : TypeExpr) : Prop :=
  ∃ f ∈ files, f.className = c ∧ (∀ g ∈ files, g.className = c → g = f) ∧
    ∃ m ∈ f.type.methods, m.name = method ∧ m.parameters.map (·.type) = parameters ∧
      m.returns = returns

/-- A method in one of several files for different classes is declared on exactly that class. -/
theorem declares_of_mem {files : List SourceFile} (apart : (files.map (·.className)).Nodup)
    {f : SourceFile} (hf : f ∈ files) {m : MethodDecl} (hm : m ∈ f.type.methods) :
    Declares files f.className m.name (m.parameters.map (·.type)) m.returns :=
  ⟨f, hf, rfl, fun _ hg named => List.inj_on_of_nodup_map apart hg hf named, m, hm, rfl, rfl, rfl⟩

/-! ## 2. Types -/

/-- What an expression comes to. -/
inductive Value
  | typed (t : TypeExpr)
  /-- The answer of code from elsewhere. -/
  | foreign

/-- The value can be used as one of the type. -/
def Value.Fits (t : TypeExpr) : Value → Prop
  | .typed u => u = t
  | .foreign => True

/-- What code can refer to. -/
structure Scope where
  files : List SourceFile
  /-- The class that is going to be generated from the root component. -/
  builder : ClassName
  /-- The methods of the class that the code is in. -/
  methods : List MethodDecl := []
  /-- The variables with their types, innermost first. -/
  visible : List (String × TypeExpr) := []

namespace Scope

/-- The type of the innermost variable of a name. -/
def type? (Γ : Scope) (x : String) : Option TypeExpr :=
  (Γ.visible.find? (·.1 = x)).map Prod.snd

/-- The scope with one more variable. -/
def declare (Γ : Scope) (x : String) (t : TypeExpr) : Scope :=
  { Γ with visible := (x, t) :: Γ.visible }

/-- The scope inside a method of a class. What surrounds an anonymous class stays visible. -/
def enter (Γ : Scope) (d : TypeDecl) (m : MethodDecl) : Scope :=
  { Γ with
    methods := d.methods
    visible := m.parameters.map (fun p => (p.name, p.type))
      ++ d.fields.map (fun f => (f.name, f.type)) ++ Γ.visible }

/-- Inside a method, parameters hide fields, and fields hide what surrounds the class. -/
theorem type?_enter {Γ : Scope} {d : TypeDecl} {m : MethodDecl} {x : String} :
    (Γ.enter d m).type? x = (((m.parameters.find? (·.name = x)).map (·.type)).or
      ((d.fields.find? (·.name = x)).map (·.type))).or (Γ.type? x) := by
  simp only [type?, enter, List.find?_append, List.find?_map, Option.map_or, Option.map_map]
  rfl

mutual
/-- The expression comes to the value. -/
inductive Types : Scope → Expr → Value → Prop
  | variable {Γ : Scope} {x : String} {t : TypeExpr} (known : Γ.type? x = some t) :
    Types Γ (.variable x) (.typed t)
  | own {Γ : Scope} {m : MethodDecl} {args : List Expr} (declared : m ∈ Γ.methods)
    (passed : TypesAll Γ args (m.parameters.map (·.type))) :
    Types Γ (.own m.name args) (.typed m.returns)
  | call {Γ : Scope} {e : Expr} {c : ClassName} {method : String} {args : List Expr}
    {ts : List TypeExpr} {t : TypeExpr} (receiver : Types Γ e (.typed (.ofClass c)))
    (passed : TypesAll Γ args ts) (declared : Declares Γ.files c method ts t) :
    Types Γ (.call e method args) (.typed t)
  /-- Every object has a class. -/
  | classOf {Γ : Scope} {e : Expr} {v : Value} (receiver : Types Γ e v) :
    Types Γ (.call e "getClass" []) .foreign
  | foreignCall {Γ : Scope} {e : Expr} {method : String} {args : List Expr} {ts : List TypeExpr}
    (receiver : Types Γ e .foreign) (passed : TypesAll Γ args ts) :
    Types Γ (.call e method args) .foreign
  | builder {Γ : Scope} {method : String} {args : List Expr} {ts : List TypeExpr}
    (passed : TypesAll Γ args ts) : Types Γ (.static (.ofClass Γ.builder) method args) .foreign
  | create {Γ : Scope} {t : TypeExpr} {args : List Expr} {ts : List TypeExpr}
    (passed : TypesAll Γ args ts) : Types Γ (.create t args) (.typed t)
  | cast {Γ : Scope} {t : TypeExpr} {e : Expr} {v : Value} (value : Types Γ e v) :
    Types Γ (.cast t e) (.typed t)
  /-- An anonymous class is one of its interface, and all its code is read. -/
  | anonymous {Γ : Scope} {d : TypeDecl} {t : TypeExpr} (interface : d.superinterfaces = [t])
    (read : ∀ m ∈ d.methods, (readCode m.code).isSome)
    (runs : ∀ m ∈ d.methods, Runs (Γ.enter d m) m.returns ((readCode m.code).getD [])) :
    Types Γ (.anonymous d) (.typed t)
/-- The expressions come to values of the types. -/
inductive TypesAll : Scope → List Expr → List TypeExpr → Prop
  | nil {Γ : Scope} : TypesAll Γ [] []
  | cons {Γ : Scope} {e : Expr} {t : TypeExpr} {es : List Expr} {ts : List TypeExpr}
    (first : Types Γ e (.typed t)) (rest : TypesAll Γ es ts) : TypesAll Γ (e :: es) (t :: ts)
/-- The statements respect the types, and answer values of the type given. -/
inductive Runs : Scope → TypeExpr → List Statement → Prop
  | done {Γ : Scope} {r : TypeExpr} : Runs Γ r []
  | declare {Γ : Scope} {r t : TypeExpr} {x : String} {e : Expr} {v : Value} {ss : List Statement}
    (value : Types Γ e v) (fits : v.Fits t) (rest : Runs (Γ.declare x t) r ss) :
    Runs Γ r (.declare t x e :: ss)
  | assign {Γ : Scope} {r t : TypeExpr} {x : String} {e : Expr} {v : Value} {ss : List Statement}
    (known : Γ.type? x = some t) (value : Types Γ e v) (fits : v.Fits t) (rest : Runs Γ r ss) :
    Runs Γ r (.assign x e :: ss)
  | evaluate {Γ : Scope} {r : TypeExpr} {e : Expr} {v : Value} {ss : List Statement}
    (value : Types Γ e v) (rest : Runs Γ r ss) : Runs Γ r (.evaluate e :: ss)
  | answer {Γ : Scope} {r : TypeExpr} {e : Expr} {v : Value} {ss : List Statement}
    (value : Types Γ e v) (fits : v.Fits r) (rest : Runs Γ r ss) : Runs Γ r (.answer e :: ss)
  | switchOn {Γ : Scope} {r : TypeExpr} {e : Expr} {v : Value} {ss : List Statement}
    (value : Types Γ e v) (rest : Runs Γ r ss) : Runs Γ r (.switchOn e :: ss)
  | caseOf {Γ : Scope} {r : TypeExpr} {text : String} {ss : List Statement} (rest : Runs Γ r ss) :
    Runs Γ r (.caseOf text :: ss)
  | breakOut {Γ : Scope} {r : TypeExpr} {ss : List Statement} (rest : Runs Γ r ss) :
    Runs Γ r (.breakOut :: ss)
  | close {Γ : Scope} {r : TypeExpr} {ss : List Statement} (rest : Runs Γ r ss) :
    Runs Γ r (.close :: ss)
end

/-- All methods of a class are read and respect the types. -/
def Checks (Γ : Scope) (d : TypeDecl) : Prop :=
  ∀ m ∈ d.methods, ∃ ss, readCode m.code = some ss ∧ (Γ.enter d m).Runs m.returns ss

theorem types_of_checks {Γ : Scope} {d : TypeDecl} {t : TypeExpr}
    (interface : d.superinterfaces = [t]) (checks : Γ.Checks d) :
    Γ.Types (.anonymous d) (.typed t) := by
  refine .anonymous interface (fun m hm => ?_) (fun m hm => ?_)
  · obtain ⟨ss, read, -⟩ := checks m hm
    rw [read]
    rfl
  · obtain ⟨ss, read, runs⟩ := checks m hm
    rw [read]
    exact runs

end Scope

end ComponentWiring.Java
