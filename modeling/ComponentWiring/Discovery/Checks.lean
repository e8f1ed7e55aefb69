/-
ComponentWiring.Discovery.Checks — rules for annotated elements.

* `Check` — a rule that an annotated element may be held to.
* `Check.violation?` — what is wrong with an element under one rule.
* `Validator`, `Validator.check` — messages that are gathered rule by rule, each once.
* `violations`, `validate` — what is wrong with an element under several rules.
-/
import ComponentWiring.Declared.Hierarchy
import ComponentWiring.Report.Failure

namespace ComponentWiring

/-- A rule for annotated elements. The first three concern methods only. -/
inductive Check
  /-- The method is neither private nor protected. -/
  | accessible
  /-- The method is abstract, or it is not. -/
  | abstractIs (required : Bool)
  /-- The method belongs to an interface, or it does not. -/
  | inInterfaceIs (required : Bool)
  /-- The element is a class below the named one. -/
  | inherits (superclass : String)
deriving DecidableEq, Inhabited

namespace Check

/-- What is wrong with a method that nobody else can call. -/
def accessViolation (e : Element) : Option String :=
  if e.kind = .method && (e.modifiers.contains .privateMod || e.modifiers.contains .protectedMod)
  then some (e.simpleName
    ++ " method is not accessible. It must have public, default or native modifier.")
  else none

/-- What is wrong with a method that has code, or has none. -/
def abstractViolation (e : Element) (marker : String) (required : Bool) : Option String :=
  if e.kind = .method && e.modifiers.contains .abstractMod != required then
    some (e.simpleName ++ if required
      then " method is not abstract. Only abstract methods can be annotated with @" ++ marker
      else " method is abstract. You can't annotate abstract methods with @" ++ marker)
  else none

/-- What is wrong with a method by where it is declared. -/
def interfaceViolation (e : Element) (marker : String) (required : Bool) : Option String :=
  e.owner?.bind fun owner =>
    if e.kind = .method && (owner.kind = .interfaceType : Bool) != required then
      some (owner.simpleName ++ if required
        then " class is not an Interface. Only Interface classes can have methods annotated with @"
          ++ marker
        else " class is an Interface. You can't annotate Interface methods with @" ++ marker)
    else none

/-- What is wrong with a class that does not extend the one it should. -/
def inheritanceViolation (s : TypeStore) (e : Element) (marker superclass : String) :
    Option String :=
  match e.class? with
  | none => some ("Only classes can be annotated with @" ++ marker)
  | some c =>
    if s.inheritsFrom c superclass then none
    else some (c.simpleName ++ " class is annotated with @" ++ marker
      ++ " but doesn't inherit from " ++ superclass)

/-- What is wrong with an annotated element under the rule. -/
def violation? (s : TypeStore) (e : Element) (marker : String) : Check → Option String
  | .accessible => accessViolation e
  | .abstractIs required => abstractViolation e marker required
  | .inInterfaceIs required => interfaceViolation e marker required
  | .inherits superclass => inheritanceViolation s e marker superclass

end Check

/-- An annotated element that is held to rules, and the messages gathered so far. -/
structure Validator where
  store : TypeStore
  element : Element
  marker : String
  messages : List String := []

namespace Validator

/-- Messages with one more, unless it is known. -/
def withMessage (messages : List String) : Option String → List String
  | none => messages
  | some m => if m ∈ messages then messages else messages ++ [m]

/-- Checks one rule more. -/
def check (v : Validator) (c : Check) : Validator :=
  { v with messages := withMessage v.messages (c.violation? v.store v.element v.marker) }

/-- Checks rules one after the other. -/
def checkAll (v : Validator) (checks : List Check) : Validator := checks.foldl check v

/-- Refuses the element if something was found. -/
def finish (v : Validator) : Except Failure Unit :=
  match v.messages with
  | [] => .ok ()
  | messages => .error (.violations v.element.displayName messages)

end Validator

/-- What is wrong with an annotated element under rules that are checked one after the other. -/
def violations (s : TypeStore) (e : Element) (marker : String) (checks : List Check) :
    List String :=
  (Validator.checkAll { store := s, element := e, marker } checks).messages

/-- Holds an annotated element to rules. -/
def validate (s : TypeStore) (e : Element) (marker : String) (checks : List Check) :
    Except Failure Unit :=
  (Validator.checkAll { store := s, element := e, marker } checks).finish

end ComponentWiring
