/-
ComponentWiring.Proofs.Wiring.Lookup — generated look-ups find what is bound.

* `Guard`, `Branch`, `Chain` — code that compares a class with others and answers for the first
  equal one.
* `readChain` — such code, if all of it can be read.
* `Chain.answer` — what it answers for a class.
* `HoldsPresenters`, `LooksUp` — fields and such code, compared to bindings.
* `ChildGenerator.injector_looks_up` — an injector has a field for each binding, and its look-up
  answers the field of the presenter that is bound to a contract.

A class is known by its canonical name when the code runs, so two conditions are told apart only if
their classes have different ones.
-/
import ComponentWiring.Proofs.Java.Statements
import ComponentWiring.Proofs.Wiring.Generation
import Mathlib.Data.List.Nodup

namespace ComponentWiring

namespace Java

/-! ## 1. Code that compares classes -/

/-- Puts types and literals into the placeholders; a literal stands for one word. -/
def fillWords : List Lexeme → List CodeArg → Option (List Token)
  | [], [] => some []
  | .keyword k :: ls, as => (fillWords ls as).map (.keyword k :: ·)
  | .word w :: ls, as => (fillWords ls as).map (.identifier w :: ·)
  | .symbol s :: ls, as => (fillWords ls as).map (.symbol s :: ·)
  | .hole .type :: ls, .type t :: as => (fillWords ls as).map (.type t :: ·)
  | .hole .literal :: ls, .literal s :: as => (fillWords ls as).map (.identifier s :: ·)
  | _, _ => none

/-- What code answers. -/
inductive Answer
  | nothing
  /-- The value of the variable or field. -/
  | value (name : String)
deriving DecidableEq

/-- The answer that a word stands for. -/
def Answer.ofWord (w : String) : Answer := if w = "null" then .nothing else .value w

/-- A line of code that compares a class with others. -/
inductive Guard
  /-- The lines up to the end of the block are for the class only. -/
  | whenEqual (argument : String) (c : ClassName)
  | answer (a : Answer)
  | close

/-- The line that tokens form. -/
def Guard.ofTokens : List Token → Option Guard
  | [.identifier "if", .symbol .opening, .identifier x, .symbol .dot, .identifier "equals",
      .symbol .opening, .type (.ofClass c), .symbol .dot, .identifier "class", .symbol .closing,
      .symbol .closing, .symbol .openingBrace] => some (.whenEqual x c)
  | [.keyword .returnWord, .identifier w, .symbol .semicolon] => some (.answer (.ofWord w))
  | [.symbol .closingBrace] => some .close
  | _ => none

/-- The line of a segment. -/
def Segment.guard? (s : Segment) : Option Guard := do
  let ls ← lexemes [] s.format.toList
  let ts ← fillWords ls s.arguments
  Guard.ofTokens ts

/-- An answer under a condition. -/
structure Branch where
  /-- The variable that holds the class. -/
  argument : String
  condition : ClassName
  answer : Answer

/-- Answers under conditions, from the top to the bottom, and the answer if none of them holds. -/
structure Chain where
  branches : List Branch
  otherwise : Answer

/-- Reads code that consists of answers under conditions and a last answer. -/
def readChain : Code → Option Chain
  | [s] =>
    match s.guard? with
    | some (.answer a) => some ⟨[], a⟩
    | _ => none
  | s :: t :: u :: r =>
    match s.guard?, t.guard?, u.guard? with
    | some (.whenEqual x c), some (.answer a), some .close =>
      (readChain r).map fun chain => { chain with branches := ⟨x, c, a⟩ :: chain.branches }
    | _, _, _ => none
  | _ => none

/-- Whether the condition holds if the variable is the class of the name. -/
def Branch.holds (x name : String) (b : Branch) : Bool :=
  b.argument = x && b.condition.canonicalName = name

/-- What the code answers if the variable is the class of the name: the first answer whose condition
holds. -/
def Chain.answer (chain : Chain) (x name : String) : Answer :=
  ((chain.branches.find? (·.holds x name)).map (·.answer)).getD chain.otherwise

end Java

open Java

/-! ## 2. The code of look-ups -/

namespace ChildGenerator

theorem presenterField_injective {m n : Nat} (h : presenterField m = presenterField n) : m = n := by
  have digits : Nat.toDigits 10 m = Nat.toDigits 10 n := by
    have all := congrArg String.toList h
    simpa [presenterField, Nat.toString_eq_ofList_toDigits] using all
  calc m = Nat.ofDigitChars 10 (Nat.toDigits 10 m) 0 := Nat.ofDigitChars_ten_toDigits.symm
    _ = Nat.ofDigitChars 10 (Nat.toDigits 10 n) 0 := by rw [digits]
    _ = n := Nat.ofDigitChars_ten_toDigits

theorem ofWord_presenterField (n : Nat) :
    Answer.ofWord (presenterField n) = .value (presenterField n) := by
  refine if_neg fun same => ?_
  have first := congrArg (fun s => s.toList.head?) same
  simp [presenterField] at first

/-- The branch for a contract whose presenter is in the field with the number. -/
def lookupBranch (contract : ClassName) (number : Nat) : Branch :=
  ⟨"arg0", contract, .value (presenterField number)⟩

theorem holds_lookupBranch (contract : ClassName) (number : Nat) (name : String) :
    (lookupBranch contract number).holds "arg0" name = decide (contract.canonicalName = name) := by
  rw [Branch.holds, lookupBranch, decide_eq_true rfl, Bool.true_and]

theorem readChain_lookupCode (contract : ClassName) (number : Nat) {rest : Code} {chain : Chain}
    (h : readChain rest = some chain) : readChain (lookupCode contract number ++ rest) =
      some { chain with branches := lookupBranch contract number :: chain.branches } := by
  have compared : Segment.guard? ⟨"if (arg0.equals($T.class)) \x7b\n$>",
      [.type (.ofClass contract)]⟩ = some (.whenEqual "arg0" contract) := by
    simp [Segment.guard?, lexemes, wordLexemes, Keyword.ofWord?, Symbol.ofChar?,
      Placeholder.ofLetter?, fillWords, Guard.ofTokens]
  have answered : Segment.guard? ⟨"return $L;\n", [.literal (presenterField number)]⟩ =
      some (.answer (.ofWord (presenterField number))) := by
    simp [Segment.guard?, lexemes, wordLexemes, Keyword.ofWord?, Symbol.ofChar?,
      Placeholder.ofLetter?, fillWords, Guard.ofTokens]
  have closed : Segment.guard? ⟨"$<\x7d\n", []⟩ = some .close := rfl
  show readChain (⟨"if (arg0.equals($T.class)) \x7b\n$>", [.type (.ofClass contract)]⟩
    :: ⟨"return $L;\n", [.literal (presenterField number)]⟩ :: ⟨"$<\x7d\n", []⟩ :: rest) = _
  simp only [readChain, compared, answered, closed, ofWord_presenterField, h]
  rfl

/-- The code reads as one branch for each contract. -/
theorem readChain_lookups (contracts : List ClassName) (number : Nat → Nat) :
    readChain ((contracts.mapIdx fun i c => lookupCode c (number i)).flatten
        ++ Code.statement "return null") =
      some ⟨contracts.mapIdx fun i c => lookupBranch c (number i), .nothing⟩ := by
  induction contracts generalizing number with
  | nil => rfl
  | cons c contracts ih =>
    rw [List.mapIdx_cons, List.mapIdx_cons, List.flatten_cons, List.append_assoc]
    exact readChain_lookupCode c (number 0) (ih fun i => number (i + 1))

/-! ## 3. Fields and branches of bindings -/

/-- The fields hold the presenters of the bindings, one for each, in their order. -/
structure HoldsPresenters (fields : List FieldDecl) (lazy : ClassName) (bindings : Bindings) :
    Prop where
  types : List.Forall₂ (fun binding field => ∃ presenter, classNamed binding.2 = .ok presenter ∧
    field.type = .parameterized lazy [.ofClass presenter]) bindings.entries fields
  apart : (fields.map (·.name)).Nodup

/-- The chain answers the field of the presenter that is bound to a contract, given the fields in
the order of the bindings. -/
structure LooksUp (chain : Chain) (x : String) (bindings : Bindings) (fields : List FieldDecl) :
    Prop where
  bound : ∀ contract presenter, bindings.get? contract = some presenter →
    ∃ field, ((contract, presenter), field) ∈ bindings.entries.zip fields ∧
      chain.answer x contract = .value field.name
  unbound : ∀ contract, bindings.get? contract = none → chain.answer x contract = .nothing
  apart : (chain.branches.map (·.condition.canonicalName)).Nodup

theorem classNamed_canonicalName {name : String} {c : ClassName} (h : classNamed name = .ok c) :
    c.canonicalName = name := by
  unfold classNamed at h
  cases read : ClassName.parse? name with
  | none => simp [read] at h
  | some c' =>
    obtain rfl : c' = c := by simpa [read] using h
    exact ClassName.canonicalName_of_parse? read

variable {es : List (String × String)} {bound : List (ClassName × ClassName)}

theorem classes_of_boundClasses {binding : String × String} {b : ClassName × ClassName}
    (h : boundClasses binding = .ok b) :
    classNamed binding.2 = .ok b.1 ∧ classNamed binding.1 = .ok b.2 := by
  simp only [boundClasses, bind_ok_iff] at h
  obtain ⟨presenter, first, contract, second, put⟩ := h
  cases put
  exact ⟨first, second⟩

/-! Fields and branches are numbered in the order of the bindings, from whatever number on. -/

variable (lazy inject : ClassName) (number : Nat → Nat)

theorem types_fieldDecl (h : List.Forall₂ (fun e b => boundClasses e = .ok b) es bound) :
    List.Forall₂ (fun e field => ∃ presenter, classNamed e.2 = .ok presenter ∧
      field.type = .parameterized lazy [.ofClass presenter]) es
      (bound.mapIdx fun i b => fieldDecl lazy inject b.1 (number i)) := by
  induction h generalizing number with
  | nil => exact .nil
  | cons made _ ih =>
    rw [List.mapIdx_cons]
    exact .cons ⟨_, (classes_of_boundClasses made).1, rfl⟩ (ih _)

theorem names_fieldDecl (bound : List (ClassName × ClassName)) :
    (bound.mapIdx fun i b => fieldDecl lazy inject b.1 (number i)).map (·.name) =
      (List.range bound.length).map fun i => presenterField (number i) := by
  refine List.ext_getElem (by simp) fun i _ _ => ?_
  simp [fieldDecl, FieldDecl.plain]

theorem conditions_lookupBranch (h : List.Forall₂ (fun e b => boundClasses e = .ok b) es bound) :
    ((bound.map Prod.snd).mapIdx fun i c => lookupBranch c (number i)).map
      (·.condition.canonicalName) = es.map Prod.fst := by
  induction h generalizing number with
  | nil => rfl
  | cons made _ ih =>
    rw [List.map_cons, List.mapIdx_cons, List.map_cons, List.map_cons, ih]
    exact congrArg (· :: _) (classNamed_canonicalName (classes_of_boundClasses made).2)

/-- The first branch of a contract answers the field that stands where its binding stands. -/
theorem find?_lookupBranch (h : List.Forall₂ (fun e b => boundClasses e = .ok b) es bound)
    {contract presenter : String} (found : Entries.get? contract es = some presenter) :
    ∃ branch field, ((contract, presenter), field) ∈
        es.zip (bound.mapIdx fun i b => fieldDecl lazy inject b.1 (number i)) ∧
      ((bound.map Prod.snd).mapIdx fun i c => lookupBranch c (number i)).find?
        (·.holds "arg0" contract) = some branch ∧
      branch.answer = .value field.name := by
  induction h generalizing number with
  | nil => cases found
  | @cons e b es bound made _ ih =>
    have named : b.2.canonicalName = e.1 :=
      classNamed_canonicalName (classes_of_boundClasses made).2
    rw [List.map_cons, List.mapIdx_cons, List.mapIdx_cons, List.zip_cons_cons, List.find?_cons,
      holds_lookupBranch, named]
    rw [Entries.get?] at found
    by_cases same : e.1 = contract
    · obtain rfl : e.2 = presenter := by simpa [same] using found
      rw [decide_eq_true same, ← same]
      exact ⟨_, _, List.mem_cons_self, rfl, rfl⟩
    · rw [if_neg same] at found
      rw [decide_eq_false same]
      obtain ⟨branch, field, mem, picked, answered⟩ := ih (fun i => number (i + 1)) found
      exact ⟨branch, field, List.mem_cons_of_mem _ mem, picked, answered⟩

/-- No branch holds for a contract without a binding. -/
theorem find?_lookupBranch_eq_none (h : List.Forall₂ (fun e b => boundClasses e = .ok b) es bound)
    {contract : String} (missing : Entries.get? contract es = none) :
    ((bound.map Prod.snd).mapIdx fun i c => lookupBranch c (number i)).find?
      (·.holds "arg0" contract) = none := by
  refine List.find?_eq_none.mpr fun branch mem holds => Entries.get?_eq_none_iff.mp missing ?_
  have same : branch.condition.canonicalName = contract := by
    simp only [Branch.holds, Bool.and_eq_true, decide_eq_true_eq] at holds
    exact holds.2
  rw [← conditions_lookupBranch number h, ← same]
  exact List.mem_map_of_mem mem

/-! ## 4. Injectors -/

/-- An injector has a field for each binding, in their order, and one method. Its code compares the
class it is called with to each contract and answers the field of the presenter that is bound to it,
or nothing if there is none. -/
theorem injector_looks_up {g : ChildGenerator} {bindings : Bindings} {f : SourceFile}
    (h : g.injector bindings = .ok f) :
    ∃ lazy m x chain, classNamed g.settings.framework.daggerLazy = .ok lazy ∧
      HoldsPresenters f.type.fields lazy bindings ∧
      f.type.methods = [m] ∧ m.name = g.settings.naming.provideMethod ∧
      m.parameters.map (·.name) = [x] ∧
      readChain m.code = some chain ∧ LooksUp chain x bindings f.type.fields := by
  simp only [injector, bind_ok_iff] at h
  obtain ⟨lazy, lazyNamed, inject, _, injectable, _, bound, made, put⟩ := h
  cases put
  have pairs := mapM_ok_iff.mp made
  refine ⟨lazy, _, "arg0", _, lazyNamed, ⟨types_fieldDecl _ _ _ pairs, ?names⟩, rfl, rfl, rfl,
    readChain_lookups (bound.map Prod.snd) (· + 1), ⟨?bound, ?unbound, ?conditions⟩⟩
  case names =>
    rw [names_fieldDecl]
    exact List.nodup_range.map fun _ _ same => Nat.succ.inj (presenterField_injective same)
  case bound =>
    intro contract presenter found
    obtain ⟨branch, field, mem, picked, answered⟩ :=
      find?_lookupBranch lazy inject (· + 1) pairs found
    refine ⟨field, mem, ?_⟩
    rw [Chain.answer, picked]
    exact answered
  case unbound =>
    intro contract missing
    rw [Chain.answer, find?_lookupBranch_eq_none (· + 1) pairs missing]
    rfl
  case conditions =>
    rw [conditions_lookupBranch (· + 1) pairs]
    exact bindings.nodup_keys

/-- Two presenters with their contracts. -/
def twoBindings : Bindings :=
  .ofList [("com.example.MainContract", "com.example.MainPresenter"),
    ("com.example.Login.Contract", "com.example.Login.Presenter")]

theorem injector_looks_up_of_two :
    let g : ChildGenerator :=
      ⟨{}, .below "com.example" "wiring", .activity, .ofName "com.example.ActivityModule"⟩
    ∃ f, g.injector twoBindings = .ok f ∧
      ∃ lazy m x chain, classNamed g.settings.framework.daggerLazy = .ok lazy ∧
        HoldsPresenters f.type.fields lazy twoBindings ∧
        f.type.methods = [m] ∧ m.name = g.settings.naming.provideMethod ∧
        m.parameters.map (·.name) = [x] ∧
        readChain m.code = some chain ∧ LooksUp chain x twoBindings f.type.fields := by
  intro g
  obtain ⟨f, made⟩ : Succeeds (g.injector twoBindings) :=
    injector_succeeds_iff.mpr (by unfold Bindings.AreReadable; decide +kernel)
  exact ⟨f, made, injector_looks_up made⟩

end ChildGenerator

end ComponentWiring
