/-
ComponentWiring.Run.Logged — results together with the record of how they came about.

* `Logged` — a result or a failure, with the log of the work. What was logged before a
  failure is kept.
* `Logged.ofExcept`, `Logged.ofFindings`, `Logged.say`, `Logged.tell` — single steps.

The main statements say what sequencing does to the log and to the result.
-/
import ComponentWiring.Discovery.Containers
import ComponentWiring.Report.Log

namespace ComponentWiring

/-- One log after another. -/
def Log.append (l k : Log) : Log := ⟨l.diagnostics ++ k.diagnostics, l.news ++ k.news⟩

instance : Append Log := ⟨Log.append⟩

@[simp] theorem Log.diagnostics_append (l k : Log) :
    (l ++ k).diagnostics = l.diagnostics ++ k.diagnostics := rfl

@[simp] theorem Log.news_append (l k : Log) : (l ++ k).news = l.news ++ k.news := rfl

/-- A result or a failure, with the log of the work. -/
structure Logged (α : Type) where
  log : Log
  result : Except Failure α
deriving Inhabited

namespace Logged

variable {α β : Type}

/-- A result without work. -/
def done (a : α) : Logged α := ⟨{}, .ok a⟩

/-- A failure without work. -/
def fail (f : Failure) : Logged α := ⟨{}, .error f⟩

/-- Work that goes on with a result; a failure ends it. -/
def andThen (x : Logged α) (f : α → Logged β) : Logged β :=
  match x.result with
  | .ok a => ⟨x.log ++ (f a).log, (f a).result⟩
  | .error e => ⟨x.log, .error e⟩

instance : Monad Logged where
  pure := done
  bind := andThen

instance : MonadExceptOf Failure Logged where
  throw := fail
  tryCatch x recover :=
    match x.result with
    | .ok _ => x
    | .error e => ⟨x.log ++ (recover e).log, (recover e).result⟩

/-- A step that logs nothing. -/
def ofExcept (x : Except Failure α) : Logged α := ⟨{}, x⟩

instance : MonadLift (Except Failure) Logged := ⟨ofExcept⟩

/-- Reports messages. -/
def say (ds : List Diagnostic) : Logged Unit := ⟨Log.reportAll {} ds, .ok ()⟩

/-- Makes news known. -/
def tell (es : List Event) : Logged Unit := ⟨Log.announceAll {} es, .ok ()⟩

/-- What a search among candidates has found, if no candidate was refused. -/
def ofFindings (f : Findings α) : Logged α :=
  ⟨Log.reportAll {} f.diagnostics, match f.failure with
    | none => .ok f.found
    | some e => .error e⟩

theorem result_bind (x : Logged α) (f : α → Logged β) :
    (x >>= f).result = x.result.bind fun a => (f a).result := by
  obtain ⟨log, result⟩ := x
  cases result <;> rfl

theorem bind_ok {x : Logged α} {f : α → Logged β} {b : β} (h : (x >>= f).result = .ok b) :
    ∃ a, x.result = .ok a ∧ (f a).result = .ok b := by
  obtain ⟨log, result⟩ := x
  cases result with
  | error e => cases h
  | ok a => exact ⟨a, rfl, h⟩

theorem log_bind_of_ok {x : Logged α} {f : α → Logged β} {a : α} (h : x.result = .ok a) :
    (x >>= f).log = x.log ++ (f a).log := by
  obtain ⟨log, result⟩ := x
  cases h
  rfl

theorem log_bind_of_error {x : Logged α} {f : α → Logged β} {e : Failure}
    (h : x.result = .error e) : (x >>= f).log = x.log := by
  obtain ⟨log, result⟩ := x
  cases h
  rfl

end Logged

end ComponentWiring
