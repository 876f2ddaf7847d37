import JetsonFabric.Lib.Transition

/-!
# Programs over a shared state

A program asks for operations and goes on with their answers. It runs on a state that other
parties change between its operations.
-/

/-- Operations `o : O` with answers in `A o`, and a result `α`. -/
inductive Prog (O : Type) (A : O → Type) (α : Type) : Type
  | done (a : α)
  | ask (o : O) (k : A o → Prog O A α)

namespace Prog

variable {O : Type} {A : O → Type} {α β : Type}

/-- One program after another. -/
protected def bind : Prog O A α → (α → Prog O A β) → Prog O A β
  | .done a, f => f a
  | .ask o k, f => .ask o fun a => (k a).bind f

instance : Monad (Prog O A) where
  pure := .done
  bind := Prog.bind

/-- Ask for one operation. -/
def perform (o : O) : Prog O A (A o) := .ask o .done

/-- Every operation the program may ask for is in `ok`. -/
def All (ok : O → Prop) : Prog O A α → Prop
  | .done _ => True
  | .ask o k => ok o ∧ ∀ a, (k a).All ok

theorem All.bind {ok : O → Prop} {p : Prog O A α} {f : α → Prog O A β} (hp : p.All ok)
    (hf : ∀ a, (f a).All ok) : (p.bind f).All ok := by
  induction p with
  | done a => exact hf a
  | ask o k ih => exact ⟨hp.1, fun a => ih a (hp.2 a)⟩

theorem All.imp {ok ok' : O → Prop} {p : Prog O A α} (hp : p.All ok) (h : ∀ o, ok o → ok' o) :
    p.All ok' := by
  induction p with
  | done a => exact trivial
  | ask o k ih => exact ⟨h o hp.1, fun a => ih a (hp.2 a)⟩

theorem All.perform {ok : O → Prop} {o : O} (h : ok o) :
    (perform o : Prog O A (A o)).All ok :=
  ⟨h, fun _ => trivial⟩

/-- The result when one function answers every operation. -/
def eval {σ : Type} (answer : (o : O) → σ → A o × σ) : Prog O A α → σ → α × σ
  | .done a, s => (a, s)
  | .ask o k, s => (k (answer o s).1).eval answer (answer o s).2

/-- One operation, answered by a function. -/
def advance {σ : Type} (answer : (o : O) → σ → A o × σ) :
    Prog O A α × σ → Prog O A α × σ
  | (.done a, s) => (.done a, s)
  | (.ask o k, s) => (k (answer o s).1, (answer o s).2)

/-- The operation that a program asks for next. -/
def next : Prog O A α → Option O
  | .done _ => none
  | .ask o _ => some o

end Prog

/-- An operation with its answer, or a step of the others. -/
inductive Event (O : Type) (A : O → Type) (E : Type) : Type
  | op (o : O) (a : A o)
  | env (e : E)

/-- What operations do to a shared state, and the steps of the others. -/
structure Shared (O : Type) (A : O → Type) (σ E : Type) where
  exec : (o : O) → σ → A o → σ → Prop
  env : σ → E → σ → Prop

namespace Shared

variable {O : Type} {A : O → Type} {σ E α β : Type} (S : Shared O A σ E)

/-- One step of a program or of the others. -/
inductive Step : Prog O A α × σ → Event O A E → Prog O A α × σ → Prop
  | op {o : O} {k : A o → Prog O A α} {s s' : σ} {a : A o} (h : S.exec o s a s') :
      Step (.ask o k, s) (.op o a) (k a, s')
  | env {p : Prog O A α} {s s' : σ} {e : E} (h : S.env s e s') :
      Step (p, s) (.env e) (p, s')

/-- One program on the shared state, from any state. -/
def program : LTS (Prog O A α × σ) (Event O A E) where
  init _ := True
  step := S.Step

/-- A step of a server: when no program runs, the next call starts one. -/
inductive ServerStep {C : Type} (start : C → Prog O A Unit) :
    Prog O A Unit × σ → C ⊕ Event O A E → Prog O A Unit × σ → Prop
  | start (c : C) (s : σ) : ServerStep start (.done (), s) (.inl c) (start c, s)
  | step {x y : Prog O A Unit × σ} {e : Event O A E} (h : S.Step x e y) :
      ServerStep start x (.inr e) y

/-- A server that runs one program at a time. -/
def server {C : Type} (init : σ → Prop) (start : C → Prog O A Unit) :
    LTS (Prog O A Unit × σ) (C ⊕ Event O A E) where
  init x := x.1 = .done () ∧ init x.2
  step := S.ServerStep start

/-- The same state with the events so far. -/
def logged : Shared O A (σ × List (Event O A E)) E where
  exec o x a y := S.exec o x.1 a y.1 ∧ y.2 = x.2 ++ [.op o a]
  env x e y := S.env x.1 e y.1 ∧ y.2 = x.2 ++ [.env e]

variable {S}

theorem Step.logged {x y : Prog O A α × σ} {e : Event O A E} (h : S.Step x e y)
    (log : List (Event O A E)) :
    S.logged.Step (x.1, (x.2, log)) e (y.1, (y.2, log ++ [e])) := by
  cases h with
  | op h => exact .op ⟨h, rfl⟩
  | env h => exact .env ⟨h, rfl⟩

/-- A run is a run of the logged system, which records its events. -/
theorem run_logged {x y : Prog O A α × σ} {events : List (Event O A E)}
    (h : S.program.Run x events y) (log : List (Event O A E)) :
    S.logged.program.Run (x.1, (x.2, log)) events (y.1, (y.2, log ++ events)) := by
  induction h generalizing log with
  | nil x => simpa using LTS.Run.nil (M := S.logged.program) (x.1, (x.2, log))
  | @cons x y z e events hs _ ih =>
    refine .cons (hs.logged log) ?_
    simpa using ih (log ++ [e])

theorem reachable_logged {C : Type} {init : σ → Prop} {start : C → Prog O A Unit}
    {x : Prog O A Unit × σ} (h : (S.server init start).Reachable x) :
    ∃ log, (S.logged.server (fun y => init y.1 ∧ y.2 = []) start).Reachable
      (x.1, (x.2, log)) := by
  induction h with
  | init h => exact ⟨[], .init ⟨h.1, h.2, rfl⟩⟩
  | step _ hs ih =>
    obtain ⟨log, ih⟩ := ih
    cases hs with
    | start c s => exact ⟨log, ih.step (.start c (s, log))⟩
    | step h => exact ⟨log ++ [_], ih.step (.step (h.logged log))⟩

/-- What a program reaches from a reachable state of a server is reachable. -/
theorem reachable_run {C : Type} {init : σ → Prop} {start : C → Prog O A Unit}
    {x y : Prog O A Unit × σ} {events : List (Event O A E)}
    (h : (S.server init start).Reachable x) (hr : S.program.Run x events y) :
    (S.server init start).Reachable y := by
  induction hr with
  | nil => exact h
  | cons hs _ ih => exact ih (h.step (.step hs))

variable (E) in
/-- The events of the run in which one function answers every operation. -/
def trace (answer : (o : O) → σ → A o × σ) : Prog O A α → σ → List (Event O A E)
  | .done _, _ => []
  | .ask o k, s => .op o (answer o s).1 :: trace answer (k (answer o s).1) (answer o s).2

/-- Answering every operation by a permitted function is a run. -/
theorem run_eval {answer : (o : O) → σ → A o × σ}
    (h : ∀ o s, S.exec o s (answer o s).1 (answer o s).2) (p : Prog O A α) (s : σ) :
    S.program.Run (p, s) (trace E answer p s)
      (.done (p.eval answer s).1, (p.eval answer s).2) := by
  induction p generalizing s with
  | done a => exact .nil _
  | ask o k ih => exact .cons (.op (h o s)) (ih (answer o s).1 (answer o s).2)

theorem step_advance {answer : (o : O) → σ → A o × σ}
    (h : ∀ o s, S.exec o s (answer o s).1 (answer o s).2) {x : Prog O A α × σ} {o : O}
    (hx : x.1.next = some o) :
    S.Step x (.op o (answer o x.2).1) (Prog.advance answer x) := by
  obtain ⟨p, s⟩ := x
  cases p with
  | done a => cases hx
  | ask o' k =>
    cases hx
    exact .op (h o s)

/-- Answering some operations by a permitted function is a run. -/
theorem run_advance {answer : (o : O) → σ → A o × σ}
    (h : ∀ o s, S.exec o s (answer o s).1 (answer o s).2) (n : Nat) (x : Prog O A α × σ) :
    ∃ events, S.program.Run x events ((Prog.advance answer)^[n] x) := by
  induction n generalizing x with
  | zero => exact ⟨[], .nil x⟩
  | succ n ih =>
    obtain ⟨events, hr⟩ := ih (Prog.advance answer x)
    obtain ⟨p, s⟩ := x
    cases p with
    | done a => exact ⟨events, hr⟩
    | ask o k => exact ⟨_ :: events, .cons (.op (h o s)) hr⟩

end Shared
