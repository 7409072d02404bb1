/-
**Programs over an interface of operations.**

A program that calls an environment is kept as a tree: it has ended with a value or an exception,
or it calls one operation of the interface and continues with whatever the environment answers.
Every operation may answer with an exception, and what the environment does is not part of the
tree.  One and the same program can therefore be run against a deterministic environment, against
one that fails at any call, or one step at a time between the steps of other programs.

Main definitions:

* `Program` — the tree, with its monad structure;
* `Program.after` — continuing with the outcome of a program, be it a value or an exception;
* `Program.attempt`, `Block` — the two shapes of a `try` block: without, and with a local variable
  that the `catch` block reads;
* `Program.run` — running a program against a deterministic environment;
* `Program.implement` — replacing each operation by a program over a lower interface;
* `Program.Safe` — the assertion rule: every call is made in a state that satisfies its
  precondition, for all answers that the environment may give, and the outcome satisfies the
  postcondition; `Program.Triple` states it from a precondition.

Main results:

* `Program.run_after`, `Program.run_implement` — running is compositional in both directions;
* `Program.run_keeps` — what no operation of the environment changes, no run changes;
* `Program.Calls.run_invariant` — what the operations keep that a program may call, its runs keep;
* `Program.safe_after`, `Program.Safe.implement`, `Program.safe_tryCatchVar` — the rules for
  `Safe`: sequencing, implementation over a lower interface, and the `try` statement;
* `Program.Safe.comap`, `Program.Safe.keep`, `Program.Calls.safe` — another specification of a
  program that is safe, what its answers keep, and what follows from its calls alone;
* `Program.Safe.run` — **adequacy**: what the rules prove holds of every run.
-/

import Mathlib.Logic.Function.Basic

set_option relaxedAutoImplicit false
set_option autoImplicit false

/-- A program over the operations `Op`.  The operation `o` answers with a `Res o`, or throws an
`ε`; so does the program itself, with an `α`. -/
inductive Program (Op : Type) (Res : Op → Type) (ε : Type) (α : Type) : Type
  | ret (r : Except ε α)
  | call (o : Op) (k : Except ε (Res o) → Program Op Res ε α)

namespace Program

variable {Op Op' : Type} {Res : Op → Type} {Res' : Op' → Type} {ε α β γ σ τ : Type}

/-! ### Sequencing -/

/-- Continuing with the outcome of a program, whichever it is. -/
def after : Program Op Res ε α → (Except ε α → Program Op Res ε β) → Program Op Res ε β
  | ret r, f => f r
  | call o k, f => call o fun a => (k a).after f

/-- What a sequence does with the outcome of its first part: an exception ends it. -/
def onValue (f : α → Program Op Res ε β) : Except ε α → Program Op Res ε β
  | .ok a => f a
  | .error e => ret (.error e)

instance : Monad (Program Op Res ε) where
  pure a := ret (.ok a)
  bind p f := p.after (onValue f)

/-- Throwing an exception. -/
def fail (e : ε) : Program Op Res ε α := ret (.error e)

/-- A pure computation that may throw. -/
def ofExcept (r : Except ε α) : Program Op Res ε α := ret r

/-- Calling one operation. -/
def perform (o : Op) : Program Op Res ε (Res o) := call o ret

/-- A `try` block without local variables: the program ends normally, with its outcome as the
value. -/
def attempt (p : Program Op Res ε α) : Program Op Res ε (Except ε α) :=
  p.after fun r => ret (.ok r)

/-- Calling one operation and decoding its answer. -/
def query (o : Op) (f : Res o → Except ε α) : Program Op Res ε α :=
  call o fun a => ret (a.bind f)

/-- A `try` statement whose `catch` block throws `e` in place of any exception. -/
def orThrow (p : Program Op Res ε α) (e : ε) : Program Op Res ε α :=
  p.after fun
    | .ok a => ret (.ok a)
    | .error _ => ret (.error e)

@[simp] theorem after_call (o : Op) (k : Except ε (Res o) → Program Op Res ε α)
    (f : Except ε α → Program Op Res ε β) :
    (call o k).after f = call o fun a => (k a).after f := rfl

@[simp] theorem onValue_ok (f : α → Program Op Res ε β) (a : α) : onValue f (.ok a) = f a := rfl

@[simp] theorem onValue_error (f : α → Program Op Res ε β) (e : ε) :
    onValue f (.error e) = ret (.error e) := rfl

/-- Where the value of a computation that may throw comes from. -/
theorem bind_eq_ok {a : Except ε α} {f : α → Except ε β} {b : β} :
    a.bind f = .ok b ↔ ∃ x, a = .ok x ∧ f x = .ok b := by
  cases a with
  | ok x => simp [Except.bind]
  | error e => simp [Except.bind]

@[simp] theorem isOk_ok (a : α) : (Except.ok a : Except ε α).isOk = true := rfl

@[simp] theorem isOk_error (e : ε) : (Except.error e : Except ε α).isOk = false := rfl

/-! ### Blocks with a local variable -/

/-- The body of a `try` block that assigns a local variable of type `σ` declared before it: the
variable keeps its last value when the body throws, and the `catch` block can read it. -/
abbrev Block (Op : Type) (Res : Op → Type) (ε σ α : Type) : Type :=
  ExceptT ε (StateT σ (Program Op Res ε)) α

/-- A program as a step of a block; it does not touch the local variable. -/
def lift (p : Program Op Res ε α) : Block Op Res ε σ α :=
  fun v => p.after fun r => ret (.ok (r, v))

/-- Assigning the local variable. -/
def assign (v : σ) : Block Op Res ε σ Unit := fun _ => ret (.ok (.ok (), v))

/-- The `try` statement: the body starts with the local variable at `v`, and the `catch` block
receives the exception and the value that the body has left in the variable. -/
def tryCatchVar (v : σ) (body : Block Op Res ε σ α) (handler : ε → σ → Program Op Res ε α) :
    Program Op Res ε α :=
  (body v).after (onValue fun
    | (.ok a, _) => ret (.ok a)
    | (.error e, v') => handler e v')

/-- What a block does after one of its steps. -/
def continueBlock (f : α → Block Op Res ε σ β) :
    Except ε (Except ε α × σ) → Program Op Res ε (Except ε β × σ)
  | .ok (.ok a, v) => f a v
  | .ok (.error e, v) => ret (.ok (.error e, v))
  | .error e => ret (.error e)

theorem block_bind_apply (p : Block Op Res ε σ α) (f : α → Block Op Res ε σ β) (v : σ) :
    (p >>= f) v = (p v).after (continueBlock f) := by
  change (p v).after (onValue _) = _
  congr 1
  funext r
  match r with
  | .ok (.ok a, v') => rfl
  | .ok (.error e, v') => rfl
  | .error e => rfl

/-! ### Running against a deterministic environment -/

/-- A deterministic environment: the answer to each operation, and the state after it. -/
abbrev Env (Op : Type) (Res : Op → Type) (ε σ : Type) : Type :=
  (o : Op) → σ → Except ε (Res o) × σ

/-- Running a program to its end. -/
def run (h : Env Op Res ε σ) : Program Op Res ε α → σ → Except ε α × σ
  | ret r, s => (r, s)
  | call o k, s => run h (k (h o s).1) (h o s).2

@[simp] theorem run_ret (h : Env Op Res ε σ) (r : Except ε α) (s : σ) :
    run h (ret r) s = (r, s) := rfl

theorem run_call (h : Env Op Res ε σ) (o : Op) (k : Except ε (Res o) → Program Op Res ε α)
    (s : σ) : run h (call o k) s = run h (k (h o s).1) (h o s).2 := rfl

@[simp] theorem run_perform (h : Env Op Res ε σ) (o : Op) (s : σ) :
    run h (perform o) s = h o s := rfl

@[simp] theorem run_query (h : Env Op Res ε σ) (o : Op) (f : Res o → Except ε α) (s : σ) :
    run h (query o f) s = ((h o s).1.bind f, (h o s).2) := rfl

@[simp] theorem run_ofExcept (h : Env Op Res ε σ) (r : Except ε α) (s : σ) :
    run h (ofExcept r : Program Op Res ε α) s = (r, s) := rfl

theorem run_after (h : Env Op Res ε σ) (p : Program Op Res ε α)
    (f : Except ε α → Program Op Res ε β) (s : σ) :
    run h (p.after f) s = run h (f (run h p s).1) (run h p s).2 := by
  induction p generalizing s with
  | ret r => rfl
  | call o k ih => exact ih _ _

theorem run_bind (h : Env Op Res ε σ) (p : Program Op Res ε α) (f : α → Program Op Res ε β)
    (s : σ) : run h (p >>= f) s = run h (onValue f (run h p s).1) (run h p s).2 :=
  run_after h p _ s

theorem run_bind_ok {h : Env Op Res ε σ} {p : Program Op Res ε α} {f : α → Program Op Res ε β}
    {s s' : σ} {a : α} (hp : run h p s = (.ok a, s')) :
    run h (p >>= f) s = run h (f a) s' := by
  rw [run_bind, hp, onValue_ok]

theorem run_bind_error {h : Env Op Res ε σ} {p : Program Op Res ε α}
    {f : α → Program Op Res ε β} {s s' : σ} {e : ε} (hp : run h p s = (.error e, s')) :
    run h (p >>= f) s = (.error e, s') := by
  rw [run_bind, hp, onValue_error, run_ret]

/-- Where the exception of a sequence comes from. -/
theorem run_bind_eq_error {h : Env Op Res ε σ} {p : Program Op Res ε α}
    {f : α → Program Op Res ε β} {s : σ} {e : ε} (he : (run h (p >>= f) s).1 = .error e) :
    (run h p s).1 = .error e ∨ ∃ a s', run h p s = (.ok a, s') ∧ (run h (f a) s').1 = .error e := by
  rw [run_bind] at he
  rcases hp : run h p s with ⟨e' | a, s'⟩
  · rw [hp] at he
    cases he
    exact Or.inl rfl
  · rw [hp] at he
    exact Or.inr ⟨a, s', rfl, he⟩

@[simp] theorem run_attempt (h : Env Op Res ε σ) (p : Program Op Res ε α) (s : σ) :
    run h p.attempt s = (.ok (run h p s).1, (run h p s).2) := by
  rw [attempt, run_after, run_ret]

theorem run_orThrow (h : Env Op Res ε σ) (p : Program Op Res ε α) (e : ε) (s : σ) :
    run h (p.orThrow e) s = ((run h p s).1.mapError fun _ => e, (run h p s).2) := by
  rw [orThrow, run_after]
  cases (run h p s).1 with
  | ok a => rfl
  | error e' => rfl

theorem toOption_mapError (r : Except ε α) (f : ε → β) : (r.mapError f).toOption = r.toOption := by
  cases r <;> rfl

/-- What every operation of the environment keeps, every run keeps. -/
theorem run_invariant {h : Env Op Res ε σ} {I : σ → Prop} (hI : ∀ o s, I s → I (h o s).2)
    (p : Program Op Res ε α) {s : σ} (hs : I s) : I (run h p s).2 := by
  induction p generalizing s with
  | ret r => exact hs
  | call o k ih => exact ih _ (hI o s hs)

/-- What no operation of the environment changes, no run changes. -/
theorem run_keeps {h : Env Op Res ε σ} {f : σ → τ} (hf : ∀ o s, f (h o s).2 = f s)
    (p : Program Op Res ε α) (s : σ) : f (run h p s).2 = f s := by
  induction p generalizing s with
  | ret r => rfl
  | call o k ih => rw [run_call, ih, hf]

/-! ### Implementing an interface over a lower one -/

/-- Every operation of a program is replaced by its implementation over a lower interface. -/
def implement (impl : (o : Op) → Program Op' Res' ε (Res o)) :
    Program Op Res ε α → Program Op' Res' ε α
  | ret r => ret r
  | call o k => (impl o).after fun a => implement impl (k a)

theorem implement_call (impl : (o : Op) → Program Op' Res' ε (Res o)) (o : Op)
    (k : Except ε (Res o) → Program Op Res ε α) :
    implement impl (call o k) = (impl o).after fun a => implement impl (k a) := rfl

/-- The environment that an implementation makes of a lower environment. -/
def Env.above (h : Env Op' Res' ε σ) (impl : (o : Op) → Program Op' Res' ε (Res o)) :
    Env Op Res ε σ :=
  fun o s => run h (impl o) s

/-- Running an implemented program is running the program against the implemented environment. -/
theorem run_implement (h : Env Op' Res' ε σ) (impl : (o : Op) → Program Op' Res' ε (Res o))
    (p : Program Op Res ε α) (s : σ) :
    run h (implement impl p) s = run (h.above impl) p s := by
  induction p generalizing s with
  | ret r => rfl
  | call o k ih =>
      rw [implement_call, run_after, ih, run_call]
      rfl

/-! ### Programs that call only some of the operations -/

/-- Every operation that the program may call satisfies `P`, whatever the environment answers. -/
def Calls (P : Op → Prop) : Program Op Res ε α → Prop
  | ret _ => True
  | call o k => P o ∧ ∀ a, Calls P (k a)

namespace Calls

variable {P : Op → Prop}

theorem mono {P' : Op → Prop} {p : Program Op Res ε α} (h : Calls P p)
    (hP : ∀ o, P o → P' o) : Calls P' p := by
  induction p with
  | ret r => trivial
  | call o k ih => exact ⟨hP o h.1, fun a => ih a (h.2 a)⟩

theorem perform {o : Op} (ho : P o) : Calls P (Program.perform o : Program Op Res ε (Res o)) :=
  ⟨ho, fun _ => trivial⟩

theorem query {o : Op} (ho : P o) (f : Res o → Except ε α) : Calls P (Program.query o f) :=
  ⟨ho, fun _ => trivial⟩

theorem after {p : Program Op Res ε α} {f : Except ε α → Program Op Res ε β} (hp : Calls P p)
    (hf : ∀ r, Calls P (f r)) : Calls P (p.after f) := by
  induction p with
  | ret r => exact hf r
  | call o k ih => exact ⟨hp.1, fun a => ih a (hp.2 a)⟩

theorem bind {p : Program Op Res ε α} {f : α → Program Op Res ε β} (hp : Calls P p)
    (hf : ∀ a, Calls P (f a)) : Calls P (p >>= f) := by
  refine hp.after fun r => ?_
  cases r with
  | ok a => exact hf a
  | error e => trivial

theorem attempt {p : Program Op Res ε α} (hp : Calls P p) : Calls P p.attempt :=
  hp.after fun _ => trivial

theorem orThrow {p : Program Op Res ε α} (hp : Calls P p) (e : ε) : Calls P (p.orThrow e) := by
  refine hp.after fun r => ?_
  cases r <;> trivial

/-- An implementation whose methods call only such operations. -/
theorem implement {P : Op' → Prop} {impl : (o : Op) → Program Op' Res' ε (Res o)}
    (himpl : ∀ o, Calls P (impl o)) (p : Program Op Res ε α) :
    Calls P (Program.implement impl p) := by
  induction p with
  | ret r => trivial
  | call o k ih => exact (himpl o).after ih

/-- **The rule for invariants**: what these operations keep, the program keeps. -/
theorem run_invariant {h : Env Op Res ε σ} {I : σ → Prop}
    (hI : ∀ o s, P o → I s → I (h o s).2) {p : Program Op Res ε α} (hp : Calls P p) {s : σ}
    (hs : I s) : I (run h p s).2 := by
  induction p generalizing s with
  | ret r => exact hs
  | call o k ih => exact ih _ (hp.2 _) (hI o s hp.1 hs)

end Calls

/-! ### The assertion rule -/

/-- What is known of an environment: when each operation may be called, and which answers and
states it may lead to. -/
structure Spec (Op : Type) (Res : Op → Type) (ε σ : Type) where
  /-- The precondition of each operation. -/
  pre : σ → Op → Prop
  /-- The answers that each operation may give and the states it may leave. -/
  post : σ → (o : Op) → Except ε (Res o) → σ → Prop

/-- Every call of the program meets its precondition and every outcome satisfies `Q`, whatever
the environment answers within its specification. -/
def Safe (S : Spec Op Res ε σ) (Q : Except ε α → σ → Prop) : Program Op Res ε α → σ → Prop
  | ret r, s => Q r s
  | call o k, s => S.pre s o ∧ ∀ a s', S.post s o a s' → Safe S Q (k a) s'

variable {S : Spec Op Res ε σ}

theorem safe_call (Q : Except ε α → σ → Prop) (o : Op)
    (k : Except ε (Res o) → Program Op Res ε α) (s : σ) :
    Safe S Q (call o k) s ↔ S.pre s o ∧ ∀ a s', S.post s o a s' → Safe S Q (k a) s' := Iff.rfl

/-- **Sequencing**: the first part must establish that the rest is safe. -/
theorem safe_after (Q : Except ε β → σ → Prop) (p : Program Op Res ε α)
    (f : Except ε α → Program Op Res ε β) (s : σ) :
    Safe S Q (p.after f) s ↔ Safe S (fun r s' => Safe S Q (f r) s') p s := by
  induction p generalizing s with
  | ret r => exact Iff.rfl
  | call o k ih => simp only [after_call, safe_call, ih]

theorem safe_bind (Q : Except ε β → σ → Prop) (p : Program Op Res ε α)
    (f : α → Program Op Res ε β) (s : σ) :
    Safe S Q (p >>= f) s ↔ Safe S (fun r s' => Safe S Q (onValue f r) s') p s :=
  safe_after Q p (onValue f) s

theorem safe_attempt (Q : Except ε (Except ε α) → σ → Prop) (p : Program Op Res ε α) (s : σ) :
    Safe S Q p.attempt s ↔ Safe S (fun r s' => Q (.ok r) s') p s :=
  safe_after Q p _ s

/-- **Consequence.** -/
theorem Safe.mono {Q Q' : Except ε α → σ → Prop} {p : Program Op Res ε α} {s : σ}
    (h : Safe S Q p s) (hQ : ∀ r s', Q r s' → Q' r s') : Safe S Q' p s := by
  induction p generalizing s with
  | ret r => exact hQ r s h
  | call o k ih => exact ⟨h.1, fun a s' ha => ih a (h.2 a s' ha)⟩

/-- What the answers keep, a safe program keeps. -/
theorem Safe.keep {I : σ → Prop} (hI : ∀ s o a s', I s → S.post s o a s' → I s')
    {Q : Except ε α → σ → Prop} {p : Program Op Res ε α} {s : σ} (h : Safe S Q p s) (hs : I s) :
    Safe S (fun r s' => Q r s' ∧ I s') p s := by
  induction p generalizing s with
  | ret r => exact ⟨h, hs⟩
  | call o k ih => exact ⟨h.1, fun a s' ha => ih a (h.2 a s' ha) (hI s o a s' hs ha)⟩

/-- **Another specification**, of states that hold more: it demands less of the calls, and promises
at least as much of the answers. -/
theorem Safe.comap {τ : Type} {S' : Spec Op Res ε τ} {g : τ → σ}
    (hpre : ∀ t o, S.pre (g t) o → S'.pre t o)
    (hpost : ∀ t o a t', S.pre (g t) o → S'.post t o a t' → S.post (g t) o a (g t'))
    {Q : Except ε α → σ → Prop} {p : Program Op Res ε α} {t : τ} (h : Safe S Q p (g t)) :
    Safe S' (fun r t' => Q r (g t')) p t := by
  induction p generalizing t with
  | ret r => exact h
  | call o k ih =>
      exact ⟨hpre t o h.1, fun a t' ha => ih a (h.2 a (g t') (hpost t o a t' h.1 ha))⟩

/-- Another specification of the same states. -/
theorem Safe.weaken {S' : Spec Op Res ε σ} (hpre : ∀ s o, S.pre s o → S'.pre s o)
    (hpost : ∀ s o a s', S.pre s o → S'.post s o a s' → S.post s o a s')
    {Q : Except ε α → σ → Prop} {p : Program Op Res ε α} {s : σ} (h : Safe S Q p s) :
    Safe S' Q p s :=
  h.comap (g := id) hpre hpost

theorem safe_orThrow (Q : Except ε α → σ → Prop) (p : Program Op Res ε α) (e : ε) (s : σ) :
    Safe S Q (p.orThrow e) s ↔ Safe S (fun r s' => Q (r.mapError fun _ => e) s') p s := by
  rw [orThrow, safe_after]
  constructor
  · exact fun h => h.mono fun r s' hr => by cases r <;> exact hr
  · exact fun h => h.mono fun r s' hr => by cases r <;> exact hr

/-- **Implementation**: a program that is safe over an interface stays safe when each operation is
replaced by an implementation that satisfies the specification of that operation. -/
theorem Safe.implement {S' : Spec Op' Res' ε σ} {impl : (o : Op) → Program Op' Res' ε (Res o)}
    (himpl : ∀ o s, S.pre s o → Safe S' (S.post s o) (impl o) s)
    {Q : Except ε α → σ → Prop} {p : Program Op Res ε α} {s : σ} (h : Safe S Q p s) :
    Safe S' Q (Program.implement impl p) s := by
  induction p generalizing s with
  | ret r => exact h
  | call o k ih =>
      rw [implement_call, safe_after]
      exact (himpl o s h.1).mono fun a s' ha => ih a (h.2 a s' ha)

/-- What every precondition and the postcondition demand holds at every point of a safe program. -/
theorem Safe.holds {I : σ → Prop} {Q : Except ε α → σ → Prop} {p : Program Op Res ε α} {s : σ}
    (h : Safe S Q p s) (hpre : ∀ o, S.pre s o → I s) (hQ : ∀ r, Q r s → I s) : I s := by
  cases p with
  | ret r => exact hQ r h
  | call o k => exact hpre o h.1

/-- **Adequacy**: a safe program ends as promised in every environment that satisfies the
specification. -/
theorem Safe.run {h : Env Op Res ε σ} (hS : ∀ s o, S.pre s o → S.post s o (h o s).1 (h o s).2)
    {Q : Except ε α → σ → Prop} {p : Program Op Res ε α} {s : σ} (hp : Safe S Q p s) :
    Q (Program.run h p s).1 (Program.run h p s).2 := by
  induction p generalizing s with
  | ret r => exact hp
  | call o k ih => exact ih _ (hp.2 _ _ (hS s o hp.1))

/-- A postcondition that is given apart for the normal and for the exceptional outcome. -/
def Outcome (I : α → σ → Prop) (E : σ → Prop) : Except ε α → σ → Prop
  | .ok a, s => I a s
  | .error _, s => E s

/-- The outcome of a call whose answer is known up to the exception. -/
theorem outcome_of_toOption {I : α → σ → Prop} {E : σ → Prop} {a : Except ε α} {x : Option α}
    {s : σ} (h : a.toOption = x) (hsome : ∀ r, x = some r → I r s) (hnone : x = none → E s) :
    Outcome I E a s := by
  cases a with
  | ok r => exact hsome r h.symm
  | error e => exact hnone h.symm

/-- **Triples**: from every state that satisfies `P` the program is safe, and it ends in `I` if it
returns, and in `E` if it throws. -/
def Triple (S : Spec Op Res ε σ) (P : σ → Prop) (p : Program Op Res ε α) (I : α → σ → Prop)
    (E : σ → Prop) : Prop :=
  ∀ s, P s → Safe S (Outcome I E) p s

/-- The triple of a single call. -/
theorem triple_perform {P E : σ → Prop} {o : Op} {I : Res o → σ → Prop}
    (hpre : ∀ s, P s → S.pre s o)
    (hok : ∀ s r s', P s → S.post s o (.ok r) s' → I r s')
    (herror : ∀ s e s', P s → S.post s o (.error e) s' → E s') :
    Triple S P (perform o) I E := by
  refine fun s hs => ⟨hpre s hs, fun a s' ha => ?_⟩
  cases a with
  | ok r => exact hok s r s' hs ha
  | error e => exact herror s e s' hs ha

/-- A program that calls only some of the operations is safe, if these keep an invariant. -/
theorem Calls.safe {P : Op → Prop} {I : σ → Prop} (hpre : ∀ s o, P o → I s → S.pre s o)
    (hpost : ∀ s o a s', P o → I s → S.post s o a s' → I s') {p : Program Op Res ε α}
    (hp : Calls P p) {s : σ} (hs : I s) : Safe S (fun _ s' => I s') p s := by
  induction p generalizing s with
  | ret r => exact hs
  | call o k ih =>
      exact ⟨hpre s o hp.1 hs, fun a s' ha => ih a (hp.2 a) (hpost s o a s' hp.1 hs ha)⟩

/-- A safe program calls what its text may call. -/
theorem Calls.safe_and {P : Op → Prop} {Q : Except ε α → σ → Prop} {p : Program Op Res ε α} {s : σ}
    (hp : Calls P p) (h : Safe S Q p s) : Safe ⟨fun s o => S.pre s o ∧ P o, S.post⟩ Q p s := by
  induction p generalizing s with
  | ret r => exact h
  | call o k ih => exact ⟨⟨h.1, hp.1⟩, fun a s' ha => ih a (hp.2 a) (h.2 a s' ha)⟩

/-- What a program may call, if its rules do not depend on the answers: no answer is left out. -/
theorem Safe.calls {S : Spec Op Res ε Unit} {P : Op → Prop} (hpre : ∀ s o, S.pre s o → P o)
    (hpost : ∀ s o a s', S.post s o a s') {Q : Except ε α → Unit → Prop} {p : Program Op Res ε α}
    (h : Safe S Q p ()) : Calls P p := by
  induction p with
  | ret r => trivial
  | call o k ih => exact ⟨hpre () o h.1, fun a => ih a (h.2 a () (hpost () o a ()))⟩

/-- The specification that a deterministic environment is. -/
def Spec.ofEnv (h : Env Op Res ε σ) : Spec Op Res ε σ where
  pre _ _ := True
  post s o a s' := (a, s') = h o s

theorem triple_ofEnv {h : Env Op Res ε σ} {P E : σ → Prop} {o : Op} {I : Res o → σ → Prop}
    (ho : ∀ s, P s → Outcome I E (h o s).1 (h o s).2) :
    Triple (Spec.ofEnv h) P (perform o) I E := by
  refine fun s hs => ⟨trivial, fun a s' ha => ?_⟩
  have hout := ho s hs
  rw [← ha] at hout
  exact hout

/-- A program that is safe for a deterministic environment ends as promised when it is run. -/
theorem Safe.run_ofEnv {h : Env Op Res ε σ} {Q : Except ε α → σ → Prop} {p : Program Op Res ε α}
    {s : σ} (hp : Safe (Spec.ofEnv h) Q p s) : Q (Program.run h p s).1 (Program.run h p s).2 :=
  Safe.run (fun _ _ _ => rfl) hp

/-! ### The assertion rule for blocks -/

/-- A block is safe when its body is, and its outcome together with the value left in the local
variable satisfies `Q`. -/
def SafeBlock (S : Spec Op Res ε σ) (Q : Except ε α → τ → σ → Prop) (b : Block Op Res ε τ α)
    (v : τ) (s : σ) : Prop :=
  Safe S (fun r s' => match r with
    | .ok (r', v') => Q r' v' s'
    | .error _ => False) (b v) s

/-- What one step of a block must establish: that the rest is safe, or that the exception may
leave the block with the local variable at `v`. -/
def StepPost (S : Spec Op Res ε σ) (Q : Except ε β → τ → σ → Prop) (f : α → Block Op Res ε τ β)
    (v : τ) : Except ε α → σ → Prop
  | .ok a, s => SafeBlock S Q (f a) v s
  | .error e, s => Q (.error e) v s

/-- **A step of a block**: a program that does not touch the local variable, then the rest. -/
theorem SafeBlock.step {Q : Except ε β → τ → σ → Prop} {p : Program Op Res ε α}
    {f : α → Block Op Res ε τ β} {v : τ} {s : σ} (h : Safe S (StepPost S Q f v) p s) :
    SafeBlock S Q (lift p >>= f) v s := by
  rw [SafeBlock, block_bind_apply, safe_after, lift, safe_after]
  refine h.mono fun r s' hr => ?_
  cases r with
  | ok a => exact hr
  | error e => exact hr

/-- An assignment to the local variable. -/
theorem SafeBlock.assign {Q : Except ε β → τ → σ → Prop} {f : Unit → Block Op Res ε τ β}
    {v w : τ} {s : σ} (h : SafeBlock S Q (f ()) w s) :
    SafeBlock S Q (Program.assign w >>= f) v s := by
  rw [SafeBlock, block_bind_apply]
  exact h

/-- What the body of a `try` statement must establish: the postcondition of the statement, or that
the `catch` block is safe. -/
def CatchPost (S : Spec Op Res ε σ) (Q : Except ε α → σ → Prop)
    (handler : ε → τ → Program Op Res ε α) : Except ε α → τ → σ → Prop
  | .ok a, _, s => Q (.ok a) s
  | .error e, v, s => Safe S Q (handler e v) s

/-- **The `try` statement**: the body is safe, and so is the `catch` block whenever it runs. -/
theorem safe_tryCatchVar {Q : Except ε α → σ → Prop} {v : τ} {body : Block Op Res ε τ α}
    {handler : ε → τ → Program Op Res ε α} {s : σ}
    (h : SafeBlock S (CatchPost S Q handler) body v s) :
    Safe S Q (tryCatchVar v body handler) s := by
  rw [tryCatchVar, safe_after]
  refine Safe.mono h fun r s' hr => ?_
  match r, hr with
  | .ok (.ok a, v'), hr => exact hr
  | .ok (.error e, v'), hr => exact hr

end Program
