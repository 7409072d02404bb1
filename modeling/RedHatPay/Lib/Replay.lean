/-
**Serializability by replay.**

A thread works on a shared state that others may change between its steps, and keeps its own
writes to itself until it ends.  Suppose that its answers so far would have been the same on every
shared state in a set `A`.  Then what remains of its program ends, from each of these states, as
the whole program would have ended when run alone from there.  `Replay.Replays` is this statement;
it starts with all states, is kept by a step whose answer is the same throughout `A`, and is used
when the thread ends.

Main definitions:

* `Replay.Replays`, `Replay.serial` — the invariant of a thread, and running threads one after the
  other.

Main results:

* `Replay.Replays.start`, `Replay.Replays.step`, `Replay.Replays.finish` — the life of the
  invariant;
* `Replay.serial_append` — one more thread at the end of the order.
-/

import RedHatPay.Lib.Program

set_option relaxedAutoImplicit false
set_option autoImplicit false

namespace Replay

open Program

variable {ι Op : Type} {Res : Op → Type} {ε α β G W σ : Type}

/-- From every shared state in `A`, the rest of the program with the pending writes `w` ends as
the whole program does when it is run alone, with no pending writes. -/
def Replays (h : Env Op Res ε σ) (mk : G → W → σ) (w₀ : W) (whole : Program Op Res ε α)
    (A : G → Prop) (rest : Program Op Res ε α) (w : W) : Prop :=
  ∀ g, A g → run h rest (mk g w) = run h whole (mk g w₀)

namespace Replays

variable {h : Env Op Res ε σ} {mk : G → W → σ} {w₀ w w' : W} {whole rest : Program Op Res ε α}
  {A A' : G → Prop}

/-- A thread that has not begun. -/
theorem start : Replays h mk w₀ whole A whole w₀ := fun _ _ => rfl

/-- Fewer states to speak of. -/
theorem mono (hr : Replays h mk w₀ whole A rest w) (hA : ∀ g, A' g → A g) :
    Replays h mk w₀ whole A' rest w :=
  fun g hg => hr g (hA g hg)

/-- **A step** whose answer and writes are the same from every state in `A'`. -/
theorem step {o : Op} {k : Except ε (Res o) → Program Op Res ε α} {a : Except ε (Res o)}
    (hr : Replays h mk w₀ whole A (.call o k) w) (hA : ∀ g, A' g → A g)
    (ho : ∀ g, A' g → h o (mk g w) = (a, mk g w')) : Replays h mk w₀ whole A' (k a) w' := by
  intro g hg
  have hrun := hr g (hA g hg)
  rw [run_call, ho g hg] at hrun
  exact hrun

/-- **The last step**: the outcome is that of the whole program from the present state. -/
theorem finish {o : Op} {k : Except ε (Res o) → Program Op Res ε α} {r : Except ε α} {g : G}
    (hr : Replays h mk w₀ whole A (.call o k) w) (hg : A g)
    (hk : k (h o (mk g w)).1 = .ret r) : run h whole (mk g w₀) = (r, (h o (mk g w)).2) := by
  have hrun := hr g hg
  rw [run_call, hk, run_ret] at hrun
  exact hrun.symm

end Replays

/-- Running threads one after the other: the outcome of each, and the state at the end. -/
def serial (one : ι → G → β × G) : G → List ι → List (ι × β) × G
  | g, [] => ([], g)
  | g, i :: l =>
      let rest := serial one (one i g).2 l
      ((i, (one i g).1) :: rest.1, rest.2)

theorem serial_append (one : ι → G → β × G) (g : G) (l : List ι) (i : ι) :
    serial one g (l ++ [i]) = ((serial one g l).1 ++ [(i, (one i (serial one g l).2).1)],
      (one i (serial one g l).2).2) := by
  induction l generalizing g with
  | nil => rfl
  | cons j l ih =>
      rw [List.cons_append, serial, ih]
      rfl

end Replay
