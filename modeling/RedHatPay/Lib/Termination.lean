/-
**Runs of finitely many programs end.**

A program is a tree without infinite branches, and every step of a configuration leads one thread
to a subtree of its own.  So finitely many threads can not run for ever, whatever the operations
do and however the threads are scheduled; and if they never all wait, they all come to their ends.

Main definitions:

* `Interleave.Done` — all threads have ended;
* `Interleave.CanMove` — a thread that does not have to wait.

Main results:

* `Interleave.wellFounded_step`, `Interleave.no_infinite_run` — **no run is infinite**;
* `Interleave.exists_done` — if some thread can move in every reachable configuration in which not
  all have ended, then every run can be continued to one in which all have ended.
-/

import Mathlib.Data.DFinsupp.WellFounded
import RedHatPay.Lib.Interleave

set_option relaxedAutoImplicit false
set_option autoImplicit false

namespace Interleave

variable {ι Op : Type} {Res : Op → Type} {ε α L G : Type}

/-- What may remain of a program after one operation. -/
def Remains (p' p : Program Op Res ε α) : Prop :=
  ∃ o k a, p = .call o k ∧ p' = k a

theorem wellFounded_remains :
    WellFounded (Remains : Program Op Res ε α → Program Op Res ε α → Prop) := by
  refine ⟨fun p => ?_⟩
  induction p with
  | ret r =>
      refine ⟨_, ?_⟩
      rintro p' ⟨o, k, a, hp, -⟩
      cases hp
  | call o k ih =>
      refine ⟨_, ?_⟩
      rintro p' ⟨o', k', a, hp, rfl⟩
      cases hp
      exact ih a

variable [DecidableEq ι]

/-- All threads have ended. -/
def Done (c : Config ι Op Res ε α L G) : Prop := ∀ i, ∃ r, c.prog i = .ret r

/-- The thread can make its next step. -/
def CanMove (R : Semantics ι Op Res ε L G) (c : Config ι Op Res ε α L G) (i : ι) : Prop :=
  ∃ o k a g l, c.prog i = .call o k ∧ R i c.glob (c.loc i) o a g l

variable {R : Semantics ι Op Res ε L G} {c₀ c : Config ι Op Res ε α L G}

theorem CanMove.step {i : ι} (h : CanMove R c i) : ∃ c', Step R c c' := by
  obtain ⟨o, k, a, g, l, hp, hR⟩ := h
  exact ⟨_, .of i o k a g l hp hR⟩

/-- **Every run of finitely many threads ends**: each step shortens the program of one thread, and
leaves the others as they are. -/
theorem wellFounded_step [Finite ι] (R : Semantics ι Op Res ε L G) :
    WellFounded fun c' c : Config ι Op Res ε α L G => Step R c c' := by
  have hlex : WellFounded (Pi.Lex (WellOrderingRel : ι → ι → Prop)
      fun {_} => (Remains : Program Op Res ε α → Program Op Res ε α → Prop)) :=
    Pi.Lex.wellFounded _ fun _ => wellFounded_remains
  refine Subrelation.wf ?_ (InvImage.wf Config.prog hlex)
  rintro c' c ⟨i, o, k, a, g, l, hp, -⟩
  refine ⟨i, fun j hj => ?_, ?_⟩
  · exact Function.update_of_ne (ne_of_irrefl hj) _ _
  · exact ⟨o, k, a, hp, Function.update_self _ _ _⟩

/-- **No run is infinite.** -/
theorem no_infinite_run [Finite ι] (run : Nat → Config ι Op Res ε α L G) :
    ¬ ∀ n, Step R (run n) (run (n + 1)) := by
  intro hrun
  have hempty := wellFounded_iff_isEmpty_descending_chain.1 (wellFounded_step (α := α) R)
  exact hempty.false ⟨run, hrun⟩

/-- If never all threads wait, every run can be continued to the end of all threads. -/
theorem exists_done [Finite ι]
    (hmove : ∀ c, Reachable R c₀ c → Done c ∨ ∃ i, CanMove R c i) (h : Reachable R c₀ c) :
    ∃ c', Reachable R c c' ∧ Done c' := by
  induction c using (wellFounded_step (α := α) R).induction with
  | _ c ih =>
      rcases hmove c h with hdone | ⟨i, hi⟩
      · exact ⟨c, .refl, hdone⟩
      · obtain ⟨c₁, hs⟩ := hi.step
        obtain ⟨c', hc', hdone⟩ := ih c₁ hs (h.tail hs)
        exact ⟨c', .head hs hc', hdone⟩

end Interleave
