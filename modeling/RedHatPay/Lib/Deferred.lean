/-
**Calls whose effects take place later.**

An asynchronous call is answered at once.  What it is to do is handed over, as a list of single
effects, and each of them takes place at some later time: before the next call of the program,
between two of them, or after the program has ended, in whatever order.  A run is complete when the
program has ended and no effect is pending.

Main definitions:

* `Deferred.Executor` — which calls take effect at once, and what the others hand over;
* `Deferred.Config`, `Deferred.Step`, `Deferred.Reachable` — a program, the effects that are pending
  and those that have taken place;
* `Deferred.HandsOver`, `Deferred.Plan` — what a program hands over in all, and what it does before.

Main results:

* `Deferred.Plan.complete` — **exactly once**: in a complete run every effect that was handed over
  has taken place once, and there was no other;
* `Deferred.Plan.complete_of_comm` — effects that commute leave the state that they leave in the
  order in which they were handed over;
* `Deferred.HandsOver.run` — carrying out each call as a whole comes to the same;
* `Deferred.exists_complete` — every run can be completed.
-/

import Mathlib.Logic.Relation
import RedHatPay.Lib.Program

set_option relaxedAutoImplicit false
set_option autoImplicit false

namespace Deferred

variable {Op : Type} {Res : Op → Type} {ε α β σ ρ : Type}

/-! ### Runs -/

/-- How the calls of a program are carried out. -/
structure Executor (Op : Type) (Res : Op → Type) (ε σ ρ : Type) where
  /-- What a call does that takes effect at once. -/
  atOnce : Program.Env Op Res ε σ
  /-- The answer to a call that takes effect later, and the effects that it hands over. -/
  later : (o : Op) → Option (Except ε (Res o) × List ρ)
  /-- What an effect does when it takes place. -/
  effect : σ → ρ → σ

/-- What remains of a program, the state, the effects that are pending, and those that have taken
place, in this order. -/
structure Config (Op : Type) (Res : Op → Type) (ε α σ ρ : Type) where
  prog : Program Op Res ε α
  now : σ
  pending : List ρ
  settled : List ρ

/-- A program that is about to begin. -/
def Config.start (p : Program Op Res ε α) (s : σ) : Config Op Res ε α σ ρ := ⟨p, s, [], []⟩

/-- The program has ended with `r`, and no effect is pending. -/
def Config.Complete (c : Config Op Res ε α σ ρ) (r : Except ε α) : Prop :=
  c.prog = .ret r ∧ c.pending = []

/-- A call of the program, or a pending effect, be it the oldest or not. -/
inductive Step (x : Executor Op Res ε σ ρ) : Config Op Res ε α σ ρ → Config Op Res ε α σ ρ → Prop
  | atOnce {o : Op} {k : Except ε (Res o) → Program Op Res ε α} {s : σ} {l d : List ρ}
      (ho : x.later o = none) :
      Step x ⟨.call o k, s, l, d⟩ ⟨k (x.atOnce o s).1, (x.atOnce o s).2, l, d⟩
  | handOver {o : Op} {k : Except ε (Res o) → Program Op Res ε α} {s : σ} {l d new : List ρ}
      {a : Except ε (Res o)} (ho : x.later o = some (a, new)) :
      Step x ⟨.call o k, s, l, d⟩ ⟨k a, s, l ++ new, d⟩
  | settle {p : Program Op Res ε α} {s : σ} {l l₁ l₂ d : List ρ} {e : ρ} (hl : l = l₁ ++ e :: l₂) :
      Step x ⟨p, s, l, d⟩ ⟨p, x.effect s e, l₁ ++ l₂, d ++ [e]⟩

/-- The configurations that a run from `c₀` can reach. -/
def Reachable (x : Executor Op Res ε σ ρ) (c₀ c : Config Op Res ε α σ ρ) : Prop :=
  Relation.ReflTransGen (Step x) c₀ c

variable {x : Executor Op Res ε σ ρ}

/-- Every run can be completed. -/
theorem exists_complete (c : Config Op Res ε α σ ρ) : ∃ t r, Reachable x c t ∧ t.Complete r := by
  obtain ⟨p, s, l, d⟩ := c
  induction p generalizing s l with
  | ret r =>
      -- the effects that are left take place one after the other
      induction l generalizing s d with
      | nil => exact ⟨_, r, .refl, rfl, rfl⟩
      | cons e l ih =>
          obtain ⟨t, r', ht, hr'⟩ := ih (d ++ [e]) (x.effect s e)
          exact ⟨t, r', ht.head (.settle (List.nil_append _).symm), hr'⟩
  | call o k ih =>
      rcases ho : x.later o with _ | ⟨a, new⟩
      · obtain ⟨t, r, ht, hr⟩ := ih (x.atOnce o s).1 (x.atOnce o s).2 l
        exact ⟨t, r, ht.head (.atOnce ho), hr⟩
      · obtain ⟨t, r, ht, hr⟩ := ih a s (l ++ new)
        exact ⟨t, r, ht.head (.handOver ho), hr⟩

/-! ### What a program hands over -/

/-- All calls of the program hand over their effects; these are `l` in all, and the program ends
with `r`. -/
inductive HandsOver (x : Executor Op Res ε σ ρ) :
    Program Op Res ε α → Except ε α → List ρ → Prop
  | ret (r : Except ε α) : HandsOver x (.ret r) r []
  | call {o : Op} {k : Except ε (Res o) → Program Op Res ε α} {a : Except ε (Res o)}
      {new l : List ρ} {r : Except ε α} (ho : x.later o = some (a, new))
      (h : HandsOver x (k a) r l) : HandsOver x (.call o k) r (new ++ l)

namespace HandsOver

theorem perform {o : Op} {a : Except ε (Res o)} {new : List ρ} (ho : x.later o = some (a, new)) :
    HandsOver x (Program.perform o) a new := by
  have h := HandsOver.call (k := Program.ret) ho (.ret a)
  rwa [List.append_nil] at h

theorem bind {p : Program Op Res ε α} {f : α → Program Op Res ε β} {a : α} {r : Except ε β}
    {l l' : List ρ} (hp : HandsOver x p (.ok a) l) (hf : HandsOver x (f a) r l') :
    HandsOver x (p >>= f) r (l ++ l') := by
  generalize hra : Except.ok a = ra at hp
  induction hp with
  | ret _ =>
      subst hra
      exact hf
  | call ho _ ih =>
      rw [List.append_assoc]
      exact .call ho (ih hra)

end HandsOver

/-- **Simulation**: an environment that carries out each such call as a whole ends where the effects
lead one after the other, up to a relation between the states that every call keeps. -/
theorem HandsOver.run {τ : Type} {h : Program.Env Op Res ε τ} {R : τ → σ → Prop}
    (hR : ∀ o a new s t, x.later o = some (a, new) → R s t →
      (h o s).1 = a ∧ R (h o s).2 (new.foldl x.effect t))
    {p : Program Op Res ε α} {r : Except ε α} {l : List ρ} (hp : HandsOver x p r l) {s : τ} {t : σ}
    (hst : R s t) : (Program.run h p s).1 = r ∧ R (Program.run h p s).2 (l.foldl x.effect t) := by
  induction hp generalizing s t with
  | ret r => exact ⟨rfl, hst⟩
  | call ho _ ih =>
      obtain ⟨hout, hst'⟩ := hR _ _ _ _ _ ho hst
      rw [Program.run_call, hout, List.foldl_append]
      exact ih hst'

/-- The calls that take effect at once come first and lead from `s` to `s'`; all others hand over
their effects, which are `l` in all, and the program ends with `r`. -/
inductive Plan (x : Executor Op Res ε σ ρ) :
    Program Op Res ε α → σ → Except ε α → σ → List ρ → Prop
  | handsOver {p : Program Op Res ε α} {s : σ} {r : Except ε α} {l : List ρ}
      (h : HandsOver x p r l) : Plan x p s r s l
  | atOnce {o : Op} {k : Except ε (Res o) → Program Op Res ε α} {s s' : σ} {r : Except ε α}
      {l : List ρ} (ho : x.later o = none)
      (h : Plan x (k (x.atOnce o s).1) (x.atOnce o s).2 r s' l) : Plan x (.call o k) s r s' l

/-! ### The invariant of a run -/

/-- Where a run stands: it has handed nothing over yet; or the effects that have taken place, those
that are pending and those still to be handed over are all of `total`, and the state is what the
first of these have made of `s'`. -/
inductive Along (x : Executor Op Res ε σ ρ) (r : Except ε α) (s' : σ) (total : List ρ) :
    Config Op Res ε α σ ρ → Prop
  | before {p : Program Op Res ε α} {s : σ} (h : Plan x p s r s' total) :
      Along x r s' total ⟨p, s, [], []⟩
  | handing {p : Program Op Res ε α} {l d rest : List ρ} (h : HandsOver x p r rest)
      (hperm : (d ++ l ++ rest).Perm total) :
      Along x r s' total ⟨p, d.foldl x.effect s', l, d⟩

variable {r : Except ε α} {s' : σ} {total : List ρ} {c c' : Config Op Res ε α σ ρ}

/-- Handing over goes on. -/
theorem Along.step_handing {p : Program Op Res ε α} {l d rest : List ρ} (h : HandsOver x p r rest)
    (hperm : (d ++ l ++ rest).Perm total) (hs : Step x ⟨p, d.foldl x.effect s', l, d⟩ c) :
    Along x r s' total c := by
  cases hs with
  | atOnce ho =>
      cases h with
      | call ho' _ => cases ho.symm.trans ho'
  | handOver ho =>
      cases h with
      | call ho' h' =>
          cases ho.symm.trans ho'
          exact .handing h' (by simpa only [List.append_assoc] using hperm)
  | @settle _ _ _ l₁ l₂ _ e hl =>
      subst hl
      have hnow : x.effect (d.foldl x.effect s') e = (d ++ [e]).foldl x.effect s' := by
        rw [List.foldl_append, List.foldl_cons, List.foldl_nil]
      have hmoved : ((d ++ [e]) ++ (l₁ ++ l₂)).Perm (d ++ (l₁ ++ e :: l₂)) := by
        rw [List.append_assoc, List.singleton_append]
        exact List.perm_middle.symm.append_left d
      rw [hnow]
      exact .handing h ((hmoved.append_right rest).trans hperm)

/-- **The step lemma**: a run stays on its plan. -/
theorem Along.step (h : Along x r s' total c) (hs : Step x c c') : Along x r s' total c' := by
  cases h with
  | handing h hperm => exact step_handing h hperm hs
  | before h =>
      cases h with
      | handsOver h => exact step_handing (d := []) h (List.Perm.refl _) hs
      | atOnce ho h =>
          cases hs with
          | atOnce _ => exact .before h
          | handOver ho' => cases ho.symm.trans ho'
          | settle hl => exact absurd hl.symm (by simp)

/-- **The run lemma**: so does the whole run. -/
theorem Plan.along {p : Program Op Res ε α} {s : σ} (h : Plan x p s r s' total)
    (hc : Reachable x (.start p s) c) : Along x r s' total c := by
  induction hc with
  | refl => exact .before h
  | tail _ hs ih => exact ih.step hs

/-- **Exactly once**: in a complete run every effect that the program hands over has taken place
once, and there was no other. -/
theorem Plan.complete {p : Program Op Res ε α} {s : σ} (h : Plan x p s r s' total)
    (hc : Reachable x (.start p s) c) {r' : Except ε α} (hr : c.Complete r') :
    r' = r ∧ c.settled.Perm total ∧ c.now = c.settled.foldl x.effect s' := by
  obtain ⟨prog, now, pending, settled⟩ := c
  obtain ⟨rfl, rfl⟩ : prog = .ret r' ∧ pending = [] := hr
  cases h.along hc with
  | before h =>
      cases h with
      | handsOver h =>
          cases h with
          | ret _ => exact ⟨rfl, List.Perm.refl _, rfl⟩
  | handing h hperm =>
      cases h with
      | ret _ => exact ⟨rfl, by simpa using hperm, rfl⟩

/-- Effects that commute leave the state that they leave in the order in which they were handed
over, or in any other order. -/
theorem Plan.complete_of_comm {p : Program Op Res ε α} {s : σ} (h : Plan x p s r s' total)
    (hc : Reachable x (.start p s) c) {r' : Except ε α} (hr : c.Complete r') {l : List ρ}
    (hl : total.Perm l) (hcomm : ∀ e ∈ l, ∀ e' ∈ l, ∀ t,
      x.effect (x.effect t e) e' = x.effect (x.effect t e') e) :
    r' = r ∧ c.settled.Perm l ∧ c.now = l.foldl x.effect s' := by
  obtain ⟨hout, hsettled, hnow⟩ := h.complete hc hr
  have hperm : c.settled.Perm l := hsettled.trans hl
  refine ⟨hout, hperm, hnow.trans ?_⟩
  exact (hperm.symm.foldl_eq' hcomm s').symm

end Deferred
