/-
**Programs running side by side.**

Any number of threads, each with a program and a local state, share a global state.  One step of
the whole is one operation of one thread; which answers an operation may give, and what it does to
the thread's own and to the shared state, is the semantics of the operations.

Main definitions:

* `Interleave.Config`, `Interleave.Semantics`, `Interleave.Step`, `Interleave.Reachable`;
* `Interleave.Turn`, `Interleave.Config.play` — playing a schedule.

Main results:

* `Interleave.glob_of_reachable` — what no operation changes of the shared state stays;
* `Interleave.safe_of_reachable` — a thread whose program is safe on its own, for every answer
  that the semantics allows, stays safe among any others;
* `Interleave.safe_thread` — so does one thread among others of which nothing is known;
* `Interleave.calls_of_reachable`, `Interleave.ret_of_reachable` — a thread calls nothing but what
  its program calls, and a thread that has ended does nothing more;
* `Interleave.invariant`, `Interleave.invariant_safe` — **the rules for invariants**: what holds
  initially and is kept by every step of a thread that is still safe holds of every reachable
  configuration;
* `Interleave.reachable_play` — a schedule that is played is a run.
-/

import Mathlib.Logic.Relation
import RedHatPay.Lib.Program

set_option relaxedAutoImplicit false
set_option autoImplicit false

namespace Interleave

variable {ι Op : Type} {Res : Op → Type} {ε α L G : Type}

/-- The threads, with what remains of their programs and with their local states, and the shared
state. -/
structure Config (ι Op : Type) (Res : Op → Type) (ε α L G : Type) where
  prog : ι → Program Op Res ε α
  loc : ι → L
  glob : G

/-- What an operation of thread `i` may do: from the shared and the local state, the answer and
the two states after it. -/
abbrev Semantics (ι Op : Type) (Res : Op → Type) (ε L G : Type) : Type :=
  ι → G → L → (o : Op) → Except ε (Res o) → G → L → Prop

/-- The configuration after thread `i` has made a step. -/
def Config.next [DecidableEq ι] (c : Config ι Op Res ε α L G) (i : ι) (p : Program Op Res ε α)
    (l : L) (g : G) : Config ι Op Res ε α L G :=
  ⟨Function.update c.prog i p, Function.update c.loc i l, g⟩

@[simp] theorem Config.next_prog_self [DecidableEq ι] (c : Config ι Op Res ε α L G) (i : ι)
    (p : Program Op Res ε α) (l : L) (g : G) : (c.next i p l g).prog i = p :=
  Function.update_self _ _ _

@[simp] theorem Config.next_loc_self [DecidableEq ι] (c : Config ι Op Res ε α L G) (i : ι)
    (p : Program Op Res ε α) (l : L) (g : G) : (c.next i p l g).loc i = l :=
  Function.update_self _ _ _

theorem Config.next_prog_of_ne [DecidableEq ι] (c : Config ι Op Res ε α L G) {i j : ι} (h : j ≠ i)
    (p : Program Op Res ε α) (l : L) (g : G) : (c.next i p l g).prog j = c.prog j :=
  Function.update_of_ne h _ _

theorem Config.next_loc_of_ne [DecidableEq ι] (c : Config ι Op Res ε α L G) {i j : ι} (h : j ≠ i)
    (p : Program Op Res ε α) (l : L) (g : G) : (c.next i p l g).loc j = c.loc j :=
  Function.update_of_ne h _ _

/-- What holds of the thread that has made the step, and of all others, holds of all threads. -/
theorem Config.forall_next [DecidableEq ι] (c : Config ι Op Res ε α L G) {i : ι}
    {p : Program Op Res ε α} {l : L} {g : G} {P : ι → Program Op Res ε α → L → Prop} (hi : P i p l)
    (hne : ∀ j, j ≠ i → P j (c.prog j) (c.loc j)) (j : ι) :
    P j ((c.next i p l g).prog j) ((c.next i p l g).loc j) := by
  by_cases hj : j = i
  · subst hj
    simpa [Config.next] using hi
  · simpa [Config.next, Function.update_of_ne hj] using hne j hj

/-- One operation of one thread. -/
inductive Step [DecidableEq ι] (R : Semantics ι Op Res ε L G) :
    Config ι Op Res ε α L G → Config ι Op Res ε α L G → Prop
  | of {c : Config ι Op Res ε α L G} (i : ι) (o : Op) (k : Except ε (Res o) → Program Op Res ε α)
      (a : Except ε (Res o)) (g : G) (l : L) (hp : c.prog i = .call o k)
      (hR : R i c.glob (c.loc i) o a g l) : Step R c (c.next i (k a) l g)

/-- The configurations that a run from `c₀` can reach, under any scheduling. -/
def Reachable [DecidableEq ι] (R : Semantics ι Op Res ε L G) (c₀ c : Config ι Op Res ε α L G) :
    Prop :=
  Relation.ReflTransGen (Step R) c₀ c

variable [DecidableEq ι] {R : Semantics ι Op Res ε L G} {c₀ c : Config ι Op Res ε α L G}
  {S : ι → Program.Spec Op Res ε L} {Q : ι → Except ε α → L → Prop} {K : G → Prop}

/-- All threads are safe. -/
def AllSafe (S : ι → Program.Spec Op Res ε L) (Q : ι → Except ε α → L → Prop)
    (c : Config ι Op Res ε α L G) : Prop :=
  ∀ i, Program.Safe (S i) (Q i) (c.prog i) (c.loc i)

/-- What no operation changes of the shared state holds in every run. -/
theorem glob_of_reachable (hK : ∀ i g l o a g' l', K g → R i g l o a g' l' → K g')
    (h₀ : K c₀.glob) (h : Reachable R c₀ c) : K c.glob := by
  induction h with
  | refl => exact h₀
  | tail _ hs ih =>
      cases hs with
      | of i o k a g l hp hstep => exact hK _ _ _ _ _ _ _ ih hstep

theorem allSafe_step (hR : ∀ i g l o a g' l', K g → R i g l o a g' l' → (S i).pre l o →
    (S i).post l o a l') {c' : Config ι Op Res ε α L G} (hg : K c.glob) (h : AllSafe S Q c)
    (hs : Step R c c') : AllSafe S Q c' := by
  cases hs with
  | of i o k a g l hp hstep =>
      have hsafe := h i
      rw [hp] at hsafe
      exact c.forall_next (P := fun j p l => Program.Safe (S j) (Q j) p l)
        (hsafe.2 a l (hR _ _ _ _ _ _ _ hg hstep hsafe.1)) fun j _ => h j

/-- Safe threads stay safe in every run. -/
theorem safe_of_reachable (hK : ∀ i g l o a g' l', K g → R i g l o a g' l' → K g')
    (hR : ∀ i g l o a g' l', K g → R i g l o a g' l' → (S i).pre l o → (S i).post l o a l')
    (hg : K c₀.glob) (h₀ : AllSafe S Q c₀) (h : Reachable R c₀ c) : AllSafe S Q c := by
  induction h with
  | refl => exact h₀
  | tail hreach hs ih => exact allSafe_step hR (glob_of_reachable hK hg hreach) ih hs

/-- One thread that is safe on its own stays so, whatever the others do. -/
theorem safe_thread {i : ι} {S : Program.Spec Op Res ε L} {Q : Except ε α → L → Prop}
    (hR : ∀ g l o a g' l', R i g l o a g' l' → S.pre l o → S.post l o a l')
    (h₀ : Program.Safe S Q (c₀.prog i) (c₀.loc i)) (h : Reachable R c₀ c) :
    Program.Safe S Q (c.prog i) (c.loc i) := by
  induction h with
  | refl => exact h₀
  | @tail c₁ _ _ hs ih =>
      cases hs with
      | of j o k a g l hp hstep =>
          by_cases hij : i = j
          · subst hij
            rw [hp] at ih
            rw [Config.next_prog_self, Config.next_loc_self]
            exact ih.2 a l (hR _ _ _ _ _ _ hstep ih.1)
          · rw [c₁.next_prog_of_ne hij, c₁.next_loc_of_ne hij]
            exact ih

/-- A run is a run of every semantics that allows more. -/
theorem Reachable.mono {R' : Semantics ι Op Res ε L G}
    (hR : ∀ i g l o a g' l', R i g l o a g' l' → R' i g l o a g' l') (h : Reachable R c₀ c) :
    Reachable R' c₀ c := by
  induction h with
  | refl => exact .refl
  | tail _ hs ih =>
      cases hs with
      | of i o k a g l hp hstep => exact ih.tail (.of i o k a g l hp (hR _ _ _ _ _ _ _ hstep))

/-- A thread that has ended does nothing more. -/
theorem ret_of_reachable {c' : Config ι Op Res ε α L G} {i : ι} {r : Except ε α}
    (hr : c.prog i = .ret r) (h : Reachable R c c') : c'.prog i = .ret r := by
  induction h with
  | refl => exact hr
  | tail _ hs ih =>
      cases hs with
      | of j o k a g l hp hR =>
          have hij : i ≠ j := by
            rintro rfl
            rw [ih] at hp
            cases hp
          exact (Config.next_prog_of_ne _ hij _ _ _).trans ih

/-- What the programs may call, they may call in every run. -/
theorem calls_of_reachable {P : ι → Op → Prop} (h₀ : ∀ i, Program.Calls (P i) (c₀.prog i))
    (h : Reachable R c₀ c) : ∀ i, Program.Calls (P i) (c.prog i) := by
  induction h with
  | refl => exact h₀
  | @tail c₁ _ _ hs ih =>
      cases hs with
      | of i o k a g l hp hR =>
          have hi := ih i
          rw [hp] at hi
          exact c₁.forall_next (P := fun j p _ => Program.Calls (P j) p) (l := l) (g := g) (hi.2 a)
            fun j _ => ih j

/-- **The rule for invariants**: a property of configurations that holds initially and that every
step of a safe thread keeps holds of every reachable configuration. -/
theorem invariant (hK : ∀ i g l o a g' l', K g → R i g l o a g' l' → K g')
    (hR : ∀ i g l o a g' l', K g → R i g l o a g' l' → (S i).pre l o → (S i).post l o a l')
    (hg : K c₀.glob) (h₀ : AllSafe S Q c₀) {J : Config ι Op Res ε α L G → Prop} (hJ₀ : J c₀)
    (hJ : ∀ c, K c.glob → AllSafe S Q c → J c → ∀ i o k a g l, c.prog i = .call o k →
      R i c.glob (c.loc i) o a g l → J (c.next i (k a) l g))
    (h : Reachable R c₀ c) : J c := by
  induction h with
  | refl => exact hJ₀
  | tail hreach hs ih =>
      have hsafe := safe_of_reachable hK hR hg h₀ hreach
      cases hs with
      | of i o k a g l hp hstep =>
          exact hJ _ (glob_of_reachable hK hg hreach) hsafe ih i o k a g l hp hstep

/-- **The rule for invariants that the specification rests on**: the operations need to meet the
specification only where the invariant holds. -/
theorem invariant_safe (h₀ : AllSafe S Q c₀) {J : Config ι Op Res ε α L G → Prop} (hJ₀ : J c₀)
    (hJ : ∀ c, AllSafe S Q c → J c → ∀ i o k a g l, c.prog i = .call o k →
      R i c.glob (c.loc i) o a g l → (S i).post (c.loc i) o a l ∧ J (c.next i (k a) l g))
    (h : Reachable R c₀ c) : AllSafe S Q c ∧ J c := by
  induction h with
  | refl => exact ⟨h₀, hJ₀⟩
  | @tail c₁ _ _ hs ih =>
      obtain ⟨hsafe, hc⟩ := ih
      cases hs with
      | of i o k a g l hp hstep =>
          obtain ⟨hpost, hnext⟩ := hJ c₁ hsafe hc i o k a g l hp hstep
          have hi := hsafe i
          rw [hp] at hi
          exact ⟨c₁.forall_next (P := fun j p l => Program.Safe (S j) (Q j) p l) (hi.2 a l hpost)
            fun j _ => hsafe j, hnext⟩

/-! ### Schedules -/

/-- What a thread does when it is its turn: the answer and the two states after the operation, or
nothing, if it has to wait. -/
abbrev Turn (Op : Type) (Res : Op → Type) (ε L G : Type) : Type :=
  (o : Op) → G → L → Option (Except ε (Res o) × G × L)

/-- The configuration after one turn. -/
def Config.play {τ : Type} (who : τ → ι) (turn : τ → Turn Op Res ε L G)
    (c : Config ι Op Res ε α L G) (t : τ) : Config ι Op Res ε α L G :=
  match c.prog (who t) with
  | .ret _ => c
  | .call o k =>
      match turn t o c.glob (c.loc (who t)) with
      | some (a, g, l) => c.next (who t) (k a) l g
      | none => c

/-- A schedule that is played is a run. -/
theorem reachable_play {τ : Type} {who : τ → ι} {turn : τ → Turn Op Res ε L G}
    (hR : ∀ t o g l a g' l', turn t o g l = some (a, g', l') → R (who t) g l o a g' l')
    (c : Config ι Op Res ε α L G) (schedule : List τ) :
    Reachable R c (schedule.foldl (Config.play who turn) c) := by
  induction schedule generalizing c with
  | nil => exact .refl
  | cons t schedule ih =>
      refine Relation.ReflTransGen.trans ?_ (ih (c.play who turn t))
      rw [Config.play]
      split
      · exact .refl
      · rename_i o k hp
        split
        · rename_i a g l hturn
          exact .single (.of (who t) o k a g l hp (hR t o _ _ a g l hturn))
        · exact .refl

end Interleave
