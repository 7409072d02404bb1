/-
**Ghost variables.**

What a thread has been through is not in its local state, if no later operation depends on it.  A
ghost variable records it: it is updated by every operation of the thread, from the state that the
operation finds and the answer that it gets, and nothing depends on it.  Every run is the erasure
of a run with ghost variables, so that whatever is proved with them of the rest of a configuration
holds without them.

Main definitions:

* `Interleave.withGhost` — a semantics with a ghost variable for each thread;
* `Interleave.Config.erase` — a configuration without its ghost variables;
* `Interleave.Past` — something held of the shared state at an earlier point of the run.

Main results:

* `Interleave.reachable_erase` — erasing a run;
* `Interleave.exists_ghost` — **ghost variables can be added to every run**;
* `Interleave.Past.step` — what was the case at some point stays so.
-/

import RedHatPay.Lib.Interleave

set_option relaxedAutoImplicit false
set_option autoImplicit false

namespace Interleave

variable {ι Op : Type} {Res : Op → Type} {ε α L G H : Type}

/-- The update of the ghost variable of a thread, by an operation in the given states. -/
abbrev Update (ι Op : Type) (Res : Op → Type) (ε L G H : Type) : Type :=
  ι → G → L → (o : Op) → Except ε (Res o) → H → H

/-- The semantics with a ghost variable for each thread. -/
def withGhost (R : Semantics ι Op Res ε L G) (upd : Update ι Op Res ε L G H) :
    Semantics ι Op Res ε (L × H) G :=
  fun i g l o a g' l' => R i g l.1 o a g' l'.1 ∧ l'.2 = upd i g l.1 o a l.2

/-- The configuration without its ghost variables. -/
def Config.erase (c : Config ι Op Res ε α (L × H) G) : Config ι Op Res ε α L G :=
  ⟨c.prog, fun i => (c.loc i).1, c.glob⟩

/-- A configuration with ghost variables that all have the given value. -/
def Config.decorate (c : Config ι Op Res ε α L G) (h : H) : Config ι Op Res ε α (L × H) G :=
  ⟨c.prog, fun i => (c.loc i, h), c.glob⟩

variable [DecidableEq ι]

theorem Config.erase_next (c : Config ι Op Res ε α (L × H) G) (i : ι) (p : Program Op Res ε α)
    (l : L × H) (g : G) : (c.next i p l g).erase = c.erase.next i p l.1 g := by
  have hloc : (fun j => (Function.update c.loc i l j).1) =
      Function.update (fun j => (c.loc j).1) i l.1 := Function.comp_update Prod.fst c.loc i l
  rw [Config.erase, Config.next, Config.next, hloc]
  rfl

variable {R : Semantics ι Op Res ε L G} {upd : Update ι Op Res ε L G H}
  {d₀ d d' : Config ι Op Res ε α (L × H) G} {c₀ c c' : Config ι Op Res ε α L G}

theorem step_erase (h : Step (withGhost R upd) d d') : Step R d.erase d'.erase := by
  cases h with
  | of i o k a g l hp hR =>
      rw [Config.erase_next]
      exact .of i o k a g l.1 hp hR.1

/-- Erasing a run. -/
theorem reachable_erase (h : Reachable (withGhost R upd) d₀ d) : Reachable R d₀.erase d.erase := by
  induction h with
  | refl => exact .refl
  | tail _ hs ih => exact ih.tail (step_erase hs)

/-- **Ghost variables can be added to every run.** -/
theorem exists_ghost (R : Semantics ι Op Res ε L G) (upd : Update ι Op Res ε L G H) (h₀ : H)
    (h : Reachable R c₀ c) :
    ∃ d, Reachable (withGhost R upd) (c₀.decorate h₀) d ∧ d.erase = c := by
  induction h with
  | refl => exact ⟨c₀.decorate h₀, .refl, rfl⟩
  | tail _ hs ih =>
      obtain ⟨d, hreach, rfl⟩ := ih
      cases hs with
      | of i o k a g l hp hR =>
          have hstep : Step (withGhost R upd) d
              (d.next i (k a) (l, upd i d.glob (d.loc i).1 o a (d.loc i).2) g) :=
            .of i o k a g _ hp ⟨hR, rfl⟩
          exact ⟨_, hreach.tail hstep, d.erase_next i _ _ g⟩

/-- At some point of a run from `c₀` to `c`, the shared state had the property. -/
def Past (R : Semantics ι Op Res ε L G) (c₀ c : Config ι Op Res ε α L G) (P : G → Prop) : Prop :=
  ∃ c', Reachable R c₀ c' ∧ Reachable R c' c ∧ P c'.glob

/-- What is the case now is the case at some point of the run. -/
theorem Past.now {P : G → Prop} (h : Reachable R c₀ c) (hP : P c.glob) : Past R c₀ c P :=
  ⟨c, h, .refl, hP⟩

/-- What was the case at some point stays so. -/
theorem Past.step {P : G → Prop} (h : Past R c₀ c P) (hs : Step R c c') : Past R c₀ c' P := by
  obtain ⟨c₁, h₀, h₁, hP⟩ := h
  exact ⟨c₁, h₀, h₁.tail hs, hP⟩

end Interleave
