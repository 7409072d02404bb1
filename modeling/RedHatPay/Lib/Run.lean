/-
**Runs of a deterministic system.**

A system takes inputs one after the other; a run is a list of inputs.  What a run does step by
step is stated with `Run.Steps`: a relation between the state before a step and the input of that
step holds at every step of the run.

Main definitions:

* `Run.exec`, `Run.Steps`.

Main results:

* `Run.Steps.invariant` — **the rule for invariants**: what every admissible step keeps holds after
  every admissible run;
* `Run.steps_iff` — step by step, one relation may be replaced by another that is equivalent to it
  under an invariant.
-/

import Mathlib.Data.List.Basic

set_option relaxedAutoImplicit false
set_option autoImplicit false

namespace Run

variable {σ ι : Type} {step : σ → ι → σ} {ok ok' : σ → ι → Prop} {I : σ → Prop}

/-- The state after a list of inputs. -/
def exec (step : σ → ι → σ) : σ → List ι → σ
  | s, [] => s
  | s, i :: l => exec step (step s i) l

/-- The relation `ok` between state and input holds at every step of the run. -/
def Steps (step : σ → ι → σ) (ok : σ → ι → Prop) : σ → List ι → Prop
  | _, [] => True
  | s, i :: l => ok s i ∧ Steps step ok (step s i) l

instance [∀ s i, Decidable (ok s i)] : ∀ (l : List ι) (s : σ), Decidable (Steps step ok s l)
  | [], _ => inferInstanceAs (Decidable True)
  | i :: l, s =>
      have : Decidable (Steps step ok (step s i) l) := instDecidableSteps l (step s i)
      inferInstanceAs (Decidable (_ ∧ _))

theorem exec_append (s : σ) (l l' : List ι) :
    exec step s (l ++ l') = exec step (exec step s l) l' := by
  induction l generalizing s with
  | nil => rfl
  | cons i l ih => exact ih (step s i)

theorem steps_append {s : σ} {l l' : List ι} :
    Steps step ok s (l ++ l') ↔ Steps step ok s l ∧ Steps step ok (exec step s l) l' := by
  induction l generalizing s with
  | nil => exact (iff_of_eq (true_and _)).symm
  | cons i l ih =>
      rw [List.cons_append, Steps, ih, Steps, and_assoc]
      rfl

/-- **The rule for invariants.** -/
theorem Steps.invariant (hI : ∀ s i, I s → ok s i → I (step s i)) {s : σ} {l : List ι} (h : I s)
    (hl : Steps step ok s l) : I (exec step s l) := by
  induction l generalizing s with
  | nil => exact h
  | cons i l ih => exact ih (hI s i h hl.1) hl.2

/-- **The rule for invariants** that every step keeps. -/
theorem exec_invariant (hI : ∀ s i, I s → I (step s i)) {s : σ} (h : I s) (l : List ι) :
    I (exec step s l) := by
  induction l generalizing s with
  | nil => exact h
  | cons i l ih => exact ih (hI s i h)

/-- Under an invariant, one relation implies the other at every step. -/
theorem Steps.mono {s : σ} {l : List ι} (hok : ∀ s, ∀ i ∈ l, I s → ok s i → ok' s i)
    (hI : ∀ s, ∀ i ∈ l, I s → ok s i → I (step s i)) (h : I s) (hl : Steps step ok s l) :
    Steps step ok' s l := by
  induction l generalizing s with
  | nil => trivial
  | cons i l ih =>
      have htail : Steps step ok' (step s i) l :=
        ih (fun s j hj => hok s j (List.mem_cons_of_mem i hj))
          (fun s j hj => hI s j (List.mem_cons_of_mem i hj))
          (hI s i List.mem_cons_self h hl.1) hl.2
      exact ⟨hok s i List.mem_cons_self h hl.1, htail⟩

/-- Under an invariant, equivalent relations hold at every step of the same runs. -/
theorem steps_iff {s : σ} {l : List ι} (hok : ∀ s, ∀ i ∈ l, I s → (ok' s i ↔ ok s i))
    (hI : ∀ s, ∀ i ∈ l, I s → ok s i → I (step s i)) (h : I s) :
    Steps step ok' s l ↔ Steps step ok s l := by
  constructor
  · exact Steps.mono (fun s i hi hs => (hok s i hi hs).1)
      (fun s i hi hs hs' => hI s i hi hs ((hok s i hi hs).1 hs')) h
  · exact Steps.mono (fun s i hi hs => (hok s i hi hs).2) hI h

end Run
