/-
**Loops that end, and how many rounds they take.**

The statement `while (guard) body`, where the body may throw and may change the state before it
does.  The loop is kept as a relation between the state it starts in, the number of rounds that it
completes, and what it ends in.  A loop that does not end is related to nothing, so that to say
that the loop ends is to say something.

Main definitions:

* `Loop.Ends` — the loop ends after a number of rounds.

Main results:

* `Loop.Ends.unique` — it ends in one way only;
* `Loop.ends_of_variant` — **the rule for termination**: a loop ends if every round lowers a
  variant.
-/

import Mathlib.Order.Basic

set_option relaxedAutoImplicit false
set_option autoImplicit false

namespace Loop

variable {σ ε α : Type} {guard : σ → Bool} {body : σ → Except ε α × σ}

/-- The loop ends after `n` rounds, because the guard fails or because the body throws. -/
inductive Ends (guard : σ → Bool) (body : σ → Except ε α × σ) :
    σ → Nat → Except ε Unit → σ → Prop
  | exit {s : σ} (hguard : guard s = false) : Ends guard body s 0 (.ok ()) s
  | throw {s s' : σ} {e : ε} (hguard : guard s = true) (hbody : body s = (.error e, s')) :
      Ends guard body s 0 (.error e) s'
  | round {s s' s'' : σ} {a : α} {n : Nat} {r : Except ε Unit} (hguard : guard s = true)
      (hbody : body s = (.ok a, s')) (h : Ends guard body s' n r s'') :
      Ends guard body s (n + 1) r s''

namespace Ends

/-- A loop ends in one way only. -/
theorem unique {s t t' : σ} {n n' : Nat} {r r' : Except ε Unit} (h : Ends guard body s n r t)
    (h' : Ends guard body s n' r' t') : n = n' ∧ r = r' ∧ t = t' := by
  induction h generalizing n' with
  | exit hguard =>
      cases h' with
      | exit _ => exact ⟨rfl, rfl, rfl⟩
      | throw hguard' _ => cases hguard.symm.trans hguard'
      | round hguard' _ _ => cases hguard.symm.trans hguard'
  | throw hguard hbody =>
      cases h' with
      | exit hguard' => cases hguard.symm.trans hguard'
      | throw _ hbody' =>
          cases hbody.symm.trans hbody'
          exact ⟨rfl, rfl, rfl⟩
      | round _ hbody' _ => cases hbody.symm.trans hbody'
  | round hguard hbody _ ih =>
      cases h' with
      | exit hguard' => cases hguard.symm.trans hguard'
      | throw _ hbody' => cases hbody.symm.trans hbody'
      | round _ hbody' h'' =>
          cases hbody.symm.trans hbody'
          obtain ⟨rfl, hr, ht⟩ := ih h''
          exact ⟨rfl, hr, ht⟩

end Ends

/-- **The rule for termination**: every round lowers a variant. -/
theorem ends_of_variant (v : σ → Nat)
    (hv : ∀ s s' a, guard s = true → body s = (.ok a, s') → v s' < v s) (s : σ) :
    ∃ n r t, Ends guard body s n r t := by
  induction hn : v s using Nat.strongRecOn generalizing s with
  | _ m ih =>
      cases hguard : guard s with
      | false => exact ⟨0, .ok (), s, .exit hguard⟩
      | true =>
          rcases hbody : body s with ⟨e | a, s'⟩
          · exact ⟨0, .error e, s', .throw hguard hbody⟩
          · obtain ⟨n, r, t, h⟩ := ih (v s') (hn ▸ hv s s' a hguard hbody) s' rfl
            exact ⟨n + 1, r, t, .round hguard hbody h⟩

end Loop
