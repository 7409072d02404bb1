/-
**One group of threads beside another.**

The threads of a second group make their steps between those of a first one.  What they can do may
depend on the shared state of the first group, which they read and never change.  If they can still
do later whatever they can do now, then their steps can be put off: a run of both is a run of the
first group, and then a run of the second one, beside the shared state that the first has left.

Main definitions:

* `Interleave.Beside` — a step of either group;
* `Interleave.Lasting` — what the second group can do, it can still do later.

Main results:

* `Interleave.beside_iff` — **the runs of both** are the pairs of runs.
-/

import RedHatPay.Lib.Interleave

set_option relaxedAutoImplicit false
set_option autoImplicit false

namespace Interleave

variable {ι κ Op Op' : Type} {Res : Op → Type} {Res' : Op' → Type} {ε ε' α β L L' G G' : Type}

/-- What the second group can do, it can still do after a step of the first one. -/
def Lasting (R : Semantics ι Op Res ε L G) (R' : G → Semantics κ Op' Res' ε' L' G') : Prop :=
  ∀ i g l o a g' l', R i g l o a g' l' →
    ∀ j h m p b h' m', R' g j h m p b h' m' → R' g' j h m p b h' m'

variable [DecidableEq ι] [DecidableEq κ]

/-- A step of either group. -/
inductive Beside (R : Semantics ι Op Res ε L G) (R' : G → Semantics κ Op' Res' ε' L' G') :
    Config ι Op Res ε α L G × Config κ Op' Res' ε' β L' G' →
    Config ι Op Res ε α L G × Config κ Op' Res' ε' β L' G' → Prop
  | first {c c' : Config ι Op Res ε α L G} {d : Config κ Op' Res' ε' β L' G'} (h : Step R c c') :
      Beside R R' (c, d) (c', d)
  | second {c : Config ι Op Res ε α L G} {d d' : Config κ Op' Res' ε' β L' G'}
      (h : Step (R' c.glob) d d') : Beside R R' (c, d) (c, d')

variable {R : Semantics ι Op Res ε L G} {R' : G → Semantics κ Op' Res' ε' L' G'}
  {c₀ c : Config ι Op Res ε α L G} {d₀ d : Config κ Op' Res' ε' β L' G'}

/-- Steps that can be made beside a shared state can be made beside later ones. -/
theorem Lasting.reachable (hlast : Lasting R R') {c' : Config ι Op Res ε α L G} (hs : Step R c c')
    (h : Reachable (R' c.glob) d₀ d) : Reachable (R' c'.glob) d₀ d := by
  cases hs with
  | of i o k a g l hp hR => exact h.mono (hlast i _ _ o a g l hR)

/-- **The runs of both groups** are the runs of the first one, with those of the second one beside
the shared state at the end. -/
theorem beside_iff (hlast : Lasting R R') :
    Relation.ReflTransGen (Beside R R') (c₀, d₀) (c, d) ↔
      Reachable R c₀ c ∧ Reachable (R' c.glob) d₀ d := by
  constructor
  · intro h
    generalize hx : (c, d) = x at h
    induction h generalizing c d with
    | refl =>
        cases hx
        exact ⟨.refl, .refl⟩
    | tail _ hs ih =>
        cases hs with
        | first h =>
            cases hx
            obtain ⟨hfirst, hsecond⟩ := ih rfl
            exact ⟨hfirst.tail h, hlast.reachable h hsecond⟩
        | second h =>
            cases hx
            obtain ⟨hfirst, hsecond⟩ := ih rfl
            exact ⟨hfirst, hsecond.tail h⟩
  · rintro ⟨hfirst, hsecond⟩
    have hone : Relation.ReflTransGen (Beside R R') (c₀, d₀) (c, d₀) :=
      hfirst.lift (fun c => (c, d₀)) fun _ _ h => .first h
    exact hone.trans (hsecond.lift (fun d => (c, d)) fun _ _ h => .second h)

end Interleave
