/-
**Checked operations on a bounded type.**

A bounded type stands for the part of a larger domain for which it has room.  Its operations throw
rather than give a wrong result: each is exact if there is room for the exact result, and is refused
otherwise.  What holds of one operation is carried here through sequences of operations, which end
at the first exception.  An exact result that comes back into the room after it has left it does
not help: the sequence has ended before.

Main definitions:

* `Checked.ExactOrRefused` — what is known of one operation;
* `Checked.Fits` — there is room for every exact result on the way.

Main results:

* `Checked.ExactOrRefused.foldlM_eq_ok` — a sequence that fits has its exact result;
* `Checked.ExactOrRefused.fits_of_foldlM` — only a sequence that fits has a result;
* `Checked.ExactOrRefused.first_refused` — **the first operation without room** throws, and it ends
  the sequence.
-/

import Mathlib.Data.List.Infix

set_option relaxedAutoImplicit false
set_option autoImplicit false

namespace Checked

variable {ι μ ν ε : Type} {value : μ → ν} {room : ν → Prop} {step : μ → ι → Except ε μ}
  {ideal : ν → ι → ν} {e : ε}

/-- Every element has room, and every operation `step` agrees with the exact operation `ideal` if
there is room for its result, and throws `e` if there is not. -/
structure ExactOrRefused (value : μ → ν) (room : ν → Prop) (step : μ → ι → Except ε μ)
    (ideal : ν → ι → ν) (e : ε) : Prop where
  room_value : ∀ m, room (value m)
  accept : ∀ m i, room (ideal (value m) i) → ∃ r, step m i = .ok r ∧ value r = ideal (value m) i
  refuse : ∀ m i, ¬ room (ideal (value m) i) → step m i = .error e

/-- There is room for the exact result of every prefix of the sequence. -/
def Fits (room : ν → Prop) (ideal : ν → ι → ν) (v : ν) (l : List ι) : Prop :=
  ∀ l', l' <+: l → room (l'.foldl ideal v)

@[simp] theorem fits_nil {v : ν} : Fits room ideal v ([] : List ι) ↔ room v := by
  constructor
  · exact fun h => h [] List.prefix_rfl
  · intro h l' hl'
    rw [List.prefix_nil.1 hl']
    exact h

theorem fits_cons {v : ν} {i : ι} {l : List ι} :
    Fits room ideal v (i :: l) ↔ room v ∧ Fits room ideal (ideal v i) l := by
  constructor
  · intro h
    exact ⟨h [] List.nil_prefix, fun l' hl' => h (i :: l') ((List.prefix_cons_inj i).2 hl')⟩
  · rintro ⟨hv, hl⟩ l' hl'
    rcases List.prefix_cons_iff.1 hl' with rfl | ⟨l'', rfl, hl''⟩
    · exact hv
    · exact hl l'' hl''

namespace ExactOrRefused

/-- The first operation has been carried out, and the others follow. -/
theorem foldlM_cons_ok {m r : μ} {i : ι} (h : step m i = .ok r) (l : List ι) :
    (i :: l).foldlM step m = l.foldlM step r := by
  rw [List.foldlM_cons, h]
  rfl

/-- The first operation throws, and so does the sequence. -/
theorem foldlM_cons_error {m : μ} {i : ι} (h : step m i = .error e) (l : List ι) :
    (i :: l).foldlM step m = .error e := by
  rw [List.foldlM_cons, h]
  rfl

/-- A sequence that fits has its exact result. -/
theorem foldlM_eq_ok (h : ExactOrRefused value room step ideal e) {m : μ} {l : List ι}
    (hl : Fits room ideal (value m) l) :
    ∃ r, l.foldlM step m = .ok r ∧ value r = l.foldl ideal (value m) := by
  induction l generalizing m with
  | nil => exact ⟨m, rfl, rfl⟩
  | cons i l ih =>
      obtain ⟨r, hstep, hr⟩ := h.accept m i (hl [i] (by simp))
      have htail : Fits room ideal (value r) l := by
        rw [hr]
        exact (fits_cons.1 hl).2
      obtain ⟨r', hrest, hr'⟩ := ih htail
      refine ⟨r', (foldlM_cons_ok hstep l).trans hrest, ?_⟩
      rw [hr', hr, List.foldl_cons]

/-- A sequence that does not fit has a first operation without room: the operations before it have
their exact result, it throws, and the sequence ends there. -/
theorem first_refused (h : ExactOrRefused value room step ideal e) {m : μ} {l : List ι}
    (hl : ¬ Fits room ideal (value m) l) :
    ∃ l₁ i l₂ m₁, l = l₁ ++ i :: l₂ ∧ Fits room ideal (value m) l₁ ∧
      ¬ room ((l₁ ++ [i]).foldl ideal (value m)) ∧ l₁.foldlM step m = .ok m₁ ∧
      value m₁ = l₁.foldl ideal (value m) ∧ step m₁ i = .error e ∧
      l.foldlM step m = .error e := by
  induction l generalizing m with
  | nil => exact absurd (fits_nil.2 (h.room_value m)) hl
  | cons i l ih =>
      by_cases hroom : room (ideal (value m) i)
      · obtain ⟨r, hstep, hr⟩ := h.accept m i hroom
        have htail : ¬ Fits room ideal (value r) l := by
          rw [hr]
          exact fun hfits => hl (fits_cons.2 ⟨h.room_value m, hfits⟩)
        obtain ⟨l₁, j, l₂, m₁, rfl, hfits, hout, hrun, hvalue, hthrow, herror⟩ := ih htail
        rw [hr] at hfits hout hvalue
        exact ⟨i :: l₁, j, l₂, m₁, rfl, fits_cons.2 ⟨h.room_value m, hfits⟩, hout,
          (foldlM_cons_ok hstep l₁).trans hrun, hvalue, hthrow,
          (foldlM_cons_ok hstep _).trans herror⟩
      · have hthrow := h.refuse m i hroom
        exact ⟨[], i, l, m, rfl, fits_nil.2 (h.room_value m), hroom, rfl, rfl, hthrow,
          foldlM_cons_error hthrow l⟩

/-- Only a sequence that fits has a result. -/
theorem fits_of_foldlM (h : ExactOrRefused value room step ideal e) {m r : μ} {l : List ι}
    (hrun : l.foldlM step m = .ok r) : Fits room ideal (value m) l := by
  by_contra hnot
  obtain ⟨l₁, i, l₂, m₁, -, -, -, -, -, -, herror⟩ := h.first_refused hnot
  cases hrun.symm.trans herror

end ExactOrRefused

end Checked
