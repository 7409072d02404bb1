/-
**Runs of payments over map-like repositories.**

Any finite sequence of `TokenUsecaseImpl.pay` calls, successful or not, over repositories that
behave like finite maps and are free of faults.

* `RedHatPay.Backend.payAll` — the state after a sequence of calls;
* `RedHatPay.Backend.reached_payAll` — a sequence of calls is a history of the ledger;
* `RedHatPay.Backend.ledger_invariant` — **the ledger invariant**: records and used tokens
  correspond, used tokens and their records stay, and every balance is accounted for.
-/

import RedHatPay.Ledger
import RedHatPay.Lib.Run
import RedHatPay.Monolith.TokenLifecycle

set_option relaxedAutoImplicit false
set_option autoImplicit false

namespace RedHatPay

open Program

namespace Backend

variable {B : Backend}

/-- The state after one call. -/
def payStep (B : Backend) (s : B.State) (call : TokenPayInput × LocalDateTime) : B.State :=
  (run B.env (TokenUsecaseImpl.pay call.1 call.2) s).2

/-- The state after a sequence of calls. -/
def payAll (B : Backend) : B.State → List (TokenPayInput × LocalDateTime) → B.State :=
  Run.exec B.payStep

/-- A sequence of calls is a history of the ledger. -/
theorem reached_payAll {S₀ : Store B.Record} {L : List (Key × Payment)} {s : B.State}
    (h : Store.Reached B.record S₀ L (B.view s)) (calls : List (TokenPayInput × LocalDateTime)) :
    ∃ L', Store.Reached B.record S₀ L' (B.view (B.payAll s calls)) := by
  induction calls generalizing L s with
  | nil => exact ⟨L, h⟩
  | cons call calls ih =>
      obtain ⟨L', hL', -⟩ := h.pay call.1 call.2
      refine ih (L := L') (s := B.payStep s call) ?_
      rw [payStep, (run_pay call.1 call.2 s).2]
      exact hL'

/-- A payment record exists for a key exactly if its token is used. -/
def RecordsMatch (S : Store B.Record) : Prop :=
  ∀ key, (S.payments key).isSome ↔ S.tokens key = some .used

theorem RecordsMatch.reached {S₀ S : Store B.Record} (h₀ : RecordsMatch S₀)
    {L : List (Key × Payment)} (h : Store.Reached B.record S₀ L S) : RecordsMatch S := by
  intro key
  rw [h.used_iff key, ← h₀ key]
  by_cases hkey : key ∈ L.map Prod.fst
  · obtain ⟨e, he, rfl⟩ := List.mem_map.1 hkey
    rw [h.payments_of_mem he]
    exact iff_of_true rfl (Or.inr hkey)
  · rw [h.payments_eq hkey]
    simp [hkey]

/-- **The ledger invariant.**  From every state in which records and used tokens correspond, every
sequence of calls leads to a state in which they correspond; whatever calls follow, a used token
stays used and its record stays the same; and there is a list of the payments added to the records
such that every balance is the start balance and a number of top-ups, less the payments added for
that shopper. -/
theorem ledger_invariant (B : Backend) (s₀ : B.State) (h₀ : RecordsMatch (B.view s₀))
    (calls : List (TokenPayInput × LocalDateTime)) :
    RecordsMatch (B.view (B.payAll s₀ calls)) ∧
    (∀ more key, (B.view (B.payAll s₀ calls)).tokens key = some .used →
      (B.view (B.payAll s₀ (calls ++ more))).tokens key = some .used ∧
      (B.view (B.payAll s₀ (calls ++ more))).payments key =
        (B.view (B.payAll s₀ calls)).payments key) ∧
    ∃ added : List (Key × Payment), (added.map Prod.fst).Nodup ∧
      (∀ key, key ∈ added.map Prod.fst ↔ (B.view s₀).payments key = none ∧
        ((B.view (B.payAll s₀ calls)).payments key).isSome) ∧
      (∀ e ∈ added, (B.view (B.payAll s₀ calls)).payments e.1 = some (B.record e.2)) ∧
      ∀ id, match (B.view s₀).wallets id with
        | none => (B.view (B.payAll s₀ calls)).wallets id = none
        | some purse₀ => ∃ purse, ∃ k : Nat,
            (B.view (B.payAll s₀ calls)).wallets id = some purse ∧
            purse.autoCharge = purse₀.autoCharge ∧ (purse₀.autoCharge.toInt = 0 → k = 0) ∧
            purse.charged.toInt = purse₀.charged.toInt + k * purse₀.autoCharge.toInt -
              Store.debits added id ∧
            0 ≤ purse.charged.toInt ∧ purse.charged.toInt ≤ 2 ^ 31 - 1 := by
  have hstart : ∀ s, Store.Reached B.record (B.view s) [] (B.view s) := fun s => .start
  obtain ⟨L, hL⟩ := reached_payAll (hstart s₀) calls
  have hmatch := h₀.reached hL
  refine ⟨hmatch, fun more key hused => ?_, L, hL.nodup.1, fun key => ?_,
    fun e he => hL.payments_of_mem he, fun id => ?_⟩
  · -- the calls that follow make a history of their own
    have happend : B.payAll s₀ (calls ++ more) = B.payAll (B.payAll s₀ calls) more :=
      Run.exec_append s₀ calls more
    obtain ⟨L', hL'⟩ := reached_payAll (hstart (B.payAll s₀ calls)) more
    rw [happend]
    refine ⟨(hL'.used_iff key).2 (Or.inl hused), hL'.payments_eq fun hkey => ?_⟩
    exact hL'.nodup.2 key hkey hused
  · constructor
    -- records are added exactly for the payments made, none of which had one at the start
    · intro hkey
      have hnone : ¬ ((B.view s₀).payments key).isSome :=
        fun hsome => hL.nodup.2 key hkey ((h₀ key).1 hsome)
      obtain ⟨e, he, rfl⟩ := List.mem_map.1 hkey
      rw [hL.payments_of_mem he]
      exact ⟨by simpa using hnone, rfl⟩
    · rintro ⟨hnone, hsome⟩
      by_contra hkey
      rw [hL.payments_eq hkey, hnone] at hsome
      cases hsome
  · cases hid : (B.view s₀).wallets id with
    | none => exact hL.wallets_none hid
    | some purse₀ =>
        obtain ⟨purse, k, hpurse, hauto, hk, hcharged⟩ := hL.balanced hid
        exact ⟨purse, k, hpurse, hauto, hk, hcharged, purse.charged.toInt_nonneg,
          Int.le_sub_one_of_lt purse.charged.toInt_lt⟩

/-- The invariant over the relational repositories, through a payment that is made and one that is
refused. -/
theorem ledger_invariant_rdbms :
    let calls : List (TokenPayInput × LocalDateTime) :=
      [(⟨⟨1⟩, ⟨30, by decide⟩, ⟨"abcd"⟩, ⟨1⟩⟩, ⟨0, 0⟩),
        (⟨⟨1⟩, ⟨30, by decide⟩, ⟨"abcd"⟩, ⟨1⟩⟩, ⟨1, 0⟩)]
    let s₀ : Monolith.DbState := (Monolith.oneShopper 100 0 .unused).idle
    (Monolith.rdbmsBackend.view (Monolith.rdbmsBackend.payAll s₀ calls)).tokens
        (⟨1⟩, ⟨"abcd"⟩) = some .used ∧
      RecordsMatch (Monolith.rdbmsBackend.view (Monolith.rdbmsBackend.payAll s₀ calls)) := by
  refine ⟨by decide, (ledger_invariant Monolith.rdbmsBackend _ (fun key => ?_) _).1⟩
  change ((Monolith.oneShopper 100 0 .unused).idle.view.toStore.payments key).isSome ↔
    (Monolith.oneShopper 100 0 .unused).idle.view.toStore.tokens key = some .used
  rw [Monolith.Db.idle_view]
  refine iff_of_false nofun fun h => ?_
  cases Monolith.tokens_oneShopper h

end Backend

end RedHatPay
