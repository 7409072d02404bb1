/-
**The data grid: calls that can be afforded are all served.**

When no method throws, a call fails only if it has met caches from which it could not be paid, or if
three other calls for the same shopper have overtaken it.  So if each shopper has at most three
calls, each with an unused token of its own, and the wallet covers them, then in any order in which
the methods are called all of them return, and none of them has to be sent again.

* `RedHatPay.Grid.Reliable` — the step relation without faults;
* `RedHatPay.Grid.Affordable` — calls that the wallets and the tokens allow;
* `RedHatPay.Grid.not_hopeless` — a call that has not returned can still be paid;
* `RedHatPay.Grid.all_paid` — **all calls return**.
-/

import RedHatPay.Domain.TopUps
import RedHatPay.Grid.Overtaken
import RedHatPay.Lib.Termination

set_option relaxedAutoImplicit false
set_option autoImplicit false

namespace RedHatPay.Grid

open Program

/-! ### Without faults -/

/-- The step relation without faults. -/
def Reliable {ι : Type} : Interleave.Semantics ι CacheOp CacheOp.Res JavaException Caller Caches :=
  fun _ c l o a c' l' => a = (exec o (l.on c)).1 ∧ c' = (exec o (l.on c)).2.caches ∧
    l' = l.next o (exec o (l.on c)).1 (exec o (l.on c)).2.tx

theorem Reliable.acts {ι : Type} {i : ι} {c c' : Caches} {l l' : Caller} {o : CacheOp}
    {a : Except JavaException o.Res} (h : Reliable i c l o a c' l') : Acts i c l o a c' l' := by
  obtain ⟨rfl, rfl, rfl⟩ := h
  exact .act

theorem Reliable.reliableFor {ι : Type} {i i₀ : ι} {c c' : Caches} {l l' : Caller} {o : CacheOp}
    {a : Except JavaException o.Res} (h : Reliable i c l o a c' l') :
    ReliableFor i₀ i c l o a c' l' :=
  ⟨h.acts, fun _ => ⟨h.1, h.2.2⟩⟩

variable {ι : Type} [DecidableEq ι] {caches₀ : Caches} {f : ι → PaymentFunction}
  {clock : ι → Nat → LocalDateTime}
  {c : Interleave.Config ι CacheOp CacheOp.Res JavaException Unit Caller Caches}

omit [DecidableEq ι] in
/-- A call whose methods do not throw can always go on. -/
theorem canMove_reliable {i : ι} {o : CacheOp} {k : Except JavaException o.Res → CacheProgram Unit}
    (hp : c.prog i = .call o k) : Interleave.CanMove Reliable c i :=
  ⟨o, k, _, _, _, hp, rfl, rfl, rfl⟩

/-! ### Calls that can be afforded -/

/-- Different calls of one shopper. -/
def Sharing (f : ι → PaymentFunction) (userId : Int32) (calls : List ι) : Prop :=
  calls.Nodup ∧ ∀ i ∈ calls, (f i).request.userId = userId

/-- **Calls that the wallets and the tokens allow**: their amounts are not negative; their shoppers
are there; each has an unused token of its own; no shopper has more than three; and a wallet covers
the calls of its shopper, or is topped up within the range of `int` for each of them. -/
structure Affordable (caches : Caches) (f : ι → PaymentFunction) : Prop where
  amount : ∀ i, 0 ≤ (f i).request.amount.toInt
  user : ∀ i, caches.users ⟨(f i).request.userId⟩ ≠ none
  token : ∀ i, caches.tokens.data (entryKey (f i).request.key) = some ⟨.unused⟩
  distinct : Function.Injective fun i => (f i).request.key
  few : ∀ userId calls, Sharing f userId calls → calls.length ≤ PaymentFunction.maxRetryCount
  wallet : ∀ i, ∃ purse,
    caches.wallets.data ⟨(f i).request.userId⟩ = some (Purse.entity purse) ∧
      ((∀ calls, Sharing f (f i).request.userId calls →
        (calls.map fun j => (f j).request.amount.toInt).sum ≤ purse.charged.toInt) ∨
      0 < purse.autoCharge.toInt ∧
        (f i).request.amount.toInt + purse.autoCharge.toInt ≤ 2 ^ 31)

/-- A bill with which one top-up stays within the range is covered by a wallet that is topped up. -/
theorem fits_of_small {charged a b : Int} (ha : 0 < a) (hb : a + b ≤ 2 ^ 31) :
    Wallet.Fits charged a b := by
  rcases le_or_gt b charged with hle | hlt
  · exact Or.inl hle
  · have hafter := Wallet.balanceAfter_lt ha hlt
    rw [Wallet.balanceAfter] at hafter
    exact Or.inr ⟨ha, by linarith⟩

/-- **A call that has not returned can still be paid**, at any moment of the run. -/
theorem not_hopeless (ha : Affordable caches₀ f)
    (h : Interleave.Reachable Acts (initial caches₀ f clock) c) {i : ι} (hi : ¬ Returned c i) :
    ¬ Hopeless (f i) c.glob := by
  obtain ⟨⟨order, L, hinv⟩, -⟩ := inv_of_reachable h
  obtain ⟨hkeys, hsum, -⟩ := hinv.keys
  have hnot : i ∉ order := fun hmem =>
    hi ((returned_iff h i).2 ((hinv.committed i).1 hmem))
  have hunpaid : (f i).request.key ∉ L.map Prod.fst := by
    rw [hkeys, List.mem_map]
    rintro ⟨j, hj, hkey⟩
    exact hnot (ha.distinct hkey ▸ hj)
  have husers : c.glob.users = caches₀.users :=
    Interleave.glob_of_reachable (K := fun g : Caches => g.users = caches₀.users)
      (fun _ _ _ _ _ _ _ hg hact => (users_of_acts hact).trans hg) rfl h
  obtain ⟨user, huser⟩ := Option.ne_none_iff_exists'.1 (ha.user i)
  have hshopper : c.glob.toStore.shoppers ⟨(f i).request.userId⟩ = some ⟨user.name⟩ := by
    change (c.glob.users ⟨(f i).request.userId⟩).map _ = _
    rw [husers, huser]
    rfl
  have htoken : c.glob.toStore.tokens (f i).request.key = some .unused :=
    (hinv.unpaid _ hunpaid).trans (Caches.toStore_tokens_iff.2 (ha.token i))
  obtain ⟨purse₀, hdata, hcovered⟩ := ha.wallet i
  have hpurse₀ : caches₀.toStore.wallets ⟨(f i).request.userId⟩ = some purse₀ :=
    Caches.toStore_wallets_iff.2 hdata
  obtain ⟨purse, k, hpurse, hauto, -, hcharged⟩ := hinv.reached.balanced hpurse₀
  have hfits : Wallet.Fits purse.charged.toInt purse.autoCharge.toInt
      (f i).request.amount.toInt := by
    rcases hcovered with hcalls | ⟨hpos, hsmall⟩
    · -- what the wallet held covers the calls that have committed and this one
      have hbound := hcalls
        (i :: order.filter fun j => (f j).request.key.1 = ⟨(f i).request.userId⟩)
        ⟨List.nodup_cons.2 ⟨fun hmem => hnot (List.mem_of_mem_filter hmem),
          hinv.nodup.filter _⟩, ?_⟩
      · rw [List.map_cons, List.sum_cons] at hbound
        have hrequested := hsum ⟨(f i).request.userId⟩
        rw [Store.requested] at hrequested
        have htops : 0 ≤ (k : Int) * purse₀.autoCharge.toInt :=
          mul_nonneg (Int.natCast_nonneg k) purse₀.autoCharge.nonneg
        exact Or.inl (by linarith)
      · intro j hj
        rcases List.mem_cons.1 hj with rfl | hj
        · rfl
        · exact congrArg ShopperId.value (of_decide_eq_true (List.mem_filter.1 hj).2)
    · rw [hauto]
      exact fits_of_small hpos (by linarith)
  intro hhopeless
  have hnone := hhopeless ⟨(f i).request.amount, ha.amount i⟩ ⟨0, 0⟩ rfl
  have hpresent : c.glob.toStore.present ((f i).request.input ⟨(f i).request.amount, ha.amount i⟩) =
      some _ := Store.present_of hshopper rfl hpurse htoken
  obtain ⟨_, -, hpay⟩ := Store.pay_of_charged hpresent hfits CachePaymentRepository.entity ⟨0, 0⟩
  rw [hpay] at hnone
  cases hnone

/-- A call that has ended has returned normally. -/
theorem ok_of_affordable (ha : Affordable caches₀ f)
    (h : Interleave.Reachable Reliable (initial caches₀ f clock) c) {i : ι}
    {r : Except JavaException Unit} (hr : c.prog i = .ret r) : r = .ok () := by
  cases r with
  | ok _ => rfl
  | error e =>
      have hreliable : Interleave.Reachable (ReliableFor i) (initial caches₀ f clock) c :=
        h.mono fun _ _ _ _ _ _ _ hR => hR.reliableFor
      obtain ⟨d, hreach, rfl⟩ := Interleave.exists_ghost (ReliableFor i) (verdicts f) ⟨False, 0⟩
        hreliable
      obtain ⟨rivals, hwatching⟩ := watching_of_reachable hreach
      rcases verdict_of_failure hreach hr with hneg | hhopeless | hrefusals
      · exact absurd (ha.amount i) (not_le.2 hneg)
      · obtain ⟨c₁, h₁, hafter, hnow⟩ := hwatching.hopeless hhopeless
        refine absurd hnow (not_hopeless ha (acts_of_reliableFor h₁) fun hreturned => ?_)
        have hok := Interleave.ret_of_reachable hreturned hafter
        rw [hr] at hok
        cases hok
      · -- the call and its rivals are four calls of one shopper
        obtain ⟨hnodup, hrivals⟩ := hwatching.overtook
        have hlength := ha.few (f i).request.userId (i :: rivals)
          ⟨List.nodup_cons.2 ⟨fun hmem => (hrivals i hmem).1 rfl, hnodup⟩, ?_⟩
        · have hle := hwatching.refusals
          rw [List.length_cons] at hlength
          omega
        · intro j hj
          rcases List.mem_cons.1 hj with rfl | hj
          · rfl
          · exact (hrivals j hj).2.1

/-- **All calls return**: whatever the order in which their methods are called, no call fails, and
every run can be completed to one in which all calls have returned. -/
theorem all_paid [Finite ι] (ha : Affordable caches₀ f)
    (h : Interleave.Reachable Reliable (initial caches₀ f clock) c) :
    (∀ i r, c.prog i = .ret r → r = .ok ()) ∧
      ∃ c', Interleave.Reachable Reliable c c' ∧ ∀ i, Returned c' i := by
  refine ⟨fun i r hr => ok_of_affordable ha h hr, ?_⟩
  have hmove : ∀ c, Interleave.Reachable Reliable (initial caches₀ f clock) c →
      Interleave.Done c ∨ ∃ i, Interleave.CanMove Reliable c i := by
    intro c _
    refine or_iff_not_imp_left.2 fun hnot => ?_
    obtain ⟨i, hi⟩ := not_forall.1 hnot
    cases hp : c.prog i with
    | ret r => exact absurd ⟨r, hp⟩ hi
    | call o k => exact ⟨i, canMove_reliable hp⟩
  obtain ⟨c', hc', hdone⟩ := Interleave.exists_done hmove h
  refine ⟨c', hc', fun i => ?_⟩
  obtain ⟨r, hr⟩ := hdone i
  obtain rfl := ok_of_affordable ha (h.trans hc') hr
  exact hr

/-! ### A schedule -/

/-- Three calls that pay out of the same wallet, each with its own token. -/
def threeTokens : Option Bool → PaymentFunction
  | none => ⟨⟨1, "abcd", 1, 80⟩, "Demo Store"⟩
  | some false => ⟨⟨1, "efgh", 1, 80⟩, "Demo Store"⟩
  | some true => ⟨⟨1, "ijkl", 1, 80⟩, "Demo Store"⟩

/-- All of them have made a payment of their own, and none has committed it. -/
def abreast :
    Interleave.Config (Option Bool) CacheOp CacheOp.Res JavaException Unit Caller Caches :=
  (List.replicate 8 [none, some false, some true]).flatten.foldl (.play id fun i => turn (i, none))
    (initial { fourUnused with wallets := (oneShopper 100 50).wallets } threeTokens
      fun _ _ => ⟨0, 0⟩)

theorem affordable_threeTokens :
    Affordable { fourUnused with wallets := (oneShopper 100 50).wallets } threeTokens where
  amount := by decide
  user := by decide
  token _ := rfl
  distinct := by decide
  few _ calls h := h.1.length_le_card
  wallet i := ⟨⟨⟨100, by decide⟩, ⟨50, by decide⟩⟩, by revert i; decide,
    Or.inr (by revert i; decide)⟩

/-- Two of them have to pay again, and all of them return. -/
theorem all_paid_abreast : ∃ c', Interleave.Reachable Reliable abreast c' ∧ ∀ i, Returned c' i :=
  (all_paid affordable_threeTokens (Interleave.reachable_play
    (fun i o c l a c' l' h => by cases h; exact ⟨rfl, rfl, rfl⟩) _ _)).2

end RedHatPay.Grid
