/-
**Confluence: what has been paid settles what is left.**

Payments run side by side, on either platform, under any scheduling, with whatever faults it has and
with any clocks.  How often a wallet is topped up on the way depends on the order in which the
payments are made, and which of them succeed may depend on anything.  But once it is known which
have succeeded, it is known what is left in every wallet, and which tokens are used up.

* `RedHatPay.Store.Reached.balance` — the balance of a wallet in closed form;
* `RedHatPay.Outcome`, `RedHatPay.Outcome.balances_eq` — what is left after some payments, in terms
  of the ledger;
* `RedHatPay.PaidOn` — concurrent payments on one of the platforms;
* `RedHatPay.confluent` — **confluence**: of runs of one platform, and of both.
-/

import RedHatPay.Agreement
import RedHatPay.Domain.PaymentOrder
import RedHatPay.Grid.StrictSerializability
import RedHatPay.Monolith.Serializability

set_option relaxedAutoImplicit false
set_option autoImplicit false

namespace RedHatPay

/-! ### The balance in closed form -/

/-- Two bills leave what one over their sum leaves. -/
theorem Wallet.balanceAfter_add {c a b b' : Int} (ha : 0 ≤ a) (hb' : 0 ≤ b') :
    balanceAfter (balanceAfter c a b) a b' = balanceAfter c a (b + b') := by
  have hrounds : (rounds c a b : Int) + rounds (balanceAfter c a b) a b' = rounds c a (b + b') := by
    exact_mod_cast rounds_add ha hb'
  have hfirst : balanceAfter c a b = c + rounds c a b * a - b := rfl
  have hsum : balanceAfter c a (b + b') = c + rounds c a (b + b') * a - (b + b') := rfl
  calc balanceAfter c a b + rounds (balanceAfter c a b) a b' * a - b'
      = c + (rounds c a b + rounds (balanceAfter c a b) a b') * a - (b + b') := by
        rw [hfirst]
        ring
    _ = balanceAfter c a (b + b') := by rw [hrounds, hsum]

namespace Store

variable {R : Type} {record : Payment → R} {S₀ S : Store R} {L : List (Key × Payment)}

/-- **The balance of a wallet**: that of one bill over all payments made for its shopper. -/
theorem Reached.balance (h : Reached record S₀ L S) {id : ShopperId} {purse₀ : Purse}
    (h₀ : S₀.wallets id = some purse₀) :
    ∃ purse, S.wallets id = some purse ∧ purse.autoCharge = purse₀.autoCharge ∧
      purse.charged.toInt =
        Wallet.balanceAfter purse₀.charged.toInt purse₀.autoCharge.toInt (debits L id) := by
  induction h with
  | start =>
      refine ⟨purse₀, h₀, rfl, ?_⟩
      rw [debits_nil, Wallet.balanceAfter, Wallet.rounds_of_le purse₀.charged.toInt_nonneg]
      simp
  | create key h hfresh ih => exact ih
  | refused key h hunused ih => exact ih
  | @charged L S S' input now p h hpay ih =>
      obtain ⟨purse, hpurse, hauto, hcharged⟩ := ih
      obtain ⟨purse', m, hpurse', -, hm, hamount, hwallets⟩ := pay_wallets hpay
      rw [hwallets]
      by_cases hid : input.shopperId = id
      · subst hid
        obtain rfl : purse = purse' := Option.some.inj (hpurse.symm.trans hpurse')
        have hdebits : debits ((input.key, p) :: L) input.shopperId =
            p.billingAmount.toInt + debits L input.shopperId := debits_cons_self L
        refine ⟨_, Function.update_self _ _ _, hauto, ?_⟩
        rw [hdebits, hamount, hm, hcharged, hauto,
          Wallet.balanceAfter_add purse₀.autoCharge.toInt_nonneg input.amount.toInt_nonneg,
          Int.add_comm]
      · refine ⟨purse, ?_, hauto, ?_⟩
        · rw [Function.update_of_ne (Ne.symm hid), hpurse]
        · rw [hcharged, debits_cons_of_ne hid]

end Store

/-! ### What is left -/

/-- The wallets, and which tokens are used up. -/
structure Balances where
  wallets : ShopperId → Option Purse
  used : Key → Prop

/-- What there is in a store. -/
def Store.balances {R : Type} (S : Store R) : Balances :=
  ⟨S.wallets, fun key => S.tokens key = some .used⟩

variable {ι : Type} {req : ι → PayRequest}

/-- `S` is what is left of `S₀` after the payments of these requests, in some order, and no
others. -/
def Outcome {R : Type} (req : ι → PayRequest) (S₀ : Store R) (paid : ι → Prop) (S : Store R) :
    Prop :=
  ∃ (record : Payment → R) (order : List ι) (L : List (Key × Payment)), order.Nodup ∧
    (∀ i, i ∈ order ↔ paid i) ∧ Store.Reached record S₀ L S ∧
    (∀ key, key ∈ L.map Prod.fst ↔ ∃ i ∈ order, (req i).key = key) ∧
    ∀ id, Store.debits L id = Store.requested req order id

/-- The order does not matter. -/
theorem requested_perm {order order' : List ι} (h : order.Perm order') (id : ShopperId) :
    Store.requested req order id = Store.requested req order' id :=
  ((h.filter _).map _).sum_eq

/-- **What is left depends only on which payments were made.** -/
theorem Outcome.balances_eq {R R' : Type} {S₀ S : Store R} {S₀' S' : Store R'}
    {paid paid' : ι → Prop} (h : Outcome req S₀ paid S) (h' : Outcome req S₀' paid' S')
    (h₀ : S₀.balances = S₀'.balances) (hpaid : ∀ i, paid i ↔ paid' i) :
    S.balances = S'.balances := by
  obtain ⟨record, order, L, hnodup, horder, hreached, hkeys, hsum⟩ := h
  obtain ⟨record', order', L', hnodup', horder', hreached', hkeys', hsum'⟩ := h'
  obtain ⟨hwallets₀, hused₀⟩ := Balances.mk.inj h₀
  have hsame : ∀ i, i ∈ order ↔ i ∈ order' := fun i => by rw [horder, horder', hpaid]
  have hperm : order.Perm order' := (List.perm_ext_iff_of_nodup hnodup hnodup').2 hsame
  have hwallets : S.wallets = S'.wallets := by
    funext id
    have hid := congrFun hwallets₀ id
    cases hpurse₀ : S₀.wallets id with
    | none =>
        rw [hpurse₀] at hid
        rw [hreached.wallets_none hpurse₀, hreached'.wallets_none hid.symm]
    | some purse₀ =>
        rw [hpurse₀] at hid
        obtain ⟨purse, hpurse, hauto, hcharged⟩ := hreached.balance hpurse₀
        obtain ⟨purse', hpurse', hauto', hcharged'⟩ := hreached'.balance hid.symm
        rw [hsum id, requested_perm hperm] at hcharged
        rw [hsum' id] at hcharged'
        have heq : purse.charged = purse'.charged :=
          Money.ext_toInt (hcharged.trans hcharged'.symm)
        obtain ⟨charged, autoCharge⟩ := purse
        obtain ⟨charged', autoCharge'⟩ := purse'
        obtain rfl : charged = charged' := heq
        obtain rfl : autoCharge = autoCharge' := hauto.trans hauto'.symm
        rw [hpurse, hpurse']
  have hused : (fun key => S.tokens key = some .used) = fun key => S'.tokens key = some .used := by
    funext key
    refine propext ?_
    have hkey : S₀.tokens key = some .used ↔ S₀'.tokens key = some .used :=
      iff_of_eq (congrFun hused₀ key)
    rw [hreached.used_iff, hreached'.used_iff, hkeys, hkeys', hkey]
    simp only [hsame]
  rw [Store.balances, Store.balances, hwallets, hused]

/-! ### The platforms -/

variable [DecidableEq ι]

/-- **The data grid**: what concurrent calls leave. -/
theorem Grid.outcome_of_reachable {caches₀ : Grid.Caches} {f : ι → Grid.PaymentFunction}
    {clock : ι → Nat → LocalDateTime}
    {c : Interleave.Config ι Grid.CacheOp Grid.CacheOp.Res JavaException Unit Grid.Caller
      Grid.Caches}
    (h : Interleave.Reachable Grid.Acts (Grid.initial caches₀ f clock) c) :
    Outcome (fun i => (f i).request) caches₀.toStore (Grid.Returned c) c.glob.toStore := by
  obtain ⟨⟨order, L, hinv⟩, -⟩ := Grid.inv_of_reachable h
  obtain ⟨hkeys, hsum, -⟩ := hinv.keys
  refine ⟨_, order, L, hinv.nodup, fun i => ?_, hinv.reached, fun key => ?_, hsum⟩
  · rw [hinv.committed, Grid.returned_iff h]
  · rw [hkeys]
    exact List.mem_map

namespace Monolith

omit [DecidableEq ι] in
/-- The outcomes are those of the requests. -/
theorem serially_fst (req : ι → PayRequest) (now : ι → LocalDateTime) (db : Db) (order : List ι) :
    (serially req now db order).1.map Prod.fst = order := by
  induction order generalizing db with
  | nil => rfl
  | cons i order ih => exact congrArg (i :: ·) (ih _)

/-- The request has succeeded. -/
def Succeeded
    (c : Interleave.Config ι DbOp DbOp.Res JavaException PaymentResponse Session (Shared ι))
    (i : ι) : Prop :=
  ∃ r, c.prog i = .ret (.ok r)

/-- **The monolith**: what concurrent requests leave. -/
theorem outcome_of_reachable {db₀ : Db} {now : ι → LocalDateTime}
    {c : Interleave.Config ι DbOp DbOp.Res JavaException PaymentResponse Session (Shared ι)}
    (h : Interleave.Reachable Acts (initial db₀ req now) c) :
    Outcome req db₀.toStore (Succeeded c) c.glob.committed.toStore := by
  obtain ⟨⟨order, hinv⟩, hsafe⟩ := inv_of_reachable h
  obtain ⟨L, hL, hkeys, hsum⟩ := reached_serially req now order
    (.start : Store.Reached RdbmsPaymentRepository.entity db₀.toStore [] db₀.toStore)
  have hfst := serially_fst req now db₀ order
  have hnodup : ((serially req now db₀ order).1.map Prod.fst).Nodup := by
    rw [hfst]
    exact hinv.nodup
  have hsucceeded : ∀ i, i ∈ succeeded (serially req now db₀ order).1 ↔ Succeeded c i := by
    intro i
    constructor
    · intro hi
      obtain ⟨⟨j, r⟩, hmem, rfl⟩ := List.mem_map.1 hi
      obtain ⟨hout, hok⟩ := List.mem_filter.1 hmem
      have hj : j ∈ order := hfst ▸ List.mem_map_of_mem hout
      -- a request has one outcome
      obtain ⟨r', hr', hout'⟩ := hinv.result j hj
      obtain rfl : r = r' := congrArg Prod.snd (List.inj_on_of_nodup_map hnodup hout hout' rfl)
      cases r with
      | ok v => exact ⟨v, hr'⟩
      | error e => cases hok
    · rintro ⟨v, hv⟩
      have hret := hsafe i
      rw [hv] at hret
      obtain ⟨r', hr', hout⟩ := hinv.result i ((hinv.ended i).2 hret)
      rw [hv] at hr'
      cases hr'
      exact List.mem_map_of_mem (f := Prod.fst) (List.mem_filter.2 ⟨hout, rfl⟩)
  have hsublist : (succeeded (serially req now db₀ order).1).Sublist
      ((serially req now db₀ order).1.map Prod.fst) := List.Sublist.map _ List.filter_sublist
  refine ⟨RdbmsPaymentRepository.entity, succeeded (serially req now db₀ order).1, L,
    hnodup.sublist hsublist, hsucceeded, ?_, fun key => ?_, fun id => ?_⟩
  · rw [hinv.committed]
    exact hL
  · rw [hkeys, List.map_nil, List.append_nil, List.mem_reverse]
    exact List.mem_map
  · rw [hsum id, Store.debits_nil, add_zero]

end Monolith

/-! ### Confluence -/

/-- **Concurrent payments on one of the platforms**, from the balances `B₀` to the balances `B`: the
requests `paid` have succeeded, and the others have failed or are still on their way. -/
inductive PaidOn (req : ι → PayRequest) : Balances → (ι → Prop) → Balances → Prop
  | dataGrid {caches₀ : Grid.Caches} {f : ι → Grid.PaymentFunction}
      {clock : ι → Nat → LocalDateTime}
      {c : Interleave.Config ι Grid.CacheOp Grid.CacheOp.Res JavaException Unit Grid.Caller
        Grid.Caches} (hf : ∀ i, (f i).request = req i)
      (h : Interleave.Reachable Grid.Acts (Grid.initial caches₀ f clock) c) :
      PaidOn req caches₀.toStore.balances (Grid.Returned c) c.glob.toStore.balances
  | monolith {db₀ : Monolith.Db} {now : ι → LocalDateTime}
      {c : Interleave.Config ι Monolith.DbOp Monolith.DbOp.Res JavaException
        Monolith.PaymentResponse Monolith.Session (Monolith.Shared ι)}
      (h : Interleave.Reachable Monolith.Acts (Monolith.initial db₀ req now) c) :
      PaidOn req db₀.toStore.balances (Monolith.Succeeded c) c.glob.committed.toStore.balances

/-- On either platform, the ledger says what is left. -/
theorem PaidOn.exists_outcome {B₀ B : Balances} {paid : ι → Prop} (h : PaidOn req B₀ paid B) :
    ∃ (R : Type) (S₀ S : Store R), B₀ = S₀.balances ∧ B = S.balances ∧ Outcome req S₀ paid S := by
  cases h with
  | @dataGrid caches₀ f clock c hf h =>
      obtain rfl : (fun i => (f i).request) = req := funext hf
      exact ⟨_, _, _, rfl, rfl, Grid.outcome_of_reachable h⟩
  | monolith h => exact ⟨_, _, _, rfl, rfl, Monolith.outcome_of_reachable h⟩

/-- **Confluence**: two runs from the same balances in which the same requests have succeeded, on
the same platform or on different ones, have left the same balances. -/
theorem confluent {B₀ B B' : Balances} {paid paid' : ι → Prop} (h : PaidOn req B₀ paid B)
    (h' : PaidOn req B₀ paid' B') (hpaid : ∀ i, paid i ↔ paid' i) : B = B' := by
  obtain ⟨R, S₀, S, rfl, rfl, houtcome⟩ := h.exists_outcome
  obtain ⟨R', S₀', S', h₀, rfl, houtcome'⟩ := h'.exists_outcome
  exact houtcome.balances_eq houtcome' h₀ hpaid

/-! ### Two schedules and two platforms -/

/-- Two payments out of one wallet. -/
def shared : Bool → PayRequest
  | true => ⟨1, "abcd", 1, 30⟩
  | false => ⟨1, "efgh", 1, 20⟩

/-- On the data grid, the second payment before the first one. -/
def secondFirst : Interleave.Config Bool Grid.CacheOp Grid.CacheOp.Res JavaException Unit
    Grid.Caller Grid.Caches :=
  (List.replicate 9 (false, none) ++ List.replicate 9 (true, none)).foldl
    (.play Prod.fst Grid.turn)
      (Grid.initial (Grid.oneShopper 100 0) Grid.twoTokens fun _ _ => ⟨0, 0⟩)

/-- On the monolith, both at once. -/
def bothAtOnce : Interleave.Config Bool Monolith.DbOp Monolith.DbOp.Res JavaException
    Monolith.PaymentResponse Monolith.Session (Monolith.Shared Bool) :=
  (List.replicate 20 [false, true]).flatten.foldl (.play id Monolith.turn)
    (Monolith.initial twoTokens shared fun _ => ⟨0, 0⟩)

/-- The platforms have the same balances at the start. -/
theorem balances_twoTokens :
    twoTokens.toStore.balances = (Grid.oneShopper 100 0).toStore.balances := by
  rw [Store.balances, Store.balances, matching_twoTokens.wallets, matching_twoTokens.tokens]

/-- Both payments have succeeded in either run, and what is left is the same. -/
theorem confluent_bothAtOnce :
    (∀ i, Grid.Returned secondFirst i) ∧ (∀ i, Monolith.Succeeded bothAtOnce i) ∧
      secondFirst.glob.toStore.balances = bothAtOnce.glob.committed.toStore.balances := by
  have hgrid : ∀ i, Grid.Returned secondFirst i := by
    intro i
    cases i <;> rfl
  have hmonolith : ∀ i, Monolith.Succeeded bothAtOnce i := by
    intro i
    cases i <;> exact ⟨_, rfl⟩
  have hsecond : PaidOn shared (Grid.oneShopper 100 0).toStore.balances (Grid.Returned secondFirst)
      secondFirst.glob.toStore.balances :=
    .dataGrid (fun i => by cases i <;> rfl) (Interleave.reachable_play Grid.acts_turn _ _)
  have hboth : PaidOn shared (Grid.oneShopper 100 0).toStore.balances
      (Monolith.Succeeded bothAtOnce) bothAtOnce.glob.committed.toStore.balances := by
    rw [← balances_twoTokens]
    exact .monolith (Interleave.reachable_play Monolith.acts_turn _ _)
  exact ⟨hgrid, hmonolith, confluent hsecond hboth fun i => iff_of_true (hgrid i) (hmonolith i)⟩

end RedHatPay
