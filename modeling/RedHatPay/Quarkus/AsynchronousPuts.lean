/-
**The Quarkus service: asynchronous puts.**

`RemoteCache.putAllAsync` returns before anything has been put.  The client sends the entries of the
map to the servers that own them, so every entry is put on its own, and the entries of one map, and
those of several maps, may be put in any order.

* `RedHatPay.Quarkus.EntryPut`, `RedHatPay.Quarkus.asynchronous` — the puts of single entries, and
  the calls that hand them over;
* `RedHatPay.Quarkus.foldl_apply` — what a list of puts leaves in the caches;
* `RedHatPay.Quarkus.SameEntries.remote` — a map that is put as a whole leaves the same entries as
  its puts one after the other.
-/

import RedHatPay.Lib.Deferred
import RedHatPay.Quarkus.PaymentResource

set_option relaxedAutoImplicit false
set_option autoImplicit false

namespace RedHatPay.Quarkus

open Program Grid Deferred

/-! ### Puts of single entries -/

/-- The put of a single entry into the user or into the wallet cache. -/
inductive EntryPut
  | user (key : ShopperKey) (value : ShopperEntity)
  | wallet (key : ShopperKey) (value : WalletEntity)
  deriving DecidableEq

namespace EntryPut

/-- The deployment after the put. -/
def apply (s : Deployment) : EntryPut → Deployment
  | .user key value =>
      s.withCaches { s.caches with users := Function.update s.caches.users key (some value) }
  | .wallet key value =>
      s.withCaches { s.caches with wallets := s.caches.wallets.put key value }

/-- The entry of the user cache. -/
def userEntry : EntryPut → Option (ShopperKey × ShopperEntity)
  | .user key value => some (key, value)
  | .wallet _ _ => none

/-- The entry of the wallet cache. -/
def walletEntry : EntryPut → Option (ShopperKey × WalletEntity)
  | .user _ _ => none
  | .wallet key value => some (key, value)

end EntryPut

/-- What a list of puts leaves in the caches. -/
theorem foldl_apply (l : List EntryPut) (s : Deployment) :
    let caches := (l.foldl EntryPut.apply s).caches
    caches.users = putAll (l.filterMap EntryPut.userEntry) s.caches.users ∧
    caches.wallets.data = putAll (l.filterMap EntryPut.walletEntry) s.caches.wallets.data ∧
    caches.tokens = s.caches.tokens ∧ caches.payments = s.caches.payments := by
  induction l generalizing s with
  | nil => exact ⟨rfl, rfl, rfl, rfl⟩
  | cons e l ih =>
      cases e with
      | user key value => exact ih _
      | wallet key value => exact ih _

/-! ### Calls that hand them over -/

/-- `putAllAsync` has copied the entries of the map when it returns, and each of them is put on its
own at a later time; the other calls take effect at once. -/
def asynchronous (w : Occasion) :
    Executor RemoteOp RemoteOp.Res JavaException Deployment EntryPut where
  atOnce := remote w
  later
    | .putAllUser map => some (.ok (), map.map fun e => .user e.1 e.2)
    | .putAllWallet map => some (.ok (), map.map fun e => .wallet e.1 e.2)
    | _ => none
  effect := EntryPut.apply

/-- The caches hold the same entries, whatever the versions. -/
structure SameEntries (s t : Deployment) : Prop where
  users : s.caches.users = t.caches.users
  wallets : s.caches.wallets.data = t.caches.wallets.data
  tokens : s.caches.tokens.data = t.caches.tokens.data
  payments : s.caches.payments.data = t.caches.payments.data

/-- Two ways to put the same entries. -/
theorem SameEntries.of_putAll {s s' t : Deployment} {l : List EntryPut} (h : SameEntries s t)
    (husers : s'.caches.users = putAll (l.filterMap EntryPut.userEntry) s.caches.users)
    (hwallets : s'.caches.wallets.data =
      putAll (l.filterMap EntryPut.walletEntry) s.caches.wallets.data)
    (htokens : s'.caches.tokens = s.caches.tokens)
    (hpayments : s'.caches.payments = s.caches.payments) :
    SameEntries s' (l.foldl EntryPut.apply t) := by
  obtain ⟨husers', hwallets', htokens', hpayments'⟩ := foldl_apply l t
  constructor
  · rw [husers, husers', h.users]
  · rw [hwallets, hwallets', h.wallets]
  · rw [htokens, htokens', h.tokens]
  · rw [hpayments, hpayments', h.payments]

/-- A map that is put as a whole leaves the same entries as its puts one after the other. -/
theorem SameEntries.remote (w : Occasion) (o : RemoteOp) (a : Except JavaException o.Res)
    (new : List EntryPut) (s t : Deployment) (ho : (asynchronous w).later o = some (a, new))
    (h : SameEntries s t) :
    (Quarkus.remote w o s).1 = a ∧
      SameEntries (Quarkus.remote w o s).2 (new.foldl (asynchronous w).effect t) := by
  cases o with
  | putAllUser map =>
      cases ho
      refine ⟨rfl, h.of_putAll ?_ ?_ rfl rfl⟩
      · rw [List.filterMap_map]
        exact congrArg (putAll · s.caches.users) List.filterMap_some.symm
      · rw [List.filterMap_map]
        exact congrArg (putAll · s.caches.wallets.data) (List.filterMap_none map).symm
  | putAllWallet map =>
      cases ho
      refine ⟨rfl, h.of_putAll ?_ ?_ rfl rfl⟩
      · rw [List.filterMap_map]
        exact congrArg (putAll · s.caches.users) (List.filterMap_none map).symm
      · rw [List.filterMap_map]
        exact congrArg (putAll · s.caches.wallets.data) List.filterMap_some.symm
  | _ => cases ho

end RedHatPay.Quarkus
