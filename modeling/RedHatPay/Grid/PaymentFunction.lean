/-
**The data grid: `PaymentFunction`.**

The payment runs where the wallet of the shopper is kept.  It makes up to three attempts, each in a
transaction of its own: an attempt that fails at any point, also at its commit, is rolled back and
the next one starts; after three failures it throws.

* `RedHatPay.Grid.PaymentFunction.tryPay`, `RedHatPay.Grid.PaymentFunction.tryLoop`,
  `RedHatPay.Grid.PaymentFunction.accept` — the function;
* `RedHatPay.Grid.PaymentFunction.accept_cases` — **what it does when it runs alone and without
  faults**: the abstract payment, or nothing at all.
-/

import RedHatPay.Grid.Caches

set_option relaxedAutoImplicit false
set_option autoImplicit false

namespace RedHatPay.Grid

open Program

/-- The fields of `rhpay.payment.task.PaymentFunction`: a payment request, and the name of the
store. -/
structure PaymentFunction where
  request : PayRequest
  storeName : String

namespace PaymentFunction

/-- `MAX_RETRY_COUNT`. -/
def maxRetryCount : Nat := 3

/-- The store that the function makes of its fields. -/
def store (f : PaymentFunction) : CoffeeStore := ⟨⟨f.request.storeId⟩, ⟨f.storeName⟩⟩

/-- The `try` block of an attempt: the use case in a transaction. -/
def tryPay (f : PaymentFunction) (amount : Money) (now : LocalDateTime) : CacheProgram Unit := do
  perform CacheOp.begin
  let _ ← implement (repositories f.store) (TokenUsecaseImpl.pay (f.request.input amount) now)
  perform CacheOp.commit

/-- The loop, from the attempt `tryCount` on, with `n` attempts to go: has one succeeded?
`clock tryCount` is what `LocalDateTime.now()` returns in that attempt. -/
def tryLoop (f : PaymentFunction) (amount : Money) (clock : Nat → LocalDateTime) :
    Nat → Nat → CacheProgram Bool
  | _, 0 => return false
  | tryCount, n + 1 => do
      match ← attempt (f.tryPay amount (clock tryCount)) with
      | .ok _ => return true
      | .error _ =>
          let _ ← attempt (perform CacheOp.rollback)
          f.tryLoop amount clock (tryCount + 1) n

/-- `PaymentFunction.accept`. -/
def accept (f : PaymentFunction) (clock : Nat → LocalDateTime) : CacheProgram Unit := do
  let amount ← ofExcept (Money.new f.request.amount)
  let success ← f.tryLoop amount clock 1 maxRetryCount
  if success then return () else fail (.runtime "Fail to pay")

end PaymentFunction

/-! ### Running alone -/

/-- What is seen, without the coffee store that the client has sent. -/
theorem toStore_of_view {store : CoffeeStore} {s : GridState} {S : Store PaymentEntity}
    (h : s.view store = S.withStores fun _ => some store)
    (hstores : S.stores = s.toStore.stores) : s.toStore = S := by
  have hback := congrArg (Store.withStores · s.toStore.stores) h
  change s.toStore = S.withStores s.toStore.stores at hback
  rw [hback, ← hstores]
  rfl

/-- The use case in a transaction that runs alone. -/
theorem run_pay (f : PaymentFunction) (amount : Money) (now : LocalDateTime) (c : Caches) :
    ∃ s, run (gridEnv f.store) (TokenUsecaseImpl.pay (f.request.input amount) now)
        ⟨c, some Tx.empty⟩ = (Store.outcome (c.toStore.pay CachePaymentRepository.entity
          (f.request.input amount) now).1, s) ∧
      s.toStore = (c.toStore.pay CachePaymentRepository.entity (f.request.input amount) now).2 ∧
      Running c s := by
  have hstart : (cacheBackend f.store).view ⟨c, some Tx.empty⟩ =
      c.toStore.withStores fun _ => some f.store := rfl
  obtain ⟨hout, hview⟩ := Backend.run_pay (B := cacheBackend f.store) (f.request.input amount) now
    ⟨c, some Tx.empty⟩
  have hstore : (some f.store).map CoffeeStore.id =
      (c.toStore.stores (f.request.input amount).storeId).map CoffeeStore.id := rfl
  have hpay := Store.pay_withStores (S := c.toStore) (T := fun _ => some f.store) hstore
    CachePaymentRepository.entity now
  rw [hstart] at hout hview
  have hout' := hout.trans (congrArg (fun out => Store.outcome out.1) hpay)
  have hview' := hview.trans (congrArg Prod.snd hpay)
  refine ⟨_, Prod.ext hout' rfl, toStore_of_view hview' ?_,
    run_invariant (gridEnv_running f.store) _ (running_begin c)⟩
  exact Store.pay_stores _ _ _ _

namespace PaymentFunction

variable {dropped : TokenKey → Bool}

/-- One attempt that runs alone: the abstract payment, committed; or a running transaction that
has failed. -/
theorem run_tryPay (f : PaymentFunction) (amount : Money) (now : LocalDateTime) (c : Caches) :
    (∃ (p : Payment) (c' : Caches), c.toStore.pay CachePaymentRepository.entity
        (f.request.input amount) now = (some p, c'.toStore) ∧ c'.users = c.users ∧
      run (bounded dropped) (f.tryPay amount now) ⟨c, none⟩ =
        (.ok (), ⟨c'.evict dropped, none⟩)) ∨
    ((c.toStore.pay CachePaymentRepository.entity (f.request.input amount) now).1 = none ∧
      ∃ s, run (bounded dropped) (f.tryPay amount now) ⟨c, none⟩ = (.error failToPay, s) ∧
        Running c s) := by
  obtain ⟨s, hpay, hstore, hrunning⟩ := run_pay f amount now c
  have hbegin : run (bounded dropped) (f.tryPay amount now) ⟨c, none⟩ =
      run (bounded dropped) (implement (repositories f.store)
        (TokenUsecaseImpl.pay (f.request.input amount) now) >>= fun _ => perform CacheOp.commit)
        ⟨c, some Tx.empty⟩ := run_bind_ok rfl
  have hrun := run_implement (bounded dropped) (repositories f.store)
    (TokenUsecaseImpl.pay (f.request.input amount) now) ⟨c, some Tx.empty⟩
  rw [bounded_above] at hrun
  rcases hp : (c.toStore.pay CachePaymentRepository.entity (f.request.input amount) now).1
    with - | p
  · rw [hp] at hpay
    refine Or.inr ⟨rfl, s, ?_, hrunning⟩
    rw [hbegin]
    exact run_bind_error (hrun.trans hpay)
  · rw [hp] at hpay
    obtain ⟨c', hcommit, hc', husers⟩ := exec_commit hrunning
    refine Or.inl ⟨p, c', Prod.ext hp (hstore.symm.trans hc'.symm), husers, ?_⟩
    rw [hbegin, run_bind_ok (hrun.trans hpay), run_perform, bounded, hcommit]

/-- The loop that runs alone: all attempts end in the same way. -/
theorem run_tryLoop_of_failed {f : PaymentFunction} {amount : Money} {c : Caches}
    {now : LocalDateTime}
    (h : (c.toStore.pay CachePaymentRepository.entity (f.request.input amount) now).1 = none)
    (clock : Nat → LocalDateTime) (tryCount n : Nat) :
    run (bounded dropped) (f.tryLoop amount clock tryCount n) ⟨c, none⟩ =
      (.ok false, ⟨c, none⟩) := by
  induction n generalizing tryCount with
  | zero => rfl
  | succ n ih =>
      rcases f.run_tryPay amount (clock tryCount) c with ⟨p, c', hpay, -⟩ |
        ⟨-, s, hrun, hcaches, tx, htx, -⟩
      · have hnone := Store.pay_eq_none h (clock tryCount)
        rw [hpay] at hnone
        cases hnone
      · have hrollback : bounded dropped .rollback s = (.ok (), ⟨c, none⟩) := by
          rw [bounded, exec, htx, hcaches]
          intro h
          cases h
        have hattempt : run (bounded dropped) (attempt (f.tryPay amount (clock tryCount)))
            ⟨c, none⟩ = (.ok (.error failToPay), s) := by
          rw [run_attempt, hrun]
        have hundo : run (bounded dropped) (attempt (perform CacheOp.rollback)) s =
            (.ok (.ok ()), ⟨c, none⟩) := by
          rw [run_attempt, run_perform, hrollback]
        rw [tryLoop, run_bind_ok hattempt]
        exact (run_bind_ok hundo).trans (ih (tryCount + 1))

/-- **What the function does when it runs alone and without faults**: the abstract payment, if that
is made; otherwise it throws and changes nothing. -/
theorem accept_cases (f : PaymentFunction) (clock : Nat → LocalDateTime) (c : Caches)
    (dropped : TokenKey → Bool) :
    (∃ (amount : Money) (p : Payment) (c' : Caches), f.request.amount = amount.value ∧
      c.toStore.pay CachePaymentRepository.entity (f.request.input amount) (clock 1) =
        (some p, c'.toStore) ∧ c'.users = c.users ∧
      run (bounded dropped) (f.accept clock) ⟨c, none⟩ = (.ok (), ⟨c'.evict dropped, none⟩)) ∨
    ((∀ amount : Money, f.request.amount = amount.value →
        (c.toStore.pay CachePaymentRepository.entity (f.request.input amount) (clock 1)).1 = none) ∧
      ∃ message, run (bounded dropped) (f.accept clock) ⟨c, none⟩ =
        (.error (.runtime message), ⟨c, none⟩)) := by
  rcases lt_or_ge f.request.amount.toInt 0 with hneg | hnn
  · refine Or.inr ⟨fun amount hamount => ?_, "Negative value set to Money", ?_⟩
    · rw [hamount] at hneg
      exact absurd amount.nonneg (not_le.2 hneg)
    · refine run_bind_error ?_
      rw [run_ofExcept, Money.new_of_neg hneg]
  · obtain ⟨amount, hamount⟩ : ∃ m : Money, f.request.amount = m.value :=
      ⟨⟨f.request.amount, hnn⟩, rfl⟩
    have hmoney : run (bounded dropped) (f.accept clock) ⟨c, none⟩ =
        run (bounded dropped) (f.tryLoop amount clock 1 maxRetryCount >>= fun success =>
          if success then return () else fail (.runtime "Fail to pay")) ⟨c, none⟩ := by
      rw [accept, hamount, Money.new_value]
      exact run_bind_ok rfl
    rcases f.run_tryPay amount (clock 1) c with ⟨p, c', hpay, husers, hrun⟩ |
      ⟨hnone, -⟩
    · refine Or.inl ⟨amount, p, c', hamount, hpay, husers, ?_⟩
      have hattempt : run (bounded dropped) (attempt (f.tryPay amount (clock 1))) ⟨c, none⟩ =
          (.ok (.ok ()), ⟨c'.evict dropped, none⟩) := by
        rw [run_attempt, hrun]
      have hloop : run (bounded dropped) (f.tryLoop amount clock 1 maxRetryCount) ⟨c, none⟩ =
          (.ok true, ⟨c'.evict dropped, none⟩) := run_bind_ok hattempt
      exact hmoney.trans (run_bind_ok hloop)
    · refine Or.inr ⟨fun amount' hamount' => ?_, "Fail to pay", ?_⟩
      · have heq : amount' = amount :=
          Money.ext_toInt (congrArg Int32.toInt (hamount'.symm.trans hamount))
        rw [heq, hnone]
      · exact hmoney.trans (run_bind_ok (run_tryLoop_of_failed hnone clock 1 maxRetryCount))

end PaymentFunction

end RedHatPay.Grid
