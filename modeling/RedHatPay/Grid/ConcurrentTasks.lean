/-
**The data grid: concurrent tasks answer truthfully.**

A task looks for the wallet entry and reads the payment record outside the transactions of the
payment function, while other tasks run, methods throw, and the bounded caches drop payment records
and tokens at any moment.  A task that answers has committed a payment of its own, and its answer is
the record of this payment; and what all tasks together charge is accounted for.

* `RedHatPay.Grid.Dropping`, `RedHatPay.Grid.tasks` — tasks side by side;
* `RedHatPay.Grid.Tracks` — caches from which entries may have been dropped;
* `RedHatPay.Grid.Told`, `RedHatPay.Grid.taskSpec`, `RedHatPay.Grid.safe_call` — what a task is told
  outside its transactions, and what its answer is made of;
* `RedHatPay.Grid.TaskInv`, `RedHatPay.Grid.TaskInv.step`, `RedHatPay.Grid.TaskInv.create` — the
  invariant, which every method keeps, and every client that creates a token;
* `RedHatPay.Grid.tasks_answer_truly` — **truthful answers**.
-/

import RedHatPay.Grid.Affinity
import RedHatPay.Lib.Ghost

set_option relaxedAutoImplicit false
set_option autoImplicit false

namespace RedHatPay.Grid

open Program Transaction

/-! ### Tasks side by side -/

/-- The caches after entries of the bounded caches have been dropped: payment records and tokens. -/
def Caches.drop (c : Caches) (records tokens : TokenKey → Bool) : Caches :=
  { c.evict records with
    tokens := c.tokens.become fun key => if tokens key then none else c.tokens.data key }

/-- **The step relation**: a method acts, and the bounded caches may drop entries. -/
def Dropping {ι : Type} : Interleave.Semantics ι CacheOp CacheOp.Res JavaException Caller Caches :=
  fun i c l o a c' l' => ∃ c₁ records tokens, Acts i c l o a c₁ l' ∧ c' = c₁.drop records tokens

/-- All tasks before they have begun. -/
def tasks {ι : Type} (caches₀ : Caches) (parameter : ι → PaymentDistParam)
    (clock : ι → Nat → LocalDateTime) :
    Interleave.Config ι CacheOp CacheOp.Res JavaException PaymentResponse Caller Caches :=
  ⟨fun i => PaymentTask.call (parameter i) (clock i), fun _ => .fresh, caches₀⟩

/-! ### Dropped entries -/

/-- The caches are those of a history of the ledger, but for entries that were dropped. -/
structure Tracks (c : Caches) (T : Store PaymentEntity) : Prop where
  shoppers : T.shoppers = c.toStore.shoppers
  stores : T.stores = c.toStore.stores
  wallets : T.wallets = c.toStore.wallets
  tokens : ∀ key status, c.toStore.tokens key = some status → T.tokens key = some status
  payments : ∀ key entity, c.toStore.payments key = some entity → T.payments key = some entity

theorem Tracks.refl (c : Caches) : Tracks c c.toStore :=
  ⟨rfl, rfl, rfl, fun _ _ h => h, fun _ _ h => h⟩

/-- Dropping entries. -/
theorem Tracks.drop {c : Caches} {T : Store PaymentEntity} (h : Tracks c T)
    (records tokens : TokenKey → Bool) : Tracks (c.drop records tokens) T := by
  refine ⟨h.shoppers, h.stores, h.wallets, fun key status hstatus => ?_,
    fun key entity hentity => ?_⟩
  · refine h.tokens key status ?_
    rw [Caches.toStore_tokens] at hstatus ⊢
    change Option.map _ (if tokens (entryKey key) then none else c.tokens.data (entryKey key)) = _
      at hstatus
    split at hstatus
    · cases hstatus
    · exact hstatus
  · refine h.payments key entity ?_
    rw [Caches.toStore_payments] at hentity ⊢
    change (if records (entryKey key) then none else c.payments.data (entryKey key)) = _ at hentity
    split at hentity
    · cases hentity
    · exact hentity

/-- A payment, made in the history too. -/
theorem Tracks.pay {c c' : Caches} {T : Store PaymentEntity} {input : TokenPayInput}
    {now : LocalDateTime} {p : Payment} (h : Tracks c T)
    (hpay : c.toStore.pay CachePaymentRepository.entity input now = (some p, c'.toStore)) :
    ∃ T', T.pay CachePaymentRepository.entity input now = (some p, T') ∧ Tracks c' T' := by
  have hunused := Store.unused_of_pay hpay
  have hpresent : c.toStore.present input = T.present input :=
    Store.present_congr (by rw [h.shoppers]) (by rw [h.stores]) (by rw [h.wallets])
      (hunused.trans (h.tokens _ _ hunused).symm)
  obtain ⟨w, -, hcharge, hpay'⟩ := Store.pay_congr hpresent hpay CachePaymentRepository.entity
  refine ⟨_, hpay', ?_, ?_, ?_, ?_, ?_⟩
  · rw [hcharge]
    exact h.shoppers
  · rw [hcharge]
    exact h.stores
  · rw [hcharge]
    exact congrArg (fun wallets => Function.update wallets _ _) h.wallets
  · rw [hcharge]
    intro key status hstatus
    change Function.update c.toStore.tokens input.key (some .used) key = some status at hstatus
    change Function.update T.tokens input.key (some .used) key = some status
    by_cases hkey : key = input.key
    · subst hkey
      rw [Function.update_self] at hstatus ⊢
      exact hstatus
    · rw [Function.update_of_ne hkey] at hstatus ⊢
      exact h.tokens key status hstatus
  · rw [hcharge]
    intro key entity hentity
    rw [Store.charge, Store.setPayment_payments] at hentity ⊢
    by_cases hkey : key = input.key
    · subst hkey
      rw [Function.update_self] at hentity ⊢
      exact hentity
    · rw [Function.update_of_ne hkey] at hentity ⊢
      exact h.payments key entity hentity

/-- What a transaction has read stays consistent when entries are dropped. -/
theorem Tx.Consistent.drop {tx : Tx} {c : Caches} (h : tx.Consistent c)
    (records tokens : TokenKey → Bool) : tx.Consistent (c.drop records tokens) :=
  ⟨h.1, h.2.1.become _, h.2.2.become _⟩

/-! ### What a task is told -/

/-- What a task is told outside its transactions. -/
structure Told where
  /-- It has found no wallet entry. -/
  skipped : Bool
  /-- The record that it has read after its payment, or without a wallet entry. -/
  record : Option PaymentEntity

/-- What it is told by a method. -/
def Told.next (t : Told) (l : Caller) : (o : CacheOp) → Except JavaException o.Res → Told
  | .getWallet _, .ok none => { t with skipped := t.skipped || l.tx.isNone }
  | .getPayment _, .ok entity =>
      { t with record := if l.commits = 1 ∨ t.skipped ∧ l.tx = none then entity else t.record }
  | _, _ => t

/-- The methods that a task calls outside its transactions. -/
def CacheOp.looks : CacheOp → Prop
  | .getWallet _ | .getPayment _ => True
  | _ => False

/-- **The discipline of a task**: that of its payment function, and looking. -/
def taskSpec (users : ShopperKey → Option ShopperEntity) (f : PaymentFunction) :
    Spec CacheOp CacheOp.Res JavaException (Caller × Told) where
  pre l o := mayDo users f l.1 o ∨ o.looks
  post l o a l' := (callerSpec users f).post l.1 o a l'.1 ∧ l'.2 = l.2.next l.1 o a ∧
    (o ≠ .begin → l.1.tx = none → l'.1.tx = none)

/-- The answer for a record. -/
def answerOf (parameter : PaymentDistParam) (entity : PaymentEntity) : PaymentResponse :=
  ⟨parameter.storeId, parameter.shopperId, parameter.tokenId, entity.billingAmount,
    entity.billingDateTime⟩

/-- A task that answers does so with a record that it has read after its payment, or without a
wallet entry. -/
def Answered (parameter : PaymentDistParam) (r : Except JavaException PaymentResponse)
    (l : Caller × Told) : Prop :=
  ∀ response, r = .ok response →
    ∃ entity, l.2.record = some entity ∧ response = answerOf parameter entity

/-! ### The discipline of a task -/

/-- Without a transaction, only `begin` makes one. -/
theorem tx_none_of_acts {ι : Type} {i : ι} {c c' : Caches} {l l' : Caller} {o : CacheOp}
    {a : Except JavaException o.Res} (hl : l.tx = none) (ho : o ≠ .begin)
    (h : Acts i c l o a c' l') : l'.tx = none := by
  obtain ⟨tx, begins, commits⟩ := l
  obtain rfl : tx = none := hl
  have hexec : (exec o ⟨c, none⟩).2.tx = none := by
    cases o with
    | begin => exact absurd rfl ho
    | _ => rfl
  cases h with
  | act => exact hexec
  | fault e tx htx =>
      rcases htx with rfl | rfl
      · rfl
      · exact hexec

/-- What a method tells, as the ghost variable has it. -/
theorem taskSpec_of_acts {ι : Type} {users : ShopperKey → Option ShopperEntity}
    {f : PaymentFunction} {i : ι} {c c' : Caches} {l l' : Caller × Told} {o : CacheOp}
    {a : Except JavaException o.Res} (hc : c.users = users)
    (h : Acts i c l.1 o a c' l'.1) (ht : l'.2 = l.2.next l.1 o a) :
    (taskSpec users f).post l o a l' :=
  ⟨callerSpec_of_acts hc h, ht, fun ho htx => tx_none_of_acts htx ho h⟩

/-- The payment function keeps to it. -/
theorem safe_accept_task (users : ShopperKey → Option ShopperEntity) (f : PaymentFunction)
    (clock : Nat → LocalDateTime) (t : Told) :
    Safe (taskSpec users f) (fun r l => Settled r l.1) (f.accept clock) (.fresh, t) := by
  refine Safe.comap (g := Prod.fst) (fun _ _ h => Or.inl h) ?_ (safe_accept users f clock)
  exact fun _ _ _ _ _ hpost => hpost.1

/-- **A task keeps to its discipline**, and what it answers is a record that it has read. -/
theorem safe_call (users : ShopperKey → Option ShopperEntity) (parameter : PaymentDistParam)
    (clock : Nat → LocalDateTime) :
    Safe (taskSpec users parameter.paymentFunction) (Answered parameter)
      (PaymentTask.call parameter clock) (.fresh, ⟨false, none⟩) := by
  -- what follows the payment function
  have hread : ∀ l : Caller × Told, (l.1.commits = 1 ∨ l.2.skipped ∧ l.1.tx = none) →
      Safe (taskSpec users parameter.paymentFunction) (Answered parameter) (do
        let payment ← CachePaymentRepository.load ⟨parameter.shopperId⟩ ⟨parameter.tokenId⟩
        let payment ← ofExcept (nonNull payment)
        return PaymentTask.answer parameter payment) l := by
    intro l hl
    refine (safe_bind _ _ _ l).2 ⟨Or.inr trivial, fun a l' hpost => ?_⟩
    obtain ⟨-, htold, -⟩ := hpost
    rcases a with e | - | entity
    · exact fun _ h => by cases h
    · exact fun _ h => by cases h
    · have hload : CachePaymentRepository.toPayment ⟨parameter.shopperId⟩ ⟨parameter.tokenId⟩
          (some entity) = (Money.new entity.billingAmount >>= fun m => .ok (some
            ⟨⟨entity.storeId⟩, ⟨parameter.shopperId⟩, m,
              .ofEpochSecond entity.billingDateTime 0 zoneOffset, some ⟨parameter.tokenId⟩⟩)) := rfl
      change Safe _ _ (onValue _ (CachePaymentRepository.toPayment _ _ (some entity))) l'
      rw [hload]
      cases hm : Money.new entity.billingAmount with
      | error e => exact fun _ h => by cases h
      | ok m =>
          rintro response ⟨⟩
          rw [htold]
          refine ⟨entity, if_pos hl, ?_⟩
          rw [PaymentTask.answer, LocalDateTime.toEpochSecond_ofEpochSecond, answerOf,
            Money.new_eq_ok_iff.1 hm]
  refine (safe_bind _ _ _ _).2 ((safe_bind _ _ _ _).2 ⟨Or.inr trivial, fun a l hpost => ?_⟩)
  obtain ⟨⟨hbegins, hcommits, -⟩, htold, hnone⟩ := hpost
  have htx : l.1.tx = none := hnone (by intro h; cases h) rfl
  rcases a with e | - | entry
  · exact fun _ h => by cases h
  · refine hread l (Or.inr ⟨?_, htx⟩)
    rw [htold]
    rfl
  · obtain ⟨⟨tx, begins, commits⟩, told⟩ := l
    obtain rfl : tx = none := htx
    obtain rfl : begins = 0 := hbegins
    obtain rfl : commits = 0 := hcommits
    refine (safe_accept_task users parameter.paymentFunction clock told).mono fun r l' h => ?_
    rcases r with e | u
    · exact fun _ h => by cases h
    · exact hread l' (Or.inl h)

/-! ### One method -/

/-- **What a method of a task does to the committed caches**: nothing, or it commits a transaction
that charges a wallet. -/
theorem task_cases {ι : Type} {i : ι} {users : ShopperKey → Option ShopperEntity}
    {f : PaymentFunction} {c c' : Caches} {l l' : Caller} {o : CacheOp}
    {a : Except JavaException o.Res} (hpre : mayDo users f l o ∨ o.looks)
    (h : Acts i c l o a c' l') :
    (o.committed a = 0 ∧ c' = c) ∨ (o.committed a = 1 ∧ l.commits = 0 ∧ l'.tx = none ∧
      ∃ tx, l.tx = some tx ∧ Charges users f tx ∧ c.valid tx = true ∧ c' = c.apply tx) := by
  rcases hpre with hmay | hlooks
  · exact acts_cases hmay h
  · refine Or.inl ?_
    cases o with
    | getWallet key | getPayment key =>
        cases h with
        | act | fault => exact ⟨rfl, rfl⟩
    | _ => exact hlooks.elim

/-- No wallet entry is removed. -/
theorem wallets_of_apply {c : Caches} {tx : Tx} {key : ShopperKey}
    (h : (c.apply tx).wallets.data key = none) : c.wallets.data key = none := by
  rw [Caches.apply, Versioned.apply_data, overlay] at h
  cases hw : tx.wallets.writes key with
  | none =>
      rw [hw] at h
      exact h
  | some v =>
      rw [hw] at h
      cases h

/-! ### The invariant -/

/-- What a task has been told is true: it has found no wallet entry only if there was none at the
start; and the record that it has read is that of its own payment, or the one of the start. -/
structure Truthful (caches₀ : Caches) (parameter : PaymentDistParam) (paid : Prop)
    (L : List (Key × Payment)) (t : Told) : Prop where
  skipped : t.skipped → caches₀.wallets.data ⟨parameter.shopperId⟩ = none
  record : ∀ entity, t.record = some entity →
    (paid ∧ ∃ p, (parameter.key, p) ∈ L ∧ entity = CachePaymentRepository.entity p) ∨
    (caches₀.wallets.data ⟨parameter.shopperId⟩ = none ∧
      caches₀.payments.data (entryKey parameter.key) = some entity)

/-- More payments do not make it less true. -/
theorem Truthful.mono {caches₀ : Caches} {parameter : PaymentDistParam} {paid paid' : Prop}
    {L L' : List (Key × Payment)} {t : Told} (h : Truthful caches₀ parameter paid L t)
    (hpaid : paid → paid') (hL : L ⊆ L') : Truthful caches₀ parameter paid' L' t where
  skipped := h.skipped
  record entity he := by
    rcases h.record entity he with ⟨hp, p, hmem, hentity⟩ | hnone
    · exact Or.inl ⟨hpaid hp, p, hL hmem, hentity⟩
    · exact Or.inr hnone

/-- Nobody pays without a wallet entry. -/
theorem unpaid_of_absent {caches₀ : Caches} {L : List (Key × Payment)} {T : Store PaymentEntity}
    {parameter : PaymentDistParam}
    (h : Store.Reached CachePaymentRepository.entity caches₀.toStore L T)
    (habsent : caches₀.wallets.data ⟨parameter.shopperId⟩ = none) :
    parameter.key ∉ L.map Prod.fst := by
  intro hmem
  obtain ⟨e, he, hkey⟩ := List.mem_map.1 hmem
  have hsome := h.wallets_of_mem he
  rw [hkey, Caches.toStore_wallets] at hsome
  change ((caches₀.wallets.data ⟨parameter.shopperId⟩).bind _).isSome = true at hsome
  rw [habsent] at hsome
  cases hsome

/-- Only a method that acts answers. -/
theorem exec_of_acts {ι : Type} {i : ι} {c c' : Caches} {l l' : Caller} {o : CacheOp} {v : o.Res}
    (h : Acts i c l o (.ok v) c' l') : (exec o (l.on c)).1 = .ok v := by
  generalize ha : (.ok v : Except JavaException o.Res) = a at h
  cases h with
  | act => rfl
  | fault e tx htx => cases ha

/-- **What a task is told by a method is true.** -/
theorem Truthful.next {caches₀ : Caches} {ι : Type} {i : ι} {parameter : PaymentDistParam}
    {L : List (Key × Payment)} {T : Store PaymentEntity} {c c' : Caches} {l l' : Caller} {t : Told}
    {o : CacheOp} {a : Except JavaException o.Res}
    (h : Truthful caches₀ parameter (l.commits = 1) L t)
    (hreached : Store.Reached CachePaymentRepository.entity caches₀.toStore L T)
    (htracks : Tracks c T)
    (hkept : ∀ key, c.wallets.data key = none → caches₀.wallets.data key = none)
    (hended : l.commits = 1 → l.tx = none)
    (hmem : l.commits = 1 → ∃ p, (parameter.key, p) ∈ L)
    (htouches : Touches parameter.key o) (hact : Acts i c l o a c' l') :
    Truthful caches₀ parameter (l.commits = 1) L (t.next l o a) := by
  cases o with
  | getWallet key =>
      obtain rfl : key = ⟨parameter.shopperId⟩ := htouches
      rcases a with e | - | entry
      · exact h
      · refine ⟨fun hskipped => ?_, h.record⟩
        rcases Bool.or_eq_true_iff.1 hskipped with hs | hnone
        · exact h.skipped hs
        · obtain ⟨tx, begins, commits⟩ := l
          obtain rfl : tx = none := Option.isNone_iff_eq_none.1 hnone
          have hanswer : GridState.wallets ⟨c, none⟩ ⟨parameter.shopperId⟩ = none :=
            Except.ok.inj (exec_of_acts hact)
          rw [(seen_idle c).1] at hanswer
          exact hkept _ hanswer
      · exact h
  | getPayment key =>
      obtain rfl : key = entryKey parameter.key := htouches
      rcases a with e | found
      · exact h
      · refine ⟨h.skipped, fun entity he => ?_⟩
        change (if _ then found else t.record) = some entity at he
        split at he
        · rename_i hnow
          subst he
          -- outside of transactions, what is read is a record of the history
          have htx : l.tx = none := hnow.elim hended And.right
          obtain ⟨tx, begins, commits⟩ := l
          obtain rfl : tx = none := htx
          have hanswer : GridState.payments ⟨c, none⟩ (entryKey parameter.key) = some entity :=
            Except.ok.inj (exec_of_acts hact)
          have hrecord : T.payments parameter.key = some entity := htracks.payments _ _ hanswer
          rcases hnow with hcommits | ⟨hskipped, -⟩
          · obtain ⟨p, hp⟩ := hmem hcommits
            refine Or.inl ⟨hcommits, p, hp, ?_⟩
            exact Option.some.inj (hrecord.symm.trans (hreached.payments_of_mem hp))
          · have habsent := h.skipped hskipped
            refine Or.inr ⟨habsent, ?_⟩
            rw [hreached.payments_eq (unpaid_of_absent hreached habsent),
              Caches.toStore_payments] at hrecord
            exact hrecord
        · exact h.record entity he
  | _ => exact h

/-- The entry of the payment that a task has made. -/
theorem entity_of_made {parameter : PaymentDistParam} {p : Payment}
    (h : Made parameter.paymentFunction.request p) :
    CachePaymentRepository.entity p = PaymentTask.record parameter p.billingDateTime := by
  obtain ⟨hstore, -, hamount, -⟩ := h
  rw [CachePaymentRepository.entity, hstore, hamount]
  rfl

/-- The status of a token before any payment with it, when the tokens `created` have been put by
clients. -/
def unpaidStatus (caches₀ : Caches) (created : List Key) (key : Key) :
    Option RedHatPay.TokenStatus :=
  if key ∈ created then some .unused else caches₀.toStore.tokens key

variable {ι : Type} [DecidableEq ι] (caches₀ : Caches) (parameter : ι → PaymentDistParam)
  (clock : ι → Nat → LocalDateTime)

/-- **The invariant of concurrent tasks** with the local states `loc`: but for dropped entries, the
committed caches are those of a history of the ledger, whose payments `L` are those of the tasks
`order` that have committed, the last one first; and all tasks have been told the truth. -/
structure TaskInv (created : List Key) (order : List ι) (L : List (Key × Payment))
    (T : Store PaymentEntity) (loc : ι → Caller × Told) (c : Caches) : Prop where
  nodup : order.Nodup
  committed : ∀ i, i ∈ order ↔ (loc i).1.commits = 1
  ended : ∀ i, (loc i).1.commits = 1 → (loc i).1.tx = none
  reached : Store.Reached CachePaymentRepository.entity caches₀.toStore L T
  tracks : Tracks c T
  made : List.Forall₂ (fun i e => e.1 = (parameter i).paymentFunction.request.key ∧
    Made (parameter i).paymentFunction.request e.2) order L
  unpaid : ∀ key, key ∉ L.map Prod.fst → T.tokens key = unpaidStatus caches₀ created key
  unused : ∀ key ∈ L.map Prod.fst, unpaidStatus caches₀ created key = some .unused
  kept : ∀ key, c.wallets.data key = none → caches₀.wallets.data key = none
  consistent : ∀ i tx, (loc i).1.tx = some tx → tx.Consistent c
  truthful : ∀ i, Truthful caches₀ (parameter i) ((loc i).1.commits = 1) L (loc i).2

namespace TaskInv

variable {caches₀ parameter} {created : List Key} {order : List ι} {L : List (Key × Payment)}
  {T : Store PaymentEntity} {loc : ι → Caller × Told} {c c' : Caches}

omit [DecidableEq ι] in
/-- Tasks that have not begun. -/
theorem start : TaskInv caches₀ parameter [] [] [] caches₀.toStore
    (fun _ => (.fresh, ⟨false, none⟩)) caches₀ where
  nodup := List.nodup_nil
  committed i := iff_of_false List.not_mem_nil nofun
  ended _ _ := rfl
  reached := .start
  tracks := .refl caches₀
  made := .nil
  unpaid _ _ := rfl
  unused _ hkey := by cases hkey
  kept _ h := h
  consistent _ _ htx := by cases htx
  truthful _ := ⟨nofun, nofun⟩

omit [DecidableEq ι] in
/-- Dropped entries keep the invariant. -/
theorem drop (h : TaskInv caches₀ parameter created order L T loc c)
    (records tokens : TokenKey → Bool) :
    TaskInv caches₀ parameter created order L T loc (c.drop records tokens) :=
  { h with
    tracks := h.tracks.drop records tokens
    consistent := fun i tx htx => (h.consistent i tx htx).drop records tokens }

omit [DecidableEq ι] in
/-- **A token that a client creates** under a new key keeps the invariant. -/
theorem create (h : TaskInv caches₀ parameter created order L T loc c) {key : Key}
    (hnew : key ∉ created) (hfresh : caches₀.toStore.tokens key = none) :
    TaskInv caches₀ parameter (key :: created) order L (T.setToken key .unused) loc
      { c with tokens := c.tokens.put (entryKey key) ⟨.unused⟩ } := by
  have hnone : unpaidStatus caches₀ created key = none := (if_neg hnew).trans hfresh
  have hunpaid : key ∉ L.map Prod.fst := fun hmem => by
    have hsome := h.unused key hmem
    rw [hnone] at hsome
    cases hsome
  have hstatus : ∀ {k}, k ≠ key →
      unpaidStatus caches₀ (key :: created) k = unpaidStatus caches₀ created k := by
    intro k hk
    simp only [unpaidStatus, List.mem_cons, or_iff_right hk]
  have hput := toStore_putToken ⟨c, none⟩ key .unused
  refine { h with
    reached := h.reached.create key ((h.unpaid key hunpaid).trans hnone)
    tracks := ⟨h.tracks.shoppers, h.tracks.stores, h.tracks.wallets, fun k status hk => ?_,
      h.tracks.payments⟩
    unpaid := fun k hk => ?_
    unused := fun k hk => ?_
    consistent := fun i tx htx => ?_ }
  · have hk' : (c.toStore.setToken key .unused).tokens k = some status :=
      (congrFun (congrArg Store.tokens hput) k).symm.trans hk
    rw [Store.setToken_tokens] at hk' ⊢
    by_cases hkey : k = key
    · subst hkey
      rwa [Function.update_self] at hk' ⊢
    · rw [Function.update_of_ne hkey] at hk' ⊢
      exact h.tracks.tokens k status hk'
  · rw [Store.setToken_tokens]
    by_cases hkey : k = key
    · subst hkey
      rw [Function.update_self, unpaidStatus, if_pos List.mem_cons_self]
    · rw [Function.update_of_ne hkey, hstatus hkey]
      exact h.unpaid k hk
  · have hkey : k ≠ key := fun hkey => hunpaid (hkey ▸ hk)
    rw [hstatus hkey]
    exact h.unused k hk
  · obtain ⟨hwallets, htokens, hpayments⟩ := h.consistent i tx htx
    exact ⟨hwallets, htokens.become _, hpayments⟩

/-- A method that does not commit keeps the invariant. -/
theorem act (h : TaskInv caches₀ parameter created order L T loc c) {i : ι} {l : Caller × Told}
    (hcommits : l.1.commits = (loc i).1.commits)
    (hended : (loc i).1.commits = 1 → l.1.tx = none)
    (htx : ∀ tx, l.1.tx = some tx → tx.Consistent c)
    (ht : Truthful caches₀ (parameter i) ((loc i).1.commits = 1) L l.2) :
    TaskInv caches₀ parameter created order L T (Function.update loc i l) c :=
  { h with
    committed := by
      refine (Function.forall_update_iff loc fun j l => j ∈ order ↔ l.1.commits = 1).2
        ⟨?_, fun j _ => h.committed j⟩
      rw [hcommits]
      exact h.committed i
    ended := by
      refine (Function.forall_update_iff loc fun _ l => l.1.commits = 1 → l.1.tx = none).2
        ⟨?_, fun j _ => h.ended j⟩
      rw [hcommits]
      exact hended
    consistent := (Function.forall_update_iff loc
      fun _ l => ∀ tx, l.1.tx = some tx → tx.Consistent c).2 ⟨htx, fun j _ => h.consistent j⟩
    truthful := by
      refine (Function.forall_update_iff loc
        fun j l => Truthful caches₀ (parameter j) (l.1.commits = 1) L l.2).2
        ⟨?_, fun j _ => h.truthful j⟩
      rw [hcommits]
      exact ht }

/-- A commit keeps the invariant, with one more task in the order. -/
theorem commit (h : TaskInv caches₀ parameter created order L T loc c) {i : ι} {l : Caller × Told}
    {tx : Tx} (hfirst : (loc i).1.commits = 0) (hcommits : l.1.commits = 1)
    (hnone : l.1.tx = none) (htx : (loc i).1.tx = some tx)
    (hcharges : Charges c.users (parameter i).paymentFunction tx) (hvalid : c.valid tx = true)
    (ht : Truthful caches₀ (parameter i) ((loc i).1.commits = 1) L l.2) :
    ∃ e T', TaskInv caches₀ parameter created (i :: order) (e :: L) T' (Function.update loc i l)
      (c.apply tx) := by
  obtain ⟨amount, now, payment, hamount, hpay⟩ := hcharges.pay_eq (h.consistent i tx htx) hvalid
  obtain ⟨T', hpay', htracks⟩ := h.tracks.pay hpay
  have hunused : T.tokens (parameter i).paymentFunction.request.key = some .unused :=
    Store.unused_of_pay hpay'
  have hi : i ∉ order := fun hi => by
    have hone := (h.committed i).1 hi
    rw [hfirst] at hone
    cases hone
  -- the token that was read as unused is still unused, so that nobody has paid with it
  have hfresh : (parameter i).paymentFunction.request.key ∉ L.map Prod.fst := fun hmem => by
    have hused := (h.reached.used_iff _).2 (Or.inr hmem)
    rw [hunused] at hused
    cases hused
  refine ⟨((parameter i).paymentFunction.request.key, payment), T', List.nodup_cons.2 ⟨hi, h.nodup⟩,
    ?_, ?_, h.reached.charged hpay', htracks, .cons ⟨rfl, made_of_pay hamount hpay⟩ h.made,
    fun key hkey => ?_, fun key hkey => ?_, fun key hkey => h.kept key (wallets_of_apply hkey),
    ?_, ?_⟩
  · refine (Function.forall_update_iff loc fun j l => j ∈ i :: order ↔ l.1.commits = 1).2
      ⟨iff_of_true List.mem_cons_self hcommits, fun j hji => ?_⟩
    rw [List.mem_cons, or_iff_right hji]
    exact h.committed j
  · exact (Function.forall_update_iff loc fun _ l => l.1.commits = 1 → l.1.tx = none).2
      ⟨fun _ => hnone, fun j _ => h.ended j⟩
  · rw [List.map_cons, List.mem_cons, not_or] at hkey
    exact (Store.pay_tokens_of_ne hpay' hkey.1).trans (h.unpaid key hkey.2)
  · rcases List.mem_cons.1 hkey with rfl | hkey
    · exact (h.unpaid _ hfresh).symm.trans hunused
    · exact h.unused key hkey
  · refine (Function.forall_update_iff loc
      fun _ l => ∀ tx', l.1.tx = some tx' → tx'.Consistent (c.apply tx)).2
      ⟨fun tx' ht => ?_, fun j _ tx' ht => (h.consistent j tx' ht).apply tx⟩
    rw [hnone] at ht
    cases ht
  · refine (Function.forall_update_iff loc
      fun j l => Truthful caches₀ (parameter j) (l.1.commits = 1) (_ :: L) l.2).2
      ⟨?_, fun j _ => (h.truthful j).mono id (List.subset_cons_self _ _)⟩
    exact ht.mono (fun _ => hcommits) (List.subset_cons_self _ _)

/-- **Every method of a task keeps the invariant.** -/
theorem step (h : TaskInv caches₀ parameter created order L T loc c) {i : ι} {o : CacheOp}
    {a : Except JavaException o.Res} {l : Caller × Told}
    (hpre : (taskSpec c.users (parameter i).paymentFunction).pre (loc i) o)
    (htouches : Touches (parameter i).key o) (hact : Acts i c (loc i).1 o a c' l.1)
    (htold : l.2 = (loc i).2.next (loc i).1 o a) :
    ∃ order' L' T', TaskInv caches₀ parameter created order' L' T' (Function.update loc i l) c' ∧
      order ⊆ order' ∧ order' ⊆ i :: order ∧ L ⊆ L' := by
  obtain ⟨⟨-, hcommits, -⟩, -, hstays⟩ :=
    taskSpec_of_acts (f := (parameter i).paymentFunction) rfl hact htold
  have hmem : (loc i).1.commits = 1 → ∃ p, ((parameter i).key, p) ∈ L := fun hone => by
    obtain ⟨p, hp, -⟩ := (keys_of_made h.made).2.2 i ((h.committed i).2 hone)
    exact ⟨p, hp⟩
  have ht : Truthful caches₀ (parameter i) ((loc i).1.commits = 1) L l.2 := by
    rw [htold]
    exact (h.truthful i).next h.reached h.tracks h.kept (h.ended i) hmem htouches hact
  rcases task_cases hpre hact with ⟨hzero, rfl⟩ |
    ⟨hone, hfirst, hnone, tx, htx, hcharges, hvalid, rfl⟩
  · refine ⟨order, L, T, h.act ?_ (fun hone => hstays ?_ (h.ended i hone))
      (consistent_of_acts (h.consistent i) hact) ht, List.Subset.refl _, List.subset_cons_self _ _,
      List.Subset.refl _⟩
    · rw [hcommits, hzero, Nat.add_zero]
    · -- nobody begins another transaction after a commit
      rintro rfl
      rcases hpre with ⟨hnot, -⟩ | hlooks
      · rw [hnot] at hone
        cases hone
      · exact hlooks
  · obtain ⟨e, T', hinv⟩ := h.commit hfirst (by rw [hcommits, hone, hfirst]) hnone htx hcharges
      hvalid ht
    exact ⟨i :: order, e :: L, T', hinv, List.subset_cons_self _ _, List.Subset.refl _,
      List.subset_cons_self _ _⟩

/-! What the invariant says. -/

omit [DecidableEq ι] in
theorem mem_keys (h : TaskInv caches₀ parameter created order L T loc c) {key : Key} :
    key ∈ L.map Prod.fst ↔ ∃ i ∈ order, (parameter i).key = key := by
  rw [(keys_of_made h.made).1]
  exact List.mem_map

omit [DecidableEq ι] in
/-- No two tasks have committed a payment with the same token. -/
theorem once (h : TaskInv caches₀ parameter created order L T loc c) {i j : ι} (hi : i ∈ order)
    (hj : j ∈ order) (hij : (parameter i).key = (parameter j).key) : i = j := by
  have hnodup := h.reached.nodup.1
  rw [(keys_of_made h.made).1] at hnodup
  exact List.inj_on_of_nodup_map hnodup hi hj hij

omit [DecidableEq ι] in
/-- Each task that has committed has a date, which is that of its record. -/
theorem exists_date (h : TaskInv caches₀ parameter created order L T loc c) :
    ∃ date : ι → LocalDateTime, ∀ i ∈ order, ∀ entity,
      (∃ p, ((parameter i).key, p) ∈ L ∧ entity = CachePaymentRepository.entity p) ↔
        entity = PaymentTask.record (parameter i) (date i) := by
  have hdate : ∀ i, ∃ date, i ∈ order → ∀ entity,
      (∃ p, ((parameter i).key, p) ∈ L ∧ entity = CachePaymentRepository.entity p) ↔
        entity = PaymentTask.record (parameter i) date := by
    intro i
    by_cases hi : i ∈ order
    · obtain ⟨p, hp, hmade⟩ := (keys_of_made h.made).2.2 i hi
      refine ⟨p.billingDateTime, fun _ entity => ?_⟩
      rw [← entity_of_made hmade]
      refine ⟨?_, fun he => ⟨p, hp, he⟩⟩
      rintro ⟨p', hp', rfl⟩
      have heq : T.payments (parameter i).key = some (CachePaymentRepository.entity p) :=
        h.reached.payments_of_mem hp
      exact Option.some.inj ((h.reached.payments_of_mem hp').symm.trans heq)
    · exact ⟨⟨0, 0⟩, fun hi' => absurd hi' hi⟩
  choose date hdate using hdate
  exact ⟨date, hdate⟩

omit [DecidableEq ι] in
/-- The token of a task that has committed is used, if it is there. -/
theorem used (h : TaskInv caches₀ parameter created order L T loc c) {i : ι} (hi : i ∈ order)
    {status : RedHatPay.TokenStatus}
    (hs : c.toStore.tokens (parameter i).key = some status) : status = .used := by
  have hused := (h.reached.used_iff _).2 (Or.inr (h.mem_keys.2 ⟨i, hi, rfl⟩))
  exact Option.some.inj ((h.tracks.tokens _ status hs).symm.trans hused)

omit [DecidableEq ι] in
/-- A token that nobody has paid with has the status that it had before, if it is there. -/
theorem status_eq (h : TaskInv caches₀ parameter created order L T loc c) {key : Key}
    (hkey : ∀ i ∈ order, (parameter i).key ≠ key) {status : RedHatPay.TokenStatus}
    (hs : c.toStore.tokens key = some status) : unpaidStatus caches₀ created key = some status := by
  rw [← h.unpaid key fun hk => ?_]
  · exact h.tracks.tokens key status hs
  · obtain ⟨i, hi, hik⟩ := h.mem_keys.1 hk
    exact hkey i hi hik

omit [DecidableEq ι] in
/-- A record that is there is that of a payment of a task, or the one of the start. -/
theorem record_of_data (h : TaskInv caches₀ parameter created order L T loc c) {key : Key}
    {entity : PaymentEntity} (he : c.payments.data (entryKey key) = some entity) :
    (∃ p, (key, p) ∈ L ∧ entity = CachePaymentRepository.entity p) ∨
    ((∀ i ∈ order, (parameter i).key ≠ key) ∧
      caches₀.payments.data (entryKey key) = some entity) := by
  have hT : T.payments key = some entity :=
    h.tracks.payments key entity (by rw [Caches.toStore_payments]; exact he)
  by_cases hk : key ∈ L.map Prod.fst
  · obtain ⟨⟨_, p⟩, hp, rfl⟩ := List.mem_map.1 hk
    exact Or.inl ⟨p, hp, Option.some.inj (hT.symm.trans (h.reached.payments_of_mem hp))⟩
  · rw [h.reached.payments_eq hk, Caches.toStore_payments] at hT
    exact Or.inr ⟨fun i hi hik => hk (h.mem_keys.2 ⟨i, hi, hik⟩), hT⟩

omit [DecidableEq ι] in
/-- The record of a task that has committed is that of its payment, if it is there. -/
theorem record_of_paid (h : TaskInv caches₀ parameter created order L T loc c) {i : ι}
    (hi : i ∈ order) {entity : PaymentEntity}
    (he : c.payments.data (entryKey (parameter i).key) = some entity) :
    ∃ p, ((parameter i).key, p) ∈ L ∧ entity = CachePaymentRepository.entity p := by
  rcases h.record_of_data he with hp | ⟨hne, -⟩
  · exact hp
  · exact absurd rfl (hne i hi)

omit [DecidableEq ι] in
/-- The record of a token that nobody has paid with is the one of the start, if it is there. -/
theorem record_of_unpaid (h : TaskInv caches₀ parameter created order L T loc c) {key : Key}
    (hkey : ∀ i ∈ order, (parameter i).key ≠ key) {entity : PaymentEntity}
    (he : c.payments.data (entryKey key) = some entity) :
    caches₀.payments.data (entryKey key) = some entity := by
  rcases h.record_of_data he with ⟨p, hp, -⟩ | ⟨-, he₀⟩
  · obtain ⟨i, hi, hik⟩ := h.mem_keys.1 (List.mem_map_of_mem (f := Prod.fst) hp)
    exact absurd hik (hkey i hi)
  · exact he₀

omit [DecidableEq ι] in
/-- **No update of a wallet is lost.** -/
theorem balanced (h : TaskInv caches₀ parameter created order L T loc c) (id : ShopperId) :
    match caches₀.toStore.wallets id with
    | none => c.toStore.wallets id = none
    | some purse₀ => ∃ purse, ∃ k : Nat, c.toStore.wallets id = some purse ∧
        purse.autoCharge = purse₀.autoCharge ∧ (purse₀.autoCharge.toInt = 0 → k = 0) ∧
        purse.charged.toInt = purse₀.charged.toInt + k * purse₀.autoCharge.toInt -
          Store.requested (fun i => (parameter i).paymentFunction.request) order id := by
  rw [← h.tracks.wallets]
  cases hw : caches₀.toStore.wallets id with
  | none => exact h.reached.wallets_none hw
  | some purse₀ =>
      obtain ⟨purse, k, hpurse, hauto, hk, hcharged⟩ := h.reached.balanced hw
      rw [(keys_of_made h.made).2.1 id] at hcharged
      exact ⟨purse, k, hpurse, hauto, hk, hcharged⟩

end TaskInv

variable {caches₀ parameter clock}

/-- Every reachable configuration with ghost variables satisfies the invariant, and all tasks keep
to the discipline. -/
theorem taskInv_of_reachable
    {d : Interleave.Config ι CacheOp CacheOp.Res JavaException PaymentResponse (Caller × Told)
      Caches}
    (h : Interleave.Reachable (Interleave.withGhost Dropping fun _ _ l o a t => Told.next t l o a)
      ((tasks caches₀ parameter clock).decorate ⟨false, none⟩) d) :
    (∃ order L T, TaskInv caches₀ parameter [] order L T d.loc d.glob) ∧
      Interleave.AllSafe (fun i => taskSpec caches₀.users (parameter i).paymentFunction)
        (fun i => Answered (parameter i)) d := by
  have hK : ∀ i g l o a g' l', g.users = caches₀.users →
      Interleave.withGhost Dropping (fun _ _ l o a t => Told.next t l o a) (i : ι) g l o a g' l' →
      g'.users = caches₀.users := by
    rintro i g l o a g' l' hg ⟨⟨c₁, records, tokens, hact, rfl⟩, -⟩
    exact (users_of_acts hact).trans hg
  have hR : ∀ i g l o a g' l', g.users = caches₀.users →
      Interleave.withGhost Dropping (fun _ _ l o a t => Told.next t l o a) i g l o a g' l' →
      (taskSpec caches₀.users (parameter i).paymentFunction).pre l o →
      (taskSpec caches₀.users (parameter i).paymentFunction).post l o a l' := by
    rintro i g l o a g' l' hg ⟨⟨c₁, records, tokens, hact, -⟩, htold⟩ -
    exact taskSpec_of_acts hg hact htold
  have h₀ : Interleave.AllSafe (fun i => taskSpec caches₀.users (parameter i).paymentFunction)
      (fun i => Answered (parameter i)) ((tasks caches₀ parameter clock).decorate ⟨false, none⟩) :=
    fun i => safe_call caches₀.users (parameter i) (clock i)
  have hJ := Interleave.invariant (K := fun g : Caches => g.users = caches₀.users)
    (J := fun d => (∃ order L T, TaskInv caches₀ parameter [] order L T d.loc d.glob) ∧
      ∀ i, Calls (Touches (parameter i).key) (d.prog i)) hK hR rfl h₀
    ⟨⟨[], [], _, .start⟩, fun i => calls_call (parameter i) (clock i)⟩ ?_ h
  · exact ⟨hJ.1, Interleave.safe_of_reachable (K := fun g : Caches => g.users = caches₀.users)
      hK hR rfl h₀ h⟩
  rintro d husers hsafe ⟨⟨order, L, T, hinv⟩, hcalls⟩ i o k a g l hp
    ⟨⟨c₁, records, tokens, hact, rfl⟩, htold⟩
  have hi := hsafe i
  have hi' := hcalls i
  rw [hp] at hi hi'
  obtain ⟨order', L', T', hinv', -⟩ :=
    hinv.step (by rw [husers]; exact hi.1) hi'.1 hact htold
  refine ⟨⟨order', L', T', hinv'.drop records tokens⟩, ?_⟩
  exact d.forall_next (P := fun j p _ => Calls (Touches (parameter j).key) p) (l := l)
    (g := c₁.drop records tokens) (hi'.2 a) fun j _ => hcalls j

/-! ### Truthful answers -/

/-- The tasks `order` have committed, each of them one payment, at its date; and the tasks that have
answered have told what they have done. -/
structure AnsweredTruly (caches₀ : Caches) (parameter : ι → PaymentDistParam) (order : List ι)
    (date : ι → LocalDateTime)
    (c : Interleave.Config ι CacheOp CacheOp.Res JavaException PaymentResponse Caller Caches) :
    Prop where
  nodup : order.Nodup
  committed : ∀ i, i ∈ order ↔ (c.loc i).commits = 1
  /-- No two tasks have committed a payment with the same token. -/
  once : ∀ i ∈ order, ∀ j ∈ order, (parameter i).key = (parameter j).key → i = j
  /-- The token of a task that has committed was unused, and is used or has been dropped; its record
  is that of the payment, or has been dropped. -/
  charged : ∀ i ∈ order, caches₀.toStore.tokens (parameter i).key = some .unused ∧
    (∀ status, c.glob.toStore.tokens (parameter i).key = some status → status = .used) ∧
    ∀ entity, c.glob.payments.data (entryKey (parameter i).key) = some entity →
      entity = PaymentTask.record (parameter i) (date i)
  /-- Nothing has happened to the other tokens and to their records, but that they may have been
  dropped. -/
  others : ∀ key, (∀ i ∈ order, (parameter i).key ≠ key) →
    (∀ status, c.glob.toStore.tokens key = some status →
      caches₀.toStore.tokens key = some status) ∧
      ∀ entity, c.glob.payments.data (entryKey key) = some entity →
        caches₀.payments.data (entryKey key) = some entity
  /-- No update of a wallet is lost. -/
  wallets : ∀ id, match caches₀.toStore.wallets id with
    | none => c.glob.toStore.wallets id = none
    | some purse₀ => ∃ purse, ∃ k : Nat, c.glob.toStore.wallets id = some purse ∧
        purse.autoCharge = purse₀.autoCharge ∧ (purse₀.autoCharge.toInt = 0 → k = 0) ∧
        purse.charged.toInt = purse₀.charged.toInt + k * purse₀.autoCharge.toInt -
          Store.requested (fun i => (parameter i).paymentFunction.request) order id
  /-- A task that has answered has committed, and its answer is the receipt of its payment; or
  there was no wallet entry, and it has answered with the record of a payment before all of them. -/
  answered : ∀ i response, c.prog i = .ret (.ok response) →
    (i ∈ order ∧ response = PaymentTask.receipt (parameter i) (date i)) ∨
    (i ∉ order ∧ caches₀.wallets.data ⟨(parameter i).shopperId⟩ = none ∧
      ∃ entity, caches₀.payments.data (entryKey (parameter i).key) = some entity ∧
        response = answerOf (parameter i) entity)

/-- **Concurrent tasks answer truthfully**: in every state that any number of tasks can reach,
whichever methods throw, in whatever order they are called, and whichever entries are dropped. -/
theorem tasks_answer_truly
    {c : Interleave.Config ι CacheOp CacheOp.Res JavaException PaymentResponse Caller Caches}
    (h : Interleave.Reachable Dropping (tasks caches₀ parameter clock) c) :
    ∃ order date, AnsweredTruly caches₀ parameter order date c := by
  obtain ⟨d, hd, rfl⟩ := Interleave.exists_ghost Dropping (fun _ _ l o a t => Told.next t l o a)
    ⟨false, none⟩ h
  obtain ⟨⟨order, L, T, hinv⟩, hsafe⟩ := taskInv_of_reachable hd
  obtain ⟨date, hdate⟩ := hinv.exists_date
  refine ⟨order, date, hinv.nodup, hinv.committed, fun i hi j hj hij => hinv.once hi hj hij,
    fun i hi => ⟨hinv.unused _ (hinv.mem_keys.2 ⟨i, hi, rfl⟩), fun status hs => hinv.used hi hs,
      fun entity he => (hdate i hi entity).1 (hinv.record_of_paid hi he)⟩,
    fun key hkey => ⟨fun status hs => hinv.status_eq hkey hs,
      fun entity he => hinv.record_of_unpaid hkey he⟩,
    hinv.balanced, fun i response hr => ?_⟩
  have hi := hsafe i
  have hr' : d.prog i = .ret (.ok response) := hr
  rw [hr'] at hi
  obtain ⟨entity, htold, hresponse⟩ := hi response rfl
  rcases (hinv.truthful i).record entity htold with ⟨hcommits, hp⟩ | ⟨habsent, hentity⟩
  · have hin : i ∈ order := (hinv.committed i).2 hcommits
    refine Or.inl ⟨hin, ?_⟩
    rw [hresponse, (hdate i hin entity).1 hp]
    rfl
  · refine Or.inr ⟨fun hin => ?_, habsent, entity, hentity, hresponse⟩
    exact unpaid_of_absent hinv.reached habsent (hinv.mem_keys.2 ⟨i, hin, rfl⟩)

/-! ### A schedule -/

/-- The next method of a task, after which the tokens and the records of some keys are dropped. -/
def droppingTurn (t : ι × (TokenKey → Bool)) :
    Interleave.Turn CacheOp CacheOp.Res JavaException Caller Caches := fun o c l =>
  let out := exec o (l.on c)
  some (out.1, out.2.caches.drop t.2 t.2, l.next o out.1 out.2.tx)

omit [DecidableEq ι] in
theorem dropping_turn (t : ι × (TokenKey → Bool)) (o : CacheOp) (c : Caches) (l : Caller)
    (a : Except JavaException o.Res) (c' : Caches) (l' : Caller)
    (h : droppingTurn t o c l = some (a, c', l')) : Dropping t.1 c l o a c' l' := by
  cases h
  exact ⟨_, t.2, t.2, .act, rfl⟩

/-- Two tasks that pay out of the same wallet, each with its own token. -/
def twoParameters : Bool → PaymentDistParam
  | true => ⟨1, "abcd", 30, 1, "Demo Store"⟩
  | false => ⟨1, "efgh", 20, 1, "Demo Store"⟩

/-- One after the other; as soon as the second one has committed, its token and its record are
dropped. -/
def dropped : Interleave.Config Bool CacheOp CacheOp.Res JavaException PaymentResponse Caller
    Caches :=
  (List.replicate 11 (true, fun _ => false) ++ List.replicate 9 (false, fun _ => false) ++
    List.replicate 2 (false, fun key : TokenKey => key.tokenId == "efgh")).foldl
      (.play Prod.fst droppingTurn)
      (tasks (oneShopper 100 0) twoParameters fun _ _ => ⟨0, 0⟩)

/-- Both tasks have charged the wallet; the first one answers, and the second one does not find its
record. -/
theorem tasks_answer_truly_dropped :
    (∀ i, (dropped.loc i).commits = 1) ∧
      dropped.prog true = .ret (.ok (PaymentTask.receipt (twoParameters true) ⟨0, 0⟩)) ∧
      dropped.prog false = .ret (.error .nullPointer) ∧
      ∃ order date, AnsweredTruly (oneShopper 100 0) twoParameters order date dropped :=
  ⟨by decide, rfl, rfl, tasks_answer_truly (Interleave.reachable_play dropping_turn _ _)⟩

end RedHatPay.Grid
