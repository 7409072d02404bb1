/-
**The monolith: what a failed payment leaves behind.**

An `UPDATE` that reports anything but one row makes the repository throw.  Within
`TokenUsecaseImpl.pay` that exception ends as a checked `PaymentException`, so the transaction
commits what was written up to there; in the point step it stays unchecked, and the transaction
rolls back.  Here the row counts are arbitrary: the `n`-th `UPDATE` of the request reports
`counts n`, and it has changed no row if it reports none.

* `RedHatPay.Monolith.execCounting`, `RedHatPay.Monolith.payCounting`;
* `RedHatPay.Monolith.AllOrNothing` — a request that throws leaves wallets, payments and points
  alone;
* `RedHatPay.Monolith.DebitLost` — when the wallet is debited and the request then throws;
* `RedHatPay.Monolith.allOrNothing_iff` — **the exact condition** under which a request is all or
  nothing.
-/

import RedHatPay.Monolith.TokenLifecycle

set_option relaxedAutoImplicit false
set_option autoImplicit false

namespace RedHatPay.Monolith

open Program

/-! ### Row counts -/

/-- The statements, with the row counts that the `UPDATE`s report. -/
def execCounting (counts : Nat → Int32) : Env DbOp DbOp.Res JavaException (DbState × Nat)
  | .updateChargedMoney id chargedMoney, (s, n) =>
      (.ok (counts n),
        if counts n = 0 then s else (exec (.updateChargedMoney id chargedMoney) s).2, n + 1)
  | .updateStatus key newStatus, (s, n) =>
      (.ok (counts n), if counts n = 0 then s else (exec (.updateStatus key newStatus) s).2, n + 1)
  | .updatePoint id amount, (s, n) =>
      (.ok (counts n), if counts n = 0 then s else (exec (.updatePoint id amount) s).2, n + 1)
  | o, (s, n) => ((exec o s).1, (exec o s).2, n)

/-- Serving a payment request when the `UPDATE`s report the given row counts. -/
def payCounting (counts : Nat → Int32) (db : Db) (req : PayRequest) (now : LocalDateTime) :
    Except JavaException PaymentResponse × Db :=
  let out := Program.run (execCounting counts) (payRequest req now) (db.idle, 0)
  (out.1, out.2.1.committed)

/-- If the request throws, the rows of wallets, payments and points are the ones before it. -/
def AllOrNothing (counts : Nat → Int32) (db : Db) (req : PayRequest) (now : LocalDateTime) : Prop :=
  (∃ e, (payCounting counts db req now).1 = .error e) →
    (payCounting counts db req now).2.wallets = db.wallets ∧
      (payCounting counts db req now).2.payments = db.payments ∧
      (payCounting counts db req now).2.points = db.points

/-- The wallet covers the bill and its balance changes, the token has been taken into processing,
the update of the wallet has changed its row, and that update or the next one of the token reports
something else than one row. -/
def DebitLost (counts : Nat → Int32) (S : Store PaymentEntity) (input : TokenPayInput) : Prop :=
  ∃ w bill, S.present input = some (w, bill) ∧ w.Covers input.amount ∧
    Wallet.balanceAfter w.chargedMoney.toInt w.autoChargeMoney.toInt input.amount.toInt ≠
      w.chargedMoney.toInt ∧
    counts 0 = 1 ∧ counts 1 ≠ 0 ∧ ¬ (counts 1 = 1 ∧ counts 2 = 1)

/-! ### The repositories, with row counts -/

/-- The relational repositories, run with row counts. -/
def countingEnv (counts : Nat → Int32) : Env RepoOp RepoOp.Res JavaException (DbState × Nat) :=
  (execCounting counts).above rdbms

/-- The rows of wallets, payments and points are those of `db`. -/
structure Untouched (db : Db) (s : DbState) : Prop where
  wallets : s.view.wallets = db.wallets
  payments : s.view.payments = db.payments
  points : s.view.points = db.points

theorem untouched_idle (db : Db) : Untouched db db.idle := by
  constructor <;> rw [Db.idle_view]

/-- Storing a token touches only tokens. -/
theorem view_storeToken (s : DbState) (token : Token) :
    ∃ tokens, (rdbmsEnv (.storeToken token) s).2.view = { s.view with tokens := tokens } := by
  change ∃ tokens, (exec (.updateStatus _ _) s).2.view = { s.view with tokens := tokens }
  rw [exec]
  cases s.view.tokens (RdbmsTokenRepository.tokenKey token.shopperId token.tokenId) with
  | none => exact ⟨s.view.tokens, rfl⟩
  | some row => exact ⟨_, Db.putToken_onto _ _ _ _⟩

theorem Untouched.storeToken {db : Db} {s : DbState} (h : Untouched db s) (token : Token) :
    Untouched db (rdbmsEnv (.storeToken token) s).2 := by
  obtain ⟨tokens, hview⟩ := view_storeToken s token
  constructor <;> rw [hview]
  · exact h.wallets
  · exact h.payments
  · exact h.points

/-- The row of a wallet that the domain sees. -/
theorem wallets_row {db : Db} {id : ShopperId} {purse : Purse}
    (h : db.toStore.wallets id = some purse) :
    db.wallets id.value = some ⟨purse.charged.value, purse.autoCharge.value⟩ := by
  obtain ⟨row, hrow, hpurse⟩ := Option.bind_eq_some_iff.1 h
  rw [hrow, purse_eq_some_iff.1 hpurse]

/-- Storing a wallet with another balance touches its row, and with the same balance it does
not. -/
theorem Untouched.storeWallet {db : Db} {s : DbState} {w : Wallet} {purse : Purse}
    (h : Untouched db s) (hw : db.toStore.wallets w.owner.id = some purse)
    (hauto : w.autoChargeMoney = purse.autoCharge) :
    (rdbmsEnv (.storeWallet w) s).2.view.points = db.points ∧
      (w.chargedMoney = purse.charged → Untouched db (rdbmsEnv (.storeWallet w) s).2) ∧
      (w.chargedMoney ≠ purse.charged →
        (rdbmsEnv (.storeWallet w) s).2.view.wallets ≠ db.wallets) := by
  have hrow := wallets_row hw
  have hexec : rdbmsEnv (.storeWallet w) s = (.ok (), ⟨s.committed, s.pending.putWallet
      w.owner.id.value ⟨w.chargedMoney.value, w.autoChargeMoney.value⟩⟩) := by
    change Program.run exec (RdbmsWalletRepository.store w) s = _
    rw [RdbmsWalletRepository.store, run_query, exec, h.wallets, hrow, hauto]
    rfl
  have hview : (rdbmsEnv (.storeWallet w) s).2.view = s.view.putWallet w.owner.id.value
      ⟨w.chargedMoney.value, w.autoChargeMoney.value⟩ := by
    rw [hexec, DbState.view, Db.putWallet_onto]
    rfl
  refine ⟨by rw [hview]; exact h.points, fun hc => ⟨?_, ?_, ?_⟩, fun hc hsame => hc ?_⟩
  · rw [hview, Db.putWallet_wallets, h.wallets, hc, hauto, ← hrow, Function.update_eq_self]
  · rw [hview]
    exact h.payments
  · rw [hview]
    exact h.points
  · have hrow' := congrFun hsame w.owner.id.value
    rw [hview, Db.putWallet_wallets, hrow, Function.update_self] at hrow'
    have hval : w.chargedMoney.value = purse.charged.value :=
      congrArg WalletEntity.chargedMoney (Option.some.inj hrow')
    exact Money.ext_toInt (congrArg Int32.toInt hval)

theorem countingEnv_storePayment (counts : Nat → Int32) {p : Payment} {tokenId : TokenId}
    (h : p.tokenId = some tokenId) (s : DbState) (n : Nat) :
    countingEnv counts (.storePayment p) (s, n) = (.ok (), ⟨s.committed, s.pending.putPayment
      (rowKey (p.shopperId, tokenId)) (RdbmsPaymentRepository.entity p)⟩, n) := by
  change Program.run (execCounting counts) (RdbmsPaymentRepository.store p) (s, n) = _
  rw [RdbmsPaymentRepository.store, h]
  rfl

/-- The outcome of an `UPDATE` that should change one row: it has changed the row if it reports
one, nothing if it reports none, and the row all the same if it reports more. -/
theorem outcome_oneRow {missing many : String} {c : Int32} {s s' : DbState} {n : Nat}
    {I : Unit → DbState × Nat → Prop} {E : DbState × Nat → Prop} (hone : c = 1 → I () (s', n))
    (hnone : c = 0 → E (s, n)) (hmany : c ≠ 0 → c ≠ 1 → E (s', n)) :
    Outcome I E (oneRow missing many c) (if c = 0 then s else s', n) := by
  rw [oneRow]
  split_ifs with h₀ h₁
  · exact hnone h₀
  · exact hone h₁
  · exact hmany h₀ h₁

/-! ### The payment -/

/-- The wallet has been stored: its row is touched if its balance has changed. -/
structure Debited (db : Db) (w : Wallet) (s : DbState) : Prop where
  points : s.view.points = db.points
  same : (db.toStore.wallets w.owner.id).map Purse.charged = some w.chargedMoney → Untouched db s
  changed : (db.toStore.wallets w.owner.id).map Purse.charged ≠ some w.chargedMoney →
    s.view.wallets ≠ db.wallets

theorem Debited.storeToken {db : Db} {w : Wallet} {s : DbState} (h : Debited db w s)
    (token : Token) : Debited db w (rdbmsEnv (.storeToken token) s).2 := by
  obtain ⟨tokens, hview⟩ := view_storeToken s token
  refine ⟨by rw [hview]; exact h.points, fun hc => (h.same hc).storeToken token, fun hc => ?_⟩
  rw [hview]
  exact h.changed hc

theorem Untouched.debited {db : Db} {s : DbState} (h : Untouched db s) {input : TokenPayInput}
    {now : LocalDateTime} {p : Payment} {w : Wallet} {token : Token}
    (hpaid : Store.Paid db.toStore input now p w token) :
    Debited db w (rdbmsEnv (.storeWallet w) s).2 := by
  obtain ⟨-, howner, hauto⟩ := hpaid.owner
  obtain ⟨purse, hw, hauto⟩ := Option.map_eq_some_iff.1 hauto
  rw [← howner] at hw
  obtain ⟨hpoints, hsame, hchanged⟩ := h.storeWallet hw hauto.symm
  refine ⟨hpoints, fun hc => hsame ?_, fun hc => hchanged fun heq => hc ?_⟩
  · rw [hw] at hc
    exact (Option.some.inj hc).symm
  · rw [hw, heq]
    rfl

/-- When the debit is lost, for a payment that the wallet has made. -/
theorem debitLost_iff {counts : Nat → Int32} {S : Store PaymentEntity} {input : TokenPayInput}
    {now : LocalDateTime} {p : Payment} {w' : Wallet} {token : Token}
    (hpaid : Store.Paid S input now p w' token) :
    DebitLost counts S input ↔ (S.wallets w'.owner.id).map Purse.charged ≠ some w'.chargedMoney ∧
      counts 0 = 1 ∧ counts 1 ≠ 0 ∧ ¬ (counts 1 = 1 ∧ counts 2 = 1) := by
  obtain ⟨-, howner, -⟩ := hpaid.owner
  obtain ⟨-, w, bill, hw, hpay⟩ := hpaid
  obtain ⟨name, store, purse, -, -, hpurse, -, rfl, rfl⟩ := Store.present_eq_some hw
  obtain ⟨hc, -, -, hm⟩ := Wallet.pay_eq_ok hpay
  have hbalance : (S.wallets w'.owner.id).map Purse.charged ≠ some w'.chargedMoney ↔
      Wallet.balanceAfter purse.charged.toInt purse.autoCharge.toInt input.amount.toInt ≠
        purse.charged.toInt := by
    rw [howner, hpurse]
    refine not_congr ⟨fun h => ?_, fun h => congrArg some (Money.ext_toInt ?_)⟩
    · rw [← Option.some.inj h] at hm
      exact hm.symm
    · exact (hm.trans h).symm
  rw [hbalance]
  constructor
  · rintro ⟨w, bill, hw', -, hne, hcounts⟩
    rw [hw] at hw'
    cases hw'
    exact ⟨hne, hcounts⟩
  · rintro ⟨hne, hcounts⟩
    exact ⟨_, _, hw, hc, hne, hcounts⟩

/-- The wallets, payments and points are untouched, unless the debit is lost. -/
def Lost (counts : Nat → Int32) (db : Db) (input : TokenPayInput) (s : DbState) : Prop :=
  ¬ DebitLost counts db.toStore input ∧ Untouched db s ∨
    DebitLost counts db.toStore input ∧ s.view.wallets ≠ db.wallets

/-- What a payment leaves behind. -/
def Leaves (counts : Nat → Int32) (db : Db) (input : TokenPayInput) :
    Except JavaException Payment → DbState × Nat → Prop
  | .ok p, (s, _) => p.shopperId = input.shopperId ∧ p.tokenId = some input.tokenId ∧
      ¬ DebitLost counts db.toStore input ∧ s.view.points = db.points
  | .error e, (s, _) => e = failToPay ∧ Lost counts db input s

theorem lost_of_absent {counts : Nat → Int32} {db : Db} {input : TokenPayInput} {s : DbState}
    (h : db.toStore.present input = none) (hs : Untouched db s) : Lost counts db input s := by
  refine Or.inl ⟨?_, hs⟩
  rintro ⟨w, bill, hw, -⟩
  rw [h] at hw
  cases hw

theorem lost_of_counts {counts : Nat → Int32} {db : Db} {input : TokenPayInput} {s : DbState}
    (h : ¬ (counts 0 = 1 ∧ counts 1 ≠ 0)) (hs : Untouched db s) : Lost counts db input s := by
  refine Or.inl ⟨?_, hs⟩
  rintro ⟨w, bill, -, -, -, h₀, h₁, -⟩
  exact h ⟨h₀, h₁⟩

theorem lost_of_debited {counts : Nat → Int32} {db : Db} {input : TokenPayInput}
    {now : LocalDateTime} {p : Payment} {w : Wallet} {token : Token} {s : DbState}
    (hpaid : Store.Paid db.toStore input now p w token) (hs : Debited db w s)
    (h₀ : counts 0 = 1) (h₁ : counts 1 ≠ 0) (h₂ : ¬ (counts 1 = 1 ∧ counts 2 = 1)) :
    Lost counts db input s := by
  by_cases hc : (db.toStore.wallets w.owner.id).map Purse.charged = some w.chargedMoney
  · exact Or.inl ⟨fun h => ((debitLost_iff hpaid).1 h).1 hc, hs.same hc⟩
  · exact Or.inr ⟨(debitLost_iff hpaid).2 ⟨hc, h₀, h₁, h₂⟩, hs.changed hc⟩

theorem Lost.storeToken {counts : Nat → Int32} {db : Db} {input : TokenPayInput} {s : DbState}
    (h : Lost counts db input s) (token : Token) :
    Lost counts db input (rdbmsEnv (.storeToken token) s).2 := by
  rcases h with ⟨hl, hs⟩ | ⟨hl, hs⟩
  · exact Or.inl ⟨hl, hs.storeToken token⟩
  · obtain ⟨tokens, hview⟩ := view_storeToken s token
    exact Or.inr ⟨hl, by rw [hview]; exact hs⟩

/-- The outline of a payment with row counts. -/
def countingOutline (counts : Nat → Int32) (db : Db) (input : TokenPayInput) (now : LocalDateTime) :
    PayOutline (Spec.ofEnv (countingEnv counts)) input now (Leaves counts db input) where
  start s := s = (db.idle, 0)
  shopperLoaded shopper s := s = (db.idle, 0) ∧
    ∃ name, db.toStore.shoppers input.shopperId = some name ∧ shopper = ⟨input.shopperId, name⟩
  storeLoaded shopper store s := s = (db.idle, 0) ∧
    (∃ name, db.toStore.shoppers input.shopperId = some name ∧
      shopper = ⟨input.shopperId, name⟩) ∧ db.toStore.stores input.storeId = some store
  walletLoaded w bill s := s = (db.idle, 0) ∧ Store.Found db.toStore input w bill
  tokenLoaded w bill token s := s = (db.idle, 0) ∧ Store.Found db.toStore input w bill ∧
    token = (db.toStore.tokens input.key).map (Store.loadedToken input)
  processingStored w bill token s := s.2 = 1 ∧ counts 0 = 1 ∧
    token = Store.loadedToken input .unused ∧ db.toStore.present input = some (w, bill) ∧
    Untouched db s.1
  walletStored p token s := s.2 = 2 ∧ counts 0 = 1 ∧ counts 1 = 1 ∧
    ∃ w', Store.Paid db.toStore input now p w' token ∧ Debited db w' s.1
  usedStored p token s := counts 0 = 1 ∧ counts 1 = 1 ∧ counts 2 = 1 ∧
    ∃ w', Store.Paid db.toStore input now p w' token ∧ Debited db w' s.1
  caught _ s := Lost counts db input s.1
  loadShopper := by
    refine triple_ofEnv fun s hs => ?_
    subst hs
    refine outcome_of_toOption (rdbmsEnv_loadShopper db.idle input.shopperId).1
      (fun shopper h => ?_) fun h => ?_ <;> rw [DbState.toStore, Db.idle_view] at h
    · obtain ⟨name, hname, rfl⟩ := Option.map_eq_some_iff.1 h
      exact ⟨rfl, name, hname, rfl⟩
    · exact lost_of_absent (by simp [Store.present, Option.map_eq_none_iff.1 h]) (untouched_idle db)
  loadStore shopper := by
    refine triple_ofEnv fun s hs => ?_
    obtain ⟨rfl, hshopper⟩ := hs
    refine outcome_of_toOption (rdbmsEnv_loadStore db.idle input.storeId).1
      (fun store h => ?_) fun h => ?_ <;> rw [DbState.toStore, Db.idle_view] at h
    · exact ⟨rfl, hshopper, h⟩
    · exact lost_of_absent (by simp [Store.present, h]) (untouched_idle db)
  loadWallet shopper store := by
    refine triple_ofEnv fun s hs => ?_
    obtain ⟨rfl, ⟨name, hname, rfl⟩, hstore⟩ := hs
    refine outcome_of_toOption (rdbmsEnv_loadWallet db.idle _).1
      (fun w h => ?_) fun h => ?_ <;> rw [DbState.toStore, Db.idle_view] at h
    · obtain ⟨purse, hpurse, rfl⟩ := Option.map_eq_some_iff.1 h
      exact ⟨rfl, name, store, purse, hname, hstore, hpurse, rfl, rfl⟩
    · exact lost_of_absent (by simp [Store.present, Option.map_eq_none_iff.1 h]) (untouched_idle db)
  loadToken w bill := by
    refine triple_ofEnv fun s hs => ?_
    obtain ⟨rfl, hfound⟩ := hs
    have hload := (rdbmsEnv_loadToken db.idle input.shopperId input.tokenId).1
    rw [DbState.toStore, Db.idle_view] at hload
    change Outcome _ _ (rdbmsEnv (.loadToken input.shopperId input.tokenId) db.idle).1 _
    cases h : (rdbmsEnv (.loadToken input.shopperId input.tokenId) db.idle).1 with
    | ok token =>
        rw [h] at hload
        exact ⟨rfl, hfound, hload⟩
    | error e =>
        rw [h] at hload
        have hnone : db.toStore.tokens input.key = none := Option.map_eq_none_iff.1 hload.symm
        exact lost_of_absent (Store.present_of_token_ne (by rw [hnone]; nofun)) (untouched_idle db)
  absent w bill s h := by
    obtain ⟨rfl, -, htoken⟩ := h
    have hnone : db.toStore.tokens input.key = none := Option.map_eq_none_iff.1 htoken.symm
    exact lost_of_absent (Store.present_of_token_ne (by rw [hnone]; nofun)) (untouched_idle db)
  refused w bill token s hne h := by
    obtain ⟨rfl, -, htoken⟩ := h
    obtain ⟨status, hstatus, rfl⟩ := Option.map_eq_some_iff.1 htoken.symm
    refine lost_of_absent (Store.present_of_token_ne fun h => hne ?_) (untouched_idle db)
    exact Option.some.inj (hstatus.symm.trans h)
  storeProcessing w bill token hunused := by
    refine triple_ofEnv fun s hs => ?_
    obtain ⟨rfl, ⟨name, store, purse, hname, hstore, hpurse, rfl, rfl⟩, htoken⟩ := hs
    obtain ⟨status, hstatus, rfl⟩ := Option.map_eq_some_iff.1 htoken.symm
    obtain rfl : status = .unused := hunused
    have hs := untouched_idle db
    -- the first update: a row count other than one stops the payment before the debit
    refine outcome_oneRow (fun h₀ => ?_) (fun h₀ => ?_) fun _ h₀ => ?_
    · exact ⟨rfl, h₀, rfl, Store.present_of hname hstore hpurse hstatus, hs.storeToken _⟩
    · exact lost_of_counts (fun h => absurd (h₀.symm.trans h.1) (by decide)) hs
    · exact lost_of_counts (fun h => h₀ h.1) (hs.storeToken _)
  insufficient w bill token s hc h := by
    obtain ⟨-, -, rfl, hw, hs⟩ := h
    obtain ⟨_, store, _, _, _, _, _, _, rfl⟩ := Store.present_eq_some hw
    refine Or.inl ⟨?_, hs⟩
    rintro ⟨w', bill', hw', hc', -⟩
    rw [hw] at hw'
    cases hw'
    exact hc hc'
  storeWallet w bill token p w' hpay := by
    refine triple_ofEnv fun s hs => ?_
    obtain ⟨s, n⟩ := s
    obtain ⟨rfl, h₀, rfl, hw, hs⟩ := hs
    have hpaid : Store.Paid db.toStore input now p w' (Store.loadedToken input .unused) :=
      ⟨rfl, w, bill, hw, hpay⟩
    -- the second update: more than one row throws, with the debit made
    refine outcome_oneRow (fun h₁ => ?_) (fun h₁ => ?_) fun h₁ h₁' => ?_
    · exact ⟨rfl, h₀, h₁, w', hpaid, hs.debited hpaid⟩
    · exact lost_of_counts (fun h => h.2 h₁) hs
    · exact lost_of_debited hpaid (hs.debited hpaid) h₀ h₁ fun h => h₁' h.1
  storeUsed p token := by
    refine triple_ofEnv fun s hs => ?_
    obtain ⟨s, n⟩ := s
    obtain ⟨rfl, h₀, h₁, w', hpaid, hs⟩ := hs
    have hne : counts 1 ≠ 0 := by
      rw [h₁]
      decide
    -- the third update: whatever is thrown now comes after the debit
    refine outcome_oneRow (fun h₂ => ?_) (fun h₂ => ?_) fun _ h₂ => ?_
    · exact ⟨h₀, h₁, h₂, w', hpaid, hs.storeToken _⟩
    · exact lost_of_debited hpaid hs h₀ hne fun h => absurd (h₂.symm.trans h.2) (by decide)
    · exact lost_of_debited hpaid (hs.storeToken _) h₀ hne fun h => h₂ h.2
  storePayment p token := by
    refine triple_ofEnv fun s hs => ?_
    obtain ⟨s, n⟩ := s
    obtain ⟨h₀, h₁, h₂, w', hpaid, hs⟩ := hs
    have hid : token.tokenId = input.tokenId := by
      rw [hpaid.1]
      rfl
    rw [countingEnv_storePayment counts (rfl : (token.relate p).tokenId = _)]
    refine ⟨hpaid.owner.1, congrArg some hid, fun h => ?_, ?_⟩
    · exact ((debitLost_iff hpaid).1 h).2.2.2 ⟨h₁, h₂⟩
    · rw [DbState.view, Db.putPayment_onto]
      exact hs.points
  catchNone s h := ⟨rfl, h⟩
  catchSome token := by
    refine triple_ofEnv fun s hs => ?_
    obtain ⟨s, n⟩ := s
    refine outcome_oneRow (fun _ => ?_) (fun _ => ?_) fun _ _ => ?_
    · exact ⟨rfl, hs.storeToken token⟩
    · exact ⟨rfl, hs⟩
    · exact ⟨rfl, hs.storeToken token⟩

/-! ### The request -/

theorem countingEnv_committed (counts : Nat → Int32) (o : RepoOp) (s : DbState × Nat) :
    (countingEnv counts o s).2.1.committed = s.1.committed := by
  obtain ⟨s, n⟩ := s
  have hupdate : ∀ s' : DbState, s'.committed = s.committed →
      (if counts n = 0 then s else s').committed = s.committed := by
    intro s' hs'
    split
    · rfl
    · exact hs'
  cases o with
  | storeWallet w => exact hupdate _ (rdbmsEnv_committed (.storeWallet w) s)
  | storeToken token => exact hupdate _ (rdbmsEnv_committed (.storeToken token) s)
  | storePoint point => exact hupdate _ (rdbmsEnv_committed (.storePoint point) s)
  | storePayment p =>
      change (Program.run (execCounting counts) (RdbmsPaymentRepository.store p)
        (s, n)).2.1.committed = s.committed
      rw [RdbmsPaymentRepository.store]
      cases p.tokenId <;> rfl
  | _ => rfl

/-- The outcome of a request, and the tables that it leaves. -/
theorem payCounting_eq (counts : Nat → Int32) (db : Db) (req : PayRequest) (now : LocalDateTime) :
    payCounting counts db req now =
      ((Program.run (countingEnv counts) (PaymentResource.pay req now) (db.idle, 0)).1,
        if commits (Program.run (countingEnv counts) (PaymentResource.pay req now) (db.idle, 0)).1
        then (Program.run (countingEnv counts) (PaymentResource.pay req now)
          (db.idle, 0)).2.1.view
        else db) := by
  have h := run_transactional (h := execCounting counts) (f := Prod.fst)
    (countingEnv_committed counts) (fun _ => ⟨rfl, rfl⟩) (fun _ => ⟨rfl, rfl⟩)
    (PaymentResource.pay req now) (s := (db.idle, 0)) rfl
  exact Prod.ext h.1 h.2

theorem oneRow_unchecked {missing many : String} {c : Int32} {e : JavaException}
    (h : oneRow missing many c = .error e) : e.checked = false := by
  unfold oneRow at h
  split_ifs at h <;> cases h <;> rfl

/-- An exception of the point step is not a checked one. -/
theorem addPoint_unchecked (counts : Nat → Int32) (p : Payment) (s : DbState × Nat)
    {e : JavaException}
    (h : (Program.run (countingEnv counts) (PointUsecase.addPoint p) s).1 = .error e) :
    e.checked = false := by
  rcases run_bind_eq_error h with hload | ⟨point, s', -, h⟩
  · change ((optionalGet (s.1.view.points p.shopperId.value)).bind _) = .error e at hload
    cases hq : s.1.view.points p.shopperId.value with
    | none =>
        rw [hq] at hload
        cases hload
        rfl
    | some q =>
        rw [hq] at hload
        cases hload
  · rcases run_bind_eq_error h with hstore | ⟨_, _, _, h⟩
    · exact oneRow_unchecked hstore
    · cases h

/-- What fails after the payment is rolled back. -/
theorem allOrNothing_of_paid {counts : Nat → Int32} {db : Db} {req : PayRequest}
    {now : LocalDateTime} {m : Money} {p : Payment} {s : DbState × Nat}
    (hm : req.amount = m.value) (hid : p.tokenId = some ⟨req.tokenId⟩)
    (hpay : Program.run (countingEnv counts) (TokenUsecaseImpl.pay (req.input m) now)
      (db.idle, 0) = (.ok p, s)) : AllOrNothing counts db req now := by
  rintro ⟨e, he⟩
  rw [payCounting_eq] at he ⊢
  -- only the point step can still throw
  have hunchecked : e.checked = false := by
    have he' := he
    rw [PaymentResource.pay, hm, Money.new_value, run_bind_ok rfl] at he'
    rcases run_bind_eq_error he' with hpay' | ⟨p', s', hpay', he'⟩
    · rw [hpay] at hpay'
      cases hpay'
    · rw [hpay] at hpay'
      cases hpay'
      rcases run_bind_eq_error he' with hadd | ⟨_, _, _, he'⟩
      · exact addPoint_unchecked counts p s hadd
      · rw [hid] at he'
        cases he'
  have hcommits : commits (Program.run (countingEnv counts) (PaymentResource.pay req now)
      (db.idle, 0)).1 = false := by
    rw [he]
    exact hunchecked
  rw [hcommits]
  exact ⟨rfl, rfl, rfl⟩

/-- **The exact condition**: a request is all or nothing unless the debit is lost. -/
theorem allOrNothing_iff (counts : Nat → Int32) (db : Db) (req : PayRequest)
    (now : LocalDateTime) :
    AllOrNothing counts db req now ↔
      ¬ ∃ m, req.amount = m.value ∧ DebitLost counts db.toStore (req.input m) := by
  rcases lt_or_ge req.amount.toInt 0 with hneg | hnn
  · refine iff_of_true ?_ ?_
    · rintro -
      have hrun : Program.run (countingEnv counts) (PaymentResource.pay req now) (db.idle, 0) =
          (.error (.runtime "Negative value set to Money"), (db.idle, 0)) := by
        refine run_bind_error ?_
        rw [run_ofExcept, Money.new_of_neg hneg]
      rw [payCounting_eq, hrun]
      exact ⟨rfl, rfl, rfl⟩
    · rintro ⟨m, hm, -⟩
      rw [hm] at hneg
      exact absurd m.nonneg (not_le.2 hneg)
  · obtain ⟨m, hm⟩ : ∃ m : Money, req.amount = m.value := ⟨⟨req.amount, hnn⟩, rfl⟩
    have huniq : (∃ m', req.amount = m'.value ∧ DebitLost counts db.toStore (req.input m')) ↔
        DebitLost counts db.toStore (req.input m) := by
      refine ⟨?_, fun h => ⟨m, hm, h⟩⟩
      rintro ⟨m', hm', h⟩
      rwa [Money.ext_toInt (congrArg Int32.toInt (hm.symm.trans hm'))]
    rw [huniq]
    have hleaves := ((countingOutline counts db (req.input m) now).safe rfl).run_ofEnv
    rcases hpay : Program.run (countingEnv counts) (TokenUsecaseImpl.pay (req.input m) now)
      (db.idle, 0) with ⟨e | p, s, n⟩
    · rw [hpay] at hleaves
      obtain ⟨rfl, hlost⟩ := hleaves
      have hrun : Program.run (countingEnv counts) (PaymentResource.pay req now) (db.idle, 0) =
          (.error failToPay, (s, n)) := by
        rw [PaymentResource.pay, hm, Money.new_value]
        exact (run_bind_ok rfl).trans (run_bind_error hpay)
      rw [AllOrNothing, payCounting_eq, hrun]
      -- the exception is a checked one, and the transaction commits
      change ((∃ e, _ = Except.error e) → s.view.wallets = db.wallets ∧
        s.view.payments = db.payments ∧ s.view.points = db.points) ↔ _
      rcases hlost with ⟨hl, hs⟩ | ⟨hl, hs⟩
      · exact iff_of_true (fun _ => ⟨hs.wallets, hs.payments, hs.points⟩) hl
      · exact iff_of_false (fun h => hs (h ⟨_, rfl⟩).1) (not_not.2 hl)
    · rw [hpay] at hleaves
      exact iff_of_true (allOrNothing_of_paid hm hleaves.2.1 hpay) hleaves.2.2.1

/-- The wallet is updated, and the next update of the token finds no row: the request throws, and
the debit stays. -/
theorem debit_lost :
    ¬ AllOrNothing (fun n => if n = 2 then 0 else 1) (oneShopper 100 0 .unused) (presented 30)
      ⟨0, 0⟩ := by
  intro h
  obtain ⟨hwallets, -, -⟩ := h ⟨failToPay, by decide⟩
  have hrow := congrFun hwallets 1
  revert hrow
  decide

end RedHatPay.Monolith
