/-
**The data grid: the attempts of a payment.**

The proof outline of the use case in a transaction, whatever the repositories answer and wherever
they throw: what the transaction has read and written after each call.  Around it, the loop of
`PaymentFunction.accept` stops at the first commit.

* `RedHatPay.Grid.chargeOutline` — **the use case leaves a transaction that charges the wallet**, if
  it returns;
* `RedHatPay.Grid.safe_accept` — **a call keeps to the discipline**, and returns exactly if it has
  committed.
-/

import RedHatPay.Grid.Callers

set_option relaxedAutoImplicit false
set_option autoImplicit false

namespace RedHatPay.Grid

open Program Transaction

variable {users : ShopperKey → Option ShopperEntity} {f : PaymentFunction} {amount : Money}
  (now : LocalDateTime)

/-- In a transaction, with the given counts. -/
def InTx (begins commits : Nat) (l : Caller) : Prop :=
  l.begins = begins ∧ l.commits = commits ∧ l.tx.isSome

theorem InTx.next {begins commits : Nat} {l l' : Caller} {o : RepoOp} {store : CoffeeStore}
    {a : Except JavaException o.Res} (h : InTx begins commits l)
    (hpost : (callSpec users store).post l o a l') : InTx begins commits l' :=
  ⟨hpost.1.trans h.1, hpost.2.1.trans h.2.1, hpost.2.2.1⟩

/-- The wallet of the shopper has been read, and nothing has been written. -/
def WalletRead (users : ShopperKey → Option ShopperEntity) (input : TokenPayInput) (w : Wallet)
    (tx : Tx) : Prop :=
  ∃ name purse n, users ⟨input.shopperId.value⟩ = some ⟨name⟩ ∧
    w = Purse.wallet purse ⟨input.shopperId, ⟨name⟩⟩ ∧ tx =
      ⟨⟨[(⟨input.shopperId.value⟩, some (Purse.entity purse), n)], fun _ => none⟩, .empty, .empty⟩

/-- The wallet has been read, and the token with the given status; nothing has been written. -/
def TokenRead (users : ShopperKey → Option ShopperEntity) (input : TokenPayInput) (w : Wallet)
    (status : RedHatPay.TokenStatus) (tx : Tx) : Prop :=
  ∃ tx' n, WalletRead users input w tx' ∧ tx = { tx' with
    tokens := ⟨[(entryKey input.key, some ⟨TokenStatus.fromDomain status⟩, n)], fun _ => none⟩ }

theorem TokenRead.seen {input : TokenPayInput} {w : Wallet} {tx : Tx}
    (h : TokenRead users input w .unused tx) : Seen users input w tx := by
  obtain ⟨_, n', ⟨name, purse, n, huser, hw, rfl⟩, rfl⟩ := h
  exact ⟨⟨name, purse, n, huser, hw, List.mem_cons_self⟩, n', List.mem_cons_self⟩

theorem TokenRead.effect {input : TokenPayInput} {w : Wallet} {status : RedHatPay.TokenStatus}
    {tx : Tx} (h : TokenRead users input w status tx) : Effect tx id := by
  obtain ⟨_, n', ⟨name, purse, n, -, -, rfl⟩, rfl⟩ := h
  exact effect_id rfl rfl rfl

/-- The transaction has read the wallet `w` and the unused token, has written the token and, if
`charged`, the wallet, all with the effect `g`. -/
def Progress (users : ShopperKey → Option ShopperEntity) (input : TokenPayInput) (w : Wallet)
    (charged : Prop) (g : Store PaymentEntity → Store PaymentEntity) (l : Caller) : Prop :=
  ∃ tx, l.tx = some tx ∧ Seen users input w tx ∧
    (tx.tokens.writes (entryKey input.key)).isSome ∧
    (charged → (tx.wallets.writes ⟨input.shopperId.value⟩).isSome) ∧ Effect tx g

/-- The outline of the use case in a transaction. -/
def chargeOutline (hamount : f.request.amount = amount.value) (begins commits : Nat) :
    PayOutline (callSpec users f.store) (f.request.input amount) now fun r l =>
      InTx begins commits l ∧ ∀ p, r = .ok p → ∃ tx, l.tx = some tx ∧ Charges users f tx where
  start l := InTx begins commits l ∧ l.tx = some Tx.empty
  shopperLoaded shopper l := InTx begins commits l ∧ l.tx = some Tx.empty ∧
    ∃ name, users ⟨f.request.userId⟩ = some ⟨name⟩ ∧ shopper = ⟨⟨f.request.userId⟩, ⟨name⟩⟩
  storeLoaded shopper store l := InTx begins commits l ∧ l.tx = some Tx.empty ∧
    (∃ name, users ⟨f.request.userId⟩ = some ⟨name⟩ ∧ shopper = ⟨⟨f.request.userId⟩, ⟨name⟩⟩) ∧
      store = f.store
  walletLoaded w bill l := InTx begins commits l ∧ bill = f.store.createBill amount ∧
    ∃ tx, l.tx = some tx ∧ WalletRead users (f.request.input amount) w tx
  tokenLoaded w bill token l := InTx begins commits l ∧ bill = f.store.createBill amount ∧
    ∀ t, token = some t → ∃ status tx, t = Store.loadedToken (f.request.input amount) status ∧
      l.tx = some tx ∧ TokenRead users (f.request.input amount) w status tx
  processingStored w bill token l := InTx begins commits l ∧ bill = f.store.createBill amount ∧
    token = Store.loadedToken (f.request.input amount) .unused ∧
    Progress users (f.request.input amount) w False (·.setToken f.request.key .processing) l
  walletStored p token l := InTx begins commits l ∧
    token = Store.loadedToken (f.request.input amount) .unused ∧
    ∃ w w', w.pay (f.store.createBill amount) now = (.ok p, w') ∧
      Progress users (f.request.input amount) w True
        (fun S => (S.setToken f.request.key .processing).setWallet w') l
  usedStored p token l := InTx begins commits l ∧
    token = Store.loadedToken (f.request.input amount) .unused ∧
    ∃ w w', w.pay (f.store.createBill amount) now = (.ok p, w') ∧
      Progress users (f.request.input amount) w True
        (fun S =>
          ((S.setToken f.request.key .processing).setWallet w').setToken f.request.key .used) l
  caught _ l := InTx begins commits l
  loadShopper := by
    refine triple_perform (fun l hl => ⟨hl.1.2.2, trivial⟩) ?_ fun l e l' hl h => hl.1.next h
    intro l shopper l' hl h
    obtain ⟨htx, name, huser, hshopper⟩ := h.2.2.2 shopper rfl
    exact ⟨hl.1.next h, htx.trans hl.2, name, huser, hshopper⟩
  loadStore shopper := by
    refine triple_perform (fun l hl => ⟨hl.1.2.2, trivial⟩) ?_ fun l e l' hl h => hl.1.next h
    intro l store l' hl h
    obtain ⟨htx, hstore⟩ := h.2.2.2 store rfl
    exact ⟨hl.1.next h, htx.trans hl.2.1, hl.2.2, hstore⟩
  loadWallet shopper store := by
    refine triple_perform (fun l hl => ⟨hl.1.2.2, trivial⟩) ?_ fun l e l' hl h => hl.1.next h
    intro l w l' hl h
    obtain ⟨hin, htx, ⟨name, huser, rfl⟩, rfl⟩ := hl
    obtain ⟨purse, n, hw, htx'⟩ := h.2.2.2 w rfl Tx.empty htx rfl
    exact ⟨hin.next h, rfl, _, htx', name, purse, n, huser, hw, rfl⟩
  loadToken w bill := by
    refine triple_perform (fun l hl => ⟨hl.1.2.2, trivial⟩) ?_ fun l e l' hl h => hl.1.next h
    intro l token l' hl h
    obtain ⟨hin, hbill, tx, htx, hread⟩ := hl
    refine ⟨hin.next h, hbill, ?_⟩
    rintro t rfl
    have hempty : tx.tokens = .empty := by
      obtain ⟨_, _, _, -, -, rfl⟩ := hread
      rfl
    obtain ⟨status, n, htoken, htx'⟩ := h.2.2.2 (some t) rfl tx htx hempty
    exact ⟨status, _, Option.some.inj htoken, htx', tx, n, hread, rfl⟩
  absent w bill l h := h.1
  refused w bill token l _ h := h.1
  storeProcessing w bill token hunused := by
    refine triple_perform (fun l hl => ⟨hl.1.2.2, trivial⟩) ?_ fun l e l' hl h => hl.1.next h
    intro l _ l' hl h
    obtain ⟨hin, hbill, htoken⟩ := hl
    obtain ⟨status, tx, rfl, htx, hread⟩ := htoken token rfl
    obtain rfl : status = .unused := hunused
    have htx' := h.2.2.2 rfl tx htx
    exact ⟨hin.next h, hbill, rfl, _, htx', ⟨hread.seen.wallet, hread.seen.token⟩,
      Access.write_self _ _ _, nofun, hread.effect.putToken f.request.key .processing⟩
  insufficient w bill token l _ h := h.1
  storeWallet w bill token p w' hpay := by
    refine triple_perform (fun l hl => ⟨hl.1.2.2, trivial⟩) ?_ fun l e l' hl h => hl.1.next h
    intro l _ l' hl h
    obtain ⟨hin, rfl, htoken, tx, htx, hseen, htokens, -, heffect⟩ := hl
    have htx' := h.2.2.2 rfl tx htx
    have howner : w'.owner.id = ⟨f.request.userId⟩ := by
      obtain ⟨⟨name, purse, n, -, rfl, -⟩, -⟩ := hseen
      obtain ⟨-, -, hw', -⟩ := Wallet.pay_eq_ok hpay
      rw [hw']
      rfl
    refine ⟨hin.next h, htoken, w, w', hpay, _, htx', ⟨hseen.wallet, hseen.token⟩, htokens, ?_,
      heffect.putWallet w'⟩
    intro _
    rw [howner]
    exact Access.write_self _ _ _
  storeUsed p token := by
    refine triple_perform (fun l hl => ⟨hl.1.2.2, trivial⟩) ?_ fun l e l' hl h => hl.1.next h
    intro l _ l' hl h
    obtain ⟨hin, rfl, w, w', hpay, tx, htx, hseen, -, hwallets, heffect⟩ := hl
    have htx' := h.2.2.2 rfl tx htx
    exact ⟨hin.next h, rfl, w, w', hpay, _, htx', ⟨hseen.wallet, hseen.token⟩,
      Access.write_self _ _ _, hwallets, heffect.putToken f.request.key .used⟩
  storePayment p token := by
    refine triple_perform (fun l hl => ⟨hl.1.2.2, trivial⟩) ?_ fun l e l' hl h => hl.1.next h
    intro l _ l' hl h
    obtain ⟨hin, rfl, w, w', hpay, tx, htx, hseen, htokens, hwallets, heffect⟩ := hl
    have htx' := h.2.2.2 rfl ⟨f.request.tokenId⟩ rfl tx htx
    have hshopper : p.shopperId = ⟨f.request.userId⟩ := by
      obtain ⟨⟨name, purse, n, -, rfl, -⟩, -⟩ := hseen
      obtain ⟨-, hp, -⟩ := Wallet.pay_eq_ok hpay
      rw [hp]
      rfl
    have heffect' := heffect.putPayment f.request.key
      (CachePaymentRepository.entity { p with tokenId := some ⟨f.request.tokenId⟩ })
    refine ⟨hin.next h, fun p' _ => ⟨_, htx', amount, now, w, w', p, hamount,
      ⟨hseen.wallet, hseen.token⟩, hpay, hwallets trivial, htokens, ?_⟩⟩
    have hkey : ((Store.loadedToken (f.request.input amount) .unused).relate p).shopperId =
      ⟨f.request.userId⟩ := hshopper
    rw [hkey]
    exact fun c => (heffect' c).trans (Store.charge_eq c.toStore (f.request.input amount) w' _)
  catchNone l h := ⟨h, nofun⟩
  catchSome token := by
    refine triple_perform (fun l hl => ⟨hl.2.2, trivial⟩) ?_ ?_
    · exact fun l _ l' hl h => ⟨hl.next h, nofun⟩
    · exact fun l e l' hl h => ⟨hl.next h, nofun⟩

/-- The use case leaves a transaction that charges the wallet, if it returns. -/
theorem safe_pay (hamount : f.request.amount = amount.value) {begins commits : Nat} {l : Caller}
    (hin : InTx begins commits l) (htx : l.tx = some Tx.empty) :
    Safe (callerSpec users f) (fun r l' => InTx begins commits l' ∧
        ∀ p, r = .ok p → ∃ tx, l'.tx = some tx ∧ Charges users f tx)
      (implement (repositories f.store) (TokenUsecaseImpl.pay (f.request.input amount) now)) l :=
  ((chargeOutline now hamount begins commits).safe ⟨hin, htx⟩).implement
    fun o l h => safe_repositories o l h

/-! ### The loop -/

/-- A caller has committed once if it returns, and not at all if it throws. -/
def Settled {α : Type} : Except JavaException α → Caller → Prop
  | .ok _, l => l.commits = 1
  | .error _, l => l.commits = 0

/-- One attempt: it calls `begin` once, and commits exactly if it returns. -/
theorem safe_tryPay (users : ShopperKey → Option ShopperEntity) (now : LocalDateTime)
    (hamount : f.request.amount = amount.value) {l : Caller} (hcommits : l.commits = 0)
    (hbegins : l.begins < PaymentFunction.maxRetryCount) :
    Safe (callerSpec users f) (fun r l' => l'.begins = l.begins + 1 ∧ Settled r l')
      (f.tryPay amount now) l := by
  refine (safe_bind _ _ _ l).2 ⟨⟨hcommits, hbegins⟩, fun a l₁ h₁ => ?_⟩
  have hcommits₁ : l₁.commits = 0 := h₁.2.1.trans hcommits
  cases a with
  | error e => exact ⟨h₁.1, hcommits₁⟩
  | ok _ =>
      have htx : l₁.tx = some Tx.empty := h₁.2.2.2 rfl
      have hin : InTx (l.begins + 1) 0 l₁ := ⟨h₁.1, hcommits₁, by rw [htx]; rfl⟩
      refine (safe_bind _ _ _ l₁).2 ((safe_pay now hamount hin htx).mono fun r l₂ h₂ => ?_)
      obtain ⟨⟨hbegins₂, hcommits₂, -⟩, hcharges⟩ := h₂
      cases r with
      | error e => exact ⟨hbegins₂, hcommits₂⟩
      | ok p =>
          refine ⟨⟨hcommits₂, hcharges p rfl⟩, fun a l₃ h₃ => ?_⟩
          cases a with
          | error e => exact ⟨h₃.1.trans hbegins₂, h₃.2.1.trans hcommits₂⟩
          | ok _ => exact ⟨h₃.1.trans hbegins₂, h₃.2.1.trans (congrArg (· + 1) hcommits₂)⟩

/-- The loop: it stops at the first commit, and after the last attempt. -/
theorem safe_tryLoop (hamount : f.request.amount = amount.value) (clock : Nat → LocalDateTime)
    {l : Caller} {tryCount n : Nat} (hcommits : l.commits = 0)
    (hbegins : l.begins + n ≤ PaymentFunction.maxRetryCount) :
    Safe (callerSpec users f) (fun r l' => (r = .ok true ∧ l'.commits = 1) ∨
      (r = .ok false ∧ l'.commits = 0)) (f.tryLoop amount clock tryCount n) l := by
  induction n generalizing l tryCount with
  | zero => exact Or.inr ⟨rfl, hcommits⟩
  | succ n ih =>
      have hpay := safe_tryPay users (clock tryCount) hamount hcommits (by omega)
      refine (safe_bind _ _ _ l).2 ((safe_attempt _ _ l).2 (hpay.mono fun r l₁ h₁ => ?_))
      obtain ⟨hbegins₁, hsettled⟩ := h₁
      cases r with
      | ok _ => exact Or.inl ⟨rfl, hsettled⟩
      | error e =>
          refine (safe_bind _ _ _ l₁).2 ((safe_attempt _ _ l₁).2 ⟨trivial, fun a l₂ h₂ => ?_⟩)
          have hbegins₂ : l₂.begins = l₁.begins := h₂.1
          have hcommits₂ : l₂.commits = 0 := h₂.2.1.trans hsettled
          exact ih hcommits₂ (by omega)

/-- **A call keeps to the discipline**, and it has committed once if it returns, and not at all if
it throws. -/
theorem safe_accept (users : ShopperKey → Option ShopperEntity) (f : PaymentFunction)
    (clock : Nat → LocalDateTime) :
    Safe (callerSpec users f) Settled (f.accept clock) .fresh := by
  refine (safe_bind _ _ _ _).2 ?_
  cases hnew : Money.new f.request.amount with
  | error e => exact rfl
  | ok amount =>
      have hamount : f.request.amount = amount.value := Money.new_eq_ok_iff.1 hnew
      refine (safe_bind _ _ _ _).2 ((safe_tryLoop hamount clock rfl (Nat.le_refl _)).mono ?_)
      intro r l h
      rcases h with ⟨rfl, hcommits⟩ | ⟨rfl, hcommits⟩
      · exact hcommits
      · exact hcommits

end RedHatPay.Grid
