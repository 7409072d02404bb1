/-
**The data grid: concurrent callers, and attempts that fail.**

Any number of `PaymentFunction.accept` calls run side by side, one method at a time.  Any method
may throw, with or without having had its effect on the transaction of the caller; what it can not
do is to commit and throw.

The second half of the module says what a call must keep to, whatever the caches answer and wherever
they throw: it commits only a transaction that has read a wallet and an unused token, and has
written what the payment out of this wallet with this token comes to.

* `RedHatPay.Grid.Caller`, `RedHatPay.Grid.Acts` — a caller, and the step relation;
* `RedHatPay.Grid.Charges` — a transaction that charges a wallet for a token;
* `RedHatPay.Grid.callerSpec` — the discipline of a call;
* `RedHatPay.Grid.safe_repositories` — the repositories keep to it;
* `RedHatPay.Grid.Charges.pay_eq` — **a charge that passes the check at commit is the abstract
  payment** from the caches as they are at commit.
-/

import RedHatPay.Grid.PaymentFunction
import RedHatPay.Lib.Interleave

set_option relaxedAutoImplicit false
set_option autoImplicit false

namespace RedHatPay.Grid

open Program Transaction

/-! ### Callers side by side -/

/-- A caller: its transaction, how often it has called `begin`, and how often it has committed. -/
structure Caller where
  tx : Option Tx
  begins : Nat
  commits : Nat

/-- A caller that has done nothing. -/
def Caller.fresh : Caller := ⟨none, 0, 0⟩

/-- Does the method begin a transaction? -/
def CacheOp.begins : CacheOp → Nat
  | .begin => 1
  | _ => 0

/-- Has the method committed? -/
def CacheOp.committed : (o : CacheOp) → Except JavaException o.Res → Nat
  | .commit, .ok _ => 1
  | _, _ => 0

/-- The caller after a method. -/
def Caller.next (l : Caller) (o : CacheOp) (a : Except JavaException o.Res) (tx : Option Tx) :
    Caller :=
  ⟨tx, l.begins + o.begins, l.commits + o.committed a⟩

/-- What a method works on. -/
def Caller.on (l : Caller) (c : Caches) : GridState := ⟨c, l.tx⟩

/-- **The step relation**: a method does what it should; or it throws, without a change to the
committed caches, and with or without its effect on the transaction. -/
inductive Acts {ι : Type} (i : ι) (c : Caches) (l : Caller) (o : CacheOp) :
    Except JavaException o.Res → Caches → Caller → Prop
  | act : Acts i c l o (exec o (l.on c)).1 (exec o (l.on c)).2.caches
      (l.next o (exec o (l.on c)).1 (exec o (l.on c)).2.tx)
  | fault (e : JavaException) (tx : Option Tx) (htx : tx = l.tx ∨ tx = (exec o (l.on c)).2.tx) :
      Acts i c l o (.error e) c (l.next o (.error e) tx)

/-- No call writes to the user cache. -/
theorem users_of_acts {ι : Type} {i : ι} {c c' : Caches} {l l' : Caller} {o : CacheOp}
    {a : Except JavaException o.Res} (h : Acts i c l o a c' l') : c'.users = c.users := by
  cases h with
  | fault e tx htx => rfl
  | act =>
      obtain ⟨tx, begins, commits⟩ := l
      cases o with
      | commit =>
          cases tx with
          | none => rfl
          | some tx =>
              rw [Caller.on, exec]
              dsimp only
              split <;> rfl
      | _ => cases tx <;> rfl

/-! ### Transactions that charge a wallet -/

/-- What the transaction has read: the wallet `w` of the shopper, and the token of the payment,
which was unused. -/
structure Seen (users : ShopperKey → Option ShopperEntity) (input : TokenPayInput) (w : Wallet)
    (tx : Tx) : Prop where
  wallet : ∃ name purse n, users ⟨input.shopperId.value⟩ = some ⟨name⟩ ∧
    w = Purse.wallet purse ⟨input.shopperId, ⟨name⟩⟩ ∧
    (⟨input.shopperId.value⟩, some (Purse.entity purse), n) ∈ tx.wallets.reads
  token : ∃ n, (entryKey input.key, some ⟨.unused⟩, n) ∈ tx.tokens.reads

/-- What the transaction has written, as a change of the caches that it sees, whatever they are. -/
def Effect (tx : Tx) (f : Store PaymentEntity → Store PaymentEntity) : Prop :=
  ∀ c : Caches, GridState.toStore ⟨c, some tx⟩ = f c.toStore

/-- A transaction without writes. -/
theorem effect_id {tx : Tx} (hw : tx.wallets.writes = fun _ => none)
    (ht : tx.tokens.writes = fun _ => none) (hp : tx.payments.writes = fun _ => none) :
    Effect tx id := by
  intro c
  rw [id_eq, Caches.toStore, GridState.toStore, GridState.toStore, (seen_idle c).1,
    (seen_idle c).2.1, (seen_idle c).2.2]
  simp [GridState.wallets, GridState.tokens, GridState.payments, GridState.access, Versioned.see,
    overlay, hw, ht, hp]

theorem Effect.putToken {tx : Tx} {f : Store PaymentEntity → Store PaymentEntity}
    (h : Effect tx f) (key : Key) (status : RedHatPay.TokenStatus) :
    Effect { tx with
        tokens := tx.tokens.write (entryKey key) ⟨TokenStatus.fromDomain status⟩ }
      fun S => (f S).setToken key status := by
  intro c
  change _ = (f c.toStore).setToken key status
  rw [← h c]
  exact toStore_putToken ⟨c, some tx⟩ key status

theorem Effect.putWallet {tx : Tx} {f : Store PaymentEntity → Store PaymentEntity}
    (h : Effect tx f) (w : Wallet) :
    Effect { tx with
        wallets := tx.wallets.write ⟨w.owner.id.value⟩
          ⟨w.chargedMoney.value, w.autoChargeMoney.value⟩ }
      fun S => (f S).setWallet w := by
  intro c
  change _ = (f c.toStore).setWallet w
  rw [← h c]
  exact toStore_putWallet ⟨c, some tx⟩ w

theorem Effect.putPayment {tx : Tx} {f : Store PaymentEntity → Store PaymentEntity}
    (h : Effect tx f) (key : Key) (entity : PaymentEntity) :
    Effect { tx with payments := tx.payments.write (entryKey key) entity }
      fun S => (f S).setPayment key entity := by
  intro c
  change _ = (f c.toStore).setPayment key entity
  rw [← h c]
  exact toStore_putPayment ⟨c, some tx⟩ key entity

/-- **A transaction that charges a wallet for a token**: it has read both, and has written the
wallet after the payment, the used token and the payment record. -/
def Charges (users : ShopperKey → Option ShopperEntity) (f : PaymentFunction) (tx : Tx) : Prop :=
  ∃ amount now w w' p, f.request.amount = amount.value ∧
    Seen users (f.request.input amount) w tx ∧
    w.pay (f.store.createBill amount) now = (.ok p, w') ∧
    (tx.wallets.writes ⟨f.request.userId⟩).isSome ∧
    (tx.tokens.writes (entryKey f.request.key)).isSome ∧
    Effect tx fun S => S.charge (f.request.input amount) w'
      (CachePaymentRepository.entity { p with tokenId := some ⟨f.request.tokenId⟩ })

/-- What a transaction has read is consistent with the committed caches. -/
def Tx.Consistent (tx : Tx) (c : Caches) : Prop :=
  tx.wallets.Consistent c.wallets ∧ tx.tokens.Consistent c.tokens ∧
    tx.payments.Consistent c.payments

/-- **A charge that passes the check at commit is the abstract payment**: from the caches at
commit, and not only from what the transaction has read. -/
theorem Charges.pay_eq {f : PaymentFunction} {tx : Tx} {c : Caches} (h : Charges c.users f tx)
    (hc : tx.Consistent c) (hvalid : c.valid tx = true) :
    ∃ amount now p, f.request.amount = amount.value ∧
      c.toStore.pay CachePaymentRepository.entity (f.request.input amount) now =
        (some p, (c.apply tx).toStore) := by
  obtain ⟨amount, now, w, w', p, hamount, hseen, hpay, hw, ht, heffect⟩ := h
  obtain ⟨⟨name, purse, n, huser, rfl, hread⟩, n', hread'⟩ := hseen
  simp only [Caches.valid, Bool.and_eq_true] at hvalid
  -- the entries that were read are still there
  have hwallet : c.toStore.wallets ⟨f.request.userId⟩ = some purse := by
    have hdata := hc.1.data_eq hvalid.1.1 hread hw
    change (GridState.wallets ⟨c, none⟩ ⟨f.request.userId⟩).bind WalletEntity.purse = some purse
    rw [(seen_idle c).1]
    exact (congrArg (Option.bind · WalletEntity.purse) hdata).trans (purse_eq_some_iff.2 rfl)
  have htoken : c.toStore.tokens f.request.key = some .unused := by
    have hdata := hc.2.1.data_eq hvalid.1.2 hread' ht
    change (GridState.tokens ⟨c, none⟩ (entryKey f.request.key)).map _ =
      some RedHatPay.TokenStatus.unused
    rw [(seen_idle c).2.1]
    exact congrArg (Option.map fun entity : TokenEntity => entity.status.toDomain) hdata
  have hshopper : c.toStore.shoppers ⟨f.request.userId⟩ = some ⟨name⟩ :=
    congrArg (Option.map fun entity : ShopperEntity => (⟨entity.name⟩ : FullName)) huser
  have hpresent : c.toStore.present (f.request.input amount) = some _ :=
    Store.present_of hshopper rfl hwallet htoken
  have hcommit : (c.apply tx).toStore = GridState.toStore ⟨c, some tx⟩ := by
    obtain ⟨hwallets, htokens, hpayments⟩ := seen_idle (c.apply tx)
    rw [Caches.toStore, GridState.toStore, hwallets, htokens, hpayments]
    rfl
  refine ⟨amount, now, { p with tokenId := some ⟨f.request.tokenId⟩ }, hamount, ?_⟩
  have hpaid : Store.Paid c.toStore (f.request.input amount) now p w'
      (Store.loadedToken (f.request.input amount) .unused) := ⟨rfl, _, _, hpresent, hpay⟩
  rw [hcommit, heffect c]
  exact hpaid.pay_eq

/-! ### The discipline of a call -/

/-- The methods that a call may make: at most three times `begin`, and `commit` only once and only
for a charge; the caches are used within a transaction. -/
def mayDo (users : ShopperKey → Option ShopperEntity) (f : PaymentFunction) (l : Caller) :
    CacheOp → Prop
  | .begin => l.commits = 0 ∧ l.begins < PaymentFunction.maxRetryCount
  | .commit => l.commits = 0 ∧ ∃ tx, l.tx = some tx ∧ Charges users f tx
  | .rollback => True
  | _ => ∃ tx, l.tx = some tx

/-- What the answer of a method tells about the transaction before and after it. -/
def told (users : ShopperKey → Option ShopperEntity) (tx tx' : Option Tx) :
    (o : CacheOp) → Except JavaException o.Res → Prop
  | .begin, a => a = .ok () → tx' = some Tx.empty
  | .getUser key, a => ∀ entity, a = .ok entity → tx' = tx ∧ entity = users key
  | .getWallet key, a => ∀ entity, a = .ok entity → ∀ t, tx = some t → t.wallets = .empty →
      ∃ n, tx' = some { t with wallets := ⟨[(key, entity, n)], fun _ => none⟩ }
  | .putWallet key v, a => a = .ok () → ∀ t, tx = some t →
      tx' = some { t with wallets := t.wallets.write key v }
  | .getToken key, a => ∀ entity, a = .ok entity → ∀ t, tx = some t → t.tokens = .empty →
      ∃ n, tx' = some { t with tokens := ⟨[(key, entity, n)], fun _ => none⟩ }
  | .putToken key v, a => a = .ok () → ∀ t, tx = some t →
      tx' = some { t with tokens := t.tokens.write key v }
  | .putPayment key v, a => a = .ok () → ∀ t, tx = some t →
      tx' = some { t with payments := t.payments.write key v }
  | _, _ => True

/-- Does the method belong to the transaction manager? -/
def CacheOp.manages : CacheOp → Bool
  | .begin | .commit | .rollback => true
  | _ => false

/-- **The discipline** of a call. -/
def callerSpec (users : ShopperKey → Option ShopperEntity) (f : PaymentFunction) :
    Spec CacheOp CacheOp.Res JavaException Caller where
  pre l o := mayDo users f l o
  post l o a l' := l'.begins = l.begins + o.begins ∧ l'.commits = l.commits + o.committed a ∧
    (o.manages = false → l.tx.isSome → l'.tx.isSome) ∧ told users l.tx l'.tx o a

/-- A read of an entry that the transaction has not read before. -/
theorem read_empty {K V : Type} [DecidableEq K] {c : Versioned K V} {a : Access K V}
    (h : a = .empty) (k : K) : c.see a k = c.data k ∧
      c.read a k = ⟨[(k, c.data k, c.version k)], fun _ => none⟩ := by
  subst h
  exact ⟨Versioned.see_empty c k, rfl⟩

theorem callerSpec_of_acts {ι : Type} {users : ShopperKey → Option ShopperEntity}
    {f : PaymentFunction} {i : ι} {c c' : Caches} {l l' : Caller} {o : CacheOp}
    {a : Except JavaException o.Res} (hc : c.users = users) (h : Acts i c l o a c' l') :
    (callerSpec users f).post l o a l' := by
  obtain ⟨tx, begins, commits⟩ := l
  cases h with
  | fault e tx' htx =>
      refine ⟨rfl, rfl, fun hmanages hsome => ?_, ?_⟩
      · rcases htx with rfl | rfl
        · exact hsome
        · obtain ⟨t, rfl⟩ := Option.isSome_iff_exists.1 hsome
          cases o with
          | begin | commit | rollback => cases hmanages
          | _ => rfl
      · cases o <;> first | trivial | nofun
  | act =>
      refine ⟨rfl, rfl, fun hmanages hsome => ?_, ?_⟩
      · obtain ⟨t, rfl⟩ := Option.isSome_iff_exists.1 hsome
        cases o with
        | begin | commit | rollback => cases hmanages
        | _ => rfl
      · cases o with
        | begin =>
            cases tx with
            | none => exact fun _ => rfl
            | some t => nofun
        | commit | rollback | getPayment key => trivial
        | getUser key =>
            rintro entity ⟨⟩
            exact ⟨rfl, congrFun hc key⟩
        | getWallet key =>
            rintro entity ⟨⟩ t rfl hempty
            obtain ⟨hsee, hread⟩ := read_empty (c := c.wallets) hempty key
            refine ⟨c.wallets.version key, ?_⟩
            change some { t with wallets := c.wallets.read t.wallets key } =
              some { t with wallets := ⟨[(key, c.wallets.see t.wallets key, _)], fun _ => none⟩ }
            rw [hsee, hread]
        | getToken key =>
            rintro entity ⟨⟩ t rfl hempty
            obtain ⟨hsee, hread⟩ := read_empty (c := c.tokens) hempty key
            refine ⟨c.tokens.version key, ?_⟩
            change some { t with tokens := c.tokens.read t.tokens key } =
              some { t with tokens := ⟨[(key, c.tokens.see t.tokens key, _)], fun _ => none⟩ }
            rw [hsee, hread]
        | putWallet key v | putToken key v | putPayment key v =>
            rintro - t rfl
            rfl

/-! ### The repositories keep to the discipline -/

/-- What the answer of a repository tells about the transaction before and after the call. -/
def learned (users : ShopperKey → Option ShopperEntity) (store : CoffeeStore) (tx : Option Tx) :
    (o : RepoOp) → Except JavaException o.Res → Option Tx → Prop
  | .loadShopper id, a, tx' => ∀ shopper, a = .ok shopper → tx' = tx ∧
      ∃ name, users ⟨id.value⟩ = some ⟨name⟩ ∧ shopper = ⟨id, ⟨name⟩⟩
  | .loadStore _, a, tx' => ∀ store', a = .ok store' → tx' = tx ∧ store' = store
  | .loadWallet owner, a, tx' => ∀ w, a = .ok w → ∀ t, tx = some t → t.wallets = .empty →
      ∃ purse n, w = Purse.wallet purse owner ∧ tx' = some { t with
        wallets := ⟨[(⟨owner.id.value⟩, some (Purse.entity purse), n)], fun _ => none⟩ }
  | .loadToken shopperId tokenId, a, tx' => ∀ token, a = .ok token → ∀ t, tx = some t →
      t.tokens = .empty → ∃ status n, token = some ⟨shopperId, tokenId, status, none⟩ ∧
        tx' = some { t with tokens := ⟨[(entryKey (shopperId, tokenId),
          some ⟨TokenStatus.fromDomain status⟩, n)], fun _ => none⟩ }
  | .storeWallet w, a, tx' => a = .ok () → ∀ t, tx = some t → tx' = some { t with
      wallets := t.wallets.write ⟨w.owner.id.value⟩
        ⟨w.chargedMoney.value, w.autoChargeMoney.value⟩ }
  | .storeToken token, a, tx' => a = .ok () → ∀ t, tx = some t → tx' = some { t with
      tokens := t.tokens.write (entryKey (token.shopperId, token.tokenId))
        ⟨TokenStatus.fromDomain token.status⟩ }
  | .storePayment p, a, tx' => a = .ok () → ∀ tokenId, p.tokenId = some tokenId → ∀ t, tx = some t →
      tx' = some { t with
        payments := t.payments.write (entryKey (p.shopperId, tokenId))
          (CachePaymentRepository.entity p) }
  | _, _, _ => True

/-- The discipline in terms of repository calls. -/
def callSpec (users : ShopperKey → Option ShopperEntity) (store : CoffeeStore) :
    Spec RepoOp RepoOp.Res JavaException Caller where
  pre l o := l.tx.isSome ∧ o.ofPayment
  post l o a l' := l'.begins = l.begins ∧ l'.commits = l.commits ∧ l'.tx.isSome ∧
    learned users store l.tx o a l'.tx

theorem mapError_eq_ok {α : Type} {r : Except JavaException α} {g : JavaException → JavaException}
    {v : α} (h : r.mapError g = .ok v) : r = .ok v := by
  cases r with
  | ok a => exact h
  | error e => cases h

/-- A call of a method of a cache. -/
theorem safe_cacheCall {users : ShopperKey → Option ShopperEntity} {f : PaymentFunction}
    {l : Caller} {q : CacheOp} {P : Except JavaException q.Res → Option Tx → Prop}
    (hmanages : q.manages = false) (hl : l.tx.isSome)
    (hP : ∀ a tx', told users l.tx tx' q a → P a tx') :
    Safe (callerSpec users f) (fun a l' => l'.begins = l.begins ∧ l'.commits = l.commits ∧
      l'.tx.isSome ∧ P a l'.tx) (perform q) l := by
  have hpre : mayDo users f l q := by
    obtain ⟨tx, htx⟩ := Option.isSome_iff_exists.1 hl
    cases q with
    | begin | commit | rollback => cases hmanages
    | _ => exact ⟨tx, htx⟩
  refine ⟨hpre, fun a l' h => ?_⟩
  obtain ⟨hbegins, hcommits, hsome, htold⟩ := h
  refine ⟨hbegins.trans ?_, hcommits.trans ?_, hsome hmanages hl, hP a l'.tx htold⟩
  · cases q with
    | begin | commit | rollback => cases hmanages
    | _ => rfl
  · cases q with
    | begin | commit | rollback => cases hmanages
    | _ => rfl

/-- A repository method that decodes the answer of a cache. -/
theorem safe_cacheQuery {users : ShopperKey → Option ShopperEntity} {f : PaymentFunction} {α : Type}
    {l : Caller} {q : CacheOp} {d : q.Res → Except JavaException α}
    {P : Except JavaException α → Option Tx → Prop} (hmanages : q.manages = false)
    (hl : l.tx.isSome) (hP : ∀ a tx', told users l.tx tx' q a → P (a.bind d) tx') :
    Safe (callerSpec users f) (fun r l' => l'.begins = l.begins ∧ l'.commits = l.commits ∧
      l'.tx.isSome ∧ P r l'.tx) (query q d) l :=
  safe_cacheCall (P := fun a => P (a.bind d)) hmanages hl hP

/-- What an entry must be for a wallet to be loaded from it. -/
theorem wallet_of_entity {owner : Shopper} {entity : Option WalletEntity} {w : Wallet}
    (h : (do
      let cachedWallet ← nonNull entity
      let chargedMoney ← Money.new cachedWallet.chargedMoney
      let autoChargeMoney ← Money.new cachedWallet.autoChargeMoney
      return ⟨owner, chargedMoney, autoChargeMoney⟩ : Except JavaException Wallet) = .ok w) :
    ∃ purse, entity = some (Purse.entity purse) ∧ w = Purse.wallet purse owner := by
  obtain ⟨e, hentity, h₁⟩ := bind_eq_ok.1 h
  obtain ⟨charged, hcharged, h₂⟩ := bind_eq_ok.1 h₁
  obtain ⟨autoCharge, hauto, h₃⟩ := bind_eq_ok.1 h₂
  obtain rfl := nonNull_eq_ok_iff.1 hentity
  cases h₃
  refine ⟨⟨charged, autoCharge⟩, congrArg some ?_, rfl⟩
  exact (WalletEntity.mk.injEq _ _ _ _).mpr
    ⟨Money.new_eq_ok_iff.1 hcharged, Money.new_eq_ok_iff.1 hauto⟩

/-- **The repositories keep to the discipline**, if the use case does. -/
theorem safe_repositories {users : ShopperKey → Option ShopperEntity} {f : PaymentFunction}
    {store : CoffeeStore} (o : RepoOp) (l : Caller) (h : (callSpec users store).pre l o) :
    Safe (callerSpec users f) ((callSpec users store).post l o) (repositories store o) l := by
  obtain ⟨hl, hpayment⟩ := h
  cases o with
  | createToken token | loadPayment shopperId tokenId | loadPoint id | storePoint point =>
      exact hpayment.elim
  | loadShopper id =>
      refine safe_cacheQuery (P := learned users store l.tx (.loadShopper id)) rfl hl ?_
      intro a tx' htold shopper hshopper
      obtain ⟨entity, ha, hshopper⟩ := bind_eq_ok.1 hshopper
      obtain ⟨htx, hentity⟩ := htold entity ha
      obtain ⟨e, he, hshopper⟩ := bind_eq_ok.1 hshopper
      obtain rfl := nonNull_eq_ok_iff.1 he
      cases hshopper
      exact ⟨htx, e.name, hentity.symm, rfl⟩
  | loadStore id =>
      refine ⟨rfl, rfl, hl, ?_⟩
      rintro store' ⟨⟩
      exact ⟨rfl, rfl⟩
  | loadWallet owner =>
      refine safe_cacheQuery (P := learned users store l.tx (.loadWallet owner)) rfl hl ?_
      intro a tx' htold w hw t ht hempty
      obtain ⟨entity, ha, hw⟩ := bind_eq_ok.1 hw
      obtain ⟨n, htx'⟩ := htold entity ha t ht hempty
      obtain ⟨purse, rfl, rfl⟩ := wallet_of_entity hw
      exact ⟨purse, n, rfl, htx'⟩
  | loadToken shopperId tokenId =>
      refine (safe_orThrow _ _ _ l).2 (safe_cacheQuery (P := fun r => learned users store l.tx
        (.loadToken shopperId tokenId) (r.mapError _)) rfl hl ?_)
      intro a tx' htold token htoken t ht hempty
      obtain ⟨entity, ha, htoken⟩ := bind_eq_ok.1 (mapError_eq_ok htoken)
      obtain ⟨n, htx'⟩ := htold entity ha t ht hempty
      obtain ⟨e, he, htoken⟩ := bind_eq_ok.1 htoken
      obtain rfl := nonNull_eq_ok_iff.1 he
      cases htoken
      refine ⟨e.status.toDomain, n, rfl, ?_⟩
      rw [htx', ← TokenStatus.toDomain_eq_iff.1 rfl]
      rfl
  | storeWallet w =>
      exact safe_cacheCall (q := .putWallet _ _) (P := learned users store l.tx (.storeWallet w))
        rfl hl fun a tx' htold => htold
  | storeToken token =>
      refine (safe_orThrow _ _ _ l).2 (safe_cacheCall (q := .putToken _ _)
        (P := fun a => learned users store l.tx (.storeToken token) (a.mapError _)) rfl hl ?_)
      exact fun a tx' htold hok => htold (mapError_eq_ok hok)
  | storePayment p =>
      change Safe _ _ (CachePaymentRepository.store p) l
      rw [CachePaymentRepository.store]
      cases htoken : p.tokenId with
      | none =>
          refine ⟨rfl, rfl, hl, fun hok => ?_⟩
          cases hok
      | some tokenId =>
          refine safe_cacheCall (q := .putPayment _ _)
            (P := learned users store l.tx (.storePayment p)) rfl hl ?_
          intro a tx' htold hok tokenId' htoken'
          rw [htoken] at htoken'
          cases htoken'
          exact htold hok

end RedHatPay.Grid
