/-
**The data grid: the caches and the cache repositories.**

The server side of the data grid keeps shoppers, wallets, tokens and payment records in four
caches.  All but the first are transactional, with optimistic control: `Transaction.Versioned`.
`Grid.CacheOp` lists the cache methods that the server calls, and those of the transaction manager;
`Grid.exec` is their meaning without faults, for one caller with at most one transaction.  Outside
of a transaction every method commits by itself.

* `RedHatPay.Grid.Caches`, `RedHatPay.Grid.Tx`, `RedHatPay.Grid.CacheOp`, `RedHatPay.Grid.exec`;
* `RedHatPay.Grid.repositories` — the repositories that `PaymentFunction` creates, method by method;
* `RedHatPay.Grid.cacheBackend` — **the cache repositories are map-like**;
* `RedHatPay.Grid.gridEnv_running`, `RedHatPay.Grid.exec_commit` — a transaction that runs alone
  leaves the committed caches as they are until it commits, and then it commits what it has seen.
-/

import RedHatPay.Lib.Transaction
import RedHatPay.Store

set_option relaxedAutoImplicit false
set_option autoImplicit false

namespace RedHatPay.Grid

open Program Transaction

/-! ### Entries -/

/-- `rhpay.payment.cache.TokenStatus`. -/
inductive TokenStatus
  | unused
  | processing
  | used
  | failed
  deriving DecidableEq, Repr

namespace TokenStatus

/-- `TokenStatus.toDomain`. -/
def toDomain : TokenStatus → RedHatPay.TokenStatus
  | unused => .unused
  | processing => .processing
  | used => .used
  | failed => .failed

/-- `TokenStatus.fromDomain`. -/
def fromDomain : RedHatPay.TokenStatus → TokenStatus
  | .unused => unused
  | .processing => processing
  | .used => used
  | .failed => failed

@[simp] theorem toDomain_fromDomain (status : RedHatPay.TokenStatus) :
    (fromDomain status).toDomain = status := by
  cases status <;> rfl

theorem toDomain_eq_iff {s : TokenStatus} {status : RedHatPay.TokenStatus} :
    s.toDomain = status ↔ s = fromDomain status := by
  cases s <;> cases status <;> decide

end TokenStatus

/-- `rhpay.payment.cache.ShopperKey`. -/
structure ShopperKey where
  ownerId : Int32
  deriving DecidableEq

/-- `ShopperKey.equals`, for two keys. -/
def ShopperKey.equals (key o : ShopperKey) : Bool := key.ownerId == o.ownerId

/-- `ShopperKey.hashCode`. -/
def ShopperKey.hashCode (key : ShopperKey) : Int32 := 31 + key.ownerId

@[simp] theorem ShopperKey.equals_iff {key o : ShopperKey} : key.equals o = true ↔ key = o := by
  cases key
  cases o
  simp [ShopperKey.equals]

/-- The hash codes tell the same as `equals`. -/
theorem ShopperKey.hashCode_eq_iff {key o : ShopperKey} :
    key.hashCode = o.hashCode ↔ key.equals o = true := by
  rw [equals_iff, hashCode, hashCode]
  constructor
  · intro h
    cases key
    cases o
    congr
    exact (Int32.add_right_inj 31).1 h
  · exact fun h => by rw [h]

/-- `rhpay.payment.cache.TokenKey`. -/
structure TokenKey where
  ownerId : Int32
  tokenId : String
  deriving DecidableEq

/-- `rhpay.payment.cache.ShopperEntity`. -/
structure ShopperEntity where
  name : String
  deriving DecidableEq

/-- `rhpay.payment.cache.WalletEntity`. -/
structure WalletEntity where
  chargedMoney : Int32
  autoChargeMoney : Int32
  deriving DecidableEq

/-- `rhpay.payment.cache.TokenEntity`. -/
structure TokenEntity where
  status : TokenStatus
  deriving DecidableEq

/-- `rhpay.payment.cache.PaymentEntity`; the date is in seconds since the epoch. -/
structure PaymentEntity where
  storeId : Int32
  billingAmount : Int32
  billingDateTime : Int
  deriving DecidableEq

/-- The caches `user`, `wallet`, `token` and `payment`. -/
structure Caches where
  users : ShopperKey → Option ShopperEntity
  wallets : Versioned ShopperKey WalletEntity
  tokens : Versioned TokenKey TokenEntity
  payments : Versioned TokenKey PaymentEntity

/-- What a transaction has read and written of the three transactional caches. -/
structure Tx where
  wallets : Access ShopperKey WalletEntity
  tokens : Access TokenKey TokenEntity
  payments : Access TokenKey PaymentEntity

/-- A transaction that has just begun. -/
def Tx.empty : Tx := ⟨.empty, .empty, .empty⟩

/-- The check at commit. -/
def Caches.valid (c : Caches) (tx : Tx) : Bool :=
  c.wallets.valid tx.wallets && c.tokens.valid tx.tokens && c.payments.valid tx.payments

/-- The caches after a commit. -/
def Caches.apply (c : Caches) (tx : Tx) : Caches where
  users := c.users
  wallets := c.wallets.apply tx.wallets
  tokens := c.tokens.apply tx.tokens
  payments := c.payments.apply tx.payments

/-- Caches with one shopper and two unused tokens. -/
def oneShopper (chargedMoney autoChargeMoney : Int32) : Caches where
  users key := if key = ⟨1⟩ then some ⟨"user1"⟩ else none
  wallets := ⟨fun key => if key = ⟨1⟩ then some ⟨chargedMoney, autoChargeMoney⟩ else none,
    fun _ => 0⟩
  tokens := ⟨fun key => if key = ⟨1, "abcd"⟩ ∨ key = ⟨1, "efgh"⟩ then some ⟨.unused⟩ else none,
    fun _ => 0⟩
  payments := ⟨fun _ => none, fun _ => 0⟩

/-! ### Methods -/

/-- The methods of the transaction manager and of the caches that the server calls. -/
inductive CacheOp
  | begin
  | commit
  | rollback
  | getUser (key : ShopperKey)
  | getWallet (key : ShopperKey)
  | putWallet (key : ShopperKey) (value : WalletEntity)
  | getToken (key : TokenKey)
  | putToken (key : TokenKey) (value : TokenEntity)
  | getPayment (key : TokenKey)
  | putPayment (key : TokenKey) (value : PaymentEntity)

/-- The result of each method.  What `put` returns is not used. -/
abbrev CacheOp.Res : CacheOp → Type
  | getUser _ => Option ShopperEntity
  | getWallet _ => Option WalletEntity
  | getToken _ => Option TokenEntity
  | getPayment _ => Option PaymentEntity
  | begin | commit | rollback | putWallet _ _ | putToken _ _ | putPayment _ _ => Unit

/-- Programs of cache methods. -/
abbrev CacheProgram (α : Type) : Type := Program CacheOp CacheOp.Res JavaException α

/-- The committed caches, and the running transaction. -/
structure GridState where
  caches : Caches
  tx : Option Tx

/-- What the running transaction has read and written, if there is one. -/
def GridState.access (s : GridState) : Tx := s.tx.getD Tx.empty

/-- The wallets that the caller sees. -/
def GridState.wallets (s : GridState) : ShopperKey → Option WalletEntity :=
  s.caches.wallets.see s.access.wallets

/-- The tokens that the caller sees. -/
def GridState.tokens (s : GridState) : TokenKey → Option TokenEntity :=
  s.caches.tokens.see s.access.tokens

/-- The payment records that the caller sees. -/
def GridState.payments (s : GridState) : TokenKey → Option PaymentEntity :=
  s.caches.payments.see s.access.payments

/-- Noting a read in the running transaction. -/
def GridState.note (s : GridState) (f : Tx → Tx) : GridState := { s with tx := s.tx.map f }

/-- A write: in the running transaction, or else at once. -/
def GridState.write (s : GridState) (f : Tx → Tx) (g : Caches → Caches) : GridState :=
  match s.tx with
  | some tx => ⟨s.caches, some (f tx)⟩
  | none => ⟨g s.caches, none⟩

/-- The methods, without faults. -/
def exec : Env CacheOp CacheOp.Res JavaException GridState
  | .begin, s =>
      match s.tx with
      | none => (.ok (), ⟨s.caches, some Tx.empty⟩)
      | some _ => (.error (.transaction "Nested transactions are not supported"), s)
  | .commit, s =>
      match s.tx with
      | none => (.error (.runtime "No transaction"), s)
      | some tx =>
          if s.caches.valid tx then (.ok (), ⟨s.caches.apply tx, none⟩)
          else (.error (.transaction "The transaction has been rolled back"), ⟨s.caches, none⟩)
  | .rollback, s =>
      match s.tx with
      | none => (.error (.runtime "No transaction"), s)
      | some _ => (.ok (), ⟨s.caches, none⟩)
  | .getUser key, s => (.ok (s.caches.users key), s)
  | .getWallet key, s => (.ok (s.wallets key),
      s.note fun tx => { tx with wallets := s.caches.wallets.read tx.wallets key })
  | .putWallet key value, s => (.ok (),
      s.write (fun tx => { tx with wallets := tx.wallets.write key value })
        fun c => { c with wallets := c.wallets.put key value })
  | .getToken key, s => (.ok (s.tokens key),
      s.note fun tx => { tx with tokens := s.caches.tokens.read tx.tokens key })
  | .putToken key value, s => (.ok (),
      s.write (fun tx => { tx with tokens := tx.tokens.write key value })
        fun c => { c with tokens := c.tokens.put key value })
  | .getPayment key, s => (.ok (s.payments key),
      s.note fun tx => { tx with payments := s.caches.payments.read tx.payments key })
  | .putPayment key value, s => (.ok (),
      s.write (fun tx => { tx with payments := tx.payments.write key value })
        fun c => { c with payments := c.payments.put key value })

/-- The caches after the payment records of some keys have been dropped. -/
def Caches.evict (c : Caches) (dropped : TokenKey → Bool) : Caches :=
  { c with payments := c.payments.become fun key =>
      if dropped key then none else c.payments.data key }

/-- The methods, without faults; but the payment cache is bounded, and a commit that fills it drops
the records of some keys. -/
def bounded (dropped : TokenKey → Bool) : Env CacheOp CacheOp.Res JavaException GridState
  | .commit, s =>
      match exec .commit s with
      | (.ok _, s') => (.ok (), ⟨s'.caches.evict dropped, s'.tx⟩)
      | (.error e, s') => (.error e, s')
  | o, s => exec o s

/-- Without drops, the caches are as they are. -/
@[simp] theorem Caches.evict_none (c : Caches) : c.evict (fun _ => false) = c := by
  obtain ⟨users, wallets, tokens, data, version⟩ := c
  simp [Caches.evict, Versioned.become]

/-! ### Repositories -/

namespace CacheShopperRepository

/-- `CacheShopperRepository.load`. -/
def load (id : ShopperId) : CacheProgram Shopper :=
  query (.getUser ⟨id.value⟩) fun entity => do
    let entity ← nonNull entity
    return ⟨id, ⟨entity.name⟩⟩

end CacheShopperRepository

namespace DoNothingCoffeeStoreRepository

/-- `DoNothingCoffeeStoreRepository.load`: the store that the repository was created with. -/
def load (store : CoffeeStore) (_storeId : StoreId) : CacheProgram CoffeeStore := pure store

end DoNothingCoffeeStoreRepository

namespace CacheWalletRepository

/-- `CacheWalletRepository.load`. -/
def load (shopper : Shopper) : CacheProgram Wallet :=
  query (.getWallet ⟨shopper.id.value⟩) fun cachedWallet => do
    let cachedWallet ← nonNull cachedWallet
    let chargedMoney ← Money.new cachedWallet.chargedMoney
    let autoChargeMoney ← Money.new cachedWallet.autoChargeMoney
    return ⟨shopper, chargedMoney, autoChargeMoney⟩

/-- `CacheWalletRepository.store`. -/
def store (wallet : Wallet) : CacheProgram Unit :=
  perform (CacheOp.putWallet ⟨wallet.owner.id.value⟩
    ⟨wallet.chargedMoney.value, wallet.autoChargeMoney.value⟩)

end CacheWalletRepository

namespace CacheTokenRepository

/-- The entry key of a token. -/
def tokenKey (shopperId : ShopperId) (tokenId : TokenId) : TokenKey :=
  ⟨shopperId.value, tokenId.value⟩

/-- `CacheTokenRepository.create`. -/
def create (_token : Token) : CacheProgram Unit :=
  fail (.unsupportedOperation (some "token is created on application"))

/-- The token in an entry. -/
def toToken (shopperId : ShopperId) (tokenId : TokenId) (entity : Option TokenEntity) :
    Except JavaException (Option Token) := do
  let entity ← nonNull entity
  return some ⟨shopperId, tokenId, entity.status.toDomain, none⟩

/-- `CacheTokenRepository.load`. -/
def load (shopperId : ShopperId) (tokenId : TokenId) : CacheProgram (Option Token) :=
  orThrow (query (.getToken (tokenKey shopperId tokenId)) (toToken shopperId tokenId))
    (.tokenException "Could not load token from cache")

/-- `CacheTokenRepository.store`. -/
def store (token : Token) : CacheProgram Unit :=
  orThrow (perform (CacheOp.putToken (tokenKey token.shopperId token.tokenId)
    ⟨TokenStatus.fromDomain token.status⟩))
    (.tokenException "Could not change the token's status")

end CacheTokenRepository

namespace CachePaymentRepository

/-- The payment in an entry. -/
def toPayment (shopperId : ShopperId) (tokenId : TokenId) (entity : Option PaymentEntity) :
    Except JavaException (Option Payment) := do
  let entity ← nonNull entity
  let billingAmount ← Money.new entity.billingAmount
  return some ⟨⟨entity.storeId⟩, shopperId, billingAmount,
    .ofEpochSecond entity.billingDateTime 0 zoneOffset, some tokenId⟩

/-- `CachePaymentRepository.load`. -/
def load (shopperId : ShopperId) (tokenId : TokenId) : CacheProgram (Option Payment) :=
  query (.getPayment (CacheTokenRepository.tokenKey shopperId tokenId))
    (toPayment shopperId tokenId)

/-- The entry of a payment. -/
def entity (payment : Payment) : PaymentEntity :=
  ⟨payment.storeId.value, payment.billingAmount.value,
    payment.billingDateTime.toEpochSecond zoneOffset⟩

/-- `CachePaymentRepository.store`. -/
def store (payment : Payment) : CacheProgram Unit := do
  let tokenId ← ofExcept (nonNull payment.tokenId)
  perform (CacheOp.putPayment (CacheTokenRepository.tokenKey payment.shopperId tokenId)
    (entity payment))

end CachePaymentRepository

/-- The repositories that `PaymentFunction` creates.  It creates none for points. -/
def repositories (store : CoffeeStore) : (o : RepoOp) → CacheProgram o.Res
  | .loadShopper id => CacheShopperRepository.load id
  | .loadStore id => DoNothingCoffeeStoreRepository.load store id
  | .loadWallet owner => CacheWalletRepository.load owner
  | .storeWallet wallet => CacheWalletRepository.store wallet
  | .createToken token => CacheTokenRepository.create token
  | .loadToken shopperId tokenId => CacheTokenRepository.load shopperId tokenId
  | .storeToken token => CacheTokenRepository.store token
  | .loadPayment shopperId tokenId => CachePaymentRepository.load shopperId tokenId
  | .storePayment payment => CachePaymentRepository.store payment
  | .loadPoint _ => fail .nullPointer
  | .storePoint _ => fail .nullPointer

/-! ### The cache repositories are map-like -/

/-- The purse in a wallet entry, if both amounts are accepted. -/
def WalletEntity.purse (entity : WalletEntity) : Option Purse :=
  match Money.new entity.chargedMoney, Money.new entity.autoChargeMoney with
  | .ok charged, .ok autoCharge => some ⟨charged, autoCharge⟩
  | _, _ => none

/-- The entry of a purse. -/
def Purse.entity (purse : Purse) : WalletEntity := ⟨purse.charged.value, purse.autoCharge.value⟩

/-- The entry key of a token. -/
def entryKey (key : Key) : TokenKey := CacheTokenRepository.tokenKey key.1 key.2

@[simp] theorem purse_eq_some_iff {entity : WalletEntity} {purse : Purse} :
    entity.purse = some purse ↔ entity = Purse.entity purse := by
  rw [Purse.entity, WalletEntity.mk.injEq]
  exact Purse.of_amounts_iff

theorem entryKey_injective : Function.Injective entryKey := by
  rintro ⟨⟨a⟩, ⟨b⟩⟩ ⟨⟨a'⟩, ⟨b'⟩⟩ h
  cases h
  rfl

/-- The caches as the domain sees them.  There is no cache of coffee stores: the client sends its
own. -/
def GridState.toStore (s : GridState) : Store PaymentEntity where
  shoppers id := (s.caches.users ⟨id.value⟩).map fun entity => ⟨entity.name⟩
  stores id := some ⟨id, ⟨"Demo Store"⟩⟩
  wallets id := (s.wallets ⟨id.value⟩).bind WalletEntity.purse
  tokens key := (s.tokens (entryKey key)).map fun entity => entity.status.toDomain
  payments key := s.payments (entryKey key)

/-- The committed caches as the domain sees them. -/
def Caches.toStore (c : Caches) : Store PaymentEntity := GridState.toStore ⟨c, none⟩

/-- Without a transaction, the committed caches are seen. -/
theorem seen_idle (c : Caches) : GridState.wallets ⟨c, none⟩ = c.wallets.data ∧
    GridState.tokens ⟨c, none⟩ = c.tokens.data ∧ GridState.payments ⟨c, none⟩ = c.payments.data :=
  ⟨overlay_empty _, overlay_empty _, overlay_empty _⟩

/-- The wallets of the domain are the entries with amounts that are accepted. -/
theorem Caches.toStore_wallets (c : Caches) (id : ShopperId) :
    c.toStore.wallets id = (c.wallets.data ⟨id.value⟩).bind WalletEntity.purse := by
  rw [Caches.toStore, GridState.toStore, (seen_idle c).1]

/-- A wallet of the domain, and its entry. -/
theorem Caches.toStore_wallets_iff {c : Caches} {id : ShopperId} {purse : Purse} :
    c.toStore.wallets id = some purse ↔ c.wallets.data ⟨id.value⟩ = some (Purse.entity purse) := by
  rw [Caches.toStore_wallets, Option.bind_eq_some_iff]
  constructor
  · rintro ⟨entity, hentity, hpurse⟩
    rw [hentity, purse_eq_some_iff.1 hpurse]
  · exact fun h => ⟨_, h, purse_eq_some_iff.2 rfl⟩

/-- The tokens of the domain are the entries. -/
theorem Caches.toStore_tokens (c : Caches) (key : Key) : c.toStore.tokens key =
    (c.tokens.data (entryKey key)).map fun entity => entity.status.toDomain := by
  rw [Caches.toStore, GridState.toStore, (seen_idle c).2.1]

/-- A token of the domain, and its entry. -/
theorem Caches.toStore_tokens_iff {c : Caches} {key : Key} {status : RedHatPay.TokenStatus} :
    c.toStore.tokens key = some status ↔
      c.tokens.data (entryKey key) = some ⟨TokenStatus.fromDomain status⟩ := by
  rw [Caches.toStore_tokens, Option.map_eq_some_iff]
  constructor
  · rintro ⟨⟨s⟩, hentity, hstatus⟩
    have hs : s = TokenStatus.fromDomain status := TokenStatus.toDomain_eq_iff.1 hstatus
    rw [hentity, hs]
  · exact fun h => ⟨_, h, TokenStatus.toDomain_fromDomain status⟩

/-- The payment records of the domain are the entries. -/
theorem Caches.toStore_payments (c : Caches) (key : Key) :
    c.toStore.payments key = c.payments.data (entryKey key) := by
  rw [Caches.toStore, GridState.toStore, (seen_idle c).2.2]

/-- Noting a read does not change what is seen. -/
theorem toStore_note {s : GridState} {f : Tx → Tx}
    (hw : ∀ tx, (f tx).wallets.writes = tx.wallets.writes)
    (ht : ∀ tx, (f tx).tokens.writes = tx.tokens.writes)
    (hp : ∀ tx, (f tx).payments.writes = tx.payments.writes) : (s.note f).toStore = s.toStore := by
  obtain ⟨caches, tx⟩ := s
  cases tx with
  | none => rfl
  | some tx =>
      have hwallets : (GridState.note ⟨caches, some tx⟩ f).wallets =
          GridState.wallets ⟨caches, some tx⟩ := congrArg (overlay · caches.wallets.data) (hw tx)
      have htokens : (GridState.note ⟨caches, some tx⟩ f).tokens =
          GridState.tokens ⟨caches, some tx⟩ := congrArg (overlay · caches.tokens.data) (ht tx)
      have hpayments : (GridState.note ⟨caches, some tx⟩ f).payments =
          GridState.payments ⟨caches, some tx⟩ := congrArg (overlay · caches.payments.data) (hp tx)
      rw [GridState.toStore, hwallets, htokens, hpayments]
      rfl

/-- A write to a wallet is seen, in a transaction or outside. -/
theorem wallets_putWallet (s : GridState) (key : ShopperKey) (v : WalletEntity) :
    (exec (.putWallet key v) s).2.wallets = Function.update s.wallets key (some v) := by
  obtain ⟨caches, tx⟩ := s
  cases tx with
  | some tx => exact overlay_update _ _ _ _
  | none =>
      rw [(seen_idle caches).1]
      exact overlay_empty _

/-- A write to a token is seen, in a transaction or outside. -/
theorem tokens_putToken (s : GridState) (key : TokenKey) (v : TokenEntity) :
    (exec (.putToken key v) s).2.tokens = Function.update s.tokens key (some v) := by
  obtain ⟨caches, tx⟩ := s
  cases tx with
  | some tx => exact overlay_update _ _ _ _
  | none =>
      rw [(seen_idle caches).2.1]
      exact overlay_empty _

/-- A write to a payment record is seen, in a transaction or outside. -/
theorem payments_putPayment (s : GridState) (key : TokenKey) (v : PaymentEntity) :
    (exec (.putPayment key v) s).2.payments = Function.update s.payments key (some v) := by
  obtain ⟨caches, tx⟩ := s
  cases tx with
  | some tx => exact overlay_update _ _ _ _
  | none =>
      rw [(seen_idle caches).2.2]
      exact overlay_empty _

/-- Writing a wallet, as the domain sees it. -/
theorem toStore_putWallet (s : GridState) (w : Wallet) :
    (exec (.putWallet ⟨w.owner.id.value⟩
      ⟨w.chargedMoney.value, w.autoChargeMoney.value⟩) s).2.toStore = s.toStore.setWallet w := by
  have hkey : Function.Injective fun id : ShopperId => (⟨id.value⟩ : ShopperKey) := by
    rintro ⟨a⟩ ⟨b⟩ h
    cases h
    rfl
  have hpurse : WalletEntity.purse ⟨w.chargedMoney.value, w.autoChargeMoney.value⟩ = some w.purse :=
    purse_eq_some_iff.2 rfl
  have hdecode := decode_update hkey (Option.bind · WalletEntity.purse) s.wallets w.owner.id
    ⟨w.chargedMoney.value, w.autoChargeMoney.value⟩
  rw [GridState.toStore, wallets_putWallet, Store.setWallet, ← hpurse]
  obtain ⟨caches, tx⟩ := s
  cases tx <;> exact congrArg (fun t => { GridState.toStore _ with wallets := t }) hdecode

/-- Writing a token, as the domain sees it. -/
theorem toStore_putToken (s : GridState) (key : Key) (status : RedHatPay.TokenStatus) :
    (exec (.putToken (entryKey key) ⟨TokenStatus.fromDomain status⟩) s).2.toStore =
      s.toStore.setToken key status := by
  have hdecode := decode_update entryKey_injective
    (Option.map fun entity : TokenEntity => entity.status.toDomain) s.tokens key
    ⟨TokenStatus.fromDomain status⟩
  rw [Option.map_some, TokenStatus.toDomain_fromDomain] at hdecode
  rw [GridState.toStore, tokens_putToken, Store.setToken]
  obtain ⟨caches, tx⟩ := s
  cases tx <;> exact congrArg (fun t => { GridState.toStore _ with tokens := t }) hdecode

/-- Writing a payment record, as the domain sees it. -/
theorem toStore_putPayment (s : GridState) (key : Key) (entity : PaymentEntity) :
    (exec (.putPayment (entryKey key) entity) s).2.toStore = s.toStore.setPayment key entity := by
  have hdecode := decode_update entryKey_injective id s.payments key entity
  rw [GridState.toStore, payments_putPayment, Store.setPayment]
  obtain ⟨caches, tx⟩ := s
  cases tx <;> exact congrArg (fun t => { GridState.toStore _ with payments := t }) hdecode

/-- The repositories that `PaymentFunction` creates, run without faults. -/
def gridEnv (store : CoffeeStore) : Env RepoOp RepoOp.Res JavaException GridState :=
  exec.above (repositories store)

/-- No repository commits, so that bounds do not matter to them. -/
theorem bounded_above (dropped : TokenKey → Bool) (store : CoffeeStore) :
    (bounded dropped).above (repositories store) = gridEnv store := by
  funext o s
  cases o with
  | storePayment p =>
      change run (bounded dropped) (CachePaymentRepository.store p) s =
        run exec (CachePaymentRepository.store p) s
      rw [CachePaymentRepository.store]
      cases p.tokenId <;> rfl
  | loadToken shopperId tokenId =>
      change run (bounded dropped) (CacheTokenRepository.load shopperId tokenId) s =
        run exec (CacheTokenRepository.load shopperId tokenId) s
      rw [CacheTokenRepository.load, run_orThrow, run_orThrow]
      rfl
  | _ => rfl

/-- What is seen with the coffee store that the client has sent. -/
def GridState.view (store : CoffeeStore) (s : GridState) : Store PaymentEntity :=
  s.toStore.withStores fun _ => some store

theorem gridEnv_loadShopper (store : CoffeeStore) (s : GridState) (id : ShopperId) :
    (gridEnv store (.loadShopper id) s).1.toOption = (s.toStore.shoppers id).map (Shopper.mk id) ∧
      (gridEnv store (.loadShopper id) s).2 = s := by
  change (run exec (CacheShopperRepository.load id) s).1.toOption =
      ((s.caches.users ⟨id.value⟩).map fun entity => (⟨entity.name⟩ : FullName)).map
        (Shopper.mk id) ∧
    (run exec (CacheShopperRepository.load id) s).2 = s
  rw [CacheShopperRepository.load, run_query, exec]
  cases s.caches.users ⟨id.value⟩ with
  | none => exact ⟨rfl, rfl⟩
  | some entity => exact ⟨rfl, rfl⟩

/-- A wallet is loaded if both of its amounts are accepted. -/
theorem gridEnv_loadWallet (store : CoffeeStore) (s : GridState) (owner : Shopper) :
    (gridEnv store (.loadWallet owner) s).1.toOption =
        (s.toStore.wallets owner.id).map (Purse.wallet · owner) ∧
      (gridEnv store (.loadWallet owner) s).2.toStore = s.toStore := by
  change (run exec (CacheWalletRepository.load owner) s).1.toOption =
      ((s.wallets ⟨owner.id.value⟩).bind WalletEntity.purse).map (Purse.wallet · owner) ∧
    (run exec (CacheWalletRepository.load owner) s).2.toStore = s.toStore
  rw [CacheWalletRepository.load, run_query, exec]
  refine ⟨?_, toStore_note (fun tx => Versioned.read_writes _ _ _) (fun _ => rfl) fun _ => rfl⟩
  cases s.wallets ⟨owner.id.value⟩ with
  | none => rfl
  | some entity =>
      exact Wallet.toOption_of_amounts entity.chargedMoney entity.autoChargeMoney owner

theorem gridEnv_loadToken (store : CoffeeStore) (s : GridState) (shopperId : ShopperId)
    (tokenId : TokenId) :
    (gridEnv store (.loadToken shopperId tokenId) s).1.toOption.join =
        (s.toStore.tokens (shopperId, tokenId)).map (Token.mk shopperId tokenId · none) ∧
      (gridEnv store (.loadToken shopperId tokenId) s).2.toStore = s.toStore := by
  change (run exec (CacheTokenRepository.load shopperId tokenId) s).1.toOption.join =
      ((s.tokens (entryKey (shopperId, tokenId))).map fun entity : TokenEntity =>
        entity.status.toDomain).map (Token.mk shopperId tokenId · none) ∧
    (run exec (CacheTokenRepository.load shopperId tokenId) s).2.toStore = s.toStore
  rw [CacheTokenRepository.load, run_orThrow, toOption_mapError, run_query, exec]
  refine ⟨?_, toStore_note (fun _ => rfl) (fun tx => Versioned.read_writes _ _ _) fun _ => rfl⟩
  change (CacheTokenRepository.toToken shopperId tokenId
    (s.tokens (entryKey (shopperId, tokenId)))).toOption.join = _
  cases s.tokens (entryKey (shopperId, tokenId)) with
  | none => rfl
  | some entity => rfl

theorem gridEnv_storePayment (store : CoffeeStore) (s : GridState) {p : Payment}
    {tokenId : TokenId} (h : p.tokenId = some tokenId) :
    gridEnv store (.storePayment p) s =
      exec (.putPayment (entryKey (p.shopperId, tokenId)) (CachePaymentRepository.entity p)) s := by
  change run exec (CachePaymentRepository.store p) s = _
  rw [CachePaymentRepository.store, h]
  rfl

theorem gridEnv_answers (store : CoffeeStore) (s : GridState) (o : RepoOp) :
    (s.view store).Answers CachePaymentRepository.entity o (gridEnv store o s).1
      ((gridEnv store o s).2.view store) := by
  cases o with
  | loadShopper id =>
      obtain ⟨ha, hs⟩ := gridEnv_loadShopper store s id
      exact ⟨ha, congrArg (GridState.view store) hs⟩
  | loadStore id => exact ⟨rfl, rfl⟩
  | loadWallet owner =>
      obtain ⟨ha, hs⟩ := gridEnv_loadWallet store s owner
      exact ⟨ha, congrArg (Store.withStores · fun _ => some store) hs⟩
  | loadToken shopperId tokenId =>
      obtain ⟨ha, hs⟩ := gridEnv_loadToken store s shopperId tokenId
      exact ⟨ha, congrArg (Store.withStores · fun _ => some store) hs⟩
  | storeWallet w =>
      intro _
      exact ⟨rfl, congrArg (Store.withStores · fun _ => some store) (toStore_putWallet s w)⟩
  | storeToken token =>
      intro _
      exact ⟨rfl, congrArg (Store.withStores · fun _ => some store)
        (toStore_putToken s (token.shopperId, token.tokenId) token.status)⟩
  | storePayment p =>
      intro tokenId htoken
      rw [gridEnv_storePayment store s htoken]
      exact ⟨rfl, congrArg (Store.withStores · fun _ => some store) (toStore_putPayment s _ _)⟩
  | createToken token => trivial
  | loadPayment shopperId tokenId => trivial
  | loadPoint id => trivial
  | storePoint point => trivial

/-- **The cache repositories are map-like.** -/
def cacheBackend (store : CoffeeStore) : Backend where
  State := GridState
  Record := PaymentEntity
  record := CachePaymentRepository.entity
  env := gridEnv store
  view := GridState.view store
  answers := gridEnv_answers store

/-! ### A transaction that runs alone -/

/-- What the transaction has read is current. -/
def Tx.Current (tx : Tx) (c : Caches) : Prop :=
  tx.wallets.Current c.wallets ∧ tx.tokens.Current c.tokens ∧ tx.payments.Current c.payments

/-- A transaction runs on the caches `c`, and nothing else has changed them. -/
def Running (c : Caches) (s : GridState) : Prop :=
  s.caches = c ∧ ∃ tx, s.tx = some tx ∧ tx.Current c

theorem running_begin (c : Caches) : Running c ⟨c, some Tx.empty⟩ :=
  ⟨rfl, _, rfl, .empty, .empty, .empty⟩

theorem running_note {c : Caches} {s : GridState} {f : Tx → Tx} (h : Running c s)
    (hf : ∀ tx, s.caches = c → tx.Current c → (f tx).Current c) : Running c (s.note f) := by
  obtain ⟨hc, tx, htx, hcur⟩ := h
  exact ⟨hc, f tx, by rw [GridState.note, htx, Option.map_some], hf tx hc hcur⟩

theorem running_write {c : Caches} {s : GridState} {f : Tx → Tx} {g : Caches → Caches}
    (h : Running c s) (hf : ∀ tx, tx.Current c → (f tx).Current c) : Running c (s.write f g) := by
  obtain ⟨hc, tx, htx, hcur⟩ := h
  rw [GridState.write, htx]
  exact ⟨hc, f tx, rfl, hf tx hcur⟩

/-- The repositories leave the committed caches to the transaction manager. -/
theorem gridEnv_running {c : Caches} (store : CoffeeStore) (o : RepoOp) (s : GridState)
    (h : Running c s) : Running c (gridEnv store o s).2 := by
  cases o with
  | loadWallet owner =>
      refine running_note (s := s) h fun tx hc hcur => ⟨?_, hcur.2⟩
      rw [hc]
      exact hcur.1.read _
  | storeWallet w => exact running_write h fun tx hcur => hcur
  | loadToken shopperId tokenId =>
      change Running c (run exec (CacheTokenRepository.load shopperId tokenId) s).2
      rw [CacheTokenRepository.load, run_orThrow]
      refine running_note (s := s) h fun tx hc hcur => ⟨hcur.1, ?_, hcur.2.2⟩
      rw [hc]
      exact hcur.2.1.read _
  | storeToken token => exact running_write h fun tx hcur => hcur
  | loadPayment shopperId tokenId =>
      refine running_note (s := s) h fun tx hc hcur => ⟨hcur.1, hcur.2.1, ?_⟩
      rw [hc]
      exact hcur.2.2.read _
  | storePayment p =>
      change Running c (run exec (CachePaymentRepository.store p) s).2
      rw [CachePaymentRepository.store]
      cases p.tokenId with
      | none => exact h
      | some tokenId => exact running_write h fun tx hcur => hcur
  | _ => exact h

/-- **A transaction that runs alone commits what it has seen.** -/
theorem exec_commit {c : Caches} {s : GridState} (h : Running c s) :
    ∃ c', exec .commit s = (.ok (), ⟨c', none⟩) ∧ c'.toStore = s.toStore ∧ c'.users = c.users := by
  obtain ⟨rfl, tx, htx, hw, ht, hp⟩ := h
  have hvalid : s.caches.valid tx = true := by
    rw [Caches.valid, hw.valid, ht.valid, hp.valid]
    rfl
  refine ⟨s.caches.apply tx, ?_, ?_, rfl⟩
  · rw [exec, htx]
    exact if_pos hvalid
  · obtain ⟨hwallets, htokens, hpayments⟩ := seen_idle (s.caches.apply tx)
    rw [Caches.toStore, GridState.toStore, hwallets, htokens, hpayments, GridState.toStore,
      GridState.wallets, GridState.tokens, GridState.payments, GridState.access, htx]
    rfl

end RedHatPay.Grid
