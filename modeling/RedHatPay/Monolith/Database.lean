/-
**The monolith: the database and the relational repositories.**

The tables are partial functions from primary keys to the other columns.  `Monolith.DbOp` lists the
statements that the Spring Data repositories issue, and the transaction boundaries;
`Monolith.Db.exec` is their meaning without faults, for one transaction with its pending writes
over the committed tables.  An `UPDATE` reports the number of rows it has changed.

* `RedHatPay.Monolith.Db`, `RedHatPay.Monolith.DbOp`, `RedHatPay.Monolith.exec`;
* `RedHatPay.Monolith.rdbms` — the `Rdbms*` repositories, method by method;
* `RedHatPay.Monolith.rdbmsBackend` — **the relational repositories are map-like**.
-/

import RedHatPay.Lib.Transaction
import RedHatPay.Store

set_option relaxedAutoImplicit false
set_option autoImplicit false

namespace RedHatPay.Monolith

open Program Transaction

/-! ### Tables -/

/-- `rhpay.monolith.entity.TokenKey`. -/
structure TokenKey where
  ownerId : Int32
  tokenId : String
  deriving DecidableEq

/-- The columns of `rhpay.monolith.entity.WalletEntity` besides its key. -/
structure WalletEntity where
  chargedMoney : Int32
  autoChargeMoney : Int32
  deriving DecidableEq

/-- The columns of `rhpay.monolith.entity.PaymentEntity` besides its key. -/
structure PaymentEntity where
  storeId : Int32
  billingAmount : Int32
  billingDateTime : LocalDateTime
  deriving DecidableEq

/-- The tables: `Shopper(ownerId, name)`, `Store(id, name)`, `Wallet(ownerId, chargedMoney,
autoChargeMoney)`, `Token(id, status)`, `Payment(id, storeId, billingAmount, billingDateTime)`,
`Point(ownerId, amount)`. -/
structure Db where
  shoppers : Int32 → Option String
  stores : Int32 → Option String
  wallets : Int32 → Option WalletEntity
  tokens : TokenKey → Option Int32
  payments : TokenKey → Option PaymentEntity
  points : Int32 → Option Int32

namespace Db

/-- No rows; as pending writes, no writes. -/
def empty : Db :=
  ⟨fun _ => none, fun _ => none, fun _ => none, fun _ => none, fun _ => none, fun _ => none⟩

/-- The tables `t` with the pending writes `w` over them. -/
def onto (w t : Db) : Db where
  shoppers := overlay w.shoppers t.shoppers
  stores := overlay w.stores t.stores
  wallets := overlay w.wallets t.wallets
  tokens := overlay w.tokens t.tokens
  payments := overlay w.payments t.payments
  points := overlay w.points t.points

@[simp] theorem onto_empty (t : Db) : empty.onto t = t := by
  simp [onto, empty]

/-- Writing a wallet row. -/
def putWallet (db : Db) (id : Int32) (row : WalletEntity) : Db :=
  { db with wallets := Function.update db.wallets id (some row) }

/-- Writing a token row. -/
def putToken (db : Db) (key : TokenKey) (status : Int32) : Db :=
  { db with tokens := Function.update db.tokens key (some status) }

/-- Writing a payment row. -/
def putPayment (db : Db) (key : TokenKey) (row : PaymentEntity) : Db :=
  { db with payments := Function.update db.payments key (some row) }

/-- Writing a point row. -/
def putPoint (db : Db) (id : Int32) (amount : Int32) : Db :=
  { db with points := Function.update db.points id (some amount) }

@[simp] theorem putWallet_wallets (db : Db) (id : Int32) (row : WalletEntity) :
    (db.putWallet id row).wallets = Function.update db.wallets id (some row) := rfl

@[simp] theorem putWallet_onto (w t : Db) (id : Int32) (row : WalletEntity) :
    (w.putWallet id row).onto t = (w.onto t).putWallet id row := by
  simp [onto, putWallet]

@[simp] theorem putToken_onto (w t : Db) (key : TokenKey) (status : Int32) :
    (w.putToken key status).onto t = (w.onto t).putToken key status := by
  simp [onto, putToken]

@[simp] theorem putPayment_onto (w t : Db) (key : TokenKey) (row : PaymentEntity) :
    (w.putPayment key row).onto t = (w.onto t).putPayment key row := by
  simp [onto, putPayment]

@[simp] theorem putPoint_onto (w t : Db) (id : Int32) (amount : Int32) :
    (w.putPoint id amount).onto t = (w.onto t).putPoint id amount := by
  simp [onto, putPoint]

end Db

/-! ### Statements -/

/-- The statements of the Spring Data repositories, and the transaction boundaries. -/
inductive DbOp
  | begin
  | commit
  | rollback
  /-- `ShopperEntityRepository.findById`. -/
  | findShopper (id : Int32)
  /-- `StoreEntityRepository.findById`. -/
  | findStore (id : Int32)
  /-- `WalletEntityRepository.findByIdWithLock`. -/
  | findWalletWithLock (id : Int32)
  /-- `WalletEntityRepository.updateChargedMoney`. -/
  | updateChargedMoney (shopperId : Int32) (chargedMoney : Int32)
  /-- `TokenEntityRepository.findByIdWithLock`. -/
  | findTokenWithLock (id : TokenKey)
  /-- `TokenEntityRepository.updateStatus`. -/
  | updateStatus (id : TokenKey) (newStatus : Int32)
  /-- `TokenEntityRepository.save`. -/
  | saveToken (id : TokenKey) (status : Int32)
  /-- `PaymentEntityRepository.findById`. -/
  | findPayment (id : TokenKey)
  /-- `PaymentEntityRepository.save`. -/
  | savePayment (id : TokenKey) (entity : PaymentEntity)
  /-- `PointEntityRepository.findById`. -/
  | findPoint (id : Int32)
  /-- `PointEntityRepository.updatePoint`. -/
  | updatePoint (shopperId : Int32) (amount : Int32)

/-- The result of each statement: the row found, or the number of rows changed. -/
abbrev DbOp.Res : DbOp → Type
  | findShopper _ | findStore _ => Option String
  | findWalletWithLock _ => Option WalletEntity
  | findTokenWithLock _ | findPoint _ => Option Int32
  | findPayment _ => Option PaymentEntity
  | updateChargedMoney _ _ | updateStatus _ _ | updatePoint _ _ => Int32
  | begin | commit | rollback | saveToken _ _ | savePayment _ _ => Unit

/-- Programs of database statements. -/
abbrev DbProgram (α : Type) : Type := Program DbOp DbOp.Res JavaException α

/-- The committed tables, and the pending writes of the running transaction. -/
structure DbState where
  committed : Db
  pending : Db

/-- What the running transaction sees. -/
def DbState.view (s : DbState) : Db := s.pending.onto s.committed

/-- No transaction is running. -/
def Db.idle (db : Db) : DbState := ⟨db, Db.empty⟩

@[simp] theorem Db.idle_view (db : Db) : db.idle.view = db := Db.onto_empty db

/-- An `UPDATE` of the row of one key: it changes the row, if there is one, and reports how many
rows it has changed. -/
def DbState.update {ρ : Type} (s : DbState) (row : Option ρ) (write : ρ → Db) :
    Except JavaException Int32 × DbState :=
  match row with
  | some r => (.ok 1, ⟨s.committed, write r⟩)
  | none => (.ok 0, s)

theorem DbState.update_committed {ρ : Type} (s : DbState) (row : Option ρ) (write : ρ → Db) :
    (s.update row write).2.committed = s.committed := by
  cases row <;> rfl

/-- The statements, without faults.  `save` inserts or overwrites. -/
def exec : Env DbOp DbOp.Res JavaException DbState
  | .begin, s => (.ok (), ⟨s.committed, Db.empty⟩)
  | .commit, s => (.ok (), ⟨s.view, Db.empty⟩)
  | .rollback, s => (.ok (), ⟨s.committed, Db.empty⟩)
  | .findShopper id, s => (.ok (s.view.shoppers id), s)
  | .findStore id, s => (.ok (s.view.stores id), s)
  | .findWalletWithLock id, s => (.ok (s.view.wallets id), s)
  | .updateChargedMoney id chargedMoney, s =>
      s.update (s.view.wallets id) fun row =>
        s.pending.putWallet id ⟨chargedMoney, row.autoChargeMoney⟩
  | .findTokenWithLock key, s => (.ok (s.view.tokens key), s)
  | .updateStatus key newStatus, s =>
      s.update (s.view.tokens key) fun _ => s.pending.putToken key newStatus
  | .saveToken key status, s => (.ok (), ⟨s.committed, s.pending.putToken key status⟩)
  | .findPayment key, s => (.ok (s.view.payments key), s)
  | .savePayment key row, s => (.ok (), ⟨s.committed, s.pending.putPayment key row⟩)
  | .findPoint id, s => (.ok (s.view.points id), s)
  | .updatePoint id amount, s =>
      s.update (s.view.points id) fun _ => s.pending.putPoint id amount

/-! ### Repositories -/

/-- The row count of an `UPDATE` that should have changed one row. -/
def oneRow (missing many : String) (rowNum : Int32) : Except JavaException Unit :=
  if rowNum = 0 then .error (.runtime missing)
  else if rowNum = 1 then .ok ()
  else .error (.runtime many)

namespace RdbmsShopperRepository

/-- `RdbmsShopperRepository.load`. -/
def load (id : ShopperId) : DbProgram Shopper :=
  query (.findShopper id.value) fun entity => do
    let name ← optionalGet entity
    return ⟨id, ⟨name⟩⟩

end RdbmsShopperRepository

namespace RdbmsCoffeeStoreRepository

/-- `RdbmsCoffeeStoreRepository.load`. -/
def load (storeId : StoreId) : DbProgram CoffeeStore :=
  query (.findStore storeId.value) fun entity => do
    let name ← optionalGet entity
    return ⟨storeId, ⟨name⟩⟩

end RdbmsCoffeeStoreRepository

namespace RdbmsWalletRepository

/-- `RdbmsWalletRepository.load`. -/
def load (owner : Shopper) : DbProgram Wallet :=
  query (.findWalletWithLock owner.id.value) fun entity => do
    let entity ← nonNull entity
    let chargedMoney ← Money.new entity.chargedMoney
    let autoChargeMoney ← Money.new entity.autoChargeMoney
    return ⟨owner, chargedMoney, autoChargeMoney⟩

/-- `RdbmsWalletRepository.store`.  The messages end in the identity of the wallet object, which
is left out. -/
def store (wallet : Wallet) : DbProgram Unit :=
  query (.updateChargedMoney wallet.owner.id.value wallet.chargedMoney.value)
    (oneRow "Wallet token is not exist on Data Store: " "Many wallet were changed : ")

end RdbmsWalletRepository

namespace RdbmsTokenRepository

/-- The row key of a token. -/
def tokenKey (shopperId : ShopperId) (tokenId : TokenId) : TokenKey :=
  ⟨shopperId.value, tokenId.value⟩

/-- `RdbmsTokenRepository.create`. -/
def create (token : Token) : DbProgram Unit :=
  perform (DbOp.saveToken (tokenKey token.shopperId token.tokenId) token.status.value)

/-- `RdbmsTokenRepository.load`. -/
def load (shopperId : ShopperId) (tokenId : TokenId) : DbProgram (Option Token) :=
  query (.findTokenWithLock (tokenKey shopperId tokenId)) fun entity => do
    let status ← TokenStatus.getInstance (← nonNull entity)
    return some ⟨shopperId, tokenId, status, none⟩

/-- `RdbmsTokenRepository.store`. -/
def store (token : Token) : DbProgram Unit :=
  query (.updateStatus (tokenKey token.shopperId token.tokenId) token.status.value)
    (oneRow ("This token is not exist on Data Store: " ++ token.toString)
      ("Many token were changed : " ++ token.toString))

end RdbmsTokenRepository

namespace RdbmsPaymentRepository

/-- `RdbmsPaymentRepository.load`. -/
def load (shopperId : ShopperId) (tokenId : TokenId) : DbProgram (Option Payment) :=
  query (.findPayment (RdbmsTokenRepository.tokenKey shopperId tokenId)) fun entity => do
    let entity ← optionalGet entity
    let billingAmount ← Money.new entity.billingAmount
    return some ⟨⟨entity.storeId⟩, shopperId, billingAmount, entity.billingDateTime, some tokenId⟩

/-- The row of a payment. -/
def entity (payment : Payment) : PaymentEntity :=
  ⟨payment.storeId.value, payment.billingAmount.value, payment.billingDateTime⟩

/-- `RdbmsPaymentRepository.store`. -/
def store (payment : Payment) : DbProgram Unit := do
  let tokenId ← ofExcept (nonNull payment.tokenId)
  perform (DbOp.savePayment (RdbmsTokenRepository.tokenKey payment.shopperId tokenId)
    (entity payment))

end RdbmsPaymentRepository

namespace RdbmsPointRepository

/-- `RdbmsPointRepository.load`.  The owner is the key under which the row was found. -/
def load (shopperId : ShopperId) : DbProgram Point :=
  query (.findPoint shopperId.value) fun entity => do
    let amount ← optionalGet entity
    return ⟨⟨shopperId.value⟩, amount⟩

/-- `Point.toString`. -/
def pointToString (point : Point) : String :=
  "Point\x7bownerId=" ++ point.ownerId.toString ++ ", point=" ++ ToString.toString point.point ++
    "\x7d"

/-- `RdbmsPointRepository.store`. -/
def store (point : Point) : DbProgram Unit :=
  query (.updatePoint point.ownerId.value point.point)
    (oneRow ("This point is not exist on Data Store: " ++ pointToString point)
      ("Many point were changed : " ++ pointToString point))

end RdbmsPointRepository

/-- The relational repositories. -/
def rdbms : (o : RepoOp) → DbProgram o.Res
  | .loadShopper id => RdbmsShopperRepository.load id
  | .loadStore id => RdbmsCoffeeStoreRepository.load id
  | .loadWallet owner => RdbmsWalletRepository.load owner
  | .storeWallet wallet => RdbmsWalletRepository.store wallet
  | .createToken token => RdbmsTokenRepository.create token
  | .loadToken shopperId tokenId => RdbmsTokenRepository.load shopperId tokenId
  | .storeToken token => RdbmsTokenRepository.store token
  | .loadPayment shopperId tokenId => RdbmsPaymentRepository.load shopperId tokenId
  | .storePayment payment => RdbmsPaymentRepository.store payment
  | .loadPoint id => RdbmsPointRepository.load id
  | .storePoint point => RdbmsPointRepository.store point

/-! ### The relational repositories are map-like -/

/-- The purse in a wallet row, if both amounts are accepted. -/
def WalletEntity.purse (row : WalletEntity) : Option Purse :=
  match Money.new row.chargedMoney, Money.new row.autoChargeMoney with
  | .ok charged, .ok autoCharge => some ⟨charged, autoCharge⟩
  | _, _ => none

/-- The status in a token row, if it is the number of a status. -/
def tokenStatus (v : Int32) : Option TokenStatus := (TokenStatus.getInstance v).toOption

/-- The row key of a token. -/
def rowKey (key : Key) : TokenKey := RdbmsTokenRepository.tokenKey key.1 key.2

/-- The tables as the domain sees them. -/
def Db.toStore (db : Db) : Store PaymentEntity where
  shoppers id := (db.shoppers id.value).map FullName.mk
  stores id := (db.stores id.value).map fun name => ⟨id, ⟨name⟩⟩
  wallets id := (db.wallets id.value).bind WalletEntity.purse
  tokens key := (db.tokens (rowKey key)).bind tokenStatus
  payments key := db.payments (rowKey key)

@[simp] theorem purse_eq_some_iff {row : WalletEntity} {purse : Purse} :
    row.purse = some purse ↔ row = ⟨purse.charged.value, purse.autoCharge.value⟩ := by
  rw [WalletEntity.mk.injEq]
  exact Purse.of_amounts_iff

@[simp] theorem tokenStatus_eq_some_iff {v : Int32} {status : TokenStatus} :
    tokenStatus v = some status ↔ v = status.value := by
  rw [← TokenStatus.getInstance_eq_ok_iff, tokenStatus]
  cases TokenStatus.getInstance v <;> simp [Except.toOption]

theorem rowKey_injective : Function.Injective rowKey := by
  rintro ⟨⟨a⟩, ⟨b⟩⟩ ⟨⟨a'⟩, ⟨b'⟩⟩ h
  cases h
  rfl

theorem shopperId_injective : Function.Injective ShopperId.value := by
  rintro ⟨a⟩ ⟨b⟩ h
  cases h
  rfl

namespace Db

/-- Writing a wallet row, as the domain sees it. -/
theorem toStore_putWallet (db : Db) (w : Wallet) :
    (db.putWallet w.owner.id.value ⟨w.chargedMoney.value, w.autoChargeMoney.value⟩).toStore =
      db.toStore.setWallet w := by
  rw [Store.setWallet, toStore, toStore, Store.mk.injEq]
  refine ⟨rfl, rfl, funext fun id => ?_, rfl, rfl⟩
  by_cases h : id = w.owner.id
  · subst h
    simp [putWallet, Wallet.purse]
  · have hne : id.value ≠ w.owner.id.value := fun hv => h (shopperId_injective hv)
    simp [putWallet, Function.update_of_ne h, Function.update_of_ne hne]

/-- Writing a token row, as the domain sees it. -/
theorem toStore_putToken (db : Db) (key : Key) (status : TokenStatus) :
    (db.putToken (rowKey key) status.value).toStore = db.toStore.setToken key status := by
  rw [Store.setToken, toStore, toStore, Store.mk.injEq]
  refine ⟨rfl, rfl, rfl, funext fun k => ?_, rfl⟩
  by_cases h : k = key
  · subst h
    simp [putToken]
  · have hne : rowKey k ≠ rowKey key := fun hv => h (rowKey_injective hv)
    simp [putToken, Function.update_of_ne h, Function.update_of_ne hne]

/-- Writing a payment row, as the domain sees it. -/
theorem toStore_putPayment (db : Db) (key : Key) (row : PaymentEntity) :
    (db.putPayment (rowKey key) row).toStore = db.toStore.setPayment key row := by
  rw [Store.setPayment, toStore, toStore, Store.mk.injEq]
  refine ⟨rfl, rfl, rfl, rfl, funext fun k => ?_⟩
  by_cases h : k = key
  · subst h
    simp [putPayment]
  · have hne : rowKey k ≠ rowKey key := fun hv => h (rowKey_injective hv)
    simp [putPayment, Function.update_of_ne h, Function.update_of_ne hne]

end Db

/-- What the running transaction sees, in the terms of the domain. -/
def DbState.toStore (s : DbState) : Store PaymentEntity := s.view.toStore

/-- The relational repositories, run within a transaction and without faults. -/
def rdbmsEnv : Env RepoOp RepoOp.Res JavaException DbState := exec.above rdbms

theorem rdbmsEnv_storeWallet {s : DbState} {w : Wallet}
    (h : (s.toStore.wallets w.owner.id).map Purse.autoCharge = some w.autoChargeMoney) :
    (rdbmsEnv (.storeWallet w) s).1 = .ok () ∧
      (rdbmsEnv (.storeWallet w) s).2.toStore = s.toStore.setWallet w := by
  obtain ⟨purse, hw, hauto⟩ := Option.map_eq_some_iff.1 h
  obtain ⟨row, hrow, hpurse⟩ := Option.bind_eq_some_iff.1 hw
  have hval := purse_eq_some_iff.1 hpurse
  have hexec : rdbmsEnv (.storeWallet w) s = (.ok (), ⟨s.committed,
      s.pending.putWallet w.owner.id.value ⟨w.chargedMoney.value, w.autoChargeMoney.value⟩⟩) := by
    change run exec (RdbmsWalletRepository.store w) s = _
    rw [RdbmsWalletRepository.store, run_query, exec, hrow, hval, hauto]
    rfl
  rw [hexec]
  refine ⟨rfl, ?_⟩
  rw [DbState.toStore, DbState.view, Db.putWallet_onto, Db.toStore_putWallet]
  rfl

theorem rdbmsEnv_storeToken {s : DbState} {token : Token}
    (h : (s.toStore.tokens (token.shopperId, token.tokenId)).isSome) :
    (rdbmsEnv (.storeToken token) s).1 = .ok () ∧ (rdbmsEnv (.storeToken token) s).2.toStore =
      s.toStore.setToken (token.shopperId, token.tokenId) token.status := by
  obtain ⟨status, ht⟩ := Option.isSome_iff_exists.1 h
  obtain ⟨row, hrow, -⟩ := Option.bind_eq_some_iff.1 ht
  have hexec : rdbmsEnv (.storeToken token) s = (.ok (), ⟨s.committed,
      s.pending.putToken (rowKey (token.shopperId, token.tokenId)) token.status.value⟩) := by
    change run exec (RdbmsTokenRepository.store token) s = _
    rw [rowKey] at hrow
    rw [RdbmsTokenRepository.store, run_query, exec, hrow]
    rfl
  rw [hexec]
  refine ⟨rfl, ?_⟩
  rw [DbState.toStore, DbState.view, Db.putToken_onto, Db.toStore_putToken]
  rfl

theorem rdbmsEnv_storePayment (s : DbState) {p : Payment} {tokenId : TokenId}
    (h : p.tokenId = some tokenId) :
    (rdbmsEnv (.storePayment p) s).1 = .ok () ∧ (rdbmsEnv (.storePayment p) s).2.toStore =
      s.toStore.setPayment (p.shopperId, tokenId) (RdbmsPaymentRepository.entity p) := by
  have hexec : rdbmsEnv (.storePayment p) s = (.ok (), ⟨s.committed,
      s.pending.putPayment (rowKey (p.shopperId, tokenId)) (RdbmsPaymentRepository.entity p)⟩) := by
    change run exec (RdbmsPaymentRepository.store p) s = _
    rw [RdbmsPaymentRepository.store, h]
    rfl
  rw [hexec]
  refine ⟨rfl, ?_⟩
  rw [DbState.toStore, DbState.view, Db.putPayment_onto, Db.toStore_putPayment]
  rfl

theorem rdbmsEnv_loadShopper (s : DbState) (id : ShopperId) :
    (rdbmsEnv (.loadShopper id) s).1.toOption = (s.toStore.shoppers id).map (Shopper.mk id) ∧
      (rdbmsEnv (.loadShopper id) s).2.toStore = s.toStore := by
  change (run exec (RdbmsShopperRepository.load id) s).1.toOption =
      ((s.view.shoppers id.value).map FullName.mk).map (Shopper.mk id) ∧
    (run exec (RdbmsShopperRepository.load id) s).2.toStore = s.toStore
  rw [RdbmsShopperRepository.load, run_query, exec]
  cases s.view.shoppers id.value with
  | none => exact ⟨rfl, rfl⟩
  | some name => exact ⟨rfl, rfl⟩

theorem rdbmsEnv_loadStore (s : DbState) (id : StoreId) :
    (rdbmsEnv (.loadStore id) s).1.toOption = s.toStore.stores id ∧
      (rdbmsEnv (.loadStore id) s).2.toStore = s.toStore := by
  change (run exec (RdbmsCoffeeStoreRepository.load id) s).1.toOption =
      ((s.view.stores id.value).map fun name => (⟨id, ⟨name⟩⟩ : CoffeeStore)) ∧
    (run exec (RdbmsCoffeeStoreRepository.load id) s).2.toStore = s.toStore
  rw [RdbmsCoffeeStoreRepository.load, run_query, exec]
  cases s.view.stores id.value with
  | none => exact ⟨rfl, rfl⟩
  | some name => exact ⟨rfl, rfl⟩

/-- A wallet is loaded if both of its amounts are accepted. -/
theorem rdbmsEnv_loadWallet (s : DbState) (owner : Shopper) :
    (rdbmsEnv (.loadWallet owner) s).1.toOption =
        (s.toStore.wallets owner.id).map (Purse.wallet · owner) ∧
      (rdbmsEnv (.loadWallet owner) s).2.toStore = s.toStore := by
  change (run exec (RdbmsWalletRepository.load owner) s).1.toOption =
      ((s.view.wallets owner.id.value).bind WalletEntity.purse).map (Purse.wallet · owner) ∧
    (run exec (RdbmsWalletRepository.load owner) s).2.toStore = s.toStore
  rw [RdbmsWalletRepository.load, run_query, exec]
  cases s.view.wallets owner.id.value with
  | none => exact ⟨rfl, rfl⟩
  | some row => exact ⟨Wallet.toOption_of_amounts row.chargedMoney row.autoChargeMoney owner, rfl⟩

/-- A token is loaded if its row holds the number of a status. -/
theorem rdbmsEnv_loadToken (s : DbState) (shopperId : ShopperId) (tokenId : TokenId) :
    (rdbmsEnv (.loadToken shopperId tokenId) s).1.toOption.join =
        (s.toStore.tokens (shopperId, tokenId)).map (Token.mk shopperId tokenId · none) ∧
      (rdbmsEnv (.loadToken shopperId tokenId) s).2.toStore = s.toStore := by
  change (run exec (RdbmsTokenRepository.load shopperId tokenId) s).1.toOption.join =
      ((s.view.tokens (RdbmsTokenRepository.tokenKey shopperId tokenId)).bind tokenStatus).map
        (Token.mk shopperId tokenId · none) ∧
    (run exec (RdbmsTokenRepository.load shopperId tokenId) s).2.toStore = s.toStore
  rw [RdbmsTokenRepository.load, run_query, exec]
  cases s.view.tokens (RdbmsTokenRepository.tokenKey shopperId tokenId) with
  | none => exact ⟨rfl, rfl⟩
  | some v =>
      refine ⟨?_, rfl⟩
      change (TokenStatus.getInstance v >>= fun status =>
        pure (some (⟨shopperId, tokenId, status, none⟩ : Token))).toOption.join =
          (tokenStatus v).map (Token.mk shopperId tokenId · none)
      rw [tokenStatus]
      cases TokenStatus.getInstance v with
      | error e => rfl
      | ok status => rfl

theorem rdbmsEnv_answers (s : DbState) (o : RepoOp) :
    s.toStore.Answers RdbmsPaymentRepository.entity o (rdbmsEnv o s).1
      (rdbmsEnv o s).2.toStore := by
  cases o with
  | loadShopper id => exact rdbmsEnv_loadShopper s id
  | loadStore id => exact rdbmsEnv_loadStore s id
  | loadWallet owner => exact rdbmsEnv_loadWallet s owner
  | loadToken shopperId tokenId => exact rdbmsEnv_loadToken s shopperId tokenId
  | storeWallet w => exact fun h => rdbmsEnv_storeWallet h
  | storeToken token => exact fun h => rdbmsEnv_storeToken h
  | storePayment p => exact fun tokenId h => rdbmsEnv_storePayment s h
  | createToken token => trivial
  | loadPayment shopperId tokenId => trivial
  | loadPoint id => trivial
  | storePoint point => trivial

/-- **The relational repositories are map-like.** -/
def rdbmsBackend : Backend where
  State := DbState
  Record := PaymentEntity
  record := RdbmsPaymentRepository.entity
  env := rdbmsEnv
  view := DbState.toStore
  answers := rdbmsEnv_answers

end RedHatPay.Monolith
