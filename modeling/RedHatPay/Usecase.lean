/-
**The use cases: creating a token, paying with it, granting points.**

The use cases see the stores only through repository interfaces.  `RedHatPay.RepoOp` lists the
methods of those interfaces, and a use case is a program over them, so that the same text runs
over the relational repositories, over the cache repositories, over repositories that fail at any
call, and step by step among other requests.

The local variable `token` of `TokenUsecaseImpl.pay` is declared before the `try` block and read
in the `catch` block, so the body is a block with a local variable.

* `RedHatPay.RepoOp`, `RedHatPay.RepoOp.Res` — the repository interfaces;
* `RedHatPay.TokenUsecaseImpl.createToken`, `RedHatPay.TokenUsecaseImpl.pay`;
* `RedHatPay.PointUsecase.addPoint`.
-/

import RedHatPay.Lib.Program
import RedHatPay.Domain.Wallet
import RedHatPay.Domain.Point

set_option relaxedAutoImplicit false
set_option autoImplicit false

namespace RedHatPay

open Program

/-! ### The repository interfaces -/

/-- The methods of the repository interfaces of the domain. -/
inductive RepoOp
  /-- `ShopperRepository.load`. -/
  | loadShopper (id : ShopperId)
  /-- `CoffeeStoreRepository.load`. -/
  | loadStore (id : StoreId)
  /-- `WalletRepository.load`. -/
  | loadWallet (owner : Shopper)
  /-- `WalletRepository.store`. -/
  | storeWallet (wallet : Wallet)
  /-- `TokenRepository.create`. -/
  | createToken (token : Token)
  /-- `TokenRepository.load`. -/
  | loadToken (shopperId : ShopperId) (tokenId : TokenId)
  /-- `TokenRepository.store`. -/
  | storeToken (token : Token)
  /-- `PaymentRepository.load`. -/
  | loadPayment (shopperId : ShopperId) (tokenId : TokenId)
  /-- `PaymentRepository.store`. -/
  | storePayment (payment : Payment)
  /-- `PointRepository.load`. -/
  | loadPoint (id : ShopperId)
  /-- `PointRepository.store`. -/
  | storePoint (point : Point)

/-- What each method returns.  A token or a payment may be `null`. -/
abbrev RepoOp.Res : RepoOp → Type
  | loadShopper _ => Shopper
  | loadStore _ => CoffeeStore
  | loadWallet _ => Wallet
  | loadToken _ _ => Option Token
  | loadPayment _ _ => Option Payment
  | loadPoint _ => Point
  | storeWallet _ | createToken _ | storeToken _ | storePayment _ | storePoint _ => Unit

/-- Programs over the repository interfaces. -/
abbrev Usecase (α : Type) : Type := Program RepoOp RepoOp.Res JavaException α

/-- Calling a repository. -/
def RepoOp.invoke (o : RepoOp) : Usecase o.Res := perform o

/-- `ShopperService.load`. -/
def ShopperService.load (id : ShopperId) : Usecase Shopper := (RepoOp.loadShopper id).invoke

/-- `CoffeeStoreService.load`. -/
def CoffeeStoreService.load (id : StoreId) : Usecase CoffeeStore := (RepoOp.loadStore id).invoke

/-- `WalletService.load`. -/
def WalletService.load (shopper : Shopper) : Usecase Wallet := (RepoOp.loadWallet shopper).invoke

/-- `WalletService.store`. -/
def WalletService.store (wallet : Wallet) : Usecase Unit := (RepoOp.storeWallet wallet).invoke

/-- `TokenService.load`. -/
def TokenService.load (shopperId : ShopperId) (tokenId : TokenId) : Usecase (Option Token) :=
  (RepoOp.loadToken shopperId tokenId).invoke

/-- `TokenService.store`. -/
def TokenService.store (token : Token) : Usecase Unit := (RepoOp.storeToken token).invoke

/-- The token id that `TokenService.create` cuts from a random identifier. -/
def TokenService.newTokenId (uuid : UUID) : TokenId := ⟨substring uuid.toString 0 4⟩

/-- `TokenService.create`; `uuid` is what `UUID.randomUUID()` returns. -/
def TokenService.create (id : ShopperId) (uuid : UUID) : Usecase Token := do
  let token : Token := ⟨id, TokenService.newTokenId uuid, .unused, none⟩
  let _ ← (RepoOp.createToken token).invoke
  return token

/-- `PaymentService.load`. -/
def PaymentService.load (shopperId : ShopperId) (tokenId : TokenId) : Usecase (Option Payment) :=
  (RepoOp.loadPayment shopperId tokenId).invoke

/-- `PaymentService.store`. -/
def PaymentService.store (payment : Payment) : Usecase Unit := (RepoOp.storePayment payment).invoke

/-- `PointService.load`. -/
def PointService.load (id : ShopperId) : Usecase Point := (RepoOp.loadPoint id).invoke

/-- `PointService.store`. -/
def PointService.store (point : Point) : Usecase Unit := (RepoOp.storePoint point).invoke

/-! ### Tokens -/

/-- `rhpay.payment.usecase.TokenPayInput`. -/
structure TokenPayInput where
  shopperId : ShopperId
  amount : Money
  tokenId : TokenId
  storeId : StoreId
  deriving DecidableEq

namespace TokenUsecaseImpl

/-- `TokenUsecaseImpl.createToken`. -/
def createToken (shopperId : ShopperId) (uuid : UUID) : Usecase Token :=
  TokenService.create shopperId uuid

/-- The check that a loaded token is not `null`. -/
def existing (input : TokenPayInput) : Option Token → Except JavaException Token
  | some token => .ok token
  | none => .error (.runtime ("This token is not exist : [" ++ input.shopperId.toString ++ ", " ++
      input.tokenId.toString ++ "]"))

/-- The second half of the `try` block of `TokenUsecaseImpl.pay`: from the loaded token on. -/
def chargeBody (input : TokenPayInput) (now : LocalDateTime) (wallet : Wallet) (bill : Billing)
    (loaded : Option Token) : Block RepoOp RepoOp.Res JavaException (Option Token) Payment := do
  let token ← lift (ofExcept (existing input loaded))
  let token ← lift (ofExcept token.processing)
  assign (some token)
  lift (TokenService.store token)
  -- the wallet is the same object before and after `pay`
  let payment ← lift (ofExcept (wallet.pay bill now).1)
  lift (WalletService.store (wallet.pay bill now).2)
  let token ← lift (ofExcept (token.used payment))
  assign (some token)
  lift (TokenService.store token)
  let relatedPayment ← lift (ofExcept (nonNull token.getRelatedPayment))
  lift (PaymentService.store relatedPayment)
  return relatedPayment

/-- The `try` block of `TokenUsecaseImpl.pay`, with the local variable `token`. -/
def payBody (input : TokenPayInput) (now : LocalDateTime) :
    Block RepoOp RepoOp.Res JavaException (Option Token) Payment := do
  let shopper ← lift (ShopperService.load input.shopperId)
  let store ← lift (CoffeeStoreService.load input.storeId)
  let wallet ← lift (WalletService.load shopper)
  let bill := store.createBill input.amount
  let loaded ← lift (TokenService.load input.shopperId input.tokenId)
  assign loaded
  chargeBody input now wallet bill loaded

/-- The `catch` block of `TokenUsecaseImpl.pay`.  The token that `failed()` returns is dropped, and
the token of the local variable is stored as it is. -/
def payCatch (token : Option Token) : Usecase Payment := do
  match token with
  | some token =>
      let _ := token.failed
      let _ ← attempt (TokenService.store token)
      fail (.paymentException "Fail to pay")
  | none => fail (.paymentException "Fail to pay")

/-- `TokenUsecaseImpl.pay`; `now` is what `LocalDateTime.now()` returns in `Wallet.pay`. -/
def pay (input : TokenPayInput) (now : LocalDateTime) : Usecase Payment :=
  tryCatchVar none (payBody input now) fun _ token => payCatch token

end TokenUsecaseImpl

/-! ### Points -/

/-- `PointUsecase.addPoint`.  The point that `Point.addPoint` returns is dropped, and the loaded
point is stored and returned. -/
def PointUsecase.addPoint (payment : Payment) : Usecase Point := do
  let point ← PointService.load payment.shopperId
  let _ := point.addPoint payment.billingAmount
  PointService.store point
  return point

/-- Adding points stores and returns the point that was loaded. -/
theorem PointUsecase.run_addPoint {σ : Type} {env : Env RepoOp RepoOp.Res JavaException σ}
    {s s₁ s₂ : σ} {payment : Payment} {point : Point}
    (hload : env (.loadPoint payment.shopperId) s = (.ok point, s₁))
    (hstore : env (.storePoint point) s₁ = (.ok (), s₂)) :
    run env (PointUsecase.addPoint payment) s = (.ok point, s₂) := by
  have hloaded : run env (PointService.load payment.shopperId) s = (.ok point, s₁) := hload
  have hstored : run env (PointService.store point) s₁ = (.ok (), s₂) := hstore
  rw [PointUsecase.addPoint, run_bind_ok hloaded]
  exact run_bind_ok hstored

/-! ### Requests -/

/-- The path parameters of a payment request, the same in both deployments. -/
structure PayRequest where
  userId : Int32
  tokenId : String
  storeId : Int32
  amount : Int32
  deriving DecidableEq

/-- The input of the use case that a request is converted into. -/
def PayRequest.input (req : PayRequest) (amount : Money) : TokenPayInput :=
  ⟨⟨req.userId⟩, amount, ⟨req.tokenId⟩, ⟨req.storeId⟩⟩

/-- The key of the token that a request presents. -/
def PayRequest.key (req : PayRequest) : ShopperId × TokenId := (⟨req.userId⟩, ⟨req.tokenId⟩)

/-- The requests of shoppers and stores.  A payment comes with what `LocalDateTime.now()` returns at
each attempt; a request for a token comes with what `UUID.randomUUID()` returns. -/
inductive Request
  | createToken (userId : Int32) (uuid : UUID)
  | pay (req : PayRequest) (clock : Nat → LocalDateTime)

end RedHatPay
