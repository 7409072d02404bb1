/-
**Stores, bills, payments and one-time tokens.**

The value objects of the payment domain, and the token with its life cycle: a token is created
unused, is taken into processing, and ends as used or failed.  `processing` and `used` check the
status they start from and throw a `TokenException` otherwise; `failed` checks nothing.  Tokens
are immutable: each of the three returns a new one.

* `RedHatPay.Billing`, `RedHatPay.Payment`, `RedHatPay.CoffeeStore`, `RedHatPay.Shopper`;
* `RedHatPay.TokenStatus` with its display name, its stored number and `getInstance`;
* `RedHatPay.Token` with `processing`, `used` and `failed`.
-/

import RedHatPay.Domain.Money

set_option relaxedAutoImplicit false
set_option autoImplicit false

namespace RedHatPay

/-! ### Identifiers and names -/

/-- `rhpay.payment.domain.ShopperId`. -/
structure ShopperId where
  value : Int32
  deriving DecidableEq

/-- `rhpay.payment.domain.TokenId`. -/
structure TokenId where
  value : String
  deriving DecidableEq

/-- `rhpay.payment.domain.StoreId`. -/
structure StoreId where
  value : Int32
  deriving DecidableEq

/-- `rhpay.payment.domain.FullName`. -/
structure FullName where
  value : String
  deriving DecidableEq

/-- `rhpay.payment.domain.StoreName`. -/
structure StoreName where
  value : String
  deriving DecidableEq

/-- `ShopperId.toString`. -/
def ShopperId.toString (id : ShopperId) : String :=
  "ShopperId\x7bvalue=" ++ ToString.toString id.value ++ "\x7d"

/-- `TokenId.toString`. -/
def TokenId.toString (id : TokenId) : String := "TokenId\x7bvalue=\x27" ++ id.value ++ "\x27\x7d"

/-! ### Shoppers, stores, bills, payments -/

/-- `rhpay.payment.domain.Shopper`. -/
structure Shopper where
  id : ShopperId
  name : FullName
  deriving DecidableEq

/-- `rhpay.payment.domain.Billing`. -/
structure Billing where
  storeId : StoreId
  amount : Money
  deriving DecidableEq

/-- `rhpay.payment.domain.CoffeeStore`. -/
structure CoffeeStore where
  id : StoreId
  name : StoreName
  deriving DecidableEq

/-- `CoffeeStore.createBill`. -/
def CoffeeStore.createBill (store : CoffeeStore) (amount : Money) : Billing := ⟨store.id, amount⟩

/-- `rhpay.payment.domain.Payment`; the token is `null` until the payment is related to one. -/
structure Payment where
  storeId : StoreId
  shopperId : ShopperId
  billingAmount : Money
  billingDateTime : LocalDateTime
  tokenId : Option TokenId := none
  deriving DecidableEq

/-! ### Tokens -/

/-- `rhpay.payment.domain.TokenStatus`. -/
inductive TokenStatus
  | unused
  | processing
  | used
  | failed
  deriving DecidableEq

namespace TokenStatus

/-- The display name of a status. -/
def name : TokenStatus → String
  | unused => "未使用"
  | processing => "処理中"
  | used => "使用済み"
  | failed => "失敗"

/-- The name of the enumeration constant. -/
def constant : TokenStatus → String
  | unused => "UNUSED"
  | processing => "PROCESSING"
  | used => "USED"
  | failed => "FAILED"

/-- The number that the relational store keeps. -/
def value : TokenStatus → Int32
  | unused => 1
  | processing => 2
  | used => 3
  | failed => 4

/-- `TokenStatus.getInstance`. -/
def getInstance (v : Int32) : Except JavaException TokenStatus :=
  if v = value unused then .ok unused
  else if v = value processing then .ok processing
  else if v = value used then .ok used
  else if v = value failed then .ok failed
  else .error (.runtime "invalid token value")

/-- Every status is read back from the number it is stored as. -/
@[simp] theorem getInstance_value (s : TokenStatus) : getInstance s.value = .ok s := by
  cases s <;> decide

/-- Only the number of a status is read as that status. -/
theorem getInstance_eq_ok_iff {v : Int32} {s : TokenStatus} :
    getInstance v = .ok s ↔ v = s.value := by
  constructor
  · intro h
    unfold getInstance at h
    split_ifs at h with h₁ h₂ h₃ h₄ <;> cases h <;> assumption
  · rintro rfl
    exact getInstance_value s

theorem value_injective {s t : TokenStatus} (h : s.value = t.value) : s = t := by
  have ht := getInstance_value t
  rw [← h, getInstance_value] at ht
  cases ht
  rfl

end TokenStatus

/-- `rhpay.payment.domain.Token`. -/
structure Token where
  shopperId : ShopperId
  tokenId : TokenId
  status : TokenStatus
  payment : Option Payment := none
  deriving DecidableEq

namespace Token

/-- The message of a refused change of status. -/
def refusal (token : Token) (target : String) : JavaException :=
  .tokenException ("Attempted to change status of tokens to \x27" ++ target ++
    "\x27 even though it is \x27" ++ token.status.name ++ "\x27 : [" ++ token.shopperId.toString ++
    ", " ++ token.tokenId.toString ++ "]")

/-- `Token.processing`. -/
def processing (token : Token) : Except JavaException Token :=
  if token.status = .unused then .ok ⟨token.shopperId, token.tokenId, .processing, none⟩
  else .error (token.refusal "processing")

/-- `Token.used`. -/
def used (token : Token) (payment : Payment) : Except JavaException Token :=
  if token.status = .processing then
    let relatedPayment : Payment := ⟨payment.storeId, payment.shopperId, payment.billingAmount,
      payment.billingDateTime, some token.tokenId⟩
    .ok ⟨token.shopperId, token.tokenId, .used, some relatedPayment⟩
  else .error (token.refusal "used")

/-- `Token.failed`. -/
def failed (token : Token) : Token := ⟨token.shopperId, token.tokenId, .failed, none⟩

/-- `Token.getRelatedPayment`. -/
def getRelatedPayment (token : Token) : Option Payment := token.payment

/-- `Token.toString`. -/
def toString (token : Token) : String :=
  "Token\x7bshopperId=" ++ token.shopperId.toString ++ ", TokenId=" ++ token.tokenId.toString ++
    ", status=" ++ token.status.constant ++ "\x7d"

/-- The token in processing. -/
def inProcessing (token : Token) : Token := ⟨token.shopperId, token.tokenId, .processing, none⟩

/-- The payment related to the token. -/
def relate (token : Token) (payment : Payment) : Payment :=
  { payment with tokenId := some token.tokenId }

/-- The token used up by a payment. -/
def usedFor (token : Token) (payment : Payment) : Token :=
  ⟨token.shopperId, token.tokenId, .used, some (token.relate payment)⟩

theorem processing_of_unused {token : Token} (h : token.status = .unused) :
    token.processing = .ok token.inProcessing :=
  if_pos h

theorem processing_of_ne {token : Token} (h : token.status ≠ .unused) :
    token.processing = .error (token.refusal "processing") :=
  if_neg h

end Token

end RedHatPay
