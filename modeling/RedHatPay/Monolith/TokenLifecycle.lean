/-
**The monolith: where tokens come to rest.**

Requests are served one after the other.  A payment that the wallet refuses has already taken the
token into processing; the `catch` block then computes the failed token, drops it, and stores the
token as it is, and the transaction commits because the exception is a checked one.  So a token
rests in processing exactly after such a request.

* `RedHatPay.Monolith.serve`, `RedHatPay.Monolith.run` — serving requests one after the other;
* `RedHatPay.Monolith.Settles` — what a request should leave of its token;
* `RedHatPay.Monolith.settles_iff` — one request settles its token unless the wallet refuses it;
* `RedHatPay.Monolith.run_settles_iff` — **every run**: all requests settle their tokens exactly if
  no wallet refuses a bill.
-/

import RedHatPay.Lib.Run
import RedHatPay.Monolith.PaymentResource

set_option relaxedAutoImplicit false
set_option autoImplicit false

namespace RedHatPay.Monolith

open Program

/-! ### Runs -/

/-- The answer to a request. -/
inductive Response
  | token (r : TokenResponse)
  | payment (r : PaymentResponse)
  deriving DecidableEq

/-- Serving a request with nothing else going on. -/
def serve (db : Db) : Request → Except JavaException Response × Db
  | .createToken userId uuid =>
      ((createToken db userId uuid).1.map .token, (createToken db userId uuid).2)
  | .pay req clock => ((pay db req (clock 0)).1.map .payment, (pay db req (clock 0)).2)

/-- The tables after a request. -/
def step (db : Db) (r : Request) : Db := (serve db r).2

/-- A database with one shopper, one store and one token. -/
def oneShopper (chargedMoney autoChargeMoney : Int32) (status : TokenStatus) : Db where
  shoppers id := if id = 1 then some "user1" else none
  stores id := if id = 1 then some "store1" else none
  wallets id := if id = 1 then some ⟨chargedMoney, autoChargeMoney⟩ else none
  tokens key := if key = ⟨1, "abcd"⟩ then some status.value else none
  payments _ := none
  points id := if id = 1 then some 0 else none

/-- It has no token with another status. -/
theorem tokens_oneShopper {chargedMoney autoChargeMoney : Int32} {status status' : TokenStatus}
    {key : Key} (h : (oneShopper chargedMoney autoChargeMoney status).toStore.tokens key =
      some status') : status' = status := by
  obtain ⟨v, hv, hstatus⟩ := Option.bind_eq_some_iff.1 h
  simp only [oneShopper] at hv
  split at hv
  · cases hv
    exact TokenStatus.value_injective (tokenStatus_eq_some_iff.1 hstatus).symm
  · cases hv

/-- The request that presents the token of `oneShopper`. -/
def presented (amount : Int32) : PayRequest := ⟨1, "abcd", 1, amount⟩

/-! ### Where tokens come to rest -/

/-- No token is in processing. -/
def NoProcessing (db : Db) : Prop := ∀ key, db.toStore.tokens key ≠ some .processing

/-- What a payment should leave of its token: failed, if it has taken it into processing and then
failed to charge the wallet; what it was, if it was used or failed already. -/
def SettlesToken (db : Db) (req : PayRequest) (now : LocalDateTime) : Prop :=
  (∀ m, req.amount = m.value → (db.toStore.present (req.input m)).isSome →
    (pay db req now).1 = .error failToPay →
      (pay db req now).2.toStore.tokens req.key = some .failed) ∧
  ∀ status, status = .used ∨ status = .failed → db.toStore.tokens req.key = some status →
    (pay db req now).2.toStore.tokens req.key = some status

/-- What a request should do about tokens: leave none in processing, and settle its own. -/
def Settles (db : Db) (r : Request) : Prop :=
  NoProcessing (step db r) ∧
    match r with
    | .createToken _ _ => True
    | .pay req clock => SettlesToken db req (clock 0)

/-- The wallet does not refuse the bill. -/
def Accepted (db : Db) : Request → Prop
  | .createToken _ _ => True
  | .pay req _ => ¬ Refused db req

/-- Creating a token takes no token into processing. -/
theorem noProcessing_createToken {db : Db} (h : NoProcessing db) (userId : Int32) (uuid : UUID) :
    NoProcessing (step db (.createToken userId uuid)) := by
  intro key
  have hdb : step db (.createToken userId uuid) = db.putToken
      (rowKey (⟨userId⟩, TokenService.newTokenId uuid)) TokenStatus.unused.value :=
    congrArg Prod.snd (createToken_eq db userId uuid)
  rw [hdb, Db.toStore_putToken, Store.setToken_tokens]
  by_cases hk : key = (⟨userId⟩, TokenService.newTokenId uuid)
  · rw [hk, Function.update_self]
    decide
  · rw [Function.update_of_ne hk]
    exact h key

/-- A token that is used or failed keeps its status through every payment request that presents
it. -/
theorem tokens_pay_of_final {db : Db} {req : PayRequest} {now : LocalDateTime}
    {status : TokenStatus} (hs : status ≠ .unused) (ht : db.toStore.tokens req.key = some status) :
    (pay db req now).2.toStore.tokens req.key = some status := by
  have habsent : ∀ m, db.toStore.present (req.input m) = none := fun m =>
    Store.present_of_token_ne fun h => hs (Option.some.inj (ht.symm.trans h))
  rcases pay_cases db req now with ⟨⟨m, w, bill, -, hw, -⟩, -⟩ | ⟨-, -, hstore, -⟩ |
    ⟨-, m, p, -, hp, -, -⟩
  · rw [habsent m] at hw
    cases hw
  · rw [hstore]
    exact ht
  · rw [Store.pay_of_absent (habsent m)] at hp
    cases hp

/-- **One request** settles its token exactly if the wallet does not refuse the bill. -/
theorem settles_iff {db : Db} (h : NoProcessing db) (r : Request) :
    Settles db r ↔ Accepted db r := by
  cases r with
  | createToken userId uuid =>
      exact ⟨fun _ => trivial, fun _ => ⟨noProcessing_createToken h userId uuid, trivial⟩⟩
  | pay req clock =>
      have hfinal : ∀ status, status = .used ∨ status = .failed →
          db.toStore.tokens req.key = some status →
            (pay db req (clock 0)).2.toStore.tokens req.key = some status := by
        rintro status (rfl | rfl) ht
        · exact tokens_pay_of_final (by decide) ht
        · exact tokens_pay_of_final (by decide) ht
      rcases pay_cases db req (clock 0) with ⟨href, -, hstore, -⟩ |
        ⟨hacc, ⟨e, he, hnone⟩, hstore, -⟩ | ⟨hacc, m, p, -, hp, hout, -⟩
      · -- the token rests in processing
        refine ⟨fun hset => absurd ?_ (hset.1 req.key), fun hacc => absurd href hacc⟩
        change (pay db req (clock 0)).2.toStore.tokens req.key = some .processing
        rw [hstore, Store.setToken_tokens, Function.update_self]
      · refine ⟨fun _ => hacc, fun _ => ⟨fun key => ?_, ?_, hfinal⟩⟩
        · change (pay db req (clock 0)).2.toStore.tokens key ≠ some .processing
          rw [hstore]
          exact h key
        · intro m hm hpresent herror
          rw [he] at herror
          rw [hnone (Except.error.inj herror) m hm] at hpresent
          cases hpresent
      · refine ⟨fun _ => hacc, fun _ => ⟨fun key => ?_, ?_, hfinal⟩⟩
        · change (pay db req (clock 0)).2.toStore.tokens key ≠ some .processing
          obtain ⟨_, _, _, _, _, _, _, hcharge⟩ := Store.pay_eq_some hp
          rw [hcharge]
          exact Store.charge_tokens_ne (by decide) (h key)
        · intro _ _ _ herror
          rw [hout] at herror
          cases herror

/-- **Every run**: from tables with no token in processing, all requests settle their tokens, and
no token ever rests in processing, exactly if no wallet refuses a bill. -/
theorem run_settles_iff {db : Db} (h : NoProcessing db) (reqs : List Request) :
    Run.Steps step Settles db reqs ↔ Run.Steps step Accepted db reqs :=
  Run.steps_iff (fun (db : Db) r _ (hdb : NoProcessing db) => settles_iff hdb r)
    (fun _ r _ hdb hr => ((settles_iff hdb r).2 hr).1) h

theorem noProcessing_oneShopper (chargedMoney autoChargeMoney : Int32) :
    NoProcessing (oneShopper chargedMoney autoChargeMoney .unused) := by
  intro key hkey
  cases tokens_oneShopper hkey

/-- A wallet that is topped up covers the bill, and the token is settled. -/
theorem run_settles_topUp :
    Run.Steps step Settles (oneShopper 10 50 .unused) [.pay (presented 100) fun _ => ⟨0, 0⟩] := by
  refine (run_settles_iff (noProcessing_oneShopper 10 50) _).2 ⟨?_, trivial⟩
  rintro ⟨m, w, bill, hm, hw, hc⟩
  obtain rfl : m = ⟨100, by decide⟩ := Money.ext_toInt (congrArg Int32.toInt hm.symm)
  obtain ⟨rfl, -⟩ := Prod.mk.inj (Option.some.inj (hw.symm.trans rfl))
  revert hc
  decide

/-- An empty wallet refuses the bill, and the token rests in processing. -/
theorem processing_rests :
    NoProcessing (oneShopper 0 0 .unused) ∧
      ¬ Run.Steps step Settles (oneShopper 0 0 .unused)
        [.pay (presented 1) fun _ => ⟨0, 0⟩] := by
  refine ⟨noProcessing_oneShopper 0 0, fun h => ?_⟩
  have hkey := h.1.1 (⟨1⟩, ⟨"abcd"⟩)
  revert hkey
  decide

end RedHatPay.Monolith
