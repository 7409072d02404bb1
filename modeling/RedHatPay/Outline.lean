/-
**The proof rule for a payment.**

`TokenUsecaseImpl.pay` calls a repository at eight places, and each of them may throw.  A proof
about it states what holds between the calls and in the `catch` block, and shows that each call
leads from one of these assertions to the next, or into the `catch` block.  This module says once
what has to be shown, so that the proofs about payments over different repositories do not go
through the text of the use case again.

* `RedHatPay.PayOutline` — the assertions of a proof outline, with their verification conditions;
* `RedHatPay.PayOutline.safe` — **soundness**: an outline proves the use case;
* `RedHatPay.PayOutline.safe_frame` — **the frame rule**: what none of the calls changes.
-/

import RedHatPay.Usecase

set_option relaxedAutoImplicit false
set_option autoImplicit false

namespace RedHatPay

open Program

/-- The exception of every failed payment. -/
def failToPay : JavaException := .paymentException "Fail to pay"

/-- Is it one of the calls that a payment makes? -/
def RepoOp.ofPayment : RepoOp → Prop
  | loadShopper _ | loadStore _ | loadWallet _ | loadToken _ _ => True
  | storeWallet _ | storeToken _ | storePayment _ => True
  | createToken _ | loadPayment _ _ | loadPoint _ | storePoint _ => False

/-- A proof outline of `TokenUsecaseImpl.pay` against the specification `S`, with the
postcondition `Q`: what holds after each call, what holds when the `catch` block starts with the
local variable `token`, and that each step leads from one assertion to the next. -/
structure PayOutline {σ : Type} (S : Spec RepoOp RepoOp.Res JavaException σ) (input : TokenPayInput)
    (now : LocalDateTime) (Q : Except JavaException Payment → σ → Prop) where
  start : σ → Prop
  shopperLoaded : Shopper → σ → Prop
  storeLoaded : Shopper → CoffeeStore → σ → Prop
  walletLoaded : Wallet → Billing → σ → Prop
  tokenLoaded : Wallet → Billing → Option Token → σ → Prop
  processingStored : Wallet → Billing → Token → σ → Prop
  walletStored : Payment → Token → σ → Prop
  usedStored : Payment → Token → σ → Prop
  caught : Option Token → σ → Prop
  loadShopper : Triple S start (ShopperService.load input.shopperId) shopperLoaded (caught none)
  loadStore : ∀ shopper, Triple S (shopperLoaded shopper) (CoffeeStoreService.load input.storeId)
    (storeLoaded shopper) (caught none)
  loadWallet : ∀ shopper store, Triple S (storeLoaded shopper store) (WalletService.load shopper)
    (fun w => walletLoaded w (store.createBill input.amount)) (caught none)
  loadToken : ∀ w bill, Triple S (walletLoaded w bill)
    (TokenService.load input.shopperId input.tokenId) (tokenLoaded w bill) (caught none)
  /-- The token is `null`. -/
  absent : ∀ w bill s, tokenLoaded w bill none s → caught none s
  /-- The token may not be taken into processing. -/
  refused : ∀ w bill token s, token.status ≠ .unused → tokenLoaded w bill (some token) s →
    caught (some token) s
  storeProcessing : ∀ w bill token, token.status = .unused →
    Triple S (tokenLoaded w bill (some token)) (TokenService.store token.inProcessing)
      (fun _ => processingStored w bill token) (caught (some token.inProcessing))
  /-- The wallet refuses the bill. -/
  insufficient : ∀ w bill token s, ¬ w.Covers bill.amount → processingStored w bill token s →
    caught (some token.inProcessing) s
  storeWallet : ∀ w bill token p w', w.pay bill now = (.ok p, w') →
    Triple S (processingStored w bill token) (WalletService.store w')
      (fun _ => walletStored p token) (caught (some token.inProcessing))
  storeUsed : ∀ p token, Triple S (walletStored p token) (TokenService.store (token.usedFor p))
    (fun _ => usedStored p token) (caught (some (token.usedFor p)))
  storePayment : ∀ p token, Triple S (usedStored p token) (PaymentService.store (token.relate p))
    (fun _ => Q (.ok (token.relate p))) (caught (some (token.usedFor p)))
  catchNone : ∀ s, caught none s → Q (.error failToPay) s
  catchSome : ∀ token, Triple S (caught (some token)) (TokenService.store token)
    (fun _ => Q (.error failToPay)) (Q (.error failToPay))

namespace PayOutline

variable {σ : Type} {S : Spec RepoOp RepoOp.Res JavaException σ} {input : TokenPayInput}
  {now : LocalDateTime} {Q : Except JavaException Payment → σ → Prop}

theorem safe_payCatch (O : PayOutline S input now Q) {token : Option Token} {s : σ}
    (h : O.caught token s) : Safe S Q (TokenUsecaseImpl.payCatch token) s := by
  cases token with
  | none => exact O.catchNone s h
  | some token =>
      refine (safe_bind _ _ _ s).2 ((safe_attempt _ _ s).2 ?_)
      refine (O.catchSome token s h).mono fun r s' hr => ?_
      cases r with
      | ok a => exact hr
      | error e => exact hr

/-- A step of the body: it leads to the rest of the body, or into the `catch` block. -/
theorem step (O : PayOutline S input now Q) {α : Type} {p : Usecase α}
    {f : α → Block RepoOp RepoOp.Res JavaException (Option Token) Payment} {v : Option Token}
    {P : σ → Prop} {I : α → σ → Prop} {s : σ} (hp : Triple S P p I (O.caught v)) (hs : P s)
    (hf : ∀ a s', I a s' →
      SafeBlock S (CatchPost S Q fun _ => TokenUsecaseImpl.payCatch) (f a) v s') :
    SafeBlock S (CatchPost S Q fun _ => TokenUsecaseImpl.payCatch) (lift p >>= f) v s := by
  refine SafeBlock.step ((hp s hs).mono fun r s' hr => ?_)
  cases r with
  | ok a => exact hf a s' hr
  | error e => exact O.safe_payCatch hr

theorem safe_chargeBody (O : PayOutline S input now Q) {w : Wallet} {bill : Billing}
    {loaded : Option Token} {s : σ} (h : O.tokenLoaded w bill loaded s) :
    SafeBlock S (CatchPost S Q fun _ => TokenUsecaseImpl.payCatch)
      (TokenUsecaseImpl.chargeBody input now w bill loaded) loaded s := by
  refine SafeBlock.step ?_
  cases loaded with
  | none => exact O.safe_payCatch (O.absent w bill s h)
  | some token =>
      refine SafeBlock.step ?_
      by_cases hunused : token.status = .unused
      · rw [Token.processing_of_unused hunused]
        refine SafeBlock.assign (O.step (O.storeProcessing w bill token hunused) h ?_)
        intro _ s₁ h₁
        refine SafeBlock.step ?_
        rcases hpay : w.pay bill now with ⟨e | p, w'⟩
        · refine O.safe_payCatch (O.insufficient w bill token s₁ (fun hc => ?_) h₁)
          obtain ⟨p, w'', hok⟩ := Wallet.pay_ok_iff.2 hc
          rw [hpay] at hok
          cases hok
        · refine O.step (O.storeWallet w bill token p w' hpay) h₁ fun _ s₂ h₂ => ?_
          refine SafeBlock.step (SafeBlock.assign ?_)
          refine O.step (O.storeUsed p token) h₂ fun _ s₃ h₃ => SafeBlock.step ?_
          exact O.step (O.storePayment p token) h₃ fun _ s₄ h₄ => h₄
      · rw [Token.processing_of_ne hunused]
        exact O.safe_payCatch (O.refused w bill token s hunused h)

/-- **Soundness of the rule**: an outline proves the use case. -/
theorem safe (O : PayOutline S input now Q) {s : σ} (h : O.start s) :
    Safe S Q (TokenUsecaseImpl.pay input now) s := by
  refine safe_tryCatchVar ?_
  refine O.step O.loadShopper h fun shopper s₁ h₁ => ?_
  refine O.step (O.loadStore shopper) h₁ fun store s₂ h₂ => ?_
  refine O.step (O.loadWallet shopper store) h₂ fun w s₃ h₃ => ?_
  refine O.step (O.loadToken w _) h₃ fun loaded s₄ h₄ => ?_
  exact SafeBlock.assign (O.safe_chargeBody h₄)

/-- **The frame rule**: what none of the calls of a payment changes, the payment does not change,
whatever its outcome. -/
theorem safe_frame {I : σ → Prop} (hpre : ∀ o s, o.ofPayment → I s → S.pre s o)
    (hpost : ∀ o s a s', o.ofPayment → I s → S.post s o a s' → I s') {s : σ} (hs : I s) :
    Safe S (fun _ => I) (TokenUsecaseImpl.pay input now) s := by
  have keep : ∀ {o : RepoOp}, o.ofPayment → Triple S I o.invoke (fun _ => I) I := fun ho =>
    triple_perform (fun s => hpre _ s ho) (fun s _ s' => hpost _ s _ s' ho)
      fun s _ s' => hpost _ s _ s' ho
  let O : PayOutline S input now fun _ => I :=
    { start := I
      shopperLoaded := fun _ => I
      storeLoaded := fun _ _ => I
      walletLoaded := fun _ _ => I
      tokenLoaded := fun _ _ _ => I
      processingStored := fun _ _ _ => I
      walletStored := fun _ _ => I
      usedStored := fun _ _ => I
      caught := fun _ => I
      loadShopper := keep trivial
      loadStore := fun _ => keep trivial
      loadWallet := fun _ _ => keep trivial
      loadToken := fun _ _ => keep trivial
      absent := fun _ _ _ h => h
      refused := fun _ _ _ _ _ h => h
      storeProcessing := fun _ _ _ _ => keep trivial
      insufficient := fun _ _ _ _ _ h => h
      storeWallet := fun _ _ _ _ _ _ => keep trivial
      storeUsed := fun _ _ => keep trivial
      storePayment := fun _ _ => keep trivial
      catchNone := fun _ h => h
      catchSome := fun _ => keep trivial }
  exact O.safe hs

end PayOutline

end RedHatPay
