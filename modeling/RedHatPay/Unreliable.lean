/-
**Payments over unreliable repositories, without transactions.**

The use case runs with no transaction around it.  Every repository call may throw, before or after
it has taken effect, and a payment may be cut off between any two calls, also in its `catch` block;
the next payment then starts from whatever is there.  What is left of safety comes from the order of
the calls alone: the token has left the status "unused" before the wallet is debited, and nothing
that a payment stores brings it back.

* `RedHatPay.Unreliable.World`, `RedHatPay.Unreliable.Acts`, `RedHatPay.Unreliable.Step` — the
  repositories with a log of what has taken effect, a call, and a run of payments;
* `RedHatPay.Unreliable.Sound` — the invariant;
* `RedHatPay.Unreliable.at_most_one_debit` — **at most one debit for a token**, and no record
  without a debit, at every point of every run.
-/

import Mathlib.Data.List.Nodup
import Mathlib.Logic.Relation
import RedHatPay.Store

set_option relaxedAutoImplicit false
set_option autoImplicit false

namespace RedHatPay.Unreliable

open Program

variable {R : Type} {record : Payment → R}

/-! ### Repositories that may fail -/

/-- The stores, the keys for which a wallet has been debited, and the keys for which a payment has
been recorded. -/
structure World (R : Type) where
  store : Store R
  debits : List Key
  records : List Key

/-- What a call that is made in a payment for the given key does, if it takes effect. -/
def effect (record : Payment → R) (key : Key) (w : World R) : RepoOp → World R
  | .storeWallet wallet => ⟨w.store.setWallet wallet, key :: w.debits, w.records⟩
  | .createToken token | .storeToken token =>
      { w with store := w.store.setToken (token.shopperId, token.tokenId) token.status }
  | .storePayment p =>
      match p.tokenId with
      | some tokenId => ⟨w.store.setPayment (p.shopperId, tokenId) (record p), w.debits,
          (p.shopperId, tokenId) :: w.records⟩
      | none => w
  | _ => w

/-- What a call returns, if it returns; loading what is missing gives `null` for a token, and throws
otherwise. -/
def answer (S : Store R) : (o : RepoOp) → Option o.Res
  | .loadShopper id => (S.shoppers id).map (Shopper.mk id)
  | .loadStore id => S.stores id
  | .loadWallet owner => (S.wallets owner.id).map (Purse.wallet · owner)
  | .loadToken shopperId tokenId =>
      some ((S.tokens (shopperId, tokenId)).map (Token.mk shopperId tokenId · none))
  | .storeWallet _ | .createToken _ | .storeToken _ | .storePayment _ => some ()
  -- the calls that a payment does not make
  | .loadPayment _ _ | .loadPoint _ | .storePoint _ => none

/-- A call: it returns, and has taken effect; or it throws, before or after it has taken effect. -/
inductive Acts (record : Payment → R) (key : Key) (w : World R) (o : RepoOp) :
    Except JavaException o.Res → World R → Prop
  | returns (r : o.Res) (h : answer w.store o = some r) : Acts record key w o (.ok r)
      (effect record key w o)
  | before (e : JavaException) : Acts record key w o (.error e) w
  | after (e : JavaException) : Acts record key w o (.error e) (effect record key w o)

/-- A run: the world, and what is left of the payment that is being made for a key. -/
structure Run (R : Type) where
  world : World R
  pending : Option (Key × Usecase Payment)

/-- One step of a run.  A payment may start at any time; whatever was left of the one before it is
cut off. -/
inductive Step (record : Payment → R) : Run R → Run R → Prop
  | start (c : Run R) (input : TokenPayInput) (now : LocalDateTime) :
      Step record c ⟨c.world, some (input.key, TokenUsecaseImpl.pay input now)⟩
  | call (w w' : World R) (key : Key) (o : RepoOp)
      (k : Except JavaException o.Res → Usecase Payment) (a : Except JavaException o.Res)
      (h : Acts record key w o a w') :
      Step record ⟨w, some (key, .call o k)⟩ ⟨w', some (key, k a)⟩

/-- The runs that start from the given stores. -/
def Reachable (record : Payment → R) (S₀ : Store R) (c : Run R) : Prop :=
  Relation.ReflTransGen (Step record) ⟨⟨S₀, [], []⟩, none⟩ c

/-! ### The invariant -/

/-- **The invariant**: no token has been debited twice, none that has been debited is unused, and
every record belongs to a debit. -/
structure Sound (w : World R) : Prop where
  nodup : w.debits.Nodup
  spent : ∀ key ∈ w.debits, w.store.tokens key ≠ some .unused
  recorded : ∀ key ∈ w.records, key ∈ w.debits

/-- What the rules for programs know of a call in a payment for the given key. -/
def spec (record : Payment → R) (key : Key) : Spec RepoOp RepoOp.Res JavaException (World R) where
  pre w _ := Sound w
  post w o a w' := Acts record key w o a w'

theorem Sound.setToken {w : World R} (h : Sound w) (key : Key) {status : TokenStatus}
    (hs : status ≠ .unused) : Sound { w with store := w.store.setToken key status } where
  nodup := h.nodup
  recorded := h.recorded
  spent key' hkey' := by
    rw [Store.setToken_tokens]
    by_cases heq : key' = key
    · rw [heq, Function.update_self]
      exact fun hsome => hs (Option.some.inj hsome)
    · rw [Function.update_of_ne heq]
      exact h.spent key' hkey'

theorem Sound.setWallet {w : World R} (h : Sound w) (wallet : Wallet) {key : Key}
    (hfresh : key ∉ w.debits) (hkey : w.store.tokens key ≠ some .unused) :
    Sound ⟨w.store.setWallet wallet, key :: w.debits, w.records⟩ where
  nodup := List.nodup_cons.2 ⟨hfresh, h.nodup⟩
  spent key' hkey' := by
    rcases List.mem_cons.1 hkey' with rfl | hkey'
    · exact hkey
    · exact h.spent key' hkey'
  recorded key' hkey' := List.mem_cons_of_mem _ (h.recorded key' hkey')

theorem Sound.setPayment {w : World R} (h : Sound w) (r : R) {key : Key} (hkey : key ∈ w.debits) :
    Sound ⟨w.store.setPayment key r, w.debits, key :: w.records⟩ where
  nodup := h.nodup
  spent := h.spent
  recorded key' hkey' := by
    rcases List.mem_cons.1 hkey' with rfl | hkey'
    · exact hkey
    · exact h.recorded key' hkey'

theorem inProcessing_ne (token : Token) : token.inProcessing.status ≠ .unused := by
  change TokenStatus.processing ≠ .unused
  decide

theorem usedFor_ne (token : Token) (p : Payment) : (token.usedFor p).status ≠ .unused := by
  change TokenStatus.used ≠ .unused
  decide

/-! ### The outline of a payment -/

/-- A call that changes nothing. -/
theorem triple_load {key : Key} {P : World R → Prop} {E : World R → Prop} {o : RepoOp}
    {I : o.Res → World R → Prop} (hsound : ∀ w, P w → Sound w)
    (hload : ∀ w, effect record key w o = w)
    (hI : ∀ w r, P w → answer w.store o = some r → I r w) (hE : ∀ w, Sound w → E w) :
    Triple (spec record key) P o.invoke I E := by
  refine triple_perform hsound (fun w r w' hw h => ?_) fun w e w' hw h => ?_
  · cases h with
    | returns r hr =>
        rw [hload]
        exact hI w r hw hr
  · cases h with
    | before e => exact hE w (hsound w hw)
    | after e =>
        rw [hload]
        exact hE w (hsound w hw)

/-- A call that stores something: whether it returns or throws, only the two worlds before and
after its effect have to be considered. -/
theorem triple_store {key : Key} {P : World R → Prop} {E : World R → Prop} {o : RepoOp}
    {I : o.Res → World R → Prop} (hsound : ∀ w, P w → Sound w)
    (hI : ∀ w r, P w → I r (effect record key w o)) (hbefore : ∀ w, P w → E w)
    (hafter : ∀ w, P w → E (effect record key w o)) :
    Triple (spec record key) P o.invoke I E := by
  refine triple_perform hsound (fun w r w' hw h => ?_) fun w e w' hw h => ?_
  · cases h with
    | returns r hr => exact hI w r hw
  · cases h with
    | before e => exact hbefore w hw
    | after e => exact hafter w hw

/-- The outline of a payment over unreliable repositories. -/
def soundOutline (record : Payment → R) (input : TokenPayInput) (now : LocalDateTime) :
    PayOutline (spec record input.key) input now fun _ => Sound where
  start := Sound
  shopperLoaded shopper w := Sound w ∧ shopper.id = input.shopperId
  storeLoaded shopper _ w := Sound w ∧ shopper.id = input.shopperId
  walletLoaded wallet _ w := Sound w ∧ wallet.owner.id = input.shopperId
  tokenLoaded wallet _ token w := Sound w ∧ wallet.owner.id = input.shopperId ∧
    ∀ t, token = some t → (t.shopperId, t.tokenId) = input.key ∧
      w.store.tokens input.key = some t.status
  -- from here on the token is not unused, also if the call that says so has thrown
  processingStored wallet _ token w := Sound w ∧ wallet.owner.id = input.shopperId ∧
    (token.shopperId, token.tokenId) = input.key ∧ input.key ∉ w.debits ∧
    w.store.tokens input.key ≠ some .unused
  walletStored p token w := Sound w ∧ p.shopperId = input.shopperId ∧
    (token.shopperId, token.tokenId) = input.key ∧ input.key ∈ w.debits
  usedStored p token w := Sound w ∧ p.shopperId = input.shopperId ∧
    (token.shopperId, token.tokenId) = input.key ∧ input.key ∈ w.debits
  -- the `catch` block must not store an unused token after a debit
  caught token w := Sound w ∧ ∀ t, token = some t → t.status ≠ .unused
  loadShopper := by
    refine triple_load (fun w hw => hw) (fun _ => rfl) ?_ fun w hw => ⟨hw, nofun⟩
    intro w shopper hw hanswer
    obtain ⟨name, -, rfl⟩ := Option.map_eq_some_iff.1 hanswer
    exact ⟨hw, rfl⟩
  loadStore shopper := by
    refine triple_load (fun w hw => hw.1) (fun _ => rfl) ?_ fun w hw => ⟨hw, nofun⟩
    exact fun w store hw _ => hw
  loadWallet shopper store := by
    refine triple_load (fun w hw => hw.1) (fun _ => rfl) ?_ fun w hw => ⟨hw, nofun⟩
    intro w wallet hw hanswer
    obtain ⟨purse, -, rfl⟩ := Option.map_eq_some_iff.1 hanswer
    exact hw
  loadToken wallet bill := by
    refine triple_load (fun w hw => hw.1) (fun _ => rfl) ?_ fun w hw => ⟨hw, nofun⟩
    intro w token hw hanswer
    refine ⟨hw.1, hw.2, ?_⟩
    rintro t rfl
    obtain ⟨status, hstatus, rfl⟩ := Option.map_eq_some_iff.1 (Option.some.inj hanswer)
    exact ⟨rfl, hstatus⟩
  absent wallet bill w h := ⟨h.1, nofun⟩
  refused wallet bill token w hstatus h := by
    refine ⟨h.1, ?_⟩
    rintro t ⟨⟩
    exact hstatus
  storeProcessing wallet bill token hunused := by
    have hnot := inProcessing_ne token
    refine triple_store (fun w hw => hw.1) (fun w _ hw => ?_) (fun w hw => ⟨hw.1, ?_⟩)
      fun w hw => ⟨hw.1.setToken _ hnot, ?_⟩
    · obtain ⟨hsound, howner, htoken⟩ := hw
      obtain ⟨hkey, hstatus⟩ := htoken token rfl
      refine ⟨hsound.setToken _ hnot, howner, hkey, fun hmem => ?_, ?_⟩
      · -- an unused token has not been debited
        exact hsound.spent _ hmem (by rw [hstatus, hunused])
      · change Function.update _ (token.shopperId, token.tokenId) _ input.key ≠ _
        rw [hkey, Function.update_self]
        exact fun h => hnot (Option.some.inj h)
    · rintro t ⟨⟩
      exact hnot
    · rintro t ⟨⟩
      exact hnot
  insufficient wallet bill token w _ h := by
    refine ⟨h.1, ?_⟩
    rintro t ⟨⟩
    exact inProcessing_ne token
  storeWallet wallet bill token p wallet' hpay := by
    have hnot := inProcessing_ne token
    obtain ⟨-, hp, -⟩ := Wallet.pay_eq_ok hpay
    refine triple_store (fun w hw => hw.1) (fun w _ hw => ?_) (fun w hw => ⟨hw.1, ?_⟩)
      fun w hw => ?_
    · obtain ⟨hsound, howner, hkey, hfresh, hstatus⟩ := hw
      exact ⟨hsound.setWallet wallet' hfresh hstatus, by rw [hp]; exact howner, hkey,
        List.mem_cons_self⟩
    · rintro t ⟨⟩
      exact hnot
    · obtain ⟨hsound, -, -, hfresh, hstatus⟩ := hw
      refine ⟨hsound.setWallet wallet' hfresh hstatus, ?_⟩
      rintro t ⟨⟩
      exact hnot
  storeUsed p token := by
    have hnot := usedFor_ne token p
    refine triple_store (fun w hw => hw.1) (fun w _ hw => ⟨hw.1.setToken _ hnot, hw.2⟩)
      (fun w hw => ⟨hw.1, ?_⟩) fun w hw => ⟨hw.1.setToken _ hnot, ?_⟩
    · rintro t ⟨⟩
      exact hnot
    · rintro t ⟨⟩
      exact hnot
  storePayment p token := by
    have hnot := usedFor_ne token p
    have heffect : ∀ w : World R, (p.shopperId = input.shopperId ∧
        (token.shopperId, token.tokenId) = input.key ∧ input.key ∈ w.debits) → Sound w →
        Sound (effect record input.key w (.storePayment (token.relate p))) := by
      rintro w ⟨hp, hkey, hmem⟩ hsound
      refine hsound.setPayment _ ?_
      have htoken : token.tokenId = input.key.2 := congrArg Prod.snd hkey
      have hkey' : (p.shopperId, token.tokenId) = input.key := Prod.ext hp htoken
      exact hkey' ▸ hmem
    refine triple_store (fun w hw => hw.1) (fun w _ hw => heffect w hw.2 hw.1)
      (fun w hw => ⟨hw.1, ?_⟩) fun w hw => ⟨heffect w hw.2 hw.1, ?_⟩
    · rintro t ⟨⟩
      exact hnot
    · rintro t ⟨⟩
      exact hnot
  catchNone w h := h.1
  catchSome token :=
    triple_store (fun w hw => hw.1) (fun w _ hw => hw.1.setToken _ (hw.2 token rfl))
      (fun w hw => hw.1) fun w hw => hw.1.setToken _ (hw.2 token rfl)

/-! ### Runs -/

/-- What is left of the payment is safe, and the invariant holds at this point. -/
def Running (record : Payment → R) (c : Run R) : Prop :=
  Sound c.world ∧ ∀ key p, c.pending = some (key, p) →
    Safe (spec record key) (fun _ => Sound) p c.world

theorem running_step {c c' : Run R} (h : Running record c) (hs : Step record c c') :
    Running record c' := by
  cases hs with
  | start c input now =>
      refine ⟨h.1, ?_⟩
      rintro key p ⟨⟩
      exact (soundOutline record input now).safe h.1
  | call w w' key o k a hact =>
      -- the invariant is the precondition of every call, so that it holds wherever it is cut off
      have hnext := (h.2 key (.call o k) rfl).2 a w' hact
      refine ⟨hnext.holds (fun _ hpre => hpre) fun _ hQ => hQ, ?_⟩
      rintro key' p ⟨⟩
      exact hnext

theorem running_of_reachable {S₀ : Store R} {c : Run R} (h : Reachable record S₀ c) :
    Running record c := by
  induction h with
  | refl => exact ⟨⟨List.nodup_nil, nofun, nofun⟩, nofun⟩
  | tail _ hs ih => exact running_step ih hs

/-- **At most one debit for a token**: at every point of every run, whichever calls fail, before or
after they take effect, and wherever payments are cut off; and there is no record without a
debit. -/
theorem at_most_one_debit {S₀ : Store R} {c : Run R} (h : Reachable record S₀ c) (key : Key) :
    c.world.debits.count key ≤ 1 ∧ (key ∈ c.world.records → key ∈ c.world.debits) := by
  have hsound := (running_of_reachable h).1
  exact ⟨List.nodup_iff_count_le_one.1 hsound.nodup key, hsound.recorded key⟩

/-! ### A schedule -/

/-- What happens next: a payment starts, or the next call returns, or throws before or after it has
taken effect. -/
inductive Event
  | start (input : TokenPayInput) (now : LocalDateTime)
  | returns
  | before
  | after

/-- The run after an event. -/
def advance (record : Payment → R) (c : Run R) (event : Event) : Run R :=
  match event, c.pending with
  | .start input now, _ => ⟨c.world, some (input.key, TokenUsecaseImpl.pay input now)⟩
  | .returns, some (key, .call o k) =>
      match answer c.world.store o with
      | some r => ⟨effect record key c.world o, some (key, k (.ok r))⟩
      | none => c
  | .before, some (key, .call _ k) => ⟨c.world, some (key, k (.error .nullPointer))⟩
  | .after, some (key, .call o k) =>
      ⟨effect record key c.world o, some (key, k (.error .nullPointer))⟩
  | _, _ => c

/-- A schedule is a run. -/
theorem reachable_advance {S₀ : Store R} {c : Run R} (h : Reachable record S₀ c)
    (events : List Event) : Reachable record S₀ (events.foldl (advance record) c) := by
  induction events generalizing c with
  | nil => exact h
  | cons event events ih =>
      refine ih ?_
      obtain ⟨w, pending⟩ := c
      cases event with
      | start input now => exact h.tail (.start _ input now)
      | returns =>
          match pending with
          | none | some (_, .ret _) => exact h
          | some (key, .call o k) =>
              unfold advance
              dsimp only
              split
              · rename_i r hr
                exact h.tail (.call w _ key o k _ (.returns r hr))
              · exact h
      | before =>
          match pending with
          | none | some (_, .ret _) => exact h
          | some (key, .call o k) => exact h.tail (.call w _ key o k _ (.before _))
      | after =>
          match pending with
          | none | some (_, .ret _) => exact h
          | some (key, .call o k) => exact h.tail (.call w _ key o k _ (.after _))

/-- Stores with one shopper and one unused token. -/
def oneShopper : Store Payment where
  shoppers id := if id = ⟨1⟩ then some ⟨"user1"⟩ else none
  stores id := some ⟨id, ⟨"store"⟩⟩
  wallets id := if id = ⟨1⟩ then some ⟨⟨100, by decide⟩, ⟨0, by decide⟩⟩ else none
  tokens key := if key = (⟨1⟩, ⟨"abcd"⟩) then some .unused else none
  payments _ := none

/-- The payment that presents the token. -/
def presented : TokenPayInput := ⟨⟨1⟩, ⟨30, by decide⟩, ⟨"abcd"⟩, ⟨1⟩⟩

/-- The debit takes effect and throws, the `catch` block is cut off, and the token is presented
again. -/
def interrupted : List Event :=
  [.start presented ⟨0, 0⟩, .returns, .returns, .returns, .returns, .returns, .after,
    .start presented ⟨1, 0⟩, .returns, .returns, .returns, .returns, .returns]

/-- The wallet has been debited once. -/
theorem at_most_one_debit_interrupted :
    (interrupted.foldl (advance id) ⟨⟨oneShopper, [], []⟩, none⟩).world.debits =
        [(⟨1⟩, ⟨"abcd"⟩)] ∧
      (interrupted.foldl (advance id) ⟨⟨oneShopper, [], []⟩, none⟩).world.debits.count
        (⟨1⟩, ⟨"abcd"⟩) ≤ 1 :=
  ⟨by decide, (at_most_one_debit (reachable_advance .refl _) _).1⟩

end RedHatPay.Unreliable
