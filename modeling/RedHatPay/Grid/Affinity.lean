/-
**The data grid: what a call touches.**

Keys of the same shopper are in the same group, and are kept on the same server.  Whatever the
caches answer and wherever they throw, a payment touches one entry of each cache, the one of the
key that it is for; so it runs where its data are, and the calls for one shopper change nothing of
another one, not even a version.

* `RedHatPay.Grid.ShopperKey.affinity`, `RedHatPay.Grid.TokenKey.affinity` — the groups;
* `RedHatPay.Grid.Touches` — the methods that touch nothing but the entries of a key;
* `RedHatPay.Grid.calls_accept`, `RedHatPay.Grid.calls_call` — **a payment touches nothing else**;
* `RedHatPay.Grid.Tx.Within` — a transaction that has read and written nothing else;
* `RedHatPay.Grid.within_of_reachable` — the transactions of concurrent calls.
-/

import Mathlib
import RedHatPay.Grid.PaymentTask
import RedHatPay.Grid.StrictSerializability

set_option relaxedAutoImplicit false
set_option autoImplicit false

namespace RedHatPay.Grid

open Program Transaction

/-! ### Groups of keys -/

/-- `ShopperKey.affinity`. -/
def ShopperKey.affinity (key : ShopperKey) : String := toString key.ownerId

/-- `TokenKey.affinity`. -/
def TokenKey.affinity (key : TokenKey) : String := toString key.ownerId

/-- The group of the entry that a method reads or writes. -/
def CacheOp.affinity : CacheOp → Option String
  | .begin | .commit | .rollback => none
  | .getUser key | .getWallet key | .putWallet key _ => some key.affinity
  | .getToken key | .putToken key _ | .getPayment key | .putPayment key _ => some key.affinity

/-- Different owners have different groups. -/
theorem toString_inj {a b : Int32} (h : toString a = toString b) : a = b :=
  Int32.toInt_inj.1 (Int.repr_injective h)

/-! ### The entries of a payment -/

/-- The method touches nothing but the entries of the key and of its shopper. -/
def Touches (key : Key) : CacheOp → Prop
  | .begin | .commit | .rollback => True
  | .getUser k | .getWallet k | .putWallet k _ => k = ⟨key.1.value⟩
  | .getToken k | .putToken k _ | .getPayment k | .putPayment k _ => k = entryKey key

/-- All these entries are in the group of the shopper. -/
theorem Touches.affinity {key : Key} {o : CacheOp} {group : String} (h : Touches key o)
    (hgroup : o.affinity = some group) : group = (ShopperKey.mk key.1.value).affinity := by
  cases o with
  | begin | commit | rollback => cases hgroup
  | getUser k | getWallet k | putWallet k _ =>
      obtain rfl : k = ⟨key.1.value⟩ := h
      exact (Option.some.inj hgroup).symm
  | getToken k | putToken k _ | getPayment k | putPayment k _ =>
      obtain rfl : k = entryKey key := h
      exact (Option.some.inj hgroup).symm

/-- The calls of repositories that are about the key. -/
def About (key : Key) : RepoOp → Prop
  | .loadShopper id => id = key.1
  | .loadWallet owner => owner.id = key.1
  | .storeWallet wallet => wallet.owner.id = key.1
  | .loadToken shopperId tokenId | .loadPayment shopperId tokenId => (shopperId, tokenId) = key
  | .storeToken token => (token.shopperId, token.tokenId) = key
  | .storePayment payment => payment.shopperId = key.1 ∧ payment.tokenId = some key.2
  | .loadStore _ | .createToken _ | .loadPoint _ | .storePoint _ => True

/-- What is loaded is what was asked for. -/
def Loaded : (o : RepoOp) → Except JavaException o.Res → Prop
  | .loadShopper id, a => ∀ shopper, a = .ok shopper → shopper.id = id
  | .loadWallet owner, a => ∀ wallet, a = .ok wallet → wallet.owner = owner
  | .loadToken shopperId tokenId, a => ∀ token, a = .ok (some token) →
      (token.shopperId, token.tokenId) = (shopperId, tokenId)
  | _, _ => True

/-- Nothing is known of the caches but that they may be asked for the entries of the key. -/
def touchSpec (key : Key) : Spec CacheOp CacheOp.Res JavaException Unit where
  pre _ o := Touches key o
  post _ _ _ _ := True

/-- The same in terms of repositories. -/
def aboutSpec (key : Key) : Spec RepoOp RepoOp.Res JavaException Unit where
  pre _ o := About key o
  post _ o a _ := Loaded o a

/-- A shopper that is loaded has the id that was asked for. -/
theorem shopper_of_entity {id : ShopperId} {entity : Option ShopperEntity} {shopper : Shopper}
    (h : (do
      let entity ← nonNull entity
      return ⟨id, ⟨entity.name⟩⟩ : Except JavaException Shopper) = .ok shopper) :
    shopper.id = id := by
  obtain ⟨e, -, h⟩ := bind_eq_ok.1 h
  cases h
  rfl

/-- A token that is loaded has the key that was asked for. -/
theorem token_of_entity {shopperId : ShopperId} {tokenId : TokenId} {entity : Option TokenEntity}
    {token : Token}
    (h : CacheTokenRepository.toToken shopperId tokenId entity = .ok (some token)) :
    (token.shopperId, token.tokenId) = (shopperId, tokenId) := by
  obtain ⟨e, -, h⟩ := bind_eq_ok.1 h
  cases h
  rfl

/-- The repositories touch what the calls are about. -/
theorem safe_touch {key : Key} {store : CoffeeStore} (o : RepoOp) (s : Unit)
    (h : (aboutSpec key).pre s o) :
    Safe (touchSpec key) ((aboutSpec key).post s o) (repositories store o) s := by
  cases o with
  | loadShopper id =>
      obtain rfl : id = key.1 := h
      refine ⟨rfl, fun a _ _ shopper hshopper => ?_⟩
      obtain ⟨entity, -, hshopper⟩ := bind_eq_ok.1 hshopper
      exact shopper_of_entity hshopper
  | loadStore id => trivial
  | loadWallet owner =>
      refine ⟨congrArg (fun id : ShopperId => ShopperKey.mk id.value) h, fun a _ _ w hw => ?_⟩
      obtain ⟨entity, -, hw⟩ := bind_eq_ok.1 hw
      obtain ⟨purse, -, rfl⟩ := wallet_of_entity hw
      rfl
  | loadToken shopperId tokenId =>
      obtain rfl : (shopperId, tokenId) = key := h
      refine (safe_orThrow _ _ _ s).2 ⟨rfl, fun a _ _ token htoken => ?_⟩
      obtain ⟨entity, -, htoken⟩ := bind_eq_ok.1 (mapError_eq_ok htoken)
      exact token_of_entity htoken
  | storeWallet w =>
      exact ⟨congrArg (fun id : ShopperId => ShopperKey.mk id.value) h, fun _ _ _ => trivial⟩
  | storeToken token =>
      refine (safe_orThrow _ _ _ s).2 ⟨?_, fun _ _ _ => trivial⟩
      exact congrArg entryKey h
  | storePayment p =>
      obtain ⟨hshopper, htoken⟩ := h
      change Safe _ _ (CachePaymentRepository.store p) s
      rw [CachePaymentRepository.store, htoken, hshopper]
      exact ⟨rfl, fun _ _ _ => trivial⟩
  | loadPayment shopperId tokenId =>
      obtain rfl : (shopperId, tokenId) = key := h
      exact ⟨rfl, fun _ _ _ => trivial⟩
  | createToken token | loadPoint id | storePoint point => trivial

/-- The outline of a payment: all that it loads and stores is about the key of its input. -/
def aboutOutline (input : TokenPayInput) (now : LocalDateTime) :
    PayOutline (aboutSpec input.key) input now fun _ _ => True where
  start _ := True
  shopperLoaded shopper _ := shopper.id = input.shopperId
  storeLoaded shopper _ _ := shopper.id = input.shopperId
  walletLoaded w _ _ := w.owner.id = input.shopperId
  tokenLoaded w _ token _ := w.owner.id = input.shopperId ∧
    ∀ t, token = some t → (t.shopperId, t.tokenId) = input.key
  processingStored w _ token _ := w.owner.id = input.shopperId ∧
    (token.shopperId, token.tokenId) = input.key
  walletStored p token _ := p.shopperId = input.shopperId ∧
    (token.shopperId, token.tokenId) = input.key
  usedStored p token _ := p.shopperId = input.shopperId ∧
    (token.shopperId, token.tokenId) = input.key
  caught token _ := ∀ t, token = some t → (t.shopperId, t.tokenId) = input.key
  loadShopper := triple_perform (fun _ _ => rfl) (fun _ _ _ _ h => h _ rfl) fun _ _ _ _ _ => nofun
  loadStore shopper := triple_perform (fun _ _ => trivial) (fun _ _ _ h _ => h)
    fun _ _ _ _ _ => nofun
  loadWallet shopper store := by
    refine triple_perform (fun _ h => h) (fun s w s' h hpost => ?_) fun _ _ _ _ _ => nofun
    rw [hpost w rfl]
    exact h
  loadToken w bill := by
    refine triple_perform (fun _ _ => rfl) (fun s token s' h hpost => ⟨h, ?_⟩)
      fun _ _ _ _ _ => nofun
    rintro t rfl
    exact hpost t rfl
  absent _ _ _ _ := nofun
  refused _ _ token _ _ h := h.2
  storeProcessing w bill token _ := by
    refine triple_perform (fun s h => h.2 token rfl) (fun s _ s' h _ => ⟨h.1, h.2 token rfl⟩) ?_
    rintro s e s' h - t ⟨⟩
    exact h.2 token rfl
  insufficient _ _ token _ _ h := by
    rintro t ⟨⟩
    exact h.2
  storeWallet w bill token p w' hpay := by
    obtain ⟨-, hp, hw', -⟩ := Wallet.pay_eq_ok hpay
    have howner : w'.owner = w.owner := by rw [hw']
    refine triple_perform (fun s h => ?_) (fun s _ s' h _ => ⟨?_, h.2⟩) ?_
    · change w'.owner.id = input.shopperId
      rw [howner, h.1]
    · rw [hp]
      exact h.1
    · rintro s e s' h - t ⟨⟩
      exact h.2
  storeUsed p token := by
    refine triple_perform (fun s h => h.2) (fun s _ s' h _ => h) ?_
    rintro s e s' h - t ⟨⟩
    exact h.2
  storePayment p token := by
    refine triple_perform (fun s h => ⟨h.1, ?_⟩) (fun s _ s' _ _ => trivial) ?_
    · exact congrArg (fun key : Key => some key.2) h.2
    · rintro s e s' h - t ⟨⟩
      exact h.2
  catchNone _ _ := trivial
  catchSome token := triple_perform (fun _ h => h token rfl) (fun _ _ _ _ _ => trivial)
    fun _ _ _ _ _ => trivial

/-- **A call touches nothing but the entries of its key**, whatever the caches answer and wherever
they throw. -/
theorem calls_accept (f : PaymentFunction) (clock : Nat → LocalDateTime) :
    Calls (Touches f.request.key) (f.accept clock) := by
  have hpay : ∀ amount now, Calls (Touches f.request.key) (implement (repositories f.store)
      (TokenUsecaseImpl.pay (f.request.input amount) now)) := fun amount now =>
    (((aboutOutline (f.request.input amount) now).safe trivial).implement safe_touch).calls
      (fun _ _ h => h) fun _ _ _ _ => trivial
  have htry : ∀ amount now, Calls (Touches f.request.key) (f.tryPay amount now) := fun amount now =>
    (Calls.perform trivial).bind fun _ => (hpay amount now).bind fun _ => Calls.perform trivial
  have hloop : ∀ amount n tryCount,
      Calls (Touches f.request.key) (f.tryLoop amount clock tryCount n) := by
    intro amount n
    induction n with
    | zero => exact fun _ => trivial
    | succ n ih =>
        intro tryCount
        refine (htry amount (clock tryCount)).attempt.bind fun r => ?_
        cases r with
        | ok _ => trivial
        | error e => exact (Calls.perform trivial).attempt.bind fun _ => ih (tryCount + 1)
  refine Calls.bind trivial fun amount => (hloop amount _ _).bind fun success => ?_
  cases success <;> trivial

/-- So does the task around it. -/
theorem calls_call (parameter : PaymentDistParam) (clock : Nat → LocalDateTime) :
    Calls (Touches parameter.key) (PaymentTask.call parameter clock) := by
  have hforEach : Calls (Touches parameter.key)
      (PaymentTask.forEachKey ⟨parameter.shopperId⟩ (parameter.paymentFunction.accept clock)) := by
    have hwallet : Touches parameter.key (.getWallet ⟨parameter.shopperId⟩) := rfl
    refine (Calls.perform hwallet).bind fun entry => ?_
    cases entry with
    | none => trivial
    | some _ => exact calls_accept parameter.paymentFunction clock
  have hpayment : Touches parameter.key (.getPayment (entryKey parameter.key)) := rfl
  have hload : Calls (Touches parameter.key)
      (CachePaymentRepository.load ⟨parameter.shopperId⟩ ⟨parameter.tokenId⟩) :=
    Calls.query hpayment _
  exact hforEach.bind fun _ => hload.bind fun payment => Calls.bind trivial fun _ => trivial

/-- **A payment runs where its data are**: the entries that the task touches, and the payment
function that it sends to the wallet of the shopper, are in the group of this wallet, and in that
of no other wallet. -/
theorem calls_in_group (parameter : PaymentDistParam) (clock : Nat → LocalDateTime) :
    Calls (fun o => ∀ group, o.affinity = some group →
      ∀ key : ShopperKey, key.affinity = group ↔ key = ⟨parameter.shopperId⟩)
      (PaymentTask.call parameter clock) := by
  refine (calls_call parameter clock).mono fun o ho group hgroup key => ?_
  obtain rfl := ho.affinity hgroup
  constructor
  · intro h
    exact congrArg ShopperKey.mk (toString_inj h)
  · rintro rfl
    rfl

/-! ### The transactions of concurrent calls -/

/-- The transaction has read and written nothing but the entries of the key and of its shopper. -/
structure Tx.Within (tx : Tx) (key : Key) : Prop where
  wallets : tx.wallets.Within (· = ⟨key.1.value⟩)
  tokens : tx.tokens.Within (· = entryKey key)
  payments : tx.payments.Within (· = entryKey key)

/-- No transaction outlives its commit. -/
theorem exec_commit_tx (s : GridState) : (exec .commit s).2.tx = none := by
  obtain ⟨c, tx⟩ := s
  cases tx with
  | none => rfl
  | some t =>
      rw [exec]
      dsimp only
      split <;> rfl

/-- A transaction stays within its entries through its own methods. -/
theorem within_exec {c : Caches} {tx : Option Tx} {key : Key} {o : CacheOp} (ho : Touches key o)
    (h : ∀ t, tx = some t → t.Within key) : ∀ t, (exec o ⟨c, tx⟩).2.tx = some t → t.Within key := by
  intro t ht
  cases tx with
  | none =>
      cases o with
      | begin =>
          cases ht
          exact ⟨.empty, .empty, .empty⟩
      | _ => cases ht
  | some tx =>
      obtain ⟨hw, htok, hp⟩ := h tx rfl
      cases o with
      | begin =>
          cases ht
          exact ⟨hw, htok, hp⟩
      | commit =>
          rw [exec_commit_tx] at ht
          cases ht
      | rollback => cases ht
      | getUser k =>
          cases ht
          exact ⟨hw, htok, hp⟩
      | getWallet k =>
          cases ht
          exact ⟨hw.read ho, htok, hp⟩
      | putWallet k v =>
          cases ht
          exact ⟨hw.write ho v, htok, hp⟩
      | getToken k =>
          cases ht
          exact ⟨hw, htok.read ho, hp⟩
      | putToken k v =>
          cases ht
          exact ⟨hw, htok.write ho v, hp⟩
      | getPayment k =>
          cases ht
          exact ⟨hw, htok, hp.read ho⟩
      | putPayment k v =>
          cases ht
          exact ⟨hw, htok, hp.write ho v⟩

theorem within_of_acts {ι : Type} {i : ι} {c c' : Caches} {l l' : Caller} {key : Key} {o : CacheOp}
    {a : Except JavaException o.Res} (ho : Touches key o)
    (hl : ∀ t, l.tx = some t → t.Within key) (h : Acts i c l o a c' l') :
    ∀ t, l'.tx = some t → t.Within key := by
  cases h with
  | act => exact within_exec ho hl
  | fault e tx htx =>
      rcases htx with rfl | rfl
      · exact hl
      · exact within_exec ho hl

variable {ι : Type} [DecidableEq ι] {caches₀ : Caches} {f : ι → PaymentFunction}
  {clock : ι → Nat → LocalDateTime}
  {c : Interleave.Config ι CacheOp CacheOp.Res JavaException Unit Caller Caches}

/-- **The transactions of concurrent calls stay within the entries of their calls.** -/
theorem within_of_reachable (h : Interleave.Reachable Acts (initial caches₀ f clock) c) :
    ∀ i tx, (c.loc i).tx = some tx → tx.Within (f i).request.key := by
  induction h with
  | refl => exact fun i tx htx => by cases htx
  | @tail c₁ _ hreach hs ih =>
      have hcalls := Interleave.calls_of_reachable
        (P := fun i => Touches (f i).request.key) (fun i => calls_accept (f i) (clock i)) hreach
      cases hs with
      | of i o k a g l hp hact =>
          have hi := hcalls i
          rw [hp] at hi
          exact c₁.forall_next (P := fun j _ l => ∀ tx, l.tx = some tx →
            tx.Within (f j).request.key) (within_of_acts hi.1 (ih i) hact) fun j _ => ih j

/-! ### The frame of concurrent calls -/

/-- The entries of the keys that have not been paid are as they were, with their versions. -/
structure Untouched (caches₀ c : Caches) (paid : Key → Prop) : Prop where
  users : c.users = caches₀.users
  wallets : ∀ k, (∀ key, paid key → k ≠ ⟨key.1.value⟩) →
    c.wallets.data k = caches₀.wallets.data k ∧ c.wallets.version k = caches₀.wallets.version k
  tokens : ∀ k, (∀ key, paid key → k ≠ entryKey key) →
    c.tokens.data k = caches₀.tokens.data k ∧ c.tokens.version k = caches₀.tokens.version k
  payments : ∀ k, (∀ key, paid key → k ≠ entryKey key) →
    c.payments.data k = caches₀.payments.data k ∧
      c.payments.version k = caches₀.payments.version k

/-- A commit for one of the keys. -/
theorem Untouched.apply {caches₀ c : Caches} {paid : Key → Prop} (h : Untouched caches₀ c paid)
    {tx : Tx} {key : Key} (htx : tx.Within key) (hkey : paid key) :
    Untouched caches₀ (c.apply tx) paid := by
  refine ⟨h.users, fun k hk => ?_, fun k hk => ?_, fun k hk => ?_⟩
  · obtain ⟨hdata, hversion⟩ := h.wallets k hk
    obtain ⟨hdata', hversion'⟩ := htx.wallets.apply (c := c.wallets) (hk key hkey)
    exact ⟨hdata'.trans hdata, hversion'.trans hversion⟩
  · obtain ⟨hdata, hversion⟩ := h.tokens k hk
    obtain ⟨hdata', hversion'⟩ := htx.tokens.apply (c := c.tokens) (hk key hkey)
    exact ⟨hdata'.trans hdata, hversion'.trans hversion⟩
  · obtain ⟨hdata, hversion⟩ := h.payments k hk
    obtain ⟨hdata', hversion'⟩ := htx.payments.apply (c := c.payments) (hk key hkey)
    exact ⟨hdata'.trans hdata, hversion'.trans hversion⟩

theorem Untouched.mono {caches₀ c : Caches} {paid paid' : Key → Prop}
    (h : Untouched caches₀ c paid) (hpaid : ∀ key, paid key → paid' key) :
    Untouched caches₀ c paid' where
  users := h.users
  wallets k hk := h.wallets k fun key hkey => hk key (hpaid key hkey)
  tokens k hk := h.tokens k fun key hkey => hk key (hpaid key hkey)
  payments k hk := h.payments k fun key hkey => hk key (hpaid key hkey)

/-- The keys for which a call has returned normally. -/
def Paid (f : ι → PaymentFunction)
    (c : Interleave.Config ι CacheOp CacheOp.Res JavaException Unit Caller Caches) (key : Key) :
    Prop :=
  ∃ i, Returned c i ∧ (f i).request.key = key

/-- **The frame of concurrent calls**: whichever methods throw, and in whatever order they are
called, the entries of shoppers and tokens for which no call has returned normally are as they were
at the start, with their versions. -/
theorem untouched_of_reachable
    (h : Interleave.Reachable Acts (initial caches₀ f clock) c) :
    Untouched caches₀ c.glob (Paid f c) := by
  induction h with
  | refl =>
      exact ⟨rfl, fun _ _ => ⟨rfl, rfl⟩, fun _ _ => ⟨rfl, rfl⟩, fun _ _ => ⟨rfl, rfl⟩⟩
  | @tail c₁ c₂ hreach hs ih =>
      have hmono : ∀ key, Paid f c₁ key → Paid f c₂ key := fun key ⟨i, hi, hkey⟩ =>
        ⟨i, Interleave.ret_of_reachable hi (.single hs), hkey⟩
      have h₂ := Relation.ReflTransGen.tail hreach hs
      cases hs with
      | of i o k a g l hp hact =>
          rcases step_cases hreach hp hact with ⟨-, rfl⟩ |
            ⟨-, hone, -, tx, htx, -, rfl, -⟩
          · exact ih.mono hmono
          · refine (ih.mono hmono).apply (within_of_reachable hreach i tx htx)
              ⟨i, (returned_iff h₂ i).2 ?_, rfl⟩
            rw [Interleave.Config.next_loc_self]
            exact hone

/-- Both calls have returned: the entries of all other keys are untouched. -/
theorem untouched_of_reachable_sideBySide :
    Untouched (oneShopper 100 0) sideBySide.glob (Paid twoTokens sideBySide) :=
  untouched_of_reachable (Interleave.reachable_play acts_turn _ _)

end RedHatPay.Grid
