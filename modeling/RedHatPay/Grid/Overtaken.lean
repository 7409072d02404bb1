/-
**The data grid: why a call fails.**

A call that is refused at commit has been overtaken: since it has read its wallet and its token,
another call has charged the same wallet.  Three attempts are refused by three different calls.  So
a call whose own methods do not throw fails only if its amount is negative, if there was a moment
of the run at which the payment could not be made, or if at least three other calls for the same
shopper have returned; calls for other shoppers never make it fail.

* `RedHatPay.Grid.Hopeless` — the payment can not be made from these caches;
* `RedHatPay.Grid.Verdict` — what a call has met: hopeless caches, and refused commits;
* `RedHatPay.Grid.watchSpec`, `RedHatPay.Grid.safe_accept_watch` — what the answers tell, and what
  follows for a whole call;
* `RedHatPay.Grid.ReliableFor` — the step relation in which the methods of one call do not throw;
* `RedHatPay.Grid.fails_only_if` — **why a call fails**.
-/

import RedHatPay.Grid.Affinity
import RedHatPay.Lib.Ghost

set_option relaxedAutoImplicit false
set_option autoImplicit false

namespace RedHatPay.Grid

open Program Transaction

/-! ### Hopeless caches -/

/-- The payment can not be made from these caches. -/
def Hopeless (f : PaymentFunction) (c : Caches) : Prop :=
  ∀ amount now, f.request.amount = amount.value →
    (c.toStore.pay CachePaymentRepository.entity (f.request.input amount) now).1 = none

/-- The wallet entry covers the amount. -/
def Covered (f : PaymentFunction) (entity : Option WalletEntity) : Prop :=
  ∃ purse, entity = some (Purse.entity purse) ∧ ∀ amount : Money, f.request.amount = amount.value →
    Wallet.Fits purse.charged.toInt purse.autoCharge.toInt amount.toInt

/-- What a payment that can be made finds in the entries. -/
theorem entries_of_pay {f : PaymentFunction} {c : Caches} {amount : Money} {now : LocalDateTime}
    {p : Payment} (hamount : f.request.amount = amount.value)
    (h : (c.toStore.pay CachePaymentRepository.entity (f.request.input amount) now).1 = some p) :
    c.users ⟨f.request.userId⟩ ≠ none ∧ Covered f (c.wallets.data ⟨f.request.userId⟩) ∧
      c.tokens.data (entryKey f.request.key) = some ⟨.unused⟩ := by
  obtain ⟨w, bill, m, hpresent, hcovers, -⟩ := Store.pay_eq_some (Prod.ext h rfl)
  obtain ⟨name, store, purse, huser, -, hpurse, htoken, rfl, -⟩ := Store.present_eq_some hpresent
  refine ⟨fun hnone => ?_, ⟨purse, Caches.toStore_wallets_iff.1 hpurse, fun amount' hamount' => ?_⟩,
    Caches.toStore_tokens_iff.1 htoken⟩
  · have hshopper : (c.users ⟨f.request.userId⟩).map (fun e => (⟨e.name⟩ : FullName)) = some name :=
      huser
    rw [hnone] at hshopper
    cases hshopper
  · obtain rfl : amount' = amount :=
      Money.ext_toInt (congrArg Int32.toInt (hamount'.symm.trans hamount))
    exact hcovers

/-- **One bad entry is enough**: without the shopper, without a wallet that covers the amount, or
without an unused token, the payment can not be made. -/
theorem hopeless_of_entries {f : PaymentFunction} {c : Caches}
    (h : c.users ⟨f.request.userId⟩ = none ∨ ¬ Covered f (c.wallets.data ⟨f.request.userId⟩) ∨
      c.tokens.data (entryKey f.request.key) ≠ some ⟨.unused⟩) : Hopeless f c := by
  intro amount now hamount
  cases hp : (c.toStore.pay CachePaymentRepository.entity (f.request.input amount) now).1 with
  | none => rfl
  | some p =>
      obtain ⟨huser, hwallet, htoken⟩ := entries_of_pay hamount hp
      rcases h with h | h | h
      · exact absurd h huser
      · exact absurd hwallet h
      · exact absurd htoken h

/-! ### What a call meets -/

/-- What a call has met: did it make a step while the caches were hopeless, and how many of its
commits have been refused? -/
structure Verdict where
  hopeless : Prop
  refusals : Nat

/-- Has the method refused to commit? -/
def CacheOp.refused : (o : CacheOp) → Except JavaException o.Res → Nat
  | .commit, .error _ => 1
  | _, _ => 0

/-- The verdict after a method. -/
def Verdict.next (f : PaymentFunction) (v : Verdict) (c : Caches) (o : CacheOp)
    (a : Except JavaException o.Res) : Verdict :=
  ⟨v.hopeless ∨ Hopeless f c, v.refusals + o.refused a⟩

/-- A caller with its verdict. -/
abbrev Watched : Type := Caller × Verdict

/-- What the answer of a method that does not throw tells of the caches: a bad entry, and so
hopeless caches; or a good one. -/
def glimpsed (f : PaymentFunction) (l l' : Watched) :
    (o : CacheOp) → Except JavaException o.Res → Prop
  | .begin, a => l.1.tx = none → a = .ok () ∧ l'.1.tx = some Tx.empty
  | .commit, _ => l'.1.tx = none
  | .rollback, _ => l'.1.tx = none
  | .getUser key, a => l'.1.tx = l.1.tx ∧ ∃ entity, a = .ok entity ∧
      (key = ⟨f.request.userId⟩ → entity = none → l'.2.hopeless)
  | .getWallet key, a => ∃ entity, a = .ok entity ∧ ∀ t, l.1.tx = some t →
      (∃ t', l'.1.tx = some t' ∧ t'.tokens = t.tokens) ∧
        (t.wallets = .empty → key = ⟨f.request.userId⟩ → ¬ Covered f entity → l'.2.hopeless)
  | .getToken key, a => l'.1.tx.isSome = l.1.tx.isSome ∧ ∃ entity, a = .ok entity ∧
      ∀ t, l.1.tx = some t → t.tokens = .empty → key = entryKey f.request.key →
        entity ≠ some ⟨.unused⟩ → l'.2.hopeless
  | .getPayment _, a => l'.1.tx.isSome = l.1.tx.isSome ∧ a.isOk = true
  | .putWallet _ _, a => l'.1.tx.isSome = l.1.tx.isSome ∧ a = .ok ()
  | .putToken _ _, a => l'.1.tx.isSome = l.1.tx.isSome ∧ a = .ok ()
  | .putPayment _ _, a => l'.1.tx.isSome = l.1.tx.isSome ∧ a = .ok ()

/-- **What a call is told** when its methods do not throw.  A verdict once given stays. -/
def watchSpec (f : PaymentFunction) : Spec CacheOp CacheOp.Res JavaException Watched where
  pre _ o := Touches f.request.key o
  post l o a l' := (l.2.hopeless → l'.2.hopeless) ∧ l'.2.refusals = l.2.refusals + o.refused a ∧
    glimpsed f l l' o a

theorem stays_hopeless {f : PaymentFunction} {l l' : Watched} {o : CacheOp}
    {a : Except JavaException o.Res} (h : l.2.hopeless) (hpost : (watchSpec f).post l o a l') :
    l'.2.hopeless :=
  hpost.1 h

/-- A method that does what it should tells this. -/
theorem watchSpec_of_exec (f : PaymentFunction) (c : Caches) (l : Watched) (o : CacheOp) :
    (watchSpec f).post l o (exec o (l.1.on c)).1
      (l.1.next o (exec o (l.1.on c)).1 (exec o (l.1.on c)).2.tx,
        l.2.next f c o (exec o (l.1.on c)).1) := by
  obtain ⟨⟨tx, begins, commits⟩, v⟩ := l
  refine ⟨Or.inl, rfl, ?_⟩
  cases o with
  | begin =>
      rintro rfl
      exact ⟨rfl, rfl⟩
  | commit => exact exec_commit_tx ⟨c, tx⟩
  | rollback => cases tx <;> rfl
  | getUser key =>
      refine ⟨rfl, _, rfl, ?_⟩
      rintro rfl hnone
      exact Or.inr (hopeless_of_entries (Or.inl hnone))
  | getWallet key =>
      refine ⟨_, rfl, ?_⟩
      rintro t rfl
      refine ⟨⟨_, rfl, rfl⟩, ?_⟩
      rintro hempty rfl hnot
      have hsee : c.wallets.see t.wallets ⟨f.request.userId⟩ =
          c.wallets.data ⟨f.request.userId⟩ := (read_empty hempty _).1
      have hnot' : ¬ Covered f (c.wallets.see t.wallets ⟨f.request.userId⟩) := hnot
      rw [hsee] at hnot'
      exact Or.inr (hopeless_of_entries (Or.inr (Or.inl hnot')))
  | getToken key =>
      refine ⟨by cases tx <;> rfl, _, rfl, ?_⟩
      rintro t rfl hempty rfl hnot
      have hsee : c.tokens.see t.tokens (entryKey f.request.key) =
          c.tokens.data (entryKey f.request.key) := (read_empty hempty _).1
      have hnot' : c.tokens.see t.tokens (entryKey f.request.key) ≠ some ⟨.unused⟩ := hnot
      rw [hsee] at hnot'
      exact Or.inr (hopeless_of_entries (Or.inr (Or.inr hnot')))
  | getPayment key => exact ⟨by cases tx <;> rfl, rfl⟩
  | putWallet key value | putToken key value | putPayment key value =>
      exact ⟨by cases tx <;> rfl, rfl⟩

/-! ### The repositories -/

/-- What the answer of a repository tells. -/
def judged (f : PaymentFunction) (l l' : Watched) :
    (o : RepoOp) → Except JavaException o.Res → Prop
  | .loadShopper _, a => l'.1.tx = l.1.tx ∧ (a.isOk = true ∨ l'.2.hopeless)
  | .loadStore _, a => l' = l ∧ a = .ok f.store
  | .loadWallet _, a => ∀ t, l.1.tx = some t → t.wallets = .empty →
      (∃ t', l'.1.tx = some t' ∧ t'.tokens = t.tokens) ∧
        ((∃ w, a = .ok w ∧ ∀ amount : Money, f.request.amount = amount.value → w.Covers amount) ∨
          l'.2.hopeless)
  | .loadToken _ _, a => ∀ t, l.1.tx = some t → t.tokens = .empty →
      (∃ token, a = .ok (some token) ∧ token.status = .unused) ∨ l'.2.hopeless
  | .storeWallet _, a => a = .ok ()
  | .storeToken _, a => a = .ok ()
  | .storePayment _, a => a = .ok ()
  | _, _ => True

/-- What a call is told, in terms of repositories. -/
def judgeSpec (f : PaymentFunction) : Spec RepoOp RepoOp.Res JavaException Watched where
  pre l o := l.1.tx.isSome ∧ About f.request.key o ∧ o.ofPayment
  post l o a l' := (l.2.hopeless → l'.2.hopeless) ∧ l'.2.refusals = l.2.refusals ∧
    l'.1.tx.isSome ∧ Loaded o a ∧ judged f l l' o a

/-- A wallet entry that covers the amount is loaded as a wallet that does. -/
theorem load_of_covered {f : PaymentFunction} {owner : Shopper} {entity : Option WalletEntity}
    (h : Covered f entity) : ∃ w, (do
      let cachedWallet ← nonNull entity
      let chargedMoney ← Money.new cachedWallet.chargedMoney
      let autoChargeMoney ← Money.new cachedWallet.autoChargeMoney
      return ⟨owner, chargedMoney, autoChargeMoney⟩ : Except JavaException Wallet) = .ok w ∧
      ∀ amount : Money, f.request.amount = amount.value → w.Covers amount := by
  obtain ⟨purse, rfl, hfits⟩ := h
  refine ⟨purse.wallet owner, ?_, hfits⟩
  change (do
    let chargedMoney ← Money.new purse.charged.value
    let autoChargeMoney ← Money.new purse.autoCharge.value
    return ⟨owner, chargedMoney, autoChargeMoney⟩ : Except JavaException Wallet) = _
  rw [Money.new_value, Money.new_value]
  rfl

/-- **The repositories tell what the caches tell.** -/
theorem safe_judge {f : PaymentFunction} (o : RepoOp) (l : Watched)
    (h : (judgeSpec f).pre l o) :
    Safe (watchSpec f) ((judgeSpec f).post l o) (repositories f.store o) l := by
  obtain ⟨htx, habout, hpayment⟩ := h
  cases o with
  | createToken token | loadPayment shopperId tokenId | loadPoint id | storePoint point =>
      exact hpayment.elim
  | loadShopper id =>
      obtain rfl : id = f.request.key.1 := habout
      refine ⟨rfl, fun a l' hpost => ?_⟩
      obtain ⟨hmono, hrefusals, htx', entity, rfl, hnone⟩ := hpost
      refine ⟨hmono, hrefusals, by rw [htx']; exact htx, ?_, htx', ?_⟩
      · exact fun shopper hshopper => shopper_of_entity hshopper
      · cases entity with
        | none => exact Or.inr (hnone rfl rfl)
        | some e => exact Or.inl rfl
  | loadStore id => exact ⟨fun h => h, rfl, htx, trivial, rfl, rfl⟩
  | loadWallet owner =>
      obtain ⟨t, ht⟩ := Option.isSome_iff_exists.1 htx
      have hkey : Touches f.request.key (.getWallet ⟨owner.id.value⟩) :=
        congrArg (fun id : ShopperId => ShopperKey.mk id.value) habout
      refine ⟨hkey, fun a l' hpost => ?_⟩
      obtain ⟨hmono, hrefusals, entity, rfl, htold⟩ := hpost
      obtain ⟨⟨t', ht', htokens⟩, hbad⟩ := htold t ht
      refine ⟨hmono, hrefusals, by rw [ht']; rfl, ?_, ?_⟩
      · intro w hw
        obtain ⟨purse, -, rfl⟩ := wallet_of_entity hw
        rfl
      · intro t₁ ht₁ hempty
        obtain rfl : t = t₁ := Option.some.inj (ht.symm.trans ht₁)
        refine ⟨⟨t', ht', htokens⟩, ?_⟩
        by_cases hcovered : Covered f entity
        · exact Or.inl (load_of_covered hcovered)
        · exact Or.inr (hbad hempty hkey hcovered)
  | loadToken shopperId tokenId =>
      obtain ⟨t, ht⟩ := Option.isSome_iff_exists.1 htx
      have hkey : Touches f.request.key (.getToken (entryKey (shopperId, tokenId))) :=
        congrArg entryKey habout
      refine (safe_orThrow _ _ _ l).2 ⟨hkey, fun a l' hpost => ?_⟩
      obtain ⟨hmono, hrefusals, hsome, entity, rfl, hbad⟩ := hpost
      refine ⟨hmono, hrefusals, hsome.trans htx, ?_, ?_⟩
      · exact fun token htoken => token_of_entity (mapError_eq_ok htoken)
      · intro t₁ ht₁ hempty
        obtain rfl : t = t₁ := Option.some.inj (ht.symm.trans ht₁)
        by_cases hunused : entity = some ⟨.unused⟩
        · subst hunused
          exact Or.inl ⟨_, rfl, rfl⟩
        · exact Or.inr (hbad t ht hempty hkey hunused)
  | storeWallet w =>
      refine ⟨congrArg (fun id : ShopperId => ShopperKey.mk id.value) habout, fun a l' hpost => ?_⟩
      obtain ⟨hmono, hrefusals, hsome, ha⟩ := hpost
      exact ⟨hmono, hrefusals, hsome.trans htx, trivial, ha⟩
  | storeToken token =>
      have hkey : Touches f.request.key (.putToken (entryKey (token.shopperId, token.tokenId))
          ⟨TokenStatus.fromDomain token.status⟩) := congrArg entryKey habout
      refine (safe_orThrow _ _ _ l).2 ⟨hkey, fun a l' hpost => ?_⟩
      obtain ⟨hmono, hrefusals, hsome, rfl⟩ := hpost
      exact ⟨hmono, hrefusals, hsome.trans htx, trivial, rfl⟩
  | storePayment p =>
      obtain ⟨hshopper, htoken⟩ := habout
      change Safe _ _ (CachePaymentRepository.store p) l
      rw [CachePaymentRepository.store, htoken, hshopper]
      refine ⟨rfl, fun a l' hpost => ?_⟩
      obtain ⟨hmono, hrefusals, hsome, ha⟩ := hpost
      exact ⟨hmono, hrefusals, hsome.trans htx, trivial, ha⟩

/-! ### The use case -/

/-- In a transaction, after `n` refused commits. -/
def Trying (n : Nat) (l : Watched) : Prop := l.1.tx.isSome ∧ l.2.refusals = n

theorem Trying.next {f : PaymentFunction} {n : Nat} {l l' : Watched} {o : RepoOp}
    {a : Except JavaException o.Res} (h : Trying n l) (hpost : (judgeSpec f).post l o a l') :
    Trying n l' :=
  ⟨hpost.2.2.1, hpost.2.1.trans h.2⟩

/-- In a transaction that has just begun, after `n` refused commits. -/
def Begun (n : Nat) (l : Watched) : Prop := l.1.tx = some Tx.empty ∧ l.2.refusals = n

theorem Begun.trying {n : Nat} {l : Watched} (h : Begun n l) : Trying n l :=
  ⟨by rw [h.1]; rfl, h.2⟩

/-- The outline of the use case: it returns, or it has met hopeless caches. -/
def watchOutline {f : PaymentFunction} {amount : Money} (hamount : f.request.amount = amount.value)
    (now : LocalDateTime) (n : Nat) :
    PayOutline (judgeSpec f) (f.request.input amount) now fun r l =>
      Trying n l ∧ (r.isOk = true ∨ l.2.hopeless) where
  start l := Begun n l
  shopperLoaded shopper l := Begun n l ∧ shopper.id = f.request.key.1
  storeLoaded shopper _ l := Begun n l ∧ shopper.id = f.request.key.1
  walletLoaded w bill l := Trying n l ∧ w.owner.id = f.request.key.1 ∧ bill.amount = amount ∧
    (∃ t, l.1.tx = some t ∧ t.tokens = .empty) ∧ (w.Covers amount ∨ l.2.hopeless)
  tokenLoaded w bill token l := Trying n l ∧ w.owner.id = f.request.key.1 ∧ bill.amount = amount ∧
    (∀ t, token = some t → (t.shopperId, t.tokenId) = f.request.key) ∧
    ((w.Covers amount ∧ ∃ t, token = some t ∧ t.status = .unused) ∨ l.2.hopeless)
  processingStored w bill token l := Trying n l ∧ w.owner.id = f.request.key.1 ∧
    bill.amount = amount ∧ (token.shopperId, token.tokenId) = f.request.key ∧
    (w.Covers amount ∨ l.2.hopeless)
  walletStored p token l := Trying n l ∧ p.shopperId = f.request.key.1 ∧
    (token.shopperId, token.tokenId) = f.request.key
  usedStored p token l := Trying n l ∧ p.shopperId = f.request.key.1 ∧
    (token.shopperId, token.tokenId) = f.request.key
  caught token l := Trying n l ∧ l.2.hopeless ∧
    ∀ t, token = some t → (t.shopperId, t.tokenId) = f.request.key
  loadShopper := by
    refine triple_perform (fun l hl => ⟨hl.trying.1, rfl, trivial⟩) ?_ ?_
    · intro l shopper l' hl h
      obtain ⟨-, hrefusals, -, hloaded, htx, -⟩ := h
      exact ⟨⟨htx.trans hl.1, hrefusals.trans hl.2⟩, hloaded shopper rfl⟩
    · intro l e l' hl h
      exact ⟨hl.trying.next h, h.2.2.2.2.2.resolve_left nofun, nofun⟩
  loadStore shopper := by
    refine triple_perform (fun l hl => ⟨hl.1.trying.1, trivial, trivial⟩) ?_ ?_
    · intro l store l' hl h
      obtain ⟨-, -, -, -, rfl, -⟩ := h
      exact hl
    · intro l e l' hl h
      cases h.2.2.2.2.2
  loadWallet shopper store := by
    refine triple_perform (fun l hl => ⟨hl.1.trying.1, hl.2, trivial⟩) ?_ ?_
    · intro l w l' hl h
      obtain ⟨⟨t', ht', htokens⟩, hjudged⟩ := h.2.2.2.2 Tx.empty hl.1.1 rfl
      refine ⟨hl.1.trying.next h, ?_, rfl, ⟨t', ht', htokens⟩, ?_⟩
      · rw [h.2.2.2.1 w rfl]
        exact hl.2
      · rcases hjudged with ⟨w', hw', hcovers⟩ | hhopeless
        · obtain rfl : w = w' := Except.ok.inj hw'
          exact Or.inl (hcovers amount hamount)
        · exact Or.inr hhopeless
    · intro l e l' hl h
      obtain ⟨-, hjudged⟩ := h.2.2.2.2 Tx.empty hl.1.1 rfl
      exact ⟨hl.1.trying.next h, hjudged.resolve_left nofun, nofun⟩
  loadToken w bill := by
    refine triple_perform (fun l hl => ⟨hl.1.1, rfl, trivial⟩) ?_ ?_
    · intro l token l' hl h
      obtain ⟨htrying, howner, hbill, ⟨t, ht, hempty⟩, hcovers⟩ := hl
      refine ⟨htrying.next h, howner, hbill, ?_, ?_⟩
      · rintro t rfl
        exact h.2.2.2.1 t rfl
      · rcases h.2.2.2.2 t ht hempty with ⟨token', htoken', hunused⟩ | hhopeless
        · rcases hcovers with hcovers | hhopeless
          · exact Or.inl ⟨hcovers, token', Except.ok.inj htoken', hunused⟩
          · exact Or.inr (h.1 hhopeless)
        · exact Or.inr hhopeless
    · intro l e l' hl h
      obtain ⟨htrying, -, -, ⟨t, ht, hempty⟩, -⟩ := hl
      exact ⟨htrying.next h, (h.2.2.2.2 t ht hempty).resolve_left nofun, nofun⟩
  absent w bill l h := by
    obtain ⟨htrying, -, -, -, hgood⟩ := h
    exact ⟨htrying, hgood.resolve_left (by rintro ⟨-, t, ⟨⟩, -⟩), nofun⟩
  refused w bill token l hne h := by
    obtain ⟨htrying, -, -, hkey, hgood⟩ := h
    refine ⟨htrying, hgood.resolve_left ?_, hkey⟩
    rintro ⟨-, t, ⟨⟩, hunused⟩
    exact hne hunused
  storeProcessing w bill token _ := by
    refine triple_perform (fun l hl => ⟨hl.1.1, hl.2.2.2.1 token rfl, trivial⟩) ?_ ?_
    · intro l _ l' hl h
      obtain ⟨htrying, howner, hbill, hkey, hgood⟩ := hl
      exact ⟨htrying.next h, howner, hbill, hkey token rfl, hgood.imp And.left h.1⟩
    · intro l e l' hl h
      cases h.2.2.2.2
  insufficient w bill token l hnot h := by
    obtain ⟨htrying, -, hbill, hkey, hgood⟩ := h
    rw [hbill] at hnot
    refine ⟨htrying, hgood.resolve_left hnot, ?_⟩
    rintro t ⟨⟩
    exact hkey
  storeWallet w bill token p w' hpay := by
    obtain ⟨-, hp, hw', -⟩ := Wallet.pay_eq_ok hpay
    have howner : w'.owner = w.owner := by rw [hw']
    refine triple_perform (fun l hl => ⟨hl.1.1, ?_, trivial⟩) ?_ ?_
    · change w'.owner.id = f.request.key.1
      rw [howner]
      exact hl.2.1
    · intro l _ l' hl h
      refine ⟨hl.1.next h, ?_, hl.2.2.2.1⟩
      rw [hp]
      exact hl.2.1
    · intro l e l' hl h
      cases h.2.2.2.2
  storeUsed p token := by
    refine triple_perform (fun l hl => ⟨hl.1.1, hl.2.2, trivial⟩) ?_ ?_
    · intro l _ l' hl h
      exact ⟨hl.1.next h, hl.2⟩
    · intro l e l' hl h
      cases h.2.2.2.2
  storePayment p token := by
    refine triple_perform (fun l hl => ⟨hl.1.1, ⟨hl.2.1, ?_⟩, trivial⟩) ?_ ?_
    · exact congrArg (fun key : Key => some key.2) hl.2.2
    · intro l _ l' hl h
      exact ⟨hl.1.next h, Or.inl rfl⟩
    · intro l e l' hl h
      cases h.2.2.2.2
  catchNone l h := ⟨h.1, Or.inr h.2.1⟩
  catchSome token := by
    refine triple_perform (fun l hl => ⟨hl.1.1, hl.2.2 token rfl, trivial⟩) ?_ ?_
    · exact fun l _ l' hl h => ⟨hl.1.next h, Or.inr (h.1 hl.2.1)⟩
    · exact fun l e l' hl h => ⟨hl.1.next h, Or.inr (h.1 hl.2.1)⟩

/-! ### A whole call -/

/-- **An attempt** succeeds, or has met hopeless caches, or is refused at commit. -/
theorem safe_tryPay_watch {f : PaymentFunction} {amount : Money}
    (hamount : f.request.amount = amount.value) (now : LocalDateTime) {l : Watched}
    (htx : l.1.tx = none) :
    Safe (watchSpec f) (fun r l' => r.isOk = true ∨ l'.2.hopeless ∨
      l'.2.refusals = l.2.refusals + 1) (f.tryPay amount now) l := by
  refine (safe_bind _ _ _ l).2 ⟨trivial, fun a l₁ h₁ => ?_⟩
  obtain ⟨-, hrefusals₁, hbegin⟩ := h₁
  obtain ⟨rfl, htx₁⟩ := hbegin htx
  have hpay : Safe (watchSpec f) _ (implement (repositories f.store)
      (TokenUsecaseImpl.pay (f.request.input amount) now)) l₁ :=
    ((watchOutline hamount now l.2.refusals).safe ⟨htx₁, hrefusals₁⟩).implement
      fun o l h => safe_judge o l h
  refine (safe_bind _ _ _ l₁).2 (hpay.mono fun r l₂ h₂ => ?_)
  obtain ⟨⟨-, hrefusals₂⟩, hgood⟩ := h₂
  cases r with
  | error e => exact Or.inr (Or.inl (hgood.resolve_left nofun))
  | ok p =>
      refine ⟨trivial, fun a l₃ h₃ => ?_⟩
      cases a with
      | ok _ => exact Or.inl rfl
      | error e =>
          have hrefusals₃ : l₃.2.refusals = l₂.2.refusals + 1 := h₃.2.1
          rw [hrefusals₂] at hrefusals₃
          exact Or.inr (Or.inr hrefusals₃)

/-- **The loop** succeeds, or has met hopeless caches, or all its attempts are refused. -/
theorem safe_tryLoop_watch {f : PaymentFunction} {amount : Money}
    (hamount : f.request.amount = amount.value) (clock : Nat → LocalDateTime) {l : Watched}
    {tryCount n : Nat} (htx : l.1.tx = none) :
    Safe (watchSpec f) (fun r l' => r = .ok true ∨
      (r = .ok false ∧ (l'.2.hopeless ∨ l'.2.refusals = l.2.refusals + n)))
      (f.tryLoop amount clock tryCount n) l := by
  induction n generalizing l tryCount with
  | zero => exact Or.inr ⟨rfl, Or.inr rfl⟩
  | succ n ih =>
      refine (safe_bind _ _ _ l).2 ((safe_attempt _ _ l).2
        ((safe_tryPay_watch hamount (clock tryCount) htx).mono fun r l₁ h₁ => ?_))
      cases r with
      | ok _ => exact Or.inl rfl
      | error e =>
          have hfailed := h₁.resolve_left nofun
          refine (safe_bind _ _ _ l₁).2 ((safe_attempt _ _ l₁).2 ⟨trivial, fun a l₂ h₂ => ?_⟩)
          obtain ⟨hmono, hrefusals, htx₂⟩ := h₂
          have hrefusals' : l₂.2.refusals = l₁.2.refusals := hrefusals
          have hloop : Safe (watchSpec f) _ (f.tryLoop amount clock (tryCount + 1) n) l₂ := ih htx₂
          rcases hfailed with hhopeless | hrefused
          · have hkeep := hloop.keep (I := fun l => l.2.hopeless)
              (fun _ _ _ _ => stays_hopeless) (hmono hhopeless)
            exact hkeep.mono fun r l₃ h₃ => h₃.1.imp_right fun h => ⟨h.1, Or.inl h₃.2⟩
          · refine hloop.mono fun r l₃ h₃ => h₃.imp_right fun h =>
              ⟨h.1, h.2.imp_right fun heq => ?_⟩
            rw [heq, hrefusals', hrefused]
            omega

/-- **A call** returns; or its amount is negative, it has met hopeless caches, or all its attempts
are refused at commit. -/
theorem safe_accept_watch (f : PaymentFunction) (clock : Nat → LocalDateTime) :
    Safe (watchSpec f) (fun r l => r = .ok () ∨ f.request.amount.toInt < 0 ∨ l.2.hopeless ∨
      l.2.refusals = PaymentFunction.maxRetryCount) (f.accept clock) (.fresh, ⟨False, 0⟩) := by
  refine (safe_bind _ _ _ _).2 ?_
  rcases lt_or_ge f.request.amount.toInt 0 with hneg | hnn
  · rw [Money.new_of_neg hneg]
    exact Or.inr (Or.inl hneg)
  · rw [Money.new_of_nonneg hnn]
    refine (safe_bind _ _ _ _).2 ((safe_tryLoop_watch rfl clock rfl).mono fun r l h => ?_)
    rcases h with rfl | ⟨rfl, hhopeless | hrefusals⟩
    · exact Or.inl rfl
    · exact Or.inr (Or.inr (Or.inl hhopeless))
    · rw [Nat.zero_add] at hrefusals
      exact Or.inr (Or.inr (Or.inr hrefusals))

/-! ### Transactions that are current -/

/-- A transaction that is current is not refused. -/
theorem Tx.Current.valid {tx : Tx} {c : Caches} (h : tx.Current c) : c.valid tx = true := by
  rw [Caches.valid, h.1.valid, h.2.1.valid, h.2.2.valid]
  rfl

/-- A transaction stays current through its own methods. -/
theorem current_exec {c : Caches} {tx : Option Tx} (o : CacheOp)
    (h : ∀ t, tx = some t → t.Current c) : ∀ t, (exec o ⟨c, tx⟩).2.tx = some t → t.Current c := by
  intro t ht
  cases tx with
  | none =>
      cases o with
      | begin =>
          cases ht
          exact ⟨.empty, .empty, .empty⟩
      | _ => cases ht
  | some tx =>
      obtain ⟨hw, htok, hp⟩ := h tx rfl
      cases o with
      | begin =>
          cases ht
          exact ⟨hw, htok, hp⟩
      | commit =>
          rw [exec_commit_tx] at ht
          cases ht
      | rollback => cases ht
      | getUser key =>
          cases ht
          exact ⟨hw, htok, hp⟩
      | getWallet key =>
          cases ht
          exact ⟨hw.read key, htok, hp⟩
      | getToken key =>
          cases ht
          exact ⟨hw, htok.read key, hp⟩
      | getPayment key =>
          cases ht
          exact ⟨hw, htok, hp.read key⟩
      | putWallet key v | putToken key v | putPayment key v =>
          cases ht
          exact ⟨hw, htok, hp⟩

/-- A transaction stays current when one of another shopper commits. -/
theorem Tx.Current.apply {tx tx' : Tx} {c : Caches} {key key' : Key} (h : tx.Current c)
    (htx : tx.Within key) (htx' : tx'.Within key') (hne : key.1 ≠ key'.1) :
    tx.Current (c.apply tx') := by
  have htoken : ∀ k, k = entryKey key → ¬ k = entryKey key' := by
    rintro k rfl heq
    exact hne (congrArg Prod.fst (entryKey_injective heq))
  refine ⟨h.1.apply htx.wallets htx'.wallets ?_, h.2.1.apply htx.tokens htx'.tokens htoken,
    h.2.2.apply htx.payments htx'.payments htoken⟩
  rintro k rfl heq
  exact hne (congrArg (fun key : ShopperKey => (⟨key.ownerId⟩ : ShopperId)) heq)

/-! ### A reliable call among others -/

variable {ι : Type} [DecidableEq ι]

/-- The step relation in which the methods of the call `i₀` do what they should, and those of the
others may throw. -/
def ReliableFor (i₀ : ι) :
    Interleave.Semantics ι CacheOp CacheOp.Res JavaException Caller Caches :=
  fun i c l o a c' l' => Acts i c l o a c' l' ∧ (i = i₀ → a = (exec o (l.on c)).1 ∧
    l' = l.next o (exec o (l.on c)).1 (exec o (l.on c)).2.tx)

/-- Other calls for the same shopper that have returned, each of them once. -/
def Rivals (f : ι → PaymentFunction) (i₀ : ι)
    (c : Interleave.Config ι CacheOp CacheOp.Res JavaException Unit Caller Caches)
    (rivals : List ι) : Prop :=
  rivals.Nodup ∧ ∀ j ∈ rivals, j ≠ i₀ ∧ (f j).request.userId = (f i₀).request.userId ∧ Returned c j

/-- **The invariant of the call**: its verdict is true of the run, and each of its refused commits
has been overtaken by a rival of its own, and so has its transaction if it is not current. -/
structure Watching (f : ι → PaymentFunction) (i₀ : ι)
    (c₀ : Interleave.Config ι CacheOp CacheOp.Res JavaException Unit Caller Caches)
    (rivals : List ι)
    (d : Interleave.Config ι CacheOp CacheOp.Res JavaException Unit Watched Caches) : Prop where
  hopeless : (d.loc i₀).2.hopeless →
    Interleave.Past (ReliableFor i₀) c₀ d.erase (Hopeless (f i₀))
  overtook : Rivals f i₀ d.erase rivals
  refusals : (d.loc i₀).2.refusals ≤ rivals.length
  current : ∀ tx, (d.loc i₀).1.tx = some tx →
    tx.Current d.glob ∨ (d.loc i₀).2.refusals + 1 ≤ rivals.length

variable {f : ι → PaymentFunction} {i₀ : ι} {rivals : List ι} {caches₀ : Caches}
  {clock : ι → Nat → LocalDateTime}
  {c c' : Interleave.Config ι CacheOp CacheOp.Res JavaException Unit Caller Caches}
  {d : Interleave.Config ι CacheOp CacheOp.Res JavaException Unit Watched Caches}

theorem Rivals.step (h : Rivals f i₀ c rivals) (hs : Interleave.Step (ReliableFor i₀) c c') :
    Rivals f i₀ c' rivals := by
  refine ⟨h.1, fun j hj => ?_⟩
  obtain ⟨hne, huser, hreturned⟩ := h.2 j hj
  exact ⟨hne, huser, Interleave.ret_of_reachable hreturned (.single hs)⟩

/-- One more rival, which has just returned. -/
theorem Rivals.cons {i : ι} (h : Rivals f i₀ c rivals)
    (hs : Interleave.Step (ReliableFor i₀) c c') (hne : i ≠ i₀)
    (huser : (f i).request.userId = (f i₀).request.userId) (hbefore : ¬ Returned c i)
    (hafter : Returned c' i) : Rivals f i₀ c' (i :: rivals) := by
  refine ⟨List.nodup_cons.2 ⟨fun hi => hbefore (h.2 i hi).2.2, h.1⟩, fun j hj => ?_⟩
  rcases List.mem_cons.1 hj with rfl | hj
  · exact ⟨hne, huser, hafter⟩
  · exact (h.step hs).2 j hj

/-- The verdicts of all calls. -/
def verdicts (f : ι → PaymentFunction) :
    Interleave.Update ι CacheOp CacheOp.Res JavaException Caller Caches Verdict :=
  fun i c _ o a v => v.next (f i) c o a

theorem acts_of_reliableFor
    (h : Interleave.Reachable (ReliableFor i₀) (initial caches₀ f clock) c) :
    Interleave.Reachable Acts (initial caches₀ f clock) c :=
  h.mono fun _ _ _ _ _ _ _ hR => hR.1

/-- The call that is watched makes a step. -/
theorem Watching.self {o : CacheOp} {k : Except JavaException o.Res → CacheProgram Unit}
    {a : Except JavaException o.Res} {g : Caches} {l : Watched}
    (hreach : Interleave.Reachable (ReliableFor i₀) (initial caches₀ f clock) d.erase)
    (h : Watching f i₀ (initial caches₀ f clock) rivals d) (hp : d.prog i₀ = .call o k)
    (hR : Interleave.withGhost (ReliableFor i₀) (verdicts f) i₀ d.glob (d.loc i₀) o a g l) :
    Watching f i₀ (initial caches₀ f clock) rivals (d.next i₀ (k a) l g) := by
  have hs := Interleave.step_erase (Interleave.Step.of i₀ o k a g l hp hR)
  obtain ⟨⟨hact, hreliable⟩, hverdict⟩ := hR
  obtain ⟨ha, hl⟩ := hreliable rfl
  have htx : l.1.tx = (exec o ((d.loc i₀).1.on d.glob)).2.tx := by rw [hl]; rfl
  have hreach' := acts_of_reliableFor hreach
  refine ⟨?_, h.overtook.step hs, ?_, ?_⟩
  · rw [Interleave.Config.next_loc_self, hverdict]
    rintro (hhopeless | hnow)
    · exact (h.hopeless hhopeless).step hs
    · exact (Interleave.Past.now hreach hnow).step hs
  · rw [Interleave.Config.next_loc_self, hverdict]
    change (d.loc i₀).2.refusals + o.refused a ≤ rivals.length
    cases o with
    | commit =>
        cases a with
        | ok _ => exact h.refusals
        | error e =>
            -- a transaction that is refused is not current
            have hsafe := (inv_of_reachable hreach').2 i₀
            have hp' : d.erase.prog i₀ = .call .commit k := hp
            rw [hp'] at hsafe
            obtain ⟨-, tx, htx₀, -⟩ := hsafe.1
            refine (h.current tx htx₀).resolve_left fun hcurrent => ?_
            have hexec : (exec .commit ((d.loc i₀).1.on d.glob)).1 = .ok () := by
              have htx₁ : (d.loc i₀).1.tx = some tx := htx₀
              rw [Caller.on, htx₁]
              exact congrArg Prod.fst (if_pos hcurrent.valid)
            cases ha.trans hexec
    | _ => exact h.refusals
  · rw [Interleave.Config.next_loc_self, hverdict, htx]
    intro tx htx'
    rcases step_cases hreach' hp hact with ⟨-, rfl⟩ | ⟨-, -, hnone, -⟩
    · by_cases hall : ∀ t, (d.loc i₀).1.tx = some t → Tx.Current t d.glob
      · exact Or.inl (current_exec o hall tx htx')
      · push Not at hall
        obtain ⟨t, ht, hnot⟩ := hall
        refine Or.inr ?_
        have hovertaken := (h.current t ht).resolve_left hnot
        cases o with
        | commit =>
            rw [exec_commit_tx] at htx'
            cases htx'
        | _ => exact hovertaken
    · rw [htx, htx'] at hnone
      cases hnone

/-- Another call makes a step. -/
theorem Watching.other {i : ι} {o : CacheOp} {k : Except JavaException o.Res → CacheProgram Unit}
    {a : Except JavaException o.Res} {g : Caches} {l : Watched} (hne : i ≠ i₀)
    (hreach : Interleave.Reachable (ReliableFor i₀) (initial caches₀ f clock) d.erase)
    (h : Watching f i₀ (initial caches₀ f clock) rivals d) (hp : d.prog i = .call o k)
    (hR : Interleave.withGhost (ReliableFor i₀) (verdicts f) i d.glob (d.loc i) o a g l) :
    ∃ rivals', Watching f i₀ (initial caches₀ f clock) rivals' (d.next i (k a) l g) := by
  have hs := Interleave.step_erase (Interleave.Step.of i o k a g l hp hR)
  have hreach' := acts_of_reliableFor hreach
  have hreach'' := acts_of_reliableFor (hreach.tail hs)
  have hloc : (d.next i (k a) l g).loc i₀ = d.loc i₀ := d.next_loc_of_ne hne.symm _ _ _
  have hhopeless : ((d.next i (k a) l g).loc i₀).2.hopeless →
      Interleave.Past (ReliableFor i₀) (initial caches₀ f clock) (d.next i (k a) l g).erase
        (Hopeless (f i₀)) := by
    rw [hloc]
    exact fun hhopeless => (h.hopeless hhopeless).step hs
  rcases step_cases hreach' hp hR.1.1 with ⟨-, rfl⟩ | ⟨hfirst, hone, -, tx', htx', -, rfl, -⟩
  · refine ⟨rivals, hhopeless, h.overtook.step hs, ?_, ?_⟩
    · rw [hloc]
      exact h.refusals
    · rw [hloc]
      exact h.current
  · by_cases huser : (f i).request.userId = (f i₀).request.userId
    · -- a call of the same shopper commits: one more rival
      have hbefore : ¬ Returned d.erase i := by
        rw [returned_iff hreach', hfirst]
        nofun
      have hafter := (returned_iff hreach'' i).2
        (by rw [Interleave.Config.erase_next, Interleave.Config.next_loc_self]; exact hone)
      refine ⟨i :: rivals, hhopeless, h.overtook.cons hs hne huser hbefore hafter, ?_, ?_⟩
      · rw [hloc]
        exact h.refusals.trans (Nat.le_succ _)
      · rw [hloc]
        exact fun _ _ => Or.inr (Nat.succ_le_succ h.refusals)
    · refine ⟨rivals, hhopeless, h.overtook.step hs, ?_, ?_⟩
      · rw [hloc]
        exact h.refusals
      · rw [hloc]
        intro tx htx
        refine (h.current tx htx).imp_left fun hcurrent => hcurrent.apply
          (within_of_reachable hreach' i₀ tx htx) (within_of_reachable hreach' i tx' htx') ?_
        exact fun heq => huser (congrArg ShopperId.value heq).symm

/-- The invariant holds in every reachable configuration. -/
theorem watching_of_reachable
    (h : Interleave.Reachable (Interleave.withGhost (ReliableFor i₀) (verdicts f))
      ((initial caches₀ f clock).decorate ⟨False, 0⟩) d) :
    ∃ rivals, Watching f i₀ (initial caches₀ f clock) rivals d := by
  induction h with
  | refl => exact ⟨[], nofun, ⟨List.nodup_nil, nofun⟩, Nat.le_refl 0, nofun⟩
  | tail hreach hs ih =>
      obtain ⟨rivals, hwatching⟩ := ih
      have hreach' := Interleave.reachable_erase hreach
      cases hs with
      | of i o k a g l hp hR =>
          by_cases hi : i = i₀
          · subst hi
            exact ⟨rivals, hwatching.self hreach' hp hR⟩
          · exact hwatching.other hi hreach' hp hR

/-- What a call that has failed has met. -/
theorem verdict_of_failure {e : JavaException}
    (h : Interleave.Reachable (Interleave.withGhost (ReliableFor i₀) (verdicts f))
      ((initial caches₀ f clock).decorate ⟨False, 0⟩) d)
    (hr : d.prog i₀ = .ret (.error e)) :
    (f i₀).request.amount.toInt < 0 ∨ (d.loc i₀).2.hopeless ∨
      (d.loc i₀).2.refusals = PaymentFunction.maxRetryCount := by
  have hsafe := Interleave.safe_thread (S := watchSpec (f i₀)) ?_
    (safe_accept_watch (f i₀) (clock i₀)) h
  · rw [hr] at hsafe
    exact hsafe.resolve_left nofun
  · rintro g ⟨l, v⟩ o a g' ⟨l', v'⟩ ⟨⟨-, hreliable⟩, hverdict⟩ -
    obtain ⟨ha, hl⟩ := hreliable rfl
    change v' = v.next (f i₀) g o a at hverdict
    change l' = _ at hl
    rw [hverdict, hl, ha]
    exact watchSpec_of_exec (f i₀) g (l, v) o

/-- **Why a call fails**: its own methods do not throw, those of any number of other calls may, and
they are called in any order.  If it fails then its amount is negative, or there was a moment at
which the payment could not be made, or three other calls for the same shopper have returned. -/
theorem fails_only_if {e : JavaException}
    (h : Interleave.Reachable (ReliableFor i₀) (initial caches₀ f clock) c)
    (hr : c.prog i₀ = .ret (.error e)) :
    (f i₀).request.amount.toInt < 0 ∨
      Interleave.Past (ReliableFor i₀) (initial caches₀ f clock) c (Hopeless (f i₀)) ∨
      ∃ rivals, Rivals f i₀ c rivals ∧ PaymentFunction.maxRetryCount ≤ rivals.length := by
  obtain ⟨d, hreach, rfl⟩ := Interleave.exists_ghost (ReliableFor i₀) (verdicts f) ⟨False, 0⟩ h
  obtain ⟨rivals, hwatching⟩ := watching_of_reachable hreach
  rcases verdict_of_failure hreach hr with hneg | hhopeless | hrefusals
  · exact Or.inl hneg
  · exact Or.inr (Or.inl (hwatching.hopeless hhopeless))
  · exact Or.inr (Or.inr ⟨rivals, hwatching.overtook, hrefusals.symm.le.trans hwatching.refusals⟩)

/-! ### A schedule -/

omit [DecidableEq ι] in
theorem reliableFor_turn (i₀ i : ι) (o : CacheOp) (c : Caches) (l : Caller)
    (a : Except JavaException o.Res) (c' : Caches) (l' : Caller)
    (h : turn (i, none) o c l = some (a, c', l')) : ReliableFor i₀ i c l o a c' l' := by
  refine ⟨acts_turn (i, none) o c l a c' l' h, fun _ => ?_⟩
  cases h
  exact ⟨rfl, rfl⟩

/-- Calls that pay out of the same wallet, each of the first four with its own token. -/
def fourTokens (i : Nat) : PaymentFunction :=
  ⟨⟨1, ["abcd", "efgh", "ijkl", "mnop"].getD i "", 1, 10⟩, "Demo Store"⟩

/-- A shopper with four unused tokens. -/
def fourUnused : Caches :=
  { oneShopper 100 0 with tokens := ⟨fun _ => some ⟨.unused⟩, fun _ => 0⟩ }

/-- Each attempt of the first call has read its wallet when one of the others makes its payment. -/
def overtaken : Interleave.Config Nat CacheOp CacheOp.Res JavaException Unit Caller Caches :=
  ([1, 2, 3].flatMap fun rival =>
    List.replicate 8 0 ++ List.replicate 9 rival ++ List.replicate 2 0).foldl
      (.play id fun i => turn (i, none)) (initial fourUnused fourTokens fun _ _ => ⟨0, 0⟩)

/-- The first call fails, although the wallet covers its amount at any moment. -/
theorem fails_only_if_overtaken : (∃ e, overtaken.prog 0 = .ret (.error e)) ∧
    ((fourTokens 0).request.amount.toInt < 0 ∨
      Interleave.Past (ReliableFor 0) (initial fourUnused fourTokens fun _ _ => ⟨0, 0⟩) overtaken
        (Hopeless (fourTokens 0)) ∨
      ∃ rivals, Rivals fourTokens 0 overtaken rivals ∧
        PaymentFunction.maxRetryCount ≤ rivals.length) :=
  ⟨⟨_, rfl⟩, fails_only_if (Interleave.reachable_play (reliableFor_turn 0) _ _) rfl⟩

end RedHatPay.Grid
