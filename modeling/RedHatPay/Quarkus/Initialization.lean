/-
**The Quarkus service: the caches after their initialisation.**

`InitializeResource.initialize` clears four caches, hands each full batch of users and of wallets to
`putAllAsync`, hands over the last batch after the loop, and waits for none of them.  Once all puts
have completed, the caches are those after a loop that puts every user and every wallet by itself
and waits for it.

Main definitions:

* `RedHatPay.Quarkus.InitializeResource.initializePlainly` — **the plain loop**;
* `RedHatPay.Quarkus.puts` — the puts of some users, in the order of the plain loop;
* `RedHatPay.Quarkus.Initialised` — what the caches are to hold.

Main results:

* `RedHatPay.Quarkus.handsOver_fill` — the loop with its batches hands over these puts;
* `RedHatPay.Quarkus.apply_comm_of_mem_puts` — they commute;
* `RedHatPay.Quarkus.initialize_eq_initializePlainly` — **the batches do not show**, in whatever
  order the puts complete;
* `RedHatPay.Quarkus.initializeCaches_spec` — nor do they if every batch is put at once.
-/

import Mathlib.Data.List.Nodup
import Mathlib.Data.List.Perm.Basic
import RedHatPay.Quarkus.AsynchronousPuts

set_option relaxedAutoImplicit false
set_option autoImplicit false

namespace RedHatPay.Quarkus

open Program Grid Deferred

/-! ### Maps -/

/-- Putting a value under each of some keys. -/
theorem putAll_map {K V : Type} [DecidableEq K] (keys : List K) (value : K → V)
    (t : K → Option V) (k : K) :
    putAll (keys.map fun k => (k, value k)) t k = if k ∈ keys then some (value k) else t k := by
  rw [putAll, List.foldl_map]
  exact Transaction.foldl_update keys value t k

/-- The map compares the keys of shoppers as the code does. -/
theorem put_eq_equals {V : Type} (l : List (ShopperKey × V)) (key : ShopperKey) (v : V) :
    InitializeResource.put l key v = l.filter (fun e => ¬ e.1.equals key) ++ [(key, v)] := by
  simp only [ShopperKey.equals_iff]
  rfl

/-! ### The keys of the users -/

/-- The keys of the users from `i` on, `n` of them. -/
def userKeys (i n : Nat) : List ShopperKey := (List.range' i n).map fun j => ⟨Int32.ofNat j⟩

theorem mem_userKeys {n : Int32} {key : ShopperKey} :
    key ∈ userKeys 0 n.toInt.toNat ↔ 0 ≤ key.ownerId.toInt ∧ key.ownerId.toInt < n.toInt := by
  rw [← exists_ofNat_iff, userKeys, List.mem_map]
  constructor
  · rintro ⟨j, hj, rfl⟩
    exact ⟨j, by simpa using hj, rfl⟩
  · rintro ⟨j, hj, hkey⟩
    exact ⟨j, by simpa using hj, congrArg ShopperKey.mk hkey⟩

theorem userKeys_concat (i n : Nat) :
    userKeys i (n + 1) = userKeys i n ++ [⟨Int32.ofNat (i + n)⟩] := by
  rw [userKeys, List.range'_1_concat, List.map_append]
  rfl

theorem userKeys_append (i m n : Nat) :
    userKeys i (m + n) = userKeys i m ++ userKeys (i + m) n := by
  rw [userKeys, ← List.range'_append_1, List.map_append]
  rfl

/-- No key occurs twice. -/
theorem nodup_userKeys {i n : Nat} (hbound : i + n ≤ 2 ^ 31) : (userKeys i n).Nodup := by
  refine List.Nodup.map_on (fun j hj j' hj' heq => ?_) List.nodup_range'
  have hlt : j < 2 ^ 31 := by
    have := List.mem_range'_1.1 hj
    omega
  have hlt' : j' < 2 ^ 31 := by
    have := List.mem_range'_1.1 hj'
    omega
  exact ofNat_inj_of_lt hlt hlt' (congrArg ShopperKey.ownerId heq)

/-- The user under a key. -/
def userEntity (key : ShopperKey) : ShopperEntity := ⟨"user" ++ toString key.ownerId.toInt⟩

theorem userEntity_ofNat {i : Nat} (hi : i < 2 ^ 31) :
    userEntity ⟨Int32.ofNat i⟩ = ⟨"user" ++ toString i⟩ := by
  rw [userEntity, Int32.toInt_ofNat_of_lt hi]
  rfl

/-- The counter of the loop does not overflow. -/
theorem zero_add_userNum_le (userNum : Int32) : 0 + userNum.toInt.toNat ≤ 2 ^ 31 := by
  have hlt := userNum.toInt_lt
  omega

/-! ### The plain loop -/

namespace InitializeResource

/-- A loop without batches, from the user `i` on, with `n` users to go: every user and every wallet
is put by itself. -/
def fillPlainly (amount autoCharge : Int32) : Nat → Nat → RemoteProgram Unit
  | _, 0 => return ()
  | i, n + 1 => do
      perform (RemoteOp.putAllUser [(⟨Int32.ofNat i⟩, ⟨"user" ++ toString i⟩)])
      perform (RemoteOp.putAllWallet [(⟨Int32.ofNat i⟩, ⟨amount, autoCharge⟩)])
      fillPlainly amount autoCharge (i + 1) n

/-- The initialisation without batches. -/
def initializePlainly (userNum amount autoCharge : Int32) : RemoteProgram Unit := do
  perform RemoteOp.clearPayment
  perform RemoteOp.clearUser
  perform RemoteOp.clearToken
  perform RemoteOp.clearWallet
  fillPlainly amount autoCharge 0 userNum.toInt.toNat

end InitializeResource

open InitializeResource

/-- The puts of some users, in the order of the plain loop. -/
def puts (amount autoCharge : Int32) (keys : List ShopperKey) : List EntryPut :=
  keys.flatMap fun key => [.user key (userEntity key), .wallet key ⟨amount, autoCharge⟩]

/-- The deployment after the caches have been cleared. -/
def cleared (s : Deployment) : Deployment :=
  s.withCaches ⟨fun _ => none, s.caches.wallets.clear, s.caches.tokens.clear,
    s.caches.payments.clear⟩

/-- The plain loop makes these puts one after the other. -/
theorem run_fillPlainly (w : Occasion) (amount autoCharge : Int32) (n i : Nat)
    (hbound : i + n ≤ 2 ^ 31) (s : Deployment) :
    run (remote w) (fillPlainly amount autoCharge i n) s =
      (.ok (), (puts amount autoCharge (userKeys i n)).foldl EntryPut.apply s) := by
  induction n generalizing i s with
  | zero => rfl
  | succ n ih =>
      have hi : i < 2 ^ 31 := by omega
      have hputs : puts amount autoCharge (userKeys i (n + 1)) =
          .user ⟨Int32.ofNat i⟩ ⟨"user" ++ toString i⟩ ::
            .wallet ⟨Int32.ofNat i⟩ ⟨amount, autoCharge⟩ ::
            puts amount autoCharge (userKeys (i + 1) n) := by
        rw [← userEntity_ofNat hi]
        rfl
      rw [hputs]
      exact ih (i + 1) (by omega) _

theorem run_initializePlainly (w : Occasion) (userNum amount autoCharge : Int32) (s : Deployment) :
    run (remote w) (initializePlainly userNum amount autoCharge) s =
      (.ok (), (puts amount autoCharge (userKeys 0 userNum.toInt.toNat)).foldl EntryPut.apply
        (cleared s)) :=
  run_fillPlainly w amount autoCharge _ 0 (zero_add_userNum_le userNum) (cleared s)

/-! ### What the loop with its batches hands over -/

theorem puts_append (amount autoCharge : Int32) (keys keys' : List ShopperKey) :
    puts amount autoCharge (keys ++ keys') =
      puts amount autoCharge keys ++ puts amount autoCharge keys' :=
  List.flatMap_append

/-- The entries of a batch. -/
def entries {V : Type} (value : ShopperKey → V) (keys : List ShopperKey) : List (ShopperKey × V) :=
  keys.map fun key => (key, value key)

/-- The next user is not in the batch yet, so that no entry is overwritten. -/
theorem put_entries {V : Type} (value : ShopperKey → V) {i n : Nat} (hbound : i + n < 2 ^ 31) :
    put (entries value (userKeys i n)) ⟨Int32.ofNat (i + n)⟩ (value ⟨Int32.ofNat (i + n)⟩) =
      entries value (userKeys i (n + 1)) := by
  have hnodup : (userKeys i (n + 1)).Nodup := nodup_userKeys hbound
  rw [userKeys_concat] at hnodup
  have hkeep : (entries value (userKeys i n)).filter
      (fun e => ¬ e.1.equals ⟨Int32.ofNat (i + n)⟩) = entries value (userKeys i n) := by
    refine List.filter_eq_self.2 fun e he => decide_eq_true fun hequals => ?_
    obtain ⟨key, hkey, rfl⟩ := List.mem_map.1 he
    have heq := ShopperKey.equals_iff.1 hequals
    exact List.disjoint_of_nodup_append hnodup hkey (List.mem_singleton.2 heq)
  rw [put_eq_equals, hkeep, userKeys_concat, entries, entries, List.map_append]
  rfl

/-- A batch hands over the puts of its users: first all users, then all wallets. -/
theorem handsOver_flush (w : Occasion) (amount autoCharge : Int32) (keys : List ShopperKey) :
    ∃ l, HandsOver (asynchronous w) (flush (entries userEntity keys)
      (entries (fun _ => ⟨amount, autoCharge⟩) keys)) (.ok ()) l ∧
      l.Perm (puts amount autoCharge keys) := by
  refine ⟨_, (HandsOver.perform rfl).bind (HandsOver.perform rfl), ?_⟩
  rw [entries, entries, List.map_map, List.map_map]
  have hperm := List.map_append_flatMap_perm keys (fun key => EntryPut.user key (userEntity key))
    fun key => [EntryPut.wallet key ⟨amount, autoCharge⟩]
  rwa [← List.map_eq_flatMap] at hperm

/-- **The loop with its batches** hands over the puts of all users, those of the running batch
included: no user is lost or repeated where a batch ends. -/
theorem handsOver_fill (w : Occasion) (amount autoCharge : Int32) (n i batchCount : Nat)
    (hbound : i + batchCount + n ≤ 2 ^ 31) :
    ∃ l, HandsOver (asynchronous w) (fill amount autoCharge (i + batchCount) n batchCount
        (entries userEntity (userKeys i batchCount))
        (entries (fun _ => ⟨amount, autoCharge⟩) (userKeys i batchCount))) (.ok ()) l ∧
      l.Perm (puts amount autoCharge (userKeys i (batchCount + n))) := by
  induction n generalizing i batchCount with
  | zero =>
      rw [fill]
      by_cases hzero : batchCount = 0
      · subst hzero
        exact ⟨[], .ret _, List.Perm.refl _⟩
      · rw [if_pos hzero]
        exact handsOver_flush w amount autoCharge _
  | succ n ih =>
      have hnext : i + batchCount < 2 ^ 31 := by omega
      have hcount : batchCount + (n + 1) = batchCount + 1 + n := by omega
      rw [fill, ← userEntity_ofNat hnext, put_entries userEntity hnext,
        put_entries (fun _ => (⟨amount, autoCharge⟩ : WalletEntity)) hnext, hcount]
      by_cases hfull : batchCount + 1 = batchEntryNum
      · rw [if_pos hfull]
        obtain ⟨l, hflush, hl⟩ := handsOver_flush w amount autoCharge (userKeys i (batchCount + 1))
        obtain ⟨l', hrest, hl'⟩ := ih (i + (batchCount + 1)) 0 (by omega)
        refine ⟨l ++ l', hflush.bind hrest, ?_⟩
        rw [userKeys_append, puts_append]
        rw [Nat.zero_add] at hl'
        exact hl.append hl'
      · rw [if_neg hfull]
        exact ih i (batchCount + 1) (by omega)

/-- The initialisation clears the caches and then hands over the puts of all users. -/
theorem plan_initializeCaches (w : Occasion) (s : Deployment)
    (userNum amount autoCharge : Int32) :
    ∃ l, Plan (asynchronous w) (initializeCaches userNum amount autoCharge) s (.ok ()) (cleared s)
        l ∧
      l.Perm (puts amount autoCharge (userKeys 0 userNum.toInt.toNat)) := by
  obtain ⟨l, hfill, hl⟩ := handsOver_fill w amount autoCharge userNum.toInt.toNat 0 0
    (zero_add_userNum_le userNum)
  rw [Nat.zero_add] at hl
  exact ⟨l, .atOnce rfl (.atOnce rfl (.atOnce rfl (.atOnce rfl (.handsOver hfill)))), hl⟩

/-! ### The caches after the puts -/

theorem mem_puts {amount autoCharge : Int32} {keys : List ShopperKey} {e : EntryPut} :
    e ∈ puts amount autoCharge keys ↔ ∃ key ∈ keys,
      e = .user key (userEntity key) ∨ e = .wallet key ⟨amount, autoCharge⟩ := by
  simp [puts]

/-- These puts commute: two of them are under different keys, in different caches, or the same. -/
theorem apply_comm_of_mem_puts {amount autoCharge : Int32} {keys : List ShopperKey}
    {e e' : EntryPut} (he : e ∈ puts amount autoCharge keys)
    (he' : e' ∈ puts amount autoCharge keys) (s : Deployment) :
    EntryPut.apply (EntryPut.apply s e) e' = EntryPut.apply (EntryPut.apply s e') e := by
  obtain ⟨key, -, rfl | rfl⟩ := mem_puts.1 he
  · obtain ⟨key', -, rfl | rfl⟩ := mem_puts.1 he'
    · by_cases hkey : key = key'
      · rw [hkey]
      · have hcomm := Function.update_comm hkey (some (userEntity key)) (some (userEntity key'))
          s.caches.users
        exact congrArg (fun users => s.withCaches { s.caches with users }) hcomm
    · rfl
  · obtain ⟨key', -, rfl | rfl⟩ := mem_puts.1 he'
    · rfl
    · by_cases hkey : key = key'
      · rw [hkey]
      · have hcomm := s.caches.wallets.put_comm hkey ⟨amount, autoCharge⟩ ⟨amount, autoCharge⟩
        exact congrArg (fun wallets => s.withCaches { s.caches with wallets }) hcomm

theorem nodup_puts {amount autoCharge : Int32} {keys : List ShopperKey} (h : keys.Nodup) :
    (puts amount autoCharge keys).Nodup := by
  refine List.nodup_flatMap.2 ⟨fun key _ => by simp, h.imp fun {key key'} hne => ?_⟩
  simp [Function.onFun, hne.symm]

/-- Is the key that of a user, when there are to be `userNum` of them? -/
def IsUser (userNum : Int32) (key : ShopperKey) : Prop :=
  0 ≤ key.ownerId.toInt ∧ key.ownerId.toInt < userNum.toInt

instance IsUser.decidable (userNum : Int32) (key : ShopperKey) : Decidable (IsUser userNum key) :=
  inferInstanceAs (Decidable (_ ∧ _))

/-- The caches hold exactly the users with their wallets. -/
structure Initialised (userNum amount autoCharge : Int32) (c : Caches) : Prop where
  users : ∀ key, c.users key =
    if IsUser userNum key then some ⟨"user" ++ toString key.ownerId.toInt⟩ else none
  wallets : ∀ key, c.wallets.data key =
    if IsUser userNum key then some ⟨amount, autoCharge⟩ else none
  tokens : ∀ key, c.tokens.data key = none
  payments : ∀ key, c.payments.data key = none

/-- Only the entries matter. -/
theorem Initialised.of_sameEntries {userNum amount autoCharge : Int32} {s t : Deployment}
    (ht : Initialised userNum amount autoCharge t.caches) (h : SameEntries s t) :
    Initialised userNum amount autoCharge s.caches where
  users key := (congrFun h.users key).trans (ht.users key)
  wallets key := (congrFun h.wallets key).trans (ht.wallets key)
  tokens key := (congrFun h.tokens key).trans (ht.tokens key)
  payments key := (congrFun h.payments key).trans (ht.payments key)

theorem filterMap_userEntry_puts (amount autoCharge : Int32) (keys : List ShopperKey) :
    (puts amount autoCharge keys).filterMap EntryPut.userEntry = entries userEntity keys := by
  induction keys with
  | nil => rfl
  | cons key keys ih => exact congrArg ((key, userEntity key) :: ·) ih

theorem filterMap_walletEntry_puts (amount autoCharge : Int32) (keys : List ShopperKey) :
    (puts amount autoCharge keys).filterMap EntryPut.walletEntry =
      entries (fun _ => ⟨amount, autoCharge⟩) keys := by
  induction keys with
  | nil => rfl
  | cons key keys ih => exact congrArg ((key, (⟨amount, autoCharge⟩ : WalletEntity)) :: ·) ih

/-- The puts of all users leave what the caches are to hold. -/
theorem initialised_puts (userNum amount autoCharge : Int32) (s : Deployment) :
    Initialised userNum amount autoCharge ((puts amount autoCharge
      (userKeys 0 userNum.toInt.toNat)).foldl EntryPut.apply (cleared s)).caches := by
  have huser : ∀ key, key ∈ userKeys 0 userNum.toInt.toNat ↔ IsUser userNum key :=
    fun _ => mem_userKeys
  obtain ⟨husers, hwallets, htokens, hpayments⟩ :=
    foldl_apply (puts amount autoCharge (userKeys 0 userNum.toInt.toNat)) (cleared s)
  rw [filterMap_userEntry_puts] at husers
  rw [filterMap_walletEntry_puts] at hwallets
  refine ⟨fun key => ?_, fun key => ?_, fun key => ?_, fun key => ?_⟩
  · rw [husers, entries, putAll_map]
    simp only [huser]
    rfl
  · rw [hwallets, entries, putAll_map]
    simp only [huser]
    rfl
  · rw [htokens]
    rfl
  · rw [hpayments]
    rfl

/-! ### The initialisation -/

/-- **The batches do not show**: once the initialisation has returned and all its puts have
completed, in whatever order, the caches hold exactly the users with their wallets, every user and
every wallet has been put once, and the deployment is the one that the plain loop leaves. -/
theorem initialize_eq_initializePlainly (w : Occasion) (s : Deployment)
    (userNum amount autoCharge : Int32) {c : Config RemoteOp RemoteOp.Res JavaException Unit
      Deployment EntryPut} {r : Except JavaException Unit}
    (hc : Reachable (asynchronous w) (.start (initializeCaches userNum amount autoCharge) s) c)
    (hr : c.Complete r) :
    r = .ok () ∧ Initialised userNum amount autoCharge c.now.caches ∧ c.settled.Nodup ∧
    (∀ e, e ∈ c.settled ↔ ∃ key, IsUser userNum key ∧
      (e = .user key ⟨"user" ++ toString key.ownerId.toInt⟩ ∨
        e = .wallet key ⟨amount, autoCharge⟩)) ∧
    c.now = (run (remote w) (initializePlainly userNum amount autoCharge) s).2 := by
  obtain ⟨l, hplan, hl⟩ := plan_initializeCaches w s userNum amount autoCharge
  obtain ⟨hout, hsettled, hnow⟩ := hplan.complete_of_comm hc hr hl fun e he e' he' t =>
    apply_comm_of_mem_puts he he' t
  refine ⟨hout, ?_, ?_, fun e => ?_, ?_⟩
  · rw [hnow]
    exact initialised_puts userNum amount autoCharge s
  · exact hsettled.nodup_iff.2 (nodup_puts (nodup_userKeys (zero_add_userNum_le userNum)))
  · rw [hsettled.mem_iff, mem_puts]
    exact exists_congr fun key => and_congr_left fun _ => mem_userKeys
  · rw [hnow, run_initializePlainly]
    rfl

/-- One user more than a batch holds. -/
theorem initialize_eq_initializePlainly_batch :
    ∃ c, Reachable (asynchronous (.calm fun _ => ⟨0, 0⟩))
        (.start (initializeCaches 5001 300 20) ⟨Grid.oneShopper 7 8, []⟩) c ∧ c.Complete (.ok ()) ∧
      c.now.caches.users ⟨4999⟩ = some ⟨"user4999"⟩ ∧
      c.now.caches.users ⟨5000⟩ = some ⟨"user5000"⟩ ∧ c.now.caches.users ⟨5001⟩ = none ∧
      c.now.caches.wallets.data ⟨5000⟩ = some ⟨300, 20⟩ := by
  obtain ⟨c, r, hc, hr⟩ := exists_complete (x := asynchronous (.calm fun _ => ⟨0, 0⟩))
    (.start (initializeCaches 5001 300 20) ⟨Grid.oneShopper 7 8, []⟩)
  obtain ⟨rfl, hinit, -⟩ := initialize_eq_initializePlainly _ _ _ _ _ hc hr
  exact ⟨c, hc, hr, hinit.users ⟨4999⟩, hinit.users ⟨5000⟩, hinit.users ⟨5001⟩,
    hinit.wallets ⟨5000⟩⟩

/-- If every batch is put as a whole, before the next call, the caches hold the same entries. -/
theorem run_initializeCaches (w : Occasion) (s : Deployment) (userNum amount autoCharge : Int32) :
    (run (remote w) (initializeCaches userNum amount autoCharge) s).1 = .ok () ∧
    Initialised userNum amount autoCharge
      (run (remote w) (initializeCaches userNum amount autoCharge) s).2.caches := by
  obtain ⟨l, hfill, hl⟩ := handsOver_fill w amount autoCharge userNum.toInt.toNat 0 0
    (zero_add_userNum_le userNum)
  rw [Nat.zero_add] at hl
  have hsame : SameEntries (cleared s) (cleared s) := ⟨rfl, rfl, rfl, rfl⟩
  obtain ⟨hout, hrun⟩ := hfill.run (SameEntries.remote w) hsame
  have hputs : l.foldl EntryPut.apply (cleared s) =
      (puts amount autoCharge (userKeys 0 userNum.toInt.toNat)).foldl EntryPut.apply (cleared s) :=
    hl.foldl_eq' (fun e he e' he' t => apply_comm_of_mem_puts (hl.subset he) (hl.subset he') t) _
  refine ⟨hout, (initialised_puts userNum amount autoCharge s).of_sameEntries ?_⟩
  rw [← hputs]
  exact hrun

/-- **The wallets of the users**: after the initialisation exactly the users have a wallet, with the
given amounts. -/
theorem initializeCaches_spec (w : Occasion) (s : Deployment) (userNum amount autoCharge : Int32)
    (key : ShopperKey) :
    (run (remote w) (initializeCaches userNum amount autoCharge) s).1 = .ok () ∧
    (run (remote w) (initializeCaches userNum amount autoCharge) s).2.caches.wallets.data key =
      if 0 ≤ key.ownerId.toInt ∧ key.ownerId.toInt < userNum.toInt then
        some ⟨amount, autoCharge⟩ else none := by
  obtain ⟨hout, hinit⟩ := run_initializeCaches w s userNum amount autoCharge
  exact ⟨hout, hinit.wallets key⟩

end RedHatPay.Quarkus
