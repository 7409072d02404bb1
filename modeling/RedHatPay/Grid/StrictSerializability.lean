/-
**The data grid: concurrent calls are strictly serializable.**

What happens to the committed caches between two points of a run is that the calls that return
normally in between charge their wallets one after the other, each on what the ones before it have
left.  So a call that begins after another one has returned is never ordered before it; and nothing
else ever happens to the caches, however many attempts fail and wherever they fail.

* `RedHatPay.Grid.step_cases` — what a step of concurrent calls does;
* `RedHatPay.Grid.returned_iff` — a call that has committed has returned;
* `RedHatPay.Grid.Charging`, `RedHatPay.Grid.SerialFrom` — one call after the other;
* `RedHatPay.Grid.strictly_serializable` — **strict serializability**, between any two points of a
  run.
-/

import RedHatPay.Grid.NoDoubleCharge

set_option relaxedAutoImplicit false
set_option autoImplicit false

namespace RedHatPay.Grid

open Program Transaction

variable {ι : Type} [DecidableEq ι] {caches₀ : Caches} {f : ι → PaymentFunction}
  {clock : ι → Nat → LocalDateTime}
  {c c' : Interleave.Config ι CacheOp CacheOp.Res JavaException Unit Caller Caches}

/-! ### One step -/

/-- **What a step of concurrent calls does**: nothing to the committed caches; or it is the commit
of a call that has not committed before, and charges a wallet. -/
theorem step_cases (h : Interleave.Reachable Acts (initial caches₀ f clock) c) {i : ι}
    {o : CacheOp} {k : Except JavaException o.Res → CacheProgram Unit}
    {a : Except JavaException o.Res} {g : Caches} {l : Caller} (hp : c.prog i = .call o k)
    (hact : Acts i c.glob (c.loc i) o a g l) :
    (l.commits = (c.loc i).commits ∧ g = c.glob) ∨
    ((c.loc i).commits = 0 ∧ l.commits = 1 ∧ l.tx = none ∧ ∃ tx, (c.loc i).tx = some tx ∧
      c.glob.valid tx = true ∧ g = c.glob.apply tx ∧
      ∃ amount now p, (f i).request.amount = amount.value ∧
        c.glob.toStore.pay CachePaymentRepository.entity ((f i).request.input amount) now =
          (some p, g.toStore)) := by
  obtain ⟨⟨order, L, hinv⟩, hsafe⟩ := inv_of_reachable h
  have husers : c.glob.users = caches₀.users :=
    Interleave.glob_of_reachable (K := fun g : Caches => g.users = caches₀.users)
      (fun _ _ _ _ _ _ _ hg hact => (users_of_acts hact).trans hg) rfl h
  have hi := hsafe i
  rw [hp] at hi
  obtain ⟨-, hcommits, -⟩ := callerSpec_of_acts (f := f i) husers hact
  rcases acts_cases hi.1 hact with ⟨hzero, rfl⟩ |
    ⟨hone, hfirst, hnone, tx, htx, hcharges, hvalid, rfl⟩
  · exact Or.inl ⟨by rw [hcommits, hzero, Nat.add_zero], rfl⟩
  · have hcharges' : Charges c.glob.users (f i) tx := by rw [husers]; exact hcharges
    exact Or.inr ⟨hfirst, by rw [hcommits, hone, hfirst], hnone, tx, htx, hvalid, rfl,
      hcharges'.pay_eq (hinv.consistent i tx htx) hvalid⟩

/-! ### A call that has committed has returned -/

/-- A call does nothing more once it has committed. -/
def quietSpec : Spec CacheOp CacheOp.Res JavaException Caller where
  pre l _ := l.commits = 0
  post l o a l' := l'.commits = l.commits + o.committed a

omit [DecidableEq ι] in
theorem quietSpec_of_acts {i : ι} {g g' : Caches} {l l' : Caller} {o : CacheOp}
    {a : Except JavaException o.Res} (h : Acts i g l o a g' l') : quietSpec.post l o a l' := by
  cases h <;> rfl

/-- What does not belong to the transaction manager does not commit. -/
theorem CacheOp.committed_of_not_manages {o : CacheOp} (h : o.manages = false)
    (a : Except JavaException o.Res) : o.committed a = 0 := by
  cases o with
  | commit => cases h
  | _ => rfl

/-- The repositories do not call the transaction manager. -/
theorem unmanaged_repositories (store : CoffeeStore) (o : RepoOp) :
    Calls (fun o => o.manages = false) (repositories store o) := by
  cases o with
  | loadToken shopperId tokenId =>
      refine Calls.orThrow ?_ _
      exact ⟨rfl, fun _ => trivial⟩
  | storeToken token =>
      refine Calls.orThrow ?_ _
      exact ⟨rfl, fun _ => trivial⟩
  | storePayment p =>
      refine Calls.bind trivial fun _ => ?_
      exact ⟨rfl, fun _ => trivial⟩
  | createToken token | loadStore id | loadPoint id | storePoint point => trivial
  | _ => exact ⟨rfl, fun _ => trivial⟩

theorem quiet_tryPay (f : PaymentFunction) (amount : Money) (now : LocalDateTime) {l : Caller}
    (hl : l.commits = 0) :
    Safe quietSpec (fun r l' => (r.isOk = true ∧ l'.commits = 1) ∨
      (r.isOk = false ∧ l'.commits = 0)) (f.tryPay amount now) l := by
  refine (safe_bind _ _ _ l).2 ⟨hl, fun a l₁ h₁ => ?_⟩
  have hl₁ : l₁.commits = 0 := h₁.trans hl
  cases a with
  | error e => exact Or.inr ⟨rfl, hl₁⟩
  | ok _ =>
      have hpay := (Calls.implement (unmanaged_repositories f.store)
        (TokenUsecaseImpl.pay (f.request.input amount) now)).safe (S := quietSpec)
        (I := fun l => l.commits = 0) (fun _ _ _ hs => hs)
        (fun s o a s' ho hs hpost => hpost.trans
          (congrArg₂ (· + ·) hs (CacheOp.committed_of_not_manages ho a))) hl₁
      refine (safe_bind _ _ _ l₁).2 (hpay.mono fun r l₂ hl₂ => ?_)
      cases r with
      | error e => exact Or.inr ⟨rfl, hl₂⟩
      | ok p =>
          refine ⟨hl₂, fun a l₃ h₃ => ?_⟩
          have hcommits : l₃.commits = l₂.commits + CacheOp.committed .commit a := h₃
          rw [hl₂] at hcommits
          cases a with
          | error e => exact Or.inr ⟨rfl, hcommits⟩
          | ok _ => exact Or.inl ⟨rfl, hcommits⟩

theorem quiet_tryLoop (f : PaymentFunction) (amount : Money) (clock : Nat → LocalDateTime)
    {l : Caller} {tryCount n : Nat} (hl : l.commits = 0) :
    Safe quietSpec (fun r l' => (r = .ok true ∧ l'.commits = 1) ∨ (r = .ok false ∧ l'.commits = 0))
      (f.tryLoop amount clock tryCount n) l := by
  induction n generalizing l tryCount with
  | zero => exact Or.inr ⟨rfl, hl⟩
  | succ n ih =>
      refine (safe_bind _ _ _ l).2 ((safe_attempt _ _ l).2
        ((quiet_tryPay f amount (clock tryCount) hl).mono fun r l₁ h₁ => ?_))
      cases r with
      | ok _ => exact Or.inl ⟨rfl, (h₁.resolve_right fun h => by cases h.1).2⟩
      | error e =>
          have hl₁ : l₁.commits = 0 := (h₁.resolve_left fun h => by cases h.1).2
          refine (safe_bind _ _ _ l₁).2 ((safe_attempt _ _ l₁).2 ⟨hl₁, fun a l₂ h₂ => ?_⟩)
          exact ih (h₂.trans hl₁)

/-- **A call that has committed does nothing more**, and returns. -/
theorem quiet_accept (f : PaymentFunction) (clock : Nat → LocalDateTime) :
    Safe quietSpec (fun r l => r = .ok () ↔ l.commits = 1) (f.accept clock) .fresh := by
  refine (safe_bind _ _ _ _).2 ?_
  cases Money.new f.request.amount with
  | error e => exact iff_of_false nofun nofun
  | ok amount =>
      refine (safe_bind _ _ _ _).2 ((quiet_tryLoop f amount clock rfl).mono fun r l h => ?_)
      rcases h with ⟨rfl, hcommits⟩ | ⟨rfl, hcommits⟩
      · exact iff_of_true rfl hcommits
      · refine iff_of_false nofun fun h => ?_
        rw [hcommits] at h
        cases h

/-- The call has returned normally. -/
def Returned (c : Interleave.Config ι CacheOp CacheOp.Res JavaException Unit Caller Caches)
    (i : ι) : Prop :=
  c.prog i = .ret (.ok ())

theorem returned_iff (h : Interleave.Reachable Acts (initial caches₀ f clock) c) (i : ι) :
    Returned c i ↔ (c.loc i).commits = 1 := by
  have hsafe : Interleave.AllSafe (fun _ => quietSpec) (fun _ r l => r = .ok () ↔ l.commits = 1)
      c :=
    Interleave.safe_of_reachable (K := fun _ => True) (fun _ _ _ _ _ _ _ hg _ => hg)
      (fun _ _ _ _ _ _ _ _ hact _ => quietSpec_of_acts hact) trivial
      (fun i => quiet_accept (f i) (clock i)) h
  have hi := hsafe i
  rw [Returned]
  cases hp : c.prog i with
  | ret r =>
      rw [hp] at hi
      exact Iff.trans ⟨fun h => by cases h; rfl, congrArg _⟩ hi
  | call o k =>
      rw [hp] at hi
      refine iff_of_false nofun fun hone => ?_
      have hzero : (c.loc i).commits = 0 := hi.1
      rw [hzero] at hone
      cases hone

/-! ### One call after the other -/

/-- The calls charge their wallets one after the other, the last one first in the list, each on
what the ones before it have left. -/
inductive Charging (f : ι → PaymentFunction) :
    List ι → Store PaymentEntity → Store PaymentEntity → Prop
  | start (S : Store PaymentEntity) : Charging f [] S S
  | pay {order : List ι} {S S' S'' : Store PaymentEntity} (i : ι) {amount : Money}
      {now : LocalDateTime} {p : Payment} (h : Charging f order S S')
      (hamount : (f i).request.amount = amount.value)
      (hpay : S'.pay CachePaymentRepository.entity ((f i).request.input amount) now =
        (some p, S'')) : Charging f (i :: order) S S''

/-- From `c` on, the caches are those of charging for `order`, the calls that have returned normally
since. -/
structure SerialFrom (f : ι → PaymentFunction)
    (c c' : Interleave.Config ι CacheOp CacheOp.Res JavaException Unit Caller Caches)
    (order : List ι) : Prop where
  nodup : order.Nodup
  returned : ∀ i, i ∈ order ↔ ¬ Returned c i ∧ Returned c' i
  charging : Charging f order c.glob.toStore c'.glob.toStore

/-- **Strict serializability**: between any two points of a run of any number of calls, whichever
methods throw and in whatever order they are called. -/
theorem strictly_serializable (h₀ : Interleave.Reachable Acts (initial caches₀ f clock) c)
    (h : Interleave.Reachable Acts c c') : ∃ order, SerialFrom f c c' order := by
  induction h with
  | refl => exact ⟨[], List.nodup_nil, fun i => iff_of_false nofun fun h => h.1 h.2, .start _⟩
  | @tail c₁ c₂ hreach hs ih =>
      obtain ⟨order, hnodup, hreturned, hcharging⟩ := ih
      have h₁ : Interleave.Reachable Acts (initial caches₀ f clock) c₁ := h₀.trans hreach
      have h₂ : Interleave.Reachable Acts (initial caches₀ f clock) c₂ := h₁.tail hs
      simp only [returned_iff h₀, returned_iff h₁] at hreturned
      cases hs with
      | of i o k a g l hp hact =>
          rcases step_cases h₁ hp hact with ⟨hcommits, rfl⟩ |
            ⟨hfirst, hone, -, tx, -, -, rfl, amount, now, p, hamount, hpay⟩
          · refine ⟨order, hnodup, ?_, hcharging⟩
            simp only [returned_iff h₀, returned_iff h₂]
            refine c₁.forall_next (P := fun j _ l => j ∈ order ↔
              ¬ (c.loc j).commits = 1 ∧ l.commits = 1) ?_ fun j _ => hreturned j
            rw [hcommits]
            exact hreturned i
          · have hnot : ¬ (c₁.loc i).commits = 1 := by
              rw [hfirst]
              nofun
            have hi : i ∉ order := fun hi => hnot ((hreturned i).1 hi).2
            -- who has returned stays so, so that this call had not returned at `c` either
            have hstart : ¬ (c.loc i).commits = 1 := fun hstart =>
              hnot ((returned_iff h₁ i).1
                (Interleave.ret_of_reachable ((returned_iff h₀ i).2 hstart) hreach))
            refine ⟨i :: order, List.nodup_cons.2 ⟨hi, hnodup⟩, ?_, hcharging.pay i hamount hpay⟩
            simp only [returned_iff h₀, returned_iff h₂]
            refine c₁.forall_next (P := fun j _ l => j ∈ i :: order ↔
              ¬ (c.loc j).commits = 1 ∧ l.commits = 1)
              (iff_of_true List.mem_cons_self ⟨hstart, hone⟩) fun j hji => ?_
            rw [List.mem_cons, or_iff_right hji]
            exact hreturned j

/-- The two calls that pay out of one wallet, when the first one has returned. -/
def halfway : Interleave.Config Bool CacheOp CacheOp.Res JavaException Unit Caller Caches :=
  ((List.replicate 9 [(true, none), (false, none)]).flatten).foldl (.play Prod.fst turn)
    (initial (oneShopper 100 0) twoTokens fun _ _ => ⟨0, 0⟩)

/-- From there on, the second one is the only one to charge the wallet. -/
theorem strictly_serializable_halfway : Returned halfway true ∧
    ∃ order, SerialFrom twoTokens halfway
      ((List.replicate 10 (false, none)).foldl (.play Prod.fst turn) halfway) order :=
  ⟨rfl, strictly_serializable (Interleave.reachable_play acts_turn _ _)
    (Interleave.reachable_play acts_turn _ _)⟩

end RedHatPay.Grid
