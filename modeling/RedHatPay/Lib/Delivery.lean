/-
**At-least-once delivery.**

A producer makes items and sends a message for each of them; the messages are kept in a log.  A
consumer is handed messages, applies the item of each, and acknowledges.  The producer may stop
before it sends, the log may refuse a message, applying may fail, the consumer may have no answer of
an effect that has taken place, and it may be restarted; and any message that is not acknowledged
may be handed over again.

Main definitions:

* `Delivery.State`, `Delivery.Action`, `Delivery.step` — the two parties and the log; what has been
  delivered and applied so far is kept as a history;
* `Delivery.State.handled` — the items that have been applied or are about to be;
* `Delivery.Fresh` — no item is delivered again once it is handled;
* `Delivery.Inv` — the invariant.

Main results:

* `Delivery.Inv.step` — **the step**: every action keeps the invariant;
* `Delivery.Inv.applied_iff` — when nothing is under way and everything is acknowledged, an item has
  been applied **at least once** exactly if its message was sent;
* `Delivery.nodup_step` — without fresh deliveries of handled items, each item is applied **at most
  once**.
-/

import Mathlib.Data.List.Nodup
import Mathlib.Data.List.Perm.Basic

set_option relaxedAutoImplicit false
set_option autoImplicit false

namespace Delivery

/-! ### Producer, log and consumer -/

/-- A delivery in progress: the place of its message in the log, the item of the message, and
whether the consumer has an answer and may acknowledge. -/
structure Held where
  offset : Nat
  item : Nat
  done : Bool
  deriving DecidableEq

/-- The state of the system; items are numbered as they are made. -/
structure State where
  /-- How many items have been made. -/
  made : Nat
  /-- The items whose messages are still to be sent. -/
  underway : List Nat
  /-- The items of the messages in the log. -/
  log : List Nat
  /-- The deliveries in progress. -/
  held : List Held
  /-- The places of the messages that are acknowledged. -/
  acknowledged : List Nat
  /-- The items of all deliveries so far. -/
  delivered : List Nat
  /-- The items that have been applied, as often as they have been. -/
  applied : List Nat

/-- Nothing has happened. -/
def State.empty : State := ⟨0, [], [], [], [], [], []⟩

/-- What may happen. -/
inductive Action
  /-- An item is made; its message may be lost at once. -/
  | make (toSend : Bool)
  /-- The message of an item under way is sent, and the log accepts it or not. -/
  | send (n : Nat) (accepted : Bool)
  /-- The producer stops before it sends the message of an item under way. -/
  | drop (n : Nat)
  | deliver (offset : Nat)
  /-- The consumer has an item applied: does that take effect, and does the consumer have an
  answer? -/
  | apply (n : Nat) (applies answers : Bool)
  | acknowledge (n : Nat)
  | restart
  | idle

/-- The state after an action. -/
def step (s : State) : Action → State
  | .make toSend =>
      { s with made := s.made + 1
               underway := if toSend then s.underway ++ [s.made] else s.underway }
  | .send n accepted =>
      match s.underway[n]? with
      | some i => { s with underway := s.underway.eraseIdx n
                           log := if accepted then s.log ++ [i] else s.log }
      | none => s
  | .drop n => { s with underway := s.underway.eraseIdx n }
  | .deliver offset =>
      match s.log[offset]? with
      | some i =>
          if offset ∈ s.acknowledged then s
          else { s with held := s.held ++ [⟨offset, i, false⟩], delivered := s.delivered ++ [i] }
      | none => s
  | .apply n applies answers =>
      match s.held[n]? with
      | some ⟨offset, i, false⟩ =>
          { s with held := if applies && answers then s.held.set n ⟨offset, i, true⟩
                           else s.held.eraseIdx n
                   applied := if applies then s.applied ++ [i] else s.applied }
      | _ => s
  | .acknowledge n =>
      match s.held[n]? with
      | some ⟨offset, _, true⟩ => { s with held := s.held.eraseIdx n
                                           acknowledged := s.acknowledged ++ [offset] }
      | _ => s
  | .restart => { s with held := [] }
  | .idle => s

/-- The items of the deliveries that have not been answered. -/
def pending (held : List Held) : List Nat := (held.filter fun h => !h.done).map Held.item

/-- The items that have been applied, and those that are about to be. -/
def State.handled (s : State) : List Nat := s.applied ++ pending s.held

/-- A delivery is not of an item that is handled already. -/
def Fresh (s : State) : Action → Prop
  | .deliver offset => ∀ i, s.log[offset]? = some i → i ∉ s.handled
  | _ => True

/-- Nothing is under way, and every message is acknowledged. -/
def State.Quiet (s : State) : Prop :=
  s.underway = [] ∧ ∀ j < s.log.length, j ∈ s.acknowledged

/-! ### Lists -/

section

variable {α : Type} {l : List α} {n : Nat} {a : α}

theorem perm_eraseIdx (h : l[n]? = some a) : l.Perm (a :: l.eraseIdx n) := by
  obtain ⟨hn, rfl⟩ := List.getElem?_eq_some_iff.1 h
  exact (List.getElem_cons_eraseIdx_perm hn).symm

theorem perm_set (h : l[n]? = some a) (b : α) : (l.set n b).Perm (b :: l.eraseIdx n) := by
  obtain ⟨hn, -⟩ := List.getElem?_eq_some_iff.1 h
  exact List.set_perm_cons_eraseIdx hn b

theorem getElem?_append_of_some {l' : List α} (h : l[n]? = some a) : (l ++ l')[n]? = some a := by
  obtain ⟨hn, rfl⟩ := List.getElem?_eq_some_iff.1 h
  rw [List.getElem?_append_left hn, List.getElem?_eq_getElem hn]

end

theorem pending_perm {l l' : List Held} (h : l.Perm l') : (pending l).Perm (pending l') :=
  (h.filter _).map _

@[simp] theorem pending_cons_false (j i : Nat) (l : List Held) :
    pending (⟨j, i, false⟩ :: l) = i :: pending l := rfl

@[simp] theorem pending_cons_true (j i : Nat) (l : List Held) :
    pending (⟨j, i, true⟩ :: l) = pending l := rfl

@[simp] theorem pending_append (l l' : List Held) :
    pending (l ++ l') = pending l ++ pending l' := by
  simp [pending]

/-- Applying an item only moves it from what is about to be applied to what has been. -/
theorem handled_apply {s : State} {n j i : Nat} (h : s.held[n]? = some ⟨j, i, false⟩)
    (applies answers : Bool) :
    (step s (.apply n applies answers)).handled.Subperm s.handled := by
  have hheld := pending_perm (perm_eraseIdx h)
  rw [pending_cons_false] at hheld
  have hset := pending_perm (perm_set h ⟨j, i, true⟩)
  rw [pending_cons_true] at hset
  have hmove : (s.applied ++ [i] ++ pending (s.held.eraseIdx n)).Perm s.handled := by
    rw [List.append_assoc]
    exact hheld.symm.append_left s.applied
  rw [step, h]
  cases applies with
  | false =>
      have hdrop : (pending (s.held.eraseIdx n)).Subperm (pending s.held) :=
        (List.sublist_cons_self i _).subperm.trans hheld.symm.subperm
      exact (List.subperm_append_left s.applied).2 hdrop
  | true =>
      cases answers with
      | false => exact hmove.subperm
      | true => exact ((hset.append_left _).trans hmove).subperm

/-! ### The invariant -/

/-- **The invariant**: each item has at most one message, only items with a message are applied, an
item with an answer has been applied, and no item is handled more often than it was delivered. -/
structure Inv (s : State) : Prop where
  nodup : (s.underway ++ s.log).Nodup
  made : ∀ i ∈ s.underway ++ s.log, i < s.made
  held : ∀ h ∈ s.held, s.log[h.offset]? = some h.item ∧ (h.done = true → h.item ∈ s.applied)
  acknowledged : ∀ j ∈ s.acknowledged, ∃ i ∈ s.applied, s.log[j]? = some i
  applied : ∀ i ∈ s.applied, i ∈ s.log
  handled : s.handled.Subperm s.delivered

namespace Inv

variable {s : State}

theorem empty : Inv .empty := by
  constructor
  case handled => exact List.Subperm.refl []
  all_goals simp [State.empty]

theorem make (h : Inv s) (toSend : Bool) : Inv (Delivery.step s (.make toSend)) := by
  have hlt : ∀ i ∈ s.underway ++ s.log, i < s.made + 1 := fun i hi =>
    Nat.lt_succ_of_lt (h.made i hi)
  cases toSend with
  | false => exact { h with made := hlt }
  | true =>
      -- the number of the new item is the next one
      have hperm : (s.underway ++ [s.made] ++ s.log).Perm (s.made :: (s.underway ++ s.log)) := by
        rw [List.append_assoc]
        exact List.perm_middle
      refine { h with nodup := ?_, made := fun i hi => ?_ }
      · refine hperm.nodup_iff.2 (List.nodup_cons.2 ⟨fun hi => ?_, h.nodup⟩)
        exact absurd (h.made _ hi) (Nat.lt_irrefl _)
      · rcases List.mem_cons.1 (hperm.mem_iff.1 hi) with rfl | hi
        · exact Nat.lt_succ_self _
        · exact hlt i hi

theorem send (h : Inv s) (n : Nat) (accepted : Bool) :
    Inv (Delivery.step s (.send n accepted)) := by
  rw [Delivery.step]
  cases hn : s.underway[n]? with
  | none => exact h
  | some i =>
      have hperm : (s.underway ++ s.log).Perm (i :: (s.underway.eraseIdx n ++ s.log)) :=
        (perm_eraseIdx hn).append_right s.log
      cases accepted with
      | false =>
          have hsub : (s.underway.eraseIdx n ++ s.log).Sublist (s.underway ++ s.log) :=
            (List.eraseIdx_sublist _ n).append_right s.log
          exact { h with nodup := hsub.nodup h.nodup
                         made := fun i hi => h.made i (hsub.subset hi) }
      | true =>
          have hmove : (s.underway.eraseIdx n ++ (s.log ++ [i])).Perm (s.underway ++ s.log) := by
            rw [← List.append_assoc]
            exact (List.perm_append_singleton _ _).trans hperm.symm
          refine ⟨hmove.nodup_iff.2 h.nodup, fun i hi => h.made i (hmove.mem_iff.1 hi),
            fun d hd => ?_, fun j hj => ?_, fun i hi => ?_, h.handled⟩
          · exact ⟨getElem?_append_of_some (h.held d hd).1, (h.held d hd).2⟩
          · obtain ⟨i, hi, hlog⟩ := h.acknowledged j hj
            exact ⟨i, hi, getElem?_append_of_some hlog⟩
          · exact List.mem_append_left _ (h.applied i hi)

theorem drop (h : Inv s) (n : Nat) : Inv (Delivery.step s (.drop n)) := by
  have hsub : (s.underway.eraseIdx n ++ s.log).Sublist (s.underway ++ s.log) :=
    (List.eraseIdx_sublist _ n).append_right s.log
  exact { h with nodup := hsub.nodup h.nodup, made := fun i hi => h.made i (hsub.subset hi) }

theorem deliver (h : Inv s) (offset : Nat) : Inv (Delivery.step s (.deliver offset)) := by
  rw [Delivery.step]
  cases hlog : s.log[offset]? with
  | none => exact h
  | some i =>
      dsimp only
      split
      · exact h
      · refine { h with held := fun d hd => ?_, handled := ?_ }
        · rcases List.mem_append.1 hd with hd | hd
          · exact h.held d hd
          · obtain rfl := List.mem_singleton.1 hd
            exact ⟨hlog, nofun⟩
        · rw [State.handled, pending_append, ← List.append_assoc]
          exact (List.subperm_append_right _).2 h.handled

theorem apply (h : Inv s) (n : Nat) (applies answers : Bool) :
    Inv (Delivery.step s (.apply n applies answers)) := by
  have hhandled := fun j i hn => (handled_apply (s := s) (n := n) (j := j) (i := i) hn applies
    answers).trans h.handled
  rw [Delivery.step] at hhandled ⊢
  rcases hn : s.held[n]? with - | ⟨j, i, - | -⟩
  · exact h
  · obtain ⟨hlog, -⟩ := h.held ⟨j, i, false⟩ (List.mem_of_getElem? hn)
    have hgrow : ∀ i' ∈ s.applied, i' ∈ if applies then s.applied ++ [i] else s.applied := by
      intro i' hi'
      split
      · exact List.mem_append_left _ hi'
      · exact hi'
    have hthis := hhandled j i hn
    rw [hn] at hthis
    refine { h with held := fun d hd => ?_, acknowledged := fun k hk => ?_,
                    applied := fun k hk => ?_, handled := hthis }
    · cases hdone : applies && answers with
      | false =>
          simp only [hdone] at hd
          have hmem := h.held d (List.mem_of_mem_eraseIdx hd)
          exact ⟨hmem.1, fun hd => hgrow _ (hmem.2 hd)⟩
      | true =>
          simp only [hdone] at hd
          rcases List.mem_or_eq_of_mem_set hd with hd | rfl
          · exact ⟨(h.held d hd).1, fun hdone => hgrow _ ((h.held d hd).2 hdone)⟩
          · rw [Bool.and_eq_true] at hdone
            refine ⟨hlog, fun _ => ?_⟩
            simp [hdone.1]
    · obtain ⟨i', hi', hlog'⟩ := h.acknowledged k hk
      exact ⟨i', hgrow i' hi', hlog'⟩
    · cases applies with
      | false => exact h.applied k hk
      | true =>
          rcases List.mem_append.1 hk with hk | hk
          · exact h.applied k hk
          · obtain rfl := List.mem_singleton.1 hk
            exact List.mem_of_getElem? hlog
  · exact h

theorem acknowledge (h : Inv s) (n : Nat) : Inv (Delivery.step s (.acknowledge n)) := by
  rw [Delivery.step]
  rcases hn : s.held[n]? with - | ⟨j, i, - | -⟩
  · exact h
  · exact h
  · obtain ⟨hlog, hdone⟩ := h.held ⟨j, i, true⟩ (List.mem_of_getElem? hn)
    refine { h with held := fun d hd => h.held d (List.mem_of_mem_eraseIdx hd),
                    acknowledged := fun k hk => ?_, handled := ?_ }
    · rcases List.mem_append.1 hk with hk | hk
      · exact h.acknowledged k hk
      · obtain rfl := List.mem_singleton.1 hk
        exact ⟨i, hdone rfl, hlog⟩
    -- the delivery had its answer, so that nothing was pending
    · have hheld := pending_perm (perm_eraseIdx hn)
      rw [pending_cons_true] at hheld
      exact (hheld.symm.append_left s.applied).subperm.trans h.handled

theorem restart (h : Inv s) : Inv (Delivery.step s .restart) := by
  refine { h with held := nofun, handled := ?_ }
  have happlied : s.applied.Sublist s.handled := List.sublist_append_left _ _
  have hnone : State.handled (Delivery.step s .restart) = s.applied := List.append_nil _
  rw [hnone]
  exact happlied.subperm.trans h.handled

/-- **The step**: every action keeps the invariant. -/
theorem step (h : Inv s) (a : Action) : Inv (Delivery.step s a) := by
  cases a with
  | make toSend => exact h.make toSend
  | send n accepted => exact h.send n accepted
  | drop n => exact h.drop n
  | deliver offset => exact h.deliver offset
  | apply n applies answers => exact h.apply n applies answers
  | acknowledge n => exact h.acknowledge n
  | restart => exact h.restart
  | idle => exact h

/-- No item is applied more often than its message was delivered. -/
theorem count_le (h : Inv s) (i : Nat) : s.applied.count i ≤ s.delivered.count i := by
  have happlied : s.applied.Sublist s.handled := List.sublist_append_left _ _
  exact Nat.le_trans (happlied.count_le i) (h.handled.count_le i)

/-- **At least once**: when nothing is under way and everything is acknowledged, the items whose
messages were sent have been applied, and no others. -/
theorem applied_iff (h : Inv s) (hquiet : s.Quiet) (i : Nat) : i ∈ s.applied ↔ i ∈ s.log := by
  refine ⟨h.applied i, fun hi => ?_⟩
  obtain ⟨j, hj, rfl⟩ := List.getElem_of_mem hi
  obtain ⟨i', hi', hlog⟩ := h.acknowledged j (hquiet.2 j hj)
  rw [List.getElem?_eq_getElem hj] at hlog
  rwa [Option.some.inj hlog]

end Inv

/-! ### At most once -/

/-- **At most once**: an action that delivers no handled item again keeps the handled items
distinct. -/
theorem nodup_step {s : State} (h : s.handled.Nodup) {a : Action} (ha : Fresh s a) :
    (step s a).handled.Nodup := by
  cases a with
  | make toSend => exact h
  | send n accepted =>
      rw [step]
      cases s.underway[n]? with
      | none => exact h
      | some i => exact h
  | drop n => exact h
  | deliver offset =>
      rw [step]
      cases hlog : s.log[offset]? with
      | none => exact h
      | some i =>
          dsimp only
          split
          · exact h
          · rw [State.handled, pending_append, ← List.append_assoc]
            refine List.nodup_append'.2 ⟨h, List.nodup_singleton i, ?_⟩
            exact List.disjoint_singleton.2 (ha i hlog)
  | apply n applies answers =>
      rcases hn : s.held[n]? with - | ⟨j, i, - | -⟩
      · rw [step, hn]
        exact h
      · obtain ⟨l, hperm, hsub⟩ := handled_apply hn applies answers
        exact hperm.nodup_iff.1 (hsub.nodup h)
      · rw [step, hn]
        exact h
  | acknowledge n =>
      rw [step]
      rcases hn : s.held[n]? with - | ⟨j, i, - | -⟩
      · exact h
      · exact h
      · have hheld := pending_perm (perm_eraseIdx hn)
        rw [pending_cons_true] at hheld
        exact (hheld.append_left s.applied).nodup_iff.1 h
  | restart =>
      have hnone : (step s .restart).handled = s.applied := List.append_nil _
      rw [hnone]
      exact (List.nodup_append'.1 h).1
  | idle => exact h

/-- Items that are handled at most once have been applied at most once. -/
theorem count_le_one {s : State} (h : s.handled.Nodup) (i : Nat) : s.applied.count i ≤ 1 :=
  List.nodup_iff_count_le_one.1 (List.nodup_append'.1 h).1 i

end Delivery
