import Mathlib.Algebra.BigOperators.Group.List.Basic
import TurtleWow.Shop.Conservation

namespace TurtleWow.Shop

open Run List

-- The coins and the purchases at the end of a run

namespace ShopMgr

variable {prices : Nat → Option Nat} {c after : ShopMgr} {purchase : ShopSendItemTask}

theorem sound_initialized (coins : Option Int) (shopLogs : List ShopLogEntry)
    (shopLogsLookup : Nat → Option ShopLogEntry) (maxShopEntry : Nat) :
    Sound (initialized coins shopLogs shopLogsLookup maxShopEntry) where
  reserve := fun _ _ h => by cases h
  row := fun h => absurd rfl h
  owned := fun _ => Nat.le_refl 0
  increasing := List.Pairwise.nil
  ids := fun _ h => absurd h not_mem_nil
  fresh := fun _ _ h => by cases h
  entries := fun _ h => absurd h not_mem_nil

theorem spent_eq {first second : List ShopSendItemTask} (h : ∀ p, first.count p = second.count p) :
    spent first = spent second := ((perm_iff_count.mpr h).map _).sum_eq

theorem spent_more {first second : List ShopSendItemTask}
    (h : ∀ p, first.count p = second.count p + [purchase].count p) :
    spent first = spent second + purchase.price := by
  have hcons : ∀ p, first.count p = (purchase :: second).count p := by
    intro p
    show _ = ([purchase] ++ second).count p
    rw [h p, count_append, Nat.add_comm]
  rw [spent_eq hcons, spent, map_cons, sum_cons, Int.add_comm]
  rfl

-- What the account has lost so far, up to its first balance
def lost (c : ShopMgr) : Int := -(c.balance + spent c.opened)

theorem lost_same (h : Sound c) (action : Step) (hmeets : c.Meets action) : lost (step prices c action) = lost c := by
  rw [lost, lost]
  cases outcome_step prices h action with
  | same hopened hbalance hpaid hrefunded hfair => rw [hbalance, spent_eq hopened]
  | paid purchase hopened hbalance hpaid hrefunded hfair =>
    have heq := hfair.mp hmeets
    rw [spent_more hopened]
    omega
  | lost purchase hopened hbalance hpaid hrefunded hfair =>
    have hzero := hfair.mp hmeets
    rw [hbalance, spent_more hopened]
    omega
  | refunded purchase hopened hbalance hpaid hrefunded hfair =>
    rw [hbalance, spent_more hopened]
    omega

theorem lost_less (h : Sound c) (action : Step) (hmeets : ¬ c.Meets action) : lost c < lost (step prices c action) := by
  rw [lost, lost]
  cases outcome_step prices h action with
  | same hopened hbalance hpaid hrefunded hfair => exact absurd hfair hmeets
  | paid purchase hopened hbalance hpaid hrefunded hfair =>
    have hne : ¬ _ := fun heq => hmeets (hfair.mpr heq)
    rw [spent_more hopened]
    omega
  | lost purchase hopened hbalance hpaid hrefunded hfair =>
    have hne : ¬ _ := fun hzero => hmeets (hfair.mpr hzero)
    rw [hbalance, spent_more hopened]
    omega
  | refunded purchase hopened hbalance hpaid hrefunded hfair => exact absurd hfair hmeets

-- A purchase that was paid is open or refunded, once.
def Settled (c : ShopMgr) : Prop :=
  ∀ purchase, 0 < purchase.price → c.opened.count purchase + c.refunded.count purchase = c.paid.count purchase

theorem Settled.step (h : Settled c) (hsound : Sound c) (action : Step) (hmeets : c.Meets action) :
    Settled (step prices c action) := by
  intro p hprice
  have hold := h p hprice
  cases outcome_step prices hsound action with
  | same hopened hbalance hpaid hrefunded hfair =>
    rw [hopened, hpaid, hrefunded]
    exact hold
  | paid purchase hopened hbalance hpaid hrefunded hfair =>
    rw [hopened, hpaid, hrefunded, count_append]
    omega
  | lost purchase hopened hbalance hpaid hrefunded hfair =>
    have hzero := hfair.mp hmeets
    have hne : [purchase].count p = 0 := by
      refine count_eq_zero.mpr fun hmem => ?_
      rw [mem_singleton.mp hmem] at hprice
      omega
    have hp := hopened p
    rw [hpaid, hrefunded]
    omega
  | refunded purchase hopened hbalance hpaid hrefunded hfair =>
    have hp := hopened p
    rw [hpaid, hrefunded, count_append]
    omega

-- The assertions of RefundPurchase hold in every run.
theorem refundPurchase_run (coins : Option Int) (shopLogs : List ShopLogEntry)
    (shopLogsLookup : Nat → Option ShopLogEntry) (maxShopEntry : Nat) (steps : List Step) :
    let c := run (step prices) (initialized coins shopLogs shopLogsLookup maxShopEntry) steps
    ∀ purchase ∈ c.tasks, (c.refundPurchase purchase).isSome = true := by
  intro c purchase hmem
  have hsound : Sound c :=
    run_invariant (step prices) (fun _ _ => True) Sound (fun _ action h _ => h.step action)
      (sound_initialized coins shopLogs shopLogsLookup maxShopEntry) (guarded_of_forall _ _ (fun _ _ => trivial) _ _)
  obtain ⟨entry, hentry, hnot⟩ := hsound.entries purchase hmem
  rw [refundPurchase, hentry]
  dsimp only
  rw [hnot]
  rfl

theorem opened_of_processed (h : c.Processed) : c.opened = c.delivered := by
  obtain ⟨-, -, hworker, htasks, hqueue⟩ := h
  rw [opened, hworker, htasks, hqueue]
  rfl

def Conserved (initial : Int) (c : ShopMgr) : Prop :=
  c.balance = initial - spent c.delivered ∧
    ∀ purchase ∈ c.paid, 0 < purchase.price → c.delivered.count purchase + c.refunded.count purchase = 1

-- The coins are conserved in the runs in which no UPDATE writes over a refund and
-- no statement behind one fails, and in no others.
theorem conserved_run_iff (prices : Nat → Option Nat) (coins : Option Int) (shopLogs : List ShopLogEntry)
    (shopLogsLookup : Nat → Option ShopLogEntry) (maxShopEntry : Nat) (steps : List Step) :
    let start := initialized coins shopLogs shopLogsLookup maxShopEntry
    (run (step prices) start steps).Processed →
      (Conserved (coins.getD 0) (run (step prices) start steps) ↔ Guarded (step prices) Meets start steps) := by
  intro start hprocessed
  have hstart : Sound start := sound_initialized coins shopLogs shopLogsLookup maxShopEntry
  have hopened := opened_of_processed hprocessed
  have hlost : lost (run (step prices) start steps) = lost start ↔ Guarded (step prices) Meets start steps :=
    potential_eq_iff (step prices) Meets Sound lost (fun _ action h => h.step action)
      (fun _ action h hmeets => lost_same h action hmeets) (fun _ action h hmeets => lost_less h action hmeets) hstart
  have hfirst : lost start = -(coins.getD 0) := by
    show -(coins.getD 0 + 0) = _
    omega
  rw [hfirst, lost, hopened] at hlost
  constructor
  · rintro ⟨hbalance, -⟩
    refine hlost.mp ?_
    omega
  · intro hguarded
    have hequal := hlost.mpr hguarded
    refine ⟨by omega, fun purchase hmem hprice => ?_⟩
    have hend : Sound (run (step prices) start steps) ∧ Settled (run (step prices) start steps) :=
      run_invariant (step prices) Meets (fun c => Sound c ∧ Settled c)
        (fun _ action h hmeets => ⟨h.1.step action, h.2.step h.1 action hmeets⟩) ⟨hstart, fun _ _ => rfl⟩ hguarded
    have hcount := hend.2 purchase hprice
    rw [hopened, List.count_eq_one_of_mem hend.1.nodup_ids.of_map hmem] at hcount
    exact hcount

def refusal : View := ⟨false, false, 0, false, 0, true⟩

def present : View := ⟨true, true, 5, true, 0, false⟩

-- One item is refunded before the next is bought, which is stored.
def oneAfterAnother : List Step :=
  [.requestPurchase 5 1 false, .requestPurchase 5 2 false, .swapRequests, .nextRequest,
    .statement true, .statement true, .statement true, .statement true,
    .sendItem 0 refusal, .execute 0 true, .execute 0 true, .nextRequest,
    .statement true, .statement true, .statement true, .statement true, .sendItem 0 present]

theorem refundPurchase_run_second :
    ((run (step fun _ => some 40) (initialized (some 100) [] (fun _ => none) 0)
      (oneAfterAnother.take 8)).refundPurchase ⟨5, 1, 1, 40⟩).isSome = true :=
  refundPurchase_run (some 100) [] (fun _ => none) 0 (oneAfterAnother.take 8) ⟨5, 1, 1, 40⟩ (by decide)

theorem conserved_oneAfterAnother :
    Conserved 100 (run (step fun _ => some 40) (initialized (some 100) [] (fun _ => none) 0) oneAfterAnother) :=
  (conserved_run_iff (fun _ => some 40) (some 100) [] (fun _ => none) 0 oneAfterAnother (by decide)).mpr (by decide)

-- The refund arrives between the balance that is read and the one that is written.
def overwritten : List Step :=
  [.requestPurchase 5 1 false, .requestPurchase 5 2 false, .swapRequests, .nextRequest,
    .statement true, .statement true, .statement true, .statement true, .nextRequest, .statement true,
    .sendItem 0 refusal, .execute 0 true, .execute 0 true,
    .statement true, .statement true, .statement true, .sendItem 0 present]

theorem not_conserved_overwritten :
    ¬ ∀ (prices : Nat → Option Nat) (coins : Option Int) (shopLogs : List ShopLogEntry)
      (shopLogsLookup : Nat → Option ShopLogEntry) (maxShopEntry : Nat) (steps : List Step),
      (run (step prices) (initialized coins shopLogs shopLogsLookup maxShopEntry) steps).Processed →
        Conserved (coins.getD 0) (run (step prices) (initialized coins shopLogs shopLogsLookup maxShopEntry) steps) := by
  intro h
  have hbalance := (h (fun _ => some 40) (some 100) [] (fun _ => none) 0 overwritten (by decide)).1
  exact absurd hbalance (by decide)

end ShopMgr

end TurtleWow.Shop
