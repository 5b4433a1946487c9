import Mathlib.Data.List.Nodup
import Mathlib.Data.List.Perm.Basic
import TurtleWow.Shop.ShopMgr

namespace TurtleWow.Shop

open Run List

-- A purchase that was paid is held by the worker, a task, a refund under way or
-- an item, until a statement that fails loses it.

def Worker.held : Worker → List ShopSendItemTask
  | .inserting purchase _ => [purchase]
  | .checking purchase _ => [purchase]
  | _ => []

def Statement.refunds : Statement → List ShopSendItemTask
  | .addCoins purchase => [purchase]
  | _ => []

namespace ShopMgr

variable {prices : Nat → Option Nat} {c after : ShopMgr} {purchase : ShopSendItemTask}

def opened (c : ShopMgr) : List ShopSendItemTask :=
  c.worker.held ++ c.tasks ++ c.delayQueue.flatMap Statement.refunds ++ c.delivered

-- What a statement of the worker must meet: the UPDATE finds the balance that
-- was read, and none behind it fails, unless the purchase costs nothing.
def Keeps (c : ShopMgr) (ok : Bool) : Worker → Prop
  | .updating purchase newBalance => ok = true → c.balance = newBalance + purchase.price
  | .inserting purchase _ => (ok = true ∧ ∀ row ∈ c.shopLogs, row.id ≠ purchase.shopId) ∨ purchase.price = 0
  | .checking purchase newBalance => c.getBalance ok = newBalance ∨ purchase.price = 0
  | _ => True

instance decidableKeeps (c : ShopMgr) (ok : Bool) : ∀ worker, Decidable (c.Keeps ok worker)
  | .idle => inferInstanceAs (Decidable True)
  | .balance => inferInstanceAs (Decidable True)
  | .reading _ _ => inferInstanceAs (Decidable True)
  | .updating purchase newBalance => inferInstanceAs (Decidable (ok = true → c.balance = newBalance + purchase.price))
  | .inserting purchase _ =>
    inferInstanceAs (Decidable ((ok = true ∧ ∀ row ∈ c.shopLogs, row.id ≠ purchase.shopId) ∨ purchase.price = 0))
  | .checking purchase newBalance => inferInstanceAs (Decidable (c.getBalance ok = newBalance ∨ purchase.price = 0))

def Refunds (ok : Bool) : Option Statement → Prop
  | some (.addCoins purchase) => ok = true ∨ purchase.price = 0
  | _ => True

instance decidableRefunds (ok : Bool) : ∀ waiting, Decidable (Refunds ok waiting)
  | none => inferInstanceAs (Decidable True)
  | some .insertCoins => inferInstanceAs (Decidable True)
  | some (.addCoins purchase) => inferInstanceAs (Decidable (ok = true ∨ purchase.price = 0))
  | some (.setRefunded _) => inferInstanceAs (Decidable True)

def Meets (c : ShopMgr) : Step → Prop
  | .statement ok => c.Keeps ok c.worker
  | .execute i ok => Refunds ok c.delayQueue[i]?
  | _ => True

instance decidableMeets (c : ShopMgr) : ∀ action, Decidable (c.Meets action)
  | .statement ok => inferInstanceAs (Decidable (c.Keeps ok c.worker))
  | .execute i ok => inferInstanceAs (Decidable (Refunds ok c.delayQueue[i]?))
  | .requestBalance => inferInstanceAs (Decidable True)
  | .requestPurchase _ _ _ => inferInstanceAs (Decidable True)
  | .swapRequests => inferInstanceAs (Decidable True)
  | .nextRequest => inferInstanceAs (Decidable True)
  | .sendItem _ _ => inferInstanceAs (Decidable True)

structure Sound (c : ShopMgr) : Prop where
  reserve : ∀ purchase newBalance, c.worker = .updating purchase newBalance →
    ∃ coins, c.coins = some coins ∧ newBalance + purchase.price ≤ coins
  row : c.paid ≠ [] → c.coins.isSome = true
  owned : ∀ purchase, c.opened.count purchase + c.refunded.count purchase ≤ c.paid.count purchase
  increasing : c.paid.Pairwise (·.shopId < ·.shopId)
  ids : ∀ purchase ∈ c.paid, purchase.shopId ≤ c.maxShopEntry
  fresh : ∀ purchase newBalance, c.worker = .updating purchase newBalance →
    purchase.shopId ≤ c.maxShopEntry ∧ ∀ other ∈ c.paid, other.shopId < purchase.shopId
  entries : ∀ purchase ∈ c.tasks, ∃ entry, c.shopLogsLookup purchase.shopId = some entry ∧ entry.refunded = false

-- All that a step does to the coins and the purchases
inductive Outcome (c after : ShopMgr) (fair : Prop) : Prop
  | same (hopened : ∀ p, after.opened.count p = c.opened.count p) (hbalance : after.balance = c.balance)
      (hpaid : after.paid = c.paid) (hrefunded : after.refunded = c.refunded) (hfair : fair)
  | paid (purchase : ShopSendItemTask) (hopened : ∀ p, after.opened.count p = c.opened.count p + [purchase].count p)
      (hbalance : after.balance + purchase.price ≤ c.balance) (hpaid : after.paid = c.paid ++ [purchase])
      (hrefunded : after.refunded = c.refunded) (hfair : fair ↔ after.balance + purchase.price = c.balance)
  | lost (purchase : ShopSendItemTask) (hopened : ∀ p, c.opened.count p = after.opened.count p + [purchase].count p)
      (hbalance : after.balance = c.balance) (hpaid : after.paid = c.paid) (hrefunded : after.refunded = c.refunded)
      (hfair : fair ↔ purchase.price = 0)
  | refunded (purchase : ShopSendItemTask)
      (hopened : ∀ p, c.opened.count p = after.opened.count p + [purchase].count p)
      (hbalance : after.balance = c.balance + purchase.price) (hpaid : after.paid = c.paid)
      (hrefunded : after.refunded = c.refunded ++ [purchase]) (hfair : fair)

theorem count_opened (c : ShopMgr) (p : ShopSendItemTask) : c.opened.count p =
    c.worker.held.count p + c.tasks.count p + (c.delayQueue.flatMap Statement.refunds).count p + c.delivered.count p := by
  rw [opened, count_append, count_append, count_append]

theorem queryBalance_cases (c : ShopMgr) (ok : Bool) :
    c.queryBalance ok = c ∨ c.queryBalance ok = { c with delayQueue := c.delayQueue ++ [.insertCoins] } := by
  rw [queryBalance]
  split
  · exact .inl rfl
  · exact .inr rfl

theorem refunds_insertCoins (queue : List Statement) :
    (queue ++ [Statement.insertCoins]).flatMap Statement.refunds = queue.flatMap Statement.refunds := by
  rw [flatMap_append]
  exact append_nil _

structure SameQuery (c after : ShopMgr) : Prop where
  coins : after.coins = c.coins
  worker : after.worker = c.worker
  tasks : after.tasks = c.tasks
  refunds : after.delayQueue.flatMap Statement.refunds = c.delayQueue.flatMap Statement.refunds
  paid : after.paid = c.paid
  delivered : after.delivered = c.delivered
  refunded : after.refunded = c.refunded
  maxShopEntry : after.maxShopEntry = c.maxShopEntry
  lookup : after.shopLogsLookup = c.shopLogsLookup

theorem sameQuery (c : ShopMgr) (ok : Bool) : SameQuery c (c.queryBalance ok) := by
  rcases queryBalance_cases c ok with h | h
  · rw [h]
    exact ⟨rfl, rfl, rfl, rfl, rfl, rfl, rfl, rfl, rfl⟩
  · rw [h]
    exact ⟨rfl, rfl, rfl, refunds_insertCoins c.delayQueue, rfl, rfl, rfl, rfl, rfl⟩

theorem outcome_quiet {fair : Prop} (hheld : after.worker.held = c.worker.held) (htasks : after.tasks = c.tasks)
    (hrefunds : after.delayQueue.flatMap Statement.refunds = c.delayQueue.flatMap Statement.refunds)
    (hdelivered : after.delivered = c.delivered) (hcoins : after.balance = c.balance) (hpaid : after.paid = c.paid)
    (hrefunded : after.refunded = c.refunded) (hfair : fair) : Outcome c after fair := by
  refine .same (fun p => ?_) hcoins hpaid hrefunded hfair
  rw [count_opened, count_opened, hheld, htasks, hrefunds, hdelivered]

theorem outcome_statement (h : Sound c) (ok : Bool) : Outcome c (c.statement ok) (c.Meets (.statement ok)) := by
  have hquery := sameQuery c ok
  unfold statement
  cases hworker : c.worker with
  | idle => exact outcome_quiet rfl rfl rfl rfl rfl rfl rfl (by rw [Meets, hworker]; trivial)
  | balance =>
    exact outcome_quiet (by rw [hworker]; rfl) hquery.tasks hquery.refunds hquery.delivered
      (congrArg (·.getD 0) hquery.coins) hquery.paid hquery.refunded (by rw [Meets, hworker]; trivial)
  | reading request price =>
    have hfair : c.Meets (.statement ok) := by rw [Meets, hworker]; trivial
    dsimp only
    split
    · split
      · exact outcome_quiet (by rw [hworker]; rfl) hquery.tasks hquery.refunds hquery.delivered
          (congrArg (·.getD 0) hquery.coins) hquery.paid hquery.refunded hfair
      · exact outcome_quiet (by rw [hworker]; rfl) hquery.tasks hquery.refunds hquery.delivered
          (congrArg (·.getD 0) hquery.coins) hquery.paid hquery.refunded hfair
    · exact outcome_quiet (by rw [hworker]; rfl) hquery.tasks hquery.refunds hquery.delivered
        (congrArg (·.getD 0) hquery.coins) hquery.paid hquery.refunded hfair
  | updating purchase newBalance =>
    obtain ⟨coins, hcoins, hreserve⟩ := h.reserve purchase newBalance hworker
    have hbalance : c.balance = coins := by rw [balance, hcoins]; rfl
    cases ok with
    | true =>
      have hafter : (c.coins.map fun _ => newBalance).getD 0 = newBalance := by rw [hcoins]; rfl
      refine .paid purchase (fun p => ?_) ?_ rfl rfl ?_
      · rw [count_opened, count_opened, hworker]
        show [purchase].count p + _ + _ + _ = 0 + _ + _ + _ + [purchase].count p
        simp only [if_true]
        omega
      · show (c.coins.map fun _ => newBalance).getD 0 + _ ≤ _
        rw [hafter, hbalance]
        exact hreserve
      · show _ ↔ (c.coins.map fun _ => newBalance).getD 0 + _ = _
        rw [hafter, Meets, hworker]
        exact ⟨fun hmeets => (hmeets rfl).symm, fun heq _ => heq.symm⟩
    | false =>
      exact outcome_quiet (by rw [hworker]; rfl) rfl rfl rfl rfl rfl rfl
        (by rw [Meets, hworker]; exact fun hok => by cases hok)
  | inserting purchase newBalance =>
    dsimp only
    split
    · next hok => exact outcome_quiet (by rw [hworker]; rfl) rfl rfl rfl rfl rfl rfl (by rw [Meets, hworker]; exact .inl hok)
    · next hok =>
        refine .lost purchase (fun p => ?_) rfl rfl rfl (by rw [Meets, hworker]; exact or_iff_right hok)
        rw [count_opened, count_opened, hworker]
        show [purchase].count p + _ + _ + _ = 0 + _ + _ + _ + [purchase].count p
        simp only [done, answer]
        omega
  | checking purchase newBalance =>
    dsimp only
    split
    · next hne =>
        refine .lost purchase (fun p => ?_) (congrArg (·.getD 0) hquery.coins) hquery.paid hquery.refunded
          (by rw [Meets, hworker]; exact or_iff_right hne)
        rw [count_opened, count_opened, hworker]
        show [purchase].count p + _ + _ + _ = 0 + (c.queryBalance ok).tasks.count p +
          ((c.queryBalance ok).delayQueue.flatMap Statement.refunds).count p +
            (c.queryBalance ok).delivered.count p + [purchase].count p
        rw [hquery.tasks, hquery.refunds, hquery.delivered]
        omega
    · next heq =>
        refine .same (fun p => ?_) (congrArg (·.getD 0) hquery.coins) hquery.paid hquery.refunded
          (by rw [Meets, hworker]; exact .inl (not_not.mp heq))
        rw [count_opened, count_opened, hworker]
        show 0 + (c.tasks ++ [purchase]).count p + ((c.queryBalance ok).delayQueue.flatMap Statement.refunds).count p +
          (c.queryBalance ok).delivered.count p = [purchase].count p + _ + _ + _
        rw [hquery.refunds, hquery.delivered, count_append]
        omega

theorem perm_eraseIdx {α : Type*} {l : List α} {i : Nat} {a : α} (h : l[i]? = some a) : (a :: l.eraseIdx i).Perm l := by
  obtain ⟨hi, ha⟩ := List.getElem?_eq_some_iff.mp h
  rw [← ha]
  exact getElem_cons_eraseIdx_perm hi

theorem count_eraseIdx {l : List ShopSendItemTask} {i : Nat} (h : l[i]? = some purchase) (p : ShopSendItemTask) :
    l.count p = (l.eraseIdx i).count p + [purchase].count p := by
  rw [← (perm_eraseIdx h).count_eq p, ← singleton_append, count_append, Nat.add_comm]

theorem refundPurchase_some (h : c.refundPurchase purchase = some after) :
    ∃ entry, c.shopLogsLookup purchase.shopId = some entry ∧ entry.refunded = false ∧
      after = { c with
        shopLogsLookup := fun id =>
          if id = purchase.shopId then some { entry with refunded := true } else c.shopLogsLookup id
        delayQueue := c.delayQueue ++ [.addCoins purchase, .setRefunded purchase.shopId] } := by
  rw [refundPurchase] at h
  split at h
  · cases h
  · next entry hentry =>
      split at h
      · cases h
      · next hnot => exact ⟨entry, hentry, Bool.eq_false_iff.mpr hnot, (Option.some.inj h).symm⟩

theorem sendItem_cases {view : View} (h : c.sendItem purchase view = some after) :
    (∃ answers, after = { c with delivered := c.delivered ++ [purchase], answers := answers }) ∨
      ∃ middle answers, c.refundPurchase purchase = some middle ∧ after = { middle with answers := answers } := by
  rw [sendItem] at h
  split at h
  · split at h
    · exact .inl ⟨_, (Option.some.inj h).symm⟩
    · obtain ⟨middle, hmiddle, hafter⟩ := Option.map_eq_some_iff.mp h
      exact .inr ⟨middle, _, hmiddle, hafter.symm⟩
  · exact .inr ⟨after, after.answers, h, rfl⟩

variable (prices) in
theorem outcome_sendItem (c : ShopMgr) (i : Nat) (view : View) : Outcome c (step prices c (.sendItem i view)) True := by
  rw [step]
  split
  · exact outcome_quiet rfl rfl rfl rfl rfl rfl rfl trivial
  · next purchase hi =>
      have hcount := count_eraseIdx hi
      cases hsend : ({ c with tasks := c.tasks.eraseIdx i } : ShopMgr).sendItem purchase view with
      | none => exact outcome_quiet rfl rfl rfl rfl rfl rfl rfl trivial
      | some after =>
        rcases sendItem_cases hsend with ⟨answers, rfl⟩ | ⟨middle, answers, hrefund, rfl⟩
        · refine .same (fun p => ?_) rfl rfl rfl trivial
          have hp := hcount p
          rw [count_opened, count_opened]
          show _ + (c.tasks.eraseIdx i).count p + _ + (c.delivered ++ [purchase]).count p = _
          rw [count_append]
          show c.worker.held.count p + _ + (c.delayQueue.flatMap Statement.refunds).count p + _ = _
          omega
        · obtain ⟨entry, -, -, rfl⟩ := refundPurchase_some hrefund
          refine .same (fun p => ?_) rfl rfl rfl trivial
          have hp := hcount p
          rw [count_opened, count_opened]
          show _ + (c.tasks.eraseIdx i).count p +
            ((c.delayQueue ++ [Statement.addCoins purchase, Statement.setRefunded purchase.shopId]).flatMap
              Statement.refunds).count p + _ = _
          rw [flatMap_append, count_append]
          show c.worker.held.count p + _ + (_ + [purchase].count p) + c.delivered.count p = _
          omega

variable (prices) in
theorem outcome_execute (h : Sound c) (i : Nat) (ok : Bool) :
    Outcome c (step prices c (.execute i ok)) (c.Meets (.execute i ok)) := by
  rw [step, Meets]
  split
  · next hi => exact outcome_quiet rfl rfl rfl rfl rfl rfl rfl (by rw [hi]; trivial)
  · next waiting hi =>
      rw [hi]
      have hperm := (perm_eraseIdx hi).flatMap_right Statement.refunds
      have hcount : ∀ p, (c.delayQueue.flatMap Statement.refunds).count p =
          waiting.refunds.count p + ((c.delayQueue.eraseIdx i).flatMap Statement.refunds).count p := by
        intro p
        rw [← hperm.count_eq p, flatMap_cons, count_append]
      have hquiet : waiting.refunds = [] → ∀ p,
          (opened { c with delayQueue := c.delayQueue.eraseIdx i }).count p = c.opened.count p := by
        intro hnone p
        have hp := hcount p
        rw [hnone] at hp
        rw [count_opened, count_opened]
        show c.worker.held.count p + c.tasks.count p + ((c.delayQueue.eraseIdx i).flatMap Statement.refunds).count p +
          c.delivered.count p = _
        simp only [count_nil] at hp
        omega
      cases waiting with
      | insertCoins =>
        split
        · refine .same (hquiet rfl) ?_ rfl rfl trivial
          show (some (c.coins.getD 0)).getD 0 = c.balance
          rfl
        · exact .same (hquiet rfl) rfl rfl rfl trivial
      | setRefunded shopId =>
        split
        · exact .same (hquiet rfl) rfl rfl rfl trivial
        · exact .same (hquiet rfl) rfl rfl rfl trivial
      | addCoins purchase =>
        have hopened : ∀ p, c.opened.count p =
            (opened { c with delayQueue := c.delayQueue.eraseIdx i }).count p + [purchase].count p := by
          intro p
          have hp := hcount p
          rw [count_opened, count_opened]
          show _ = c.worker.held.count p + c.tasks.count p +
            ((c.delayQueue.eraseIdx i).flatMap Statement.refunds).count p + c.delivered.count p + _
          simp only [Statement.refunds] at hp
          omega
        split
        · next hok =>
            -- a purchase that is refunded was paid from a row
            have hmem : purchase ∈ c.opened := by
              refine count_pos_iff.mp ?_
              rw [hopened purchase, count_singleton_self]
              omega
            have hpaid : c.paid ≠ [] := by
              intro hnil
              have howned := h.owned purchase
              rw [hnil, count_nil] at howned
              have hpos := count_pos_iff.mpr hmem
              omega
            obtain ⟨coins, hcoins⟩ := Option.isSome_iff_exists.mp (h.row hpaid)
            simp only [perform, hcoins]
            refine .refunded purchase hopened ?_ rfl rfl (.inl hok)
            rw [balance, balance, hcoins]
            rfl
        · next hnot => exact .lost purchase hopened rfl rfl rfl (or_iff_right hnot)

variable (prices) in
theorem outcome_step (h : Sound c) (action : Step) : Outcome c (step prices c action) (c.Meets action) := by
  cases action with
  | requestBalance =>
    rw [step, requestBalance]
    split
    · exact outcome_quiet rfl rfl rfl rfl rfl rfl rfl trivial
    · exact outcome_quiet rfl rfl rfl rfl rfl rfl rfl trivial
  | requestPurchase guidLow itemId refused =>
    rw [step, requestPurchase, request]
    split
    · exact outcome_quiet rfl rfl rfl rfl rfl rfl rfl trivial
    · split
      · exact outcome_quiet rfl rfl rfl rfl rfl rfl rfl trivial
      · exact outcome_quiet rfl rfl rfl rfl rfl rfl rfl trivial
  | swapRequests =>
    rw [step, swapRequests]
    split
    · exact outcome_quiet rfl rfl rfl rfl rfl rfl rfl trivial
    · exact outcome_quiet rfl rfl rfl rfl rfl rfl rfl trivial
  | nextRequest =>
    rw [step, nextRequest]
    split
    · next wanted rest hworker hrequests =>
        split
        · rw [buyItem]
          split
          · exact outcome_quiet rfl rfl rfl rfl rfl rfl rfl trivial
          · exact outcome_quiet (by rw [hworker]; rfl) rfl rfl rfl rfl rfl rfl trivial
        · exact outcome_quiet (by rw [hworker]; rfl) rfl rfl rfl rfl rfl rfl trivial
    · exact outcome_quiet rfl rfl rfl rfl rfl rfl rfl trivial
  | statement ok => exact outcome_statement h ok
  | sendItem i view => exact outcome_sendItem prices c i view
  | execute i ok => exact outcome_execute prices h i ok

-- What the steps of the others leave to the worker
structure Grown (c after : ShopMgr) : Prop where
  coins : ∀ coins, c.coins = some coins → ∃ more, after.coins = some more ∧ coins ≤ more
  worker : after.worker = c.worker
  maxShopEntry : after.maxShopEntry = c.maxShopEntry
  paid : after.paid = c.paid

theorem Grown.of_coins (hcoins : after.coins = c.coins) (hworker : after.worker = c.worker)
    (hmax : after.maxShopEntry = c.maxShopEntry) (hpaid : after.paid = c.paid) : Grown c after :=
  ⟨fun coins h => ⟨coins, hcoins.trans h, Int.le_refl coins⟩, hworker, hmax, hpaid⟩

section

variable (h : Sound c)

include h

theorem owned_of_outcome {fair : Prop} (houtcome : Outcome c after fair) (p : ShopSendItemTask) :
    after.opened.count p + after.refunded.count p ≤ after.paid.count p := by
  have hold := h.owned p
  cases houtcome with
  | same hopened hbalance hpaid hrefunded hfair =>
    rw [hopened, hpaid, hrefunded]
    exact hold
  | paid purchase hopened hbalance hpaid hrefunded hfair =>
    rw [hopened, hpaid, hrefunded, count_append]
    omega
  | lost purchase hopened hbalance hpaid hrefunded hfair =>
    have hp := hopened p
    rw [hpaid, hrefunded]
    omega
  | refunded purchase hopened hbalance hpaid hrefunded hfair =>
    have hp := hopened p
    rw [hpaid, hrefunded, count_append]
    omega

theorem Sound.grown (hgrown : Grown c after)
    (howned : ∀ p, after.opened.count p + after.refunded.count p ≤ after.paid.count p)
    (hentries : ∀ p ∈ after.tasks, ∃ entry, after.shopLogsLookup p.shopId = some entry ∧ entry.refunded = false) :
    Sound after where
  reserve := fun purchase newBalance hworker => by
    obtain ⟨coins, hcoins, hle⟩ := h.reserve purchase newBalance (hgrown.worker ▸ hworker)
    obtain ⟨more, hmore, hcoinsle⟩ := hgrown.coins coins hcoins
    exact ⟨more, hmore, Int.le_trans hle hcoinsle⟩
  row := fun hpaid => by
    rw [hgrown.paid] at hpaid
    obtain ⟨coins, hcoins⟩ := Option.isSome_iff_exists.mp (h.row hpaid)
    obtain ⟨more, hmore, -⟩ := hgrown.coins coins hcoins
    rw [hmore]
    rfl
  owned := howned
  increasing := hgrown.paid ▸ h.increasing
  ids := fun purchase hpurchase => by
    rw [hgrown.maxShopEntry]
    exact h.ids purchase (hgrown.paid ▸ hpurchase)
  fresh := fun purchase newBalance hworker => by
    rw [hgrown.maxShopEntry, hgrown.paid]
    exact h.fresh purchase newBalance (hgrown.worker ▸ hworker)
  entries := hentries

theorem Sound.nodup_ids : (c.paid.map (·.shopId)).Nodup :=
  pairwise_map.mpr (h.increasing.imp Nat.ne_of_lt)

theorem Sound.mem_paid (hmem : purchase ∈ c.opened) : purchase ∈ c.paid := by
  have hpos := count_pos_iff.mpr hmem
  have howned := h.owned purchase
  exact count_pos_iff.mp (by omega)

theorem Sound.count_le_one (p : ShopSendItemTask) : c.opened.count p + c.refunded.count p ≤ 1 :=
  Nat.le_trans (h.owned p) (nodup_iff_count_le_one.mp h.nodup_ids.of_map p)

theorem Sound.ne_shopId {i : Nat} (hi : c.tasks[i]? = some purchase) {p : ShopSendItemTask}
    (hp : p ∈ c.tasks.eraseIdx i) : p.shopId ≠ purchase.shopId := by
  intro hsame
  have hopened : ∀ q ∈ c.tasks, q ∈ c.opened := fun q hq =>
    mem_append_left _ (mem_append_left _ (mem_append_right _ hq))
  have hp' := h.mem_paid (hopened p (mem_of_mem_eraseIdx hp))
  have hpurchase := h.mem_paid (hopened purchase (mem_of_getElem? hi))
  obtain rfl := inj_on_of_nodup_map h.nodup_ids hp' hpurchase hsame
  have hcount := count_eraseIdx hi p
  have hpos := count_pos_iff.mpr hp
  have hone := h.count_le_one p
  rw [count_opened] at hone
  rw [count_singleton_self] at hcount
  omega

theorem Sound.sendItem (i : Nat) (view : View) : Sound (step prices c (.sendItem i view)) := by
  have howned := owned_of_outcome h (outcome_step prices h (.sendItem i view))
  rw [step] at howned ⊢
  split at howned
  · exact h
  · next purchase hi =>
      have hentries : ∀ p ∈ c.tasks.eraseIdx i, ∃ entry, c.shopLogsLookup p.shopId = some entry ∧ entry.refunded = false :=
        fun p hp => h.entries p (mem_of_mem_eraseIdx hp)
      cases hsend : ({ c with tasks := c.tasks.eraseIdx i } : ShopMgr).sendItem purchase view with
      | none => exact h
      | some after =>
        rw [hsend] at howned
        rcases sendItem_cases hsend with ⟨answers, rfl⟩ | ⟨middle, answers, hrefund, rfl⟩
        · exact h.grown (.of_coins rfl rfl rfl rfl) howned hentries
        · obtain ⟨entry, -, -, rfl⟩ := refundPurchase_some hrefund
          refine h.grown (.of_coins rfl rfl rfl rfl) howned fun p hp => ?_
          obtain ⟨entry', hentry', hnot⟩ := hentries p hp
          refine ⟨entry', ?_, hnot⟩
          show (if p.shopId = purchase.shopId then _ else c.shopLogsLookup p.shopId) = _
          rw [if_neg (h.ne_shopId hi hp)]
          exact hentry'

theorem Sound.execute (i : Nat) (ok : Bool) : Sound (step prices c (.execute i ok)) := by
  have howned := owned_of_outcome h (outcome_step prices h (.execute i ok))
  rw [step] at howned ⊢
  split at howned
  · exact h
  · next waiting hi =>
      dsimp only at howned ⊢
      split at howned
      · next hok =>
          rw [if_pos hok]
          cases waiting with
          | insertCoins =>
            refine h.grown ⟨fun coins hcoins => ⟨coins, ?_, Int.le_refl coins⟩, rfl, rfl, rfl⟩ howned h.entries
            show some (c.coins.getD 0) = some coins
            rw [hcoins]
            rfl
          | setRefunded shopId => exact h.grown (.of_coins rfl rfl rfl rfl) howned h.entries
          | addCoins purchase =>
            cases hcoins : c.coins with
            | none =>
              simp only [perform, hcoins] at howned ⊢
              exact h.grown ⟨fun old hold => absurd (hcoins.symm.trans hold) (by simp), rfl, rfl, rfl⟩ howned h.entries
            | some coins =>
              simp only [perform, hcoins] at howned ⊢
              refine h.grown ⟨fun old hold => ⟨_, rfl, ?_⟩, rfl, rfl, rfl⟩ howned h.entries
              have hsame : coins = old := Option.some.inj (hcoins.symm.trans hold)
              omega
      · next hok =>
          rw [if_neg hok]
          exact h.grown (.of_coins rfl rfl rfl rfl) howned h.entries

theorem Sound.advance (hcoins : after.coins = c.coins) (hpaid : after.paid = c.paid)
    (hmax : after.maxShopEntry = c.maxShopEntry) (hworker : ∀ purchase newBalance, after.worker ≠ .updating purchase newBalance)
    (howned : ∀ p, after.opened.count p + after.refunded.count p ≤ after.paid.count p)
    (hentries : ∀ p ∈ after.tasks, ∃ entry, after.shopLogsLookup p.shopId = some entry ∧ entry.refunded = false) :
    Sound after where
  reserve := fun purchase newBalance heq => absurd heq (hworker purchase newBalance)
  row := fun hne => by rw [hcoins]; exact h.row (hpaid ▸ hne)
  owned := howned
  increasing := hpaid ▸ h.increasing
  ids := fun purchase hpurchase => by rw [hmax]; exact h.ids purchase (hpaid ▸ hpurchase)
  fresh := fun purchase newBalance heq => absurd heq (hworker purchase newBalance)
  entries := hentries

theorem Sound.statement (ok : Bool) : Sound (c.statement ok) := by
  have howned := owned_of_outcome h (outcome_statement h ok)
  have hquery := sameQuery c ok
  have hentries : ∀ p ∈ (c.queryBalance ok).tasks, ∃ entry,
      (c.queryBalance ok).shopLogsLookup p.shopId = some entry ∧ entry.refunded = false := by
    rw [hquery.tasks, hquery.lookup]
    exact h.entries
  unfold ShopMgr.statement at howned ⊢
  cases hworker : c.worker with
  | idle => exact h
  | balance =>
    simp only [hworker] at howned
    exact h.advance hquery.coins hquery.paid hquery.maxShopEntry (fun _ _ heq => by cases heq) howned hentries
  | reading request price =>
    simp only [hworker] at howned
    dsimp only
    split
    · next hpositive =>
        split
        · next hroom =>
            rw [if_pos hpositive, if_pos hroom] at howned
            obtain ⟨coins, hcoins⟩ : ∃ coins, c.coins = some coins := by
              cases hcoins : c.coins with
              | none =>
                rw [getBalance, hcoins] at hpositive
                cases ok
                · exact absurd hpositive (by decide)
                · exact absurd hpositive (by decide)
              | some coins => exact ⟨coins, rfl⟩
            have hread : c.getBalance ok = coins := by
              cases ok with
              | true => rw [getBalance, if_pos rfl, hcoins]; rfl
              | false => exact absurd hpositive (Int.lt_irrefl 0)
            refine ⟨fun purchase newBalance heq => ?_, fun hne => ?_, howned, ?_, fun purchase hpurchase => ?_,
              fun purchase newBalance heq => ?_, hentries⟩
            · cases heq
              refine ⟨coins, hquery.coins.trans hcoins, ?_⟩
              rw [hread]
              show coins - price + price ≤ coins
              omega
            · exact hquery.coins ▸ h.row (hquery.paid ▸ hne)
            · exact hquery.paid.symm ▸ h.increasing
            · have hid := h.ids purchase (hquery.paid ▸ hpurchase)
              show purchase.shopId ≤ (c.queryBalance ok).maxShopEntry + 1
              rw [hquery.maxShopEntry]
              omega
            · cases heq
              refine ⟨Nat.le_refl _, fun other hother => ?_⟩
              have hid := h.ids other (hquery.paid ▸ hother)
              show other.shopId < (c.queryBalance ok).maxShopEntry + 1
              rw [hquery.maxShopEntry]
              omega
        · next hroom =>
            rw [if_pos hpositive, if_neg hroom] at howned
            exact h.advance hquery.coins hquery.paid hquery.maxShopEntry (fun _ _ heq => by cases heq) howned hentries
    · next hpositive =>
        rw [if_neg hpositive] at howned
        exact h.advance hquery.coins hquery.paid hquery.maxShopEntry (fun _ _ heq => by cases heq) howned hentries
  | updating purchase newBalance =>
    simp only [hworker] at howned
    obtain ⟨coins, hcoins, -⟩ := h.reserve purchase newBalance hworker
    obtain ⟨hid, hlater⟩ := h.fresh purchase newBalance hworker
    dsimp only
    split
    · next hok =>
        rw [if_pos hok] at howned
        refine ⟨fun _ _ heq => (by cases heq), fun _ => ?_, howned, ?_, fun p hp => ?_, fun _ _ heq => (by cases heq),
          h.entries⟩
        · show (c.coins.map fun _ => newBalance).isSome = true
          rw [hcoins]
          rfl
        · refine pairwise_append.mpr ⟨h.increasing, pairwise_singleton _ _, fun p hp q hq => ?_⟩
          rw [mem_singleton.mp hq]
          exact hlater p hp
        · rcases mem_append.mp hp with hold | hnew
          · exact h.ids p hold
          · exact mem_singleton.mp hnew ▸ hid
    · next hok =>
        rw [if_neg hok] at howned
        exact h.advance rfl rfl rfl (fun _ _ heq => by cases heq) howned h.entries
  | inserting purchase newBalance =>
    simp only [hworker] at howned
    dsimp only
    split
    · next hok =>
        rw [if_pos hok] at howned
        exact h.advance rfl rfl rfl (fun _ _ heq => by cases heq) howned h.entries
    · next hok =>
        rw [if_neg hok] at howned
        exact h.advance rfl rfl rfl (fun _ _ heq => by cases heq) howned h.entries
  | checking purchase newBalance =>
    simp only [hworker] at howned
    dsimp only
    split
    · next hne =>
        rw [if_pos hne] at howned
        exact h.advance hquery.coins hquery.paid hquery.maxShopEntry (fun _ _ heq => by cases heq) howned hentries
    · next heq =>
        rw [if_neg heq] at howned
        refine h.advance hquery.coins hquery.paid hquery.maxShopEntry (fun _ _ heq => by cases heq) howned
          fun p hp => ?_
        show ∃ found, (if p.shopId = purchase.shopId then some (entry purchase) else c.shopLogsLookup p.shopId) =
          some found ∧ found.refunded = false
        by_cases hid : p.shopId = purchase.shopId
        · exact ⟨entry purchase, if_pos hid, rfl⟩
        · rw [if_neg hid]
          rcases mem_append.mp hp with hold | hnew
          · exact h.entries p hold
          · exact absurd (congrArg _ (mem_singleton.mp hnew)) hid

theorem Sound.step (action : Step) : Sound (step prices c action) := by
  have howned := owned_of_outcome h (outcome_step prices h action)
  cases action with
  | requestBalance =>
    rw [ShopMgr.step, ShopMgr.requestBalance] at howned ⊢
    split
    · exact h
    · next hnot =>
        rw [if_neg hnot] at howned
        exact h.grown (.of_coins rfl rfl rfl rfl) howned h.entries
  | requestPurchase guidLow itemId refused =>
    rw [ShopMgr.step, ShopMgr.requestPurchase, request]
    split
    · exact h
    · split
      · exact h
      · exact h.grown (.of_coins rfl rfl rfl rfl) h.owned h.entries
  | swapRequests =>
    rw [ShopMgr.step, ShopMgr.swapRequests]
    split
    · exact h.grown (.of_coins rfl rfl rfl rfl) h.owned h.entries
    · exact h
  | nextRequest =>
    rw [ShopMgr.step, ShopMgr.nextRequest] at howned ⊢
    split
    · next wanted rest hworker hrequests =>
        simp only [hworker, hrequests] at howned
        split
        · next hitem =>
            rw [if_pos hitem] at howned
            rw [buyItem] at howned ⊢
            split
            · exact h.grown (.of_coins rfl rfl rfl rfl) h.owned h.entries
            · next price hprice =>
                simp only [hprice] at howned
                exact h.advance rfl rfl rfl (fun _ _ heq => by cases heq) howned h.entries
        · next hitem =>
            rw [if_neg hitem] at howned
            exact h.advance rfl rfl rfl (fun _ _ heq => by cases heq) howned h.entries
    · exact h
  | statement ok => exact h.statement ok
  | sendItem i view => exact h.sendItem i view
  | execute i ok => exact h.execute i ok

end

end ShopMgr

end TurtleWow.Shop
