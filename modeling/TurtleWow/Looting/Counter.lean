import TurtleWow.Looting.Rolling
import TurtleWow.Looting.Tallies

namespace TurtleWow.Looting

open List

-- The counter of a loot and what it still owes.

namespace LootItem

def owed (item : LootItem) : Bool := !item.isLooted && !item.freeforall && (item.conditionId = 0 || item.isCounted)

-- A quest entry is blocked from when it first appears for someone.
def owedQuest (item : LootItem) : Bool := !item.isLooted && !item.freeforall && item.isBlocked

end LootItem

namespace Loot

def copiesOwed (owed : QuestItem → Bool) (copies : QuestItemMap) : Nat :=
  (copies.map fun entry => entry.2.countP owed).sum

def questFFA (questItems : List LootItem) (index : Nat) : Bool :=
  match questItems[index]? with
  | none => false
  | some item => item.freeforall

def owedFFA (loot : Loot) : Nat := copiesOwed (fun qitem => !qitem.isLooted) loot.playerFFAItems

def owedQuestFFA (loot : Loot) : Nat :=
  copiesOwed (fun qitem => !qitem.isLooted && questFFA loot.questItems qitem.index) loot.playerQuestItems

def owed (loot : Loot) : Nat :=
  loot.items.countP LootItem.owed + loot.owedFFA + loot.questItems.countP LootItem.owedQuest + loot.owedQuestFFA

section

variable {loot after : Loot} {view : View}

theorem copiesOwed_cons (owed : QuestItem → Bool) (player : Nat) (ql : List QuestItem) (copies : QuestItemMap) :
    copiesOwed owed ((player, ql) :: copies) = ql.countP owed + copiesOwed owed copies := by
  unfold copiesOwed
  rw [map_cons, sum_cons]

theorem copiesOwed_setLooted (owed : QuestItem → Bool) {copies : QuestItemMap} {player copy : Nat}
    {ql : List QuestItem} {qitem : QuestItem} (hql : copies.find player = some ql) (hcopy : ql[copy]? = some qitem) :
    copiesOwed owed (copies.setLooted player copy) + (if owed qitem then 1 else 0) =
      copiesOwed owed copies + if owed qitem.looted then 1 else 0 := by
  induction copies with
  | nil => cases hql
  | cons entry rest ih =>
    obtain ⟨owner, copies⟩ := entry
    rw [QuestItemMap.find_cons] at hql
    unfold QuestItemMap.setLooted Lists.updateFirst
    by_cases howner : owner = player
    · rw [if_pos howner] at hql
      cases hql
      simp only [howner, decide_true, if_true]
      have hmodify := Lists.countP_modify owed (g := QuestItem.looted) hcopy
      rw [copiesOwed_cons, copiesOwed_cons]
      omega
    · rw [if_neg howner] at hql
      simp only [howner, decide_false, Bool.false_eq_true, if_false]
      have hrest := ih hql
      unfold QuestItemMap.setLooted at hrest
      rw [copiesOwed_cons, copiesOwed_cons]
      omega

theorem questFFA_congr {questItems olds : List LootItem}
    (h : questItems.map LootItem.freeforall = olds.map LootItem.freeforall) : questFFA questItems = questFFA olds := by
  funext index
  have hget := congrArg (fun flags => flags[index]?) h
  simp only [List.getElem?_map] at hget
  unfold questFFA
  cases hnew : questItems[index]? with
  | none =>
    rw [hnew] at hget
    cases hold : olds[index]? with
    | none => rfl
    | some old =>
      rw [hold] at hget
      cases hget
  | some item =>
    rw [hnew] at hget
    cases hold : olds[index]? with
    | none =>
      rw [hold] at hget
      cases hget
    | some old =>
      rw [hold] at hget
      exact Option.some.inj hget

theorem countP_of_map {α : Type} {l l' : List α} {q : α → Bool} (h : l.map q = l'.map q) : l.countP q = l'.countP q := by
  have hcount := congrArg (List.countP id) h
  rw [countP_map, countP_map] at hcount
  exact hcount

theorem countP_ffaCopies (view : View) (player i : Nat) (items : List LootItem) :
    (ffaCopies view player i items).countP (fun qitem => !qitem.isLooted) = (ffaCopies view player i items).length := by
  induction items generalizing i with
  | nil => rfl
  | cons item rest ih =>
    unfold ffaCopies
    split_ifs
    · rw [countP_cons_of_pos rfl, ih, length_cons]
    · exact ih (i + 1)

theorem countP_questCopies (ffaOf : Nat → Bool) (view : View) (player i room : Nat) (items : List LootItem)
    (hffa : ∀ j item, items[j]? = some item → ffaOf (i + j) = item.freeforall) :
    (questCopies view player i room items).1.countP LootItem.owedQuest +
        (questCopies view player i room items).2.1.countP (fun qitem => !qitem.isLooted && ffaOf qitem.index) =
      items.countP LootItem.owedQuest + (questCopies view player i room items).2.2 := by
  induction items generalizing i room with
  | nil => rfl
  | cons item rest ih =>
    have hhead : ffaOf i = item.freeforall := hffa 0 item rfl
    have hrest : ∀ j entry, rest[j]? = some entry → ffaOf (i + 1 + j) = entry.freeforall := by
      intro j entry hentry
      rw [Nat.add_assoc, Nat.add_comm 1 j]
      exact hffa (j + 1) entry (by rw [List.getElem?_cons_succ]; exact hentry)
    cases room with
    | zero => rfl
    | succ room =>
      unfold questCopies
      by_cases hcopy : (!item.isLooted) = true ∧ item.allowedForPlayer view player = true
      · have ih := ih (i + 1) room hrest
        rw [if_pos hcopy]
        simp only [countP_cons]
        have hlooted : item.isLooted = false := by simpa using hcopy.1
        cases hf : item.freeforall <;> cases hb : item.isBlocked <;>
          simp [LootItem.owedQuest, LootItem.blocked, hhead, hlooted, hf, hb] at * <;> omega
      · have ih := ih (i + 1) (room + 1) hrest
        rw [if_neg hcopy]
        simp only [countP_cons]
        omega

theorem countP_conditionalCopies (view : View) (player i : Nat) (items : List LootItem) :
    (conditionalCopies view player i items).1.countP LootItem.owed =
      items.countP LootItem.owed + (conditionalCopies view player i items).2.2 := by
  induction items generalizing i with
  | nil => rfl
  | cons item rest ih =>
    have ih := ih (i + 1)
    unfold conditionalCopies
    by_cases hcopy : (!item.isLooted) = true ∧ (!item.freeforall) = true ∧ item.conditionId ≠ 0 ∧
      item.allowedForPlayer view player = true
    · simp only [if_pos hcopy, countP_cons]
      obtain ⟨hlooted, hffa, hcondition, -⟩ := hcopy
      cases hc : item.isCounted <;> simp_all [LootItem.owed, LootItem.counted] <;> omega
    · simp only [if_neg hcopy, countP_cons]
      omega

theorem Copied.blocked {i j : Nat} {items marks : List LootItem} {copies : List QuestItem}
    (hcopied : Copied (fun item mark => mark = item.blocked) i items marks copies)
    (h : (items.map LootItem.isBlocked)[j]? = some true) : (marks.map LootItem.isBlocked)[j]? = some true := by
  induction hcopied generalizing j with
  | stop => exact h
  | skip item hrest ih =>
    cases j with
    | zero => exact h
    | succ j => exact ih h
  | copy hmark hrest ih =>
    cases j with
    | zero => rw [hmark]; rfl
    | succ j => exact ih h

structure Reckoned (loot : Loot) : Prop where
  count : loot.unlootedCount = Word.u8 loot.owed
  shown : ∀ player ql, loot.playerQuestItems.find player = some ql → ∀ qitem ∈ ql,
    (loot.questItems.map LootItem.isBlocked)[qitem.index]? = some true

theorem u8_add (total n : Nat) : Word.u8 (Word.u8 total + n) = Word.u8 (total + n) := by
  unfold Word.u8
  omega

section

variable (h : Reckoned loot)

include h

theorem Reckoned.fill {n : Nat} (hcount : after.unlootedCount = Word.u8 (loot.unlootedCount + n))
    (howed : after.owed = loot.owed + n)
    (hshown : ∀ player ql, after.playerQuestItems.find player = some ql → ∀ qitem ∈ ql,
      (after.questItems.map LootItem.isBlocked)[qitem.index]? = some true) : Reckoned after := by
  refine ⟨?_, hshown⟩
  rw [hcount, h.count, u8_add, howed]

theorem Reckoned.fillFFALoot (player : Nat) : Reckoned (fillFFALoot view player loot) := by
  unfold Loot.fillFFALoot
  simp only []
  split_ifs
  · exact h
  · refine h.fill rfl ?_ h.shown
    have hcopies := countP_ffaCopies view player 0 loot.items
    unfold owed owedFFA owedQuestFFA
    simp only []
    rw [copiesOwed_cons]
    omega

theorem Reckoned.fillConditionalLoot (player : Nat) :
    Reckoned (fillNonQuestNonFFAConditionalLoot view player loot) := by
  unfold fillNonQuestNonFFAConditionalLoot
  simp only []
  split_ifs
  · exact h
  · refine h.fill rfl ?_ h.shown
    have hcopies := countP_conditionalCopies view player 0 loot.items
    unfold owed owedFFA owedQuestFFA
    simp only []
    omega

theorem Reckoned.fillQuestLoot (player : Nat) : Reckoned (fillQuestLoot view player loot) := by
  unfold Loot.fillQuestLoot
  simp only []
  split_ifs
  · exact h
  · exact h
  · have hffa : questFFA (questCopies view player 0 (maxNrLootItems - loot.items.length) loot.questItems).1 =
        questFFA loot.questItems :=
      questFFA_congr ((copied_questCopies view player 0 _ _).map LootItem.freeforall fun _ _ h => h ▸ rfl)
    refine h.fill rfl ?_ ?_
    · have hcopies := countP_questCopies (questFFA loot.questItems) view player 0
        (maxNrLootItems - loot.items.length) loot.questItems (fun j item hitem => by
          rw [Nat.zero_add, questFFA, hitem])
      unfold owed owedFFA owedQuestFFA
      simp only []
      rw [hffa, copiesOwed_cons]
      omega
    · intro other ql hql qitem hqitem
      have hql : QuestItemMap.find (_ :: loot.playerQuestItems) other = some ql := hql
      rw [QuestItemMap.find_cons] at hql
      split_ifs at hql
      · cases hql
        obtain ⟨j, item, mark, hindex, -, -, hget, rfl⟩ := (copied_questCopies view player 0 _ _).leads hqitem
        rw [hindex, Nat.zero_add, List.getElem?_map, hget]
        rfl
      · exact (copied_questCopies view player 0 _ _).blocked (h.shown other ql hql qitem hqitem)

theorem Reckoned.fillNotNormalLootFor (player : Nat) : Reckoned (loot.fillNotNormalLootFor view player) :=
  fillNotNormalLootFor_invariant Reckoned (fun _ _ h => ⟨h.count, h.shown⟩) (fun _ h _ => h.fillQuestLoot player)
    (fun _ h _ => h.fillFFALoot player) (fun _ h => h.fillConditionalLoot player) h

end

theorem owed_of_items (hitems : after.items.map LootItem.owed = loot.items.map LootItem.owed)
    (hffa : after.playerFFAItems = loot.playerFFAItems) (hquestItems : after.questItems = loot.questItems)
    (hquest : after.playerQuestItems = loot.playerQuestItems) : after.owed = loot.owed := by
  unfold owed owedFFA owedQuestFFA
  rw [countP_of_map hitems, hffa, hquestItems, hquest]

theorem Reckoned.setUnderthreshold (h : Reckoned loot) (threshold : Nat) :
    Reckoned (loot.setUnderthreshold view threshold) :=
  ⟨h.count.trans (congrArg Word.u8 (owed_of_items (map_setUnderthreshold LootItem.owed (fun _ => rfl) view threshold loot)
    rfl rfl rfl).symm), h.shown⟩

theorem Reckoned.addItem (h : Reckoned loot) (hquest : loot.playerQuestItems = []) (drop : LootStoreItem) :
    Reckoned (loot.addItem view drop) ∧ (loot.addItem view drop).playerQuestItems = [] := by
  unfold Loot.addItem
  split_ifs with hneeds hroom hroom hcounted
  · refine ⟨h.fill (n := 0) ?_ ?_ ?_, hquest⟩
    · show loot.unlootedCount = _
      rw [Nat.add_zero, h.count, Word.u8_u8]
    · unfold owed owedFFA owedQuestFFA
      simp only [hquest, countP_append]
      simp [LootItem.new, LootItem.owedQuest, copiesOwed]
    · intro player ql hql
      have hql : loot.playerQuestItems.find player = some ql := hql
      rw [hquest] at hql
      cases hql
  · exact ⟨h, hquest⟩
  · refine ⟨h.fill (n := 1) rfl ?_ h.shown, hquest⟩
    unfold owed owedFFA owedQuestFFA
    simp only [countP_append]
    have hnew : (LootItem.new view drop).owed = true := by
      simp only [Bool.not_eq_eq_eq_not, Bool.not_true] at hcounted
      simp [LootItem.new, LootItem.owed, hcounted.1, hcounted.2]
    rw [countP_cons_of_pos hnew]
    simp only [countP_nil]
    omega
  · refine ⟨h.fill (n := 0) ?_ ?_ h.shown, hquest⟩
    · show loot.unlootedCount = _
      rw [Nat.add_zero, h.count, Word.u8_u8]
    · unfold owed owedFFA owedQuestFFA
      simp only [countP_append]
      have hnew : (LootItem.new view drop).owed = false := by
        by_contra hyes
        refine hcounted ?_
        simp only [LootItem.new, LootItem.owed, Bool.not_false, Bool.true_and, Bool.or_false, Bool.not_eq_false,
          Bool.and_eq_true] at hyes
        exact ⟨of_decide_eq_true hyes.2, hyes.1⟩
      rw [countP_cons_of_neg (by simp [hnew])]
      rfl
  · exact ⟨h, hquest⟩

theorem reckoned_cleared : Reckoned cleared :=
  ⟨rfl, fun player ql hql => by
    have hql : QuestItemMap.find [] player = some ql := hql
    cases hql⟩

theorem reckoned_fillLoot (view : View) (drops : List LootStoreItem) (owner : Nat) (group : Option (List Nat × Nat)) :
    Reckoned (fillLoot view drops owner group) := by
  have hdrops : Reckoned (drops.foldl (addItem view) cleared) := by
    have hall : ∀ loot : Loot, Reckoned loot ∧ loot.playerQuestItems = [] →
        Reckoned (drops.foldl (addItem view) loot) ∧ (drops.foldl (addItem view) loot).playerQuestItems = [] := by
      induction drops with
      | nil => exact fun loot h => h
      | cons drop rest ih => exact fun loot h => ih _ (h.1.addItem h.2 drop)
    exact (hall cleared ⟨reckoned_cleared, rfl⟩).1
  exact fillLoot_invariant Reckoned (fun _ h => ⟨h.count, h.shown⟩) (fun _ _ h => ⟨h.count, h.shown⟩)
    (fun _ player h => h.fillNotNormalLootFor player) (fun _ threshold h => h.setUnderthreshold threshold) hdrops owner group

theorem Reckoned.spend (h : Reckoned loot) (hcount : after.unlootedCount = Word.u8 (loot.unlootedCount + 255))
    (howed : after.owed + 1 = loot.owed)
    (hshown : ∀ player ql, after.playerQuestItems.find player = some ql → ∀ qitem ∈ ql,
      (after.questItems.map LootItem.isBlocked)[qitem.index]? = some true) : Reckoned after := by
  refine ⟨?_, hshown⟩
  rw [hcount, h.count, u8_add, ← howed]
  unfold Word.u8
  omega

theorem owed_updateItem {slot : Nat} {item : LootItem} {f : LootItem → LootItem}
    (hitem : loot.items[slot]? = some item) (howed : item.owed = true) (hf : (f item).owed = false) :
    (loot.updateItem slot f).owed + 1 = loot.owed := by
  have hmodify := Lists.countP_modify LootItem.owed (g := f) hitem
  rw [howed, hf] at hmodify
  simp only [if_true, Bool.false_eq_true, if_false, Nat.add_zero] at hmodify
  unfold owed owedFFA owedQuestFFA updateItem
  simp only []
  omega

theorem owed_looted (item : LootItem) : item.looted.owed = false := by simp [LootItem.owed, LootItem.looted]

theorem owed_givenAway (item : LootItem) : item.givenAway.owed = false := by
  simp [LootItem.owed, LootItem.givenAway]

end

-- Deliveries that the counter does not follow: what they hand out is not owed.

def takesUnowed (view : View) (creature master : Bool) (slot player : Nat) (loot : Loot) : Bool :=
  match loot.lootItemInSlot slot player with
  | none => false
  | some (item, found) =>
    !isQuest found && !isFFA found && takes view creature master slot player item found && !item.owed

def givesUnowed (view : View) (slot receiver : Nat) (loot : Loot) : Bool :=
  match loot.items[slot]? with
  | none => false
  | some item => loot.isAllowedLooter receiver false && view.canStore slot receiver && !item.owed

def settlesUnowed (view : View) (roll : Roll) (loot : Loot) : Bool :=
  match roll.outcome view, loot.items[roll.itemSlot]? with
  | .won winner _, some item => view.inWorld winner && view.canStore roll.itemSlot winner && !item.owed
  | _, _ => false

section

variable {loot after : Loot} {view : View}

theorem Reckoned.masterGive (h : Reckoned loot) {slot receiver : Nat}
    (howed : loot.givesUnowed view slot receiver = false) :
    Reckoned (loot.masterGive view slot receiver) ∧ (loot.masterGive view slot receiver).owed ≤ loot.owed := by
  unfold Loot.masterGive
  unfold givesUnowed at howed
  split
  · exact ⟨h, Nat.le_refl _⟩
  · rename_i item hitem
    rw [hitem] at howed
    by_cases hgives : loot.isAllowedLooter receiver false = true ∧ view.canStore slot receiver = true
    · have hitemOwed : item.owed = true := by simpa [hgives.1, hgives.2] using howed
      have hone := owed_updateItem hitem hitemOwed (owed_givenAway item)
      simp only [if_pos hgives]
      split_ifs
      · exact ⟨h.spend rfl hone h.shown, Nat.le_of_succ_le (Nat.le_of_eq hone)⟩
      · exact ⟨h.spend rfl hone h.shown, Nat.le_of_succ_le (Nat.le_of_eq hone)⟩
    · simp only [if_neg hgives]
      exact ⟨h, Nat.le_refl _⟩

theorem Reckoned.of_owed (h : Reckoned loot) (hcount : after.unlootedCount = loot.unlootedCount)
    (howed : after.owed = loot.owed) (hquestItems : after.questItems = loot.questItems)
    (hquest : after.playerQuestItems = loot.playerQuestItems) : Reckoned after ∧ after.owed ≤ loot.owed := by
  refine ⟨⟨?_, ?_⟩, Nat.le_of_eq howed⟩
  · rw [hcount, howed, h.count]
  · rw [hquestItems, hquest]
    exact h.shown

theorem owed_updateItem_same (slot : Nat) {f : LootItem → LootItem} (hf : ∀ item, (f item).owed = item.owed) :
    (loot.updateItem slot f).owed = loot.owed :=
  owed_of_items (Lists.map_modify_same LootItem.owed hf loot.items slot) rfl rfl rfl

theorem Reckoned.settle (h : Reckoned loot) {roll : Roll} (howed : loot.settlesUnowed view roll = false) :
    Reckoned (roll.settle view loot) ∧ (roll.settle view loot).owed ≤ loot.owed := by
  have hsame : ∀ f : LootItem → LootItem, (∀ item, (f item).owed = item.owed) →
      Reckoned (loot.updateItem roll.itemSlot f) ∧ (loot.updateItem roll.itemSlot f).owed ≤ loot.owed :=
    fun f hf => h.of_owed rfl (owed_updateItem_same roll.itemSlot hf) rfl rfl
  unfold Roll.settle
  unfold settlesUnowed at howed
  split
  · rename_i winner needed houtcome
    rw [houtcome] at howed
    unfold Loot.award
    split
    · exact ⟨h, Nat.le_refl _⟩
    · rename_i item hitem
      rw [hitem] at howed
      by_cases hworld : view.inWorld winner = true
      · rw [if_pos hworld]
        by_cases hstore : view.canStore roll.itemSlot winner = true
        · have hitemOwed : item.owed = true := by simpa [hworld, hstore] using howed
          have hone := owed_updateItem hitem hitemOwed (owed_looted item)
          simp only [if_pos hstore]
          split_ifs
          · exact ⟨h.spend rfl hone h.shown, Nat.le_of_succ_le (Nat.le_of_eq hone)⟩
          · exact ⟨h.spend rfl hone h.shown, Nat.le_of_succ_le (Nat.le_of_eq hone)⟩
        · rw [if_neg hstore]
          exact hsame _ fun _ => rfl
      · rw [if_neg hworld]
        split_ifs
        · exact hsame _ fun _ => rfl
        · exact ⟨h, Nat.le_refl _⟩
  · exact hsame _ fun _ => rfl
  · exact ⟨h, Nat.le_refl _⟩

theorem Reckoned.take_ffa (h : Reckoned loot) {slot player copy : Nat} {item : LootItem}
    (hfinds : loot.Finds slot player item (.ffa copy)) :
    Reckoned (loot.markLooted slot player item (.ffa copy)).spend ∧
      (loot.markLooted slot player item (.ffa copy)).spend.owed ≤ loot.owed := by
  obtain ⟨-, -, qitem, hcopyOf, hqlooted⟩ := hfinds
  obtain ⟨ql, hql, hget, -, -⟩ := copyOf_some hcopyOf
  have hone : (loot.markLooted slot player item (.ffa copy)).spend.owed + 1 = loot.owed := by
    have hcopies := copiesOwed_setLooted (fun qitem => !qitem.isLooted) hql hget
    simp only [hqlooted, QuestItem.looted, Bool.not_false, if_true, Bool.not_true, Bool.false_eq_true, if_false,
      Nat.add_zero] at hcopies
    unfold owed owedFFA owedQuestFFA markLooted Loot.spend
    simp only []
    omega
  exact ⟨h.spend rfl hone h.shown, Nat.le_of_succ_le (Nat.le_of_eq hone)⟩

-- The entry of a quest copy is owed once, or as often as there are copies.
theorem Reckoned.take_quest (h : Reckoned loot) {slot player copy index : Nat} {item : LootItem}
    (hfinds : loot.Finds slot player item (.quest copy index)) :
    Reckoned (loot.markLooted slot player item (.quest copy index)).spend ∧
      (loot.markLooted slot player item (.quest copy index)).spend.owed ≤ loot.owed := by
  obtain ⟨ql, qitem, hql, hget, rfl, hqlooted, hitem, hlooted⟩ := hfinds
  have hblocked : item.isBlocked = true := by
    have hshown := h.shown player ql hql qitem (mem_of_getElem? hget)
    rw [List.getElem?_map, hitem] at hshown
    exact Option.some.inj hshown
  have hcopies := copiesOwed_setLooted
    (fun qitem => !qitem.isLooted && questFFA loot.questItems qitem.index) hql hget
  have hffaOf : questFFA loot.questItems qitem.index = item.freeforall := by rw [questFFA, hitem]
  simp only [hqlooted, QuestItem.looted, hffaOf, Bool.not_false, Bool.true_and, Bool.not_true, Bool.false_and,
    Bool.false_eq_true, if_false, Nat.add_zero] at hcopies
  have hone : (loot.markLooted slot player item (.quest copy qitem.index)).spend.owed + 1 = loot.owed := by
    unfold owed owedFFA owedQuestFFA markLooted Loot.spend
    simp only []
    by_cases hffa : item.freeforall
    · simp only [hffa, if_true] at hcopies ⊢
      omega
    · have hmodify := Lists.countP_modify LootItem.owedQuest (g := LootItem.looted) hitem
      have hflags : questFFA (loot.questItems.modify qitem.index LootItem.looted) = questFFA loot.questItems :=
        questFFA_congr (Lists.map_modify_same LootItem.freeforall (g := LootItem.looted) (fun _ => rfl) _ _)
      simp only [hffa, LootItem.owedQuest, LootItem.looted, hlooted, hblocked, Bool.not_false, Bool.true_and,
        Bool.not_true, Bool.false_and, Bool.false_eq_true, if_false, if_true, Nat.add_zero] at hcopies hmodify ⊢
      rw [hflags]
      unfold LootItem.owedQuest at *
      omega
  have hshown : ∀ other ql, (loot.playerQuestItems.setLooted player copy).find other = some ql → ∀ entry ∈ ql,
      ((loot.markLooted slot player item (.quest copy qitem.index)).questItems.map LootItem.isBlocked)[entry.index]? =
        some true := by
    have hblockedMap : (loot.markLooted slot player item (.quest copy qitem.index)).questItems.map LootItem.isBlocked =
        loot.questItems.map LootItem.isBlocked := by
      unfold markLooted
      simp only []
      split_ifs
      · rfl
      · exact Lists.map_modify_same LootItem.isBlocked (g := LootItem.looted) (fun _ => rfl) _ _
    intro other ql' hql' entry hentry
    rw [hblockedMap]
    rw [QuestItemMap.find_setLooted] at hql'
    split_ifs at hql'
    · obtain ⟨old, hold, rfl⟩ := Option.map_eq_some_iff.mp hql'
      obtain ⟨source, hsource, hindex⟩ : ∃ source ∈ old, source.index = entry.index := by
        have hmem : entry.index ∈ (old.modify copy QuestItem.looted).map QuestItem.index := mem_map_of_mem hentry
        rw [Lists.map_modify_same QuestItem.index (g := QuestItem.looted) fun _ => rfl] at hmem
        exact mem_map.mp hmem
      rw [← hindex]
      exact h.shown other old hold source hsource
    · exact h.shown other ql' hql' entry hentry
  exact ⟨h.spend rfl hone hshown, Nat.le_of_succ_le (Nat.le_of_eq hone)⟩

theorem Reckoned.handOutFound (h : Reckoned loot ∧ loot.owed ≤ after.owed) (slot player : Nat) (found : Found) :
    Reckoned (loot.handOutFound slot player found) ∧ (loot.handOutFound slot player found).owed ≤ after.owed := by
  cases found <;> exact ⟨⟨h.1.count, h.1.shown⟩, h.2⟩

theorem Reckoned.autostore (h : Reckoned loot) {creature master : Bool} {slot player : Nat}
    (howed : loot.takesUnowed view creature master slot player = false) :
    Reckoned (loot.autostore view creature master slot player) ∧
      (loot.autostore view creature master slot player).owed ≤ loot.owed := by
  unfold Loot.autostore
  unfold takesUnowed at howed
  split
  · exact ⟨h, Nat.le_refl _⟩
  · rename_i item found hfound
    have hfinds := finds_of_lootItemInSlot hfound
    rw [hfound] at howed
    split_ifs with htakes
    · refine Reckoned.handOutFound ?_ slot player found
      simp only [htakes, Bool.and_true] at howed
      cases found with
      | quest copy index => exact h.take_quest hfinds
      | ffa copy => exact h.take_ffa hfinds
      | conditional copy =>
        have hitemOwed : item.owed = true := by simpa [isQuest, isFFA] using howed
        have hone := owed_updateItem hfinds.1 hitemOwed (owed_looted item)
        exact ⟨h.spend rfl hone h.shown, Nat.le_of_succ_le (Nat.le_of_eq hone)⟩
      | plain =>
        have hitemOwed : item.owed = true := by simpa [isQuest, isFFA] using howed
        have hffa : item.freeforall = false := by
          simp only [LootItem.owed, Bool.and_eq_true, Bool.not_eq_true'] at hitemOwed
          exact hitemOwed.1.2
        have hone := owed_updateItem hfinds.1 hitemOwed (owed_looted item)
        unfold markLooted
        rw [if_neg (by simp [hffa])]
        exact ⟨h.spend rfl hone h.shown, Nat.le_of_succ_le (Nat.le_of_eq hone)⟩
    · exact ⟨h, Nat.le_refl _⟩

end

end Loot

namespace Party

variable {p : Party} {view : View}

structure Exact (p : Party) : Prop extends Rolled p where
  reckoned : ∀ target, (p.loot target).Reckoned
  few : ∀ target, (p.loot target).owed < 256

theorem Exact.setLoot (h : Exact p) {target : Nat} {loot : Loot} (hrolled : Rolled (p.setLoot target loot))
    (hloot : loot.Reckoned ∧ loot.owed ≤ (p.loot target).owed) : Exact (p.setLoot target loot) := by
  refine ⟨hrolled, fun other => ?_, fun other => ?_⟩
  · rw [loot_setLoot]
    split_ifs
    · exact hloot.1
    · exact h.reckoned other
  · rw [loot_setLoot]
    split_ifs
    · exact Nat.lt_of_le_of_lt hloot.2 (h.few target)
    · exact h.few other

theorem Exact.of_targets (h : Exact p) {q : Party} (hrolled : Rolled q) (htargets : ∀ target, q.loot target = p.loot target) :
    Exact q :=
  ⟨hrolled, fun target => htargets target ▸ h.reckoned target, fun target => htargets target ▸ h.few target⟩

def settlesUnowed (p : Party) (view : View) (roll : Roll) : Bool :=
  roll.valid && (p.loot roll.lootedTarget).settlesUnowed view roll

theorem Exact.countTheRoll (h : Exact p) (timeout : Bool) (i : Nat)
    (hsettles : ∀ roll, p.rolls[i]? = some roll → p.settlesUnowed view roll = false) : Exact (p.countTheRoll view timeout i) := by
  have hrolled : Rolled (p.countTheRoll view timeout i) := h.toRolled.countTheRoll timeout i
  revert hrolled
  unfold Party.countTheRoll
  split
  · exact fun _ => h
  · rename_i roll hroll
    by_cases hvalid : roll.valid
    · rw [if_pos hvalid]
      intro hrolled
      have howed := hsettles roll hroll
      unfold settlesUnowed at howed
      rw [hvalid, Bool.true_and] at howed
      have hsettle := (h.reckoned roll.lootedTarget).settle howed
      refine ⟨hrolled, fun target => ?_, fun target => ?_⟩
      · show ((p.setLoot roll.lootedTarget (roll.settle view (p.loot roll.lootedTarget))).loot target).Reckoned
        rw [loot_setLoot]
        split_ifs
        · exact hsettle.1
        · exact h.reckoned target
      · show ((p.setLoot roll.lootedTarget (roll.settle view (p.loot roll.lootedTarget))).loot target).owed < 256
        rw [loot_setLoot]
        split_ifs
        · exact Nat.lt_of_le_of_lt hsettle.2 (h.few roll.lootedTarget)
        · exact h.few target
    · rw [if_neg hvalid]
      exact fun hrolled => h.of_targets hrolled fun _ => rfl

theorem settlesUnowed_countTheRoll (h : Rolled p) {timeout : Bool} {i : Nat} {roll : Roll}
    (hroll : roll ∈ (p.countTheRoll view timeout i).rolls) :
    (p.countTheRoll view timeout i).settlesUnowed view roll = p.settlesUnowed view roll := by
  unfold settlesUnowed
  cases hvalid : roll.valid with
  | false => rfl
  | true =>
    have hplace : (roll.lootedTarget, roll.itemSlot) ∈ (p.countTheRoll view timeout i).places :=
      mem_filterMap.mpr ⟨roll, hroll, roll.place_of_valid hvalid⟩
    unfold Loot.settlesUnowed
    rw [countTheRoll_entry h hplace]

theorem Exact.endRoll (h : Exact p) (target fuel : Nat)
    (hsettles : ∀ roll ∈ p.rolls, roll.lootedTarget = target → p.settlesUnowed view roll = false) :
    Exact (Party.endRoll view target fuel p) := by
  induction fuel generalizing p with
  | zero => exact h
  | succ fuel ih =>
    unfold Party.endRoll
    split
    · exact h
    · rename_i i hi
      obtain ⟨hlt, hfound, -⟩ := List.findIdx?_eq_some_iff_getElem.mp hi
      refine ih (h.countTheRoll true i fun roll hroll => ?_) fun roll hroll htarget => ?_
      · rw [(List.getElem?_eq_some_iff.mp hroll).2] at hfound
        simp only [Bool.and_eq_true, decide_eq_true_eq] at hfound
        exact hsettles roll (mem_of_getElem? hroll) hfound.2
      · rw [settlesUnowed_countTheRoll h.toRolled hroll]
        rw [rolls_countTheRoll] at hroll
        exact hsettles roll (mem_of_mem_eraseIdx hroll) htarget

theorem Exact.disband (h : Exact p) (fuel : Nat) (hsettles : ∀ roll ∈ p.rolls, p.settlesUnowed view roll = false) :
    Exact (Party.disband view fuel p) := by
  induction fuel generalizing p with
  | zero => exact h
  | succ fuel ih =>
    refine ih (h.countTheRoll false 0 fun roll hroll => hsettles roll (mem_of_getElem? hroll)) fun roll hroll => ?_
    rw [settlesUnowed_countTheRoll h.toRolled hroll]
    rw [rolls_countTheRoll] at hroll
    exact hsettles roll (mem_of_mem_eraseIdx hroll)

def votesUnowed (p : Party) (view : View) (target slot player rollType : Nat) : Bool :=
  match RollVote.ofClient rollType, p.votedRoll target slot player with
  | some vote, some (_, roll) =>
    (roll.register player vote).full && p.settlesUnowed view (roll.register player vote)
  | _, _ => false

theorem Exact.countRollVote (h : Exact p) {target slot player rollType : Nat}
    (hvotes : p.votesUnowed view target slot player rollType = false) :
    Exact (p.countRollVote view target slot player rollType) := by
  unfold Party.countRollVote
  split
  · rename_i vote i roll hvote hroll
    have hget := votedRoll_some hroll
    have hvoted : Exact { p with rolls := p.rolls.set i (roll.register player vote) } :=
      h.of_targets (h.toRolled.of_places (places_voted hget player vote) rfl) fun _ => rfl
    by_cases hfull : (roll.register player vote).full
    · simp only [hfull, if_true]
      refine hvoted.countTheRoll false i fun counted hcounted => ?_
      rw [List.getElem?_set_self (List.getElem?_eq_some_iff.mp hget).1] at hcounted
      cases hcounted
      have howed : p.settlesUnowed view (roll.register player vote) = false := by
        simpa [votesUnowed, hvote, hroll, hfull] using hvotes
      exact howed
    · simp only [hfull]
      exact hvoted
  · exact h

theorem Exact.openBody (h : Exact p) (members : List Nat) {target : Nat}
    (hclosed : (p.targets target).lootForBody = false) : Exact (p.openBody view members target) := by
  have hrolled : Rolled (p.openBody view members target) := h.toRolled.openBody members hclosed
  suffices hloots : ∀ other, ((p.openBody view members target).loot other).Reckoned ∧
      ((p.openBody view members target).loot other).owed ≤ (p.loot other).owed from
    ⟨hrolled, fun other => (hloots other).1, fun other => Nat.lt_of_le_of_lt (hloots other).2 (h.few other)⟩
  have hstart : ∀ other, ((p.setOpened target).loot other).Reckoned ∧
      ((p.setOpened target).loot other).owed ≤ (p.loot other).owed := by
    intro other
    rw [loot_setOpened]
    exact ⟨h.reckoned other, Nat.le_refl _⟩
  have hset : ∀ (q : Party) (slot : Nat) (f : LootItem → LootItem), (∀ item, (f item).owed = item.owed) →
      (∀ other, (q.loot other).Reckoned ∧ (q.loot other).owed ≤ (p.loot other).owed) →
      ∀ other, ((q.setLoot target ((q.loot target).updateItem slot f)).loot other).Reckoned ∧
        ((q.setLoot target ((q.loot target).updateItem slot f)).loot other).owed ≤ (p.loot other).owed := by
    intro q slot f hf hq other
    rw [loot_setLoot]
    split_ifs with heq
    · have hsame : ((q.loot target).updateItem slot f).Reckoned ∧
          ((q.loot target).updateItem slot f).owed ≤ (q.loot target).owed :=
        (hq target).1.of_owed rfl (Loot.owed_updateItem_same slot hf) rfl rfl
      exact ⟨hsame.1, Nat.le_trans hsame.2 (heq ▸ (hq target).2)⟩
    · exact hq other
  unfold Party.openBody
  split_ifs
  · refine groupLoot_invariant (fun _ q => ∀ other, (q.loot other).Reckoned ∧ (q.loot other).owed ≤ (p.loot other).owed)
      (fun _ _ hq => hq) (fun q slot item _ _ _ hq => ?_) (fun q slot hq => hset q slot _ (fun _ => rfl) hq) hstart
    unfold Party.startLootRoll
    split
    · exact hq
    · split_ifs
      · exact hset q slot LootItem.blocked (fun _ => rfl) hq
      · exact hq
  · exact hstart

theorem Exact.openLoot (h : Exact p) (members : List Nat) {target player : Nat}
    (hfew : (p.targets target).creature = false → ((p.loot target).fillNotNormalLootFor view player).owed < 256) :
    Exact (p.openLoot view members target player) := by
  have hrolled : Rolled (p.openLoot view members target player) := h.toRolled.openLoot members target player
  revert hrolled
  unfold Party.openLoot
  simp only []
  by_cases hcreature : (p.targets target).creature = true
  · rw [if_pos hcreature]
    have hopened : Exact (if (p.targets target).lootForBody then p else p.openBody view members target) := by
      split_ifs with hbody
      · exact h
      · exact h.openBody members (by simpa using hbody)
    generalize (if (p.targets target).lootForBody then p else p.openBody view members target) = opened at hopened
    split_ifs
    · exact fun hrolled => hopened.setLoot hrolled ((hopened.reckoned target).of_owed rfl
        (Loot.owed_of_items (Loot.map_setUnderthreshold LootItem.owed (fun _ => rfl) view _ _) rfl rfl rfl) rfl rfl)
    · exact fun _ => hopened
  · rw [if_neg hcreature]
    intro hrolled
    have hfilled : ((p.loot target).fillNotNormalLootFor view player).Reckoned :=
      (h.reckoned target).fillNotNormalLootFor player
    refine ⟨hrolled, fun other => ?_, fun other => ?_⟩
    · rw [loot_setLoot]
      split_ifs
      · exact hfilled
      · exact h.reckoned other
    · rw [loot_setLoot]
      split_ifs
      · exact hfew (by simpa using hcreature)
      · exact h.few other

theorem loot_clearLoot (p : Party) (target : Nat) (t : Target) (other : Nat) :
    (p.clearLoot target t).loot other = if other = target then t.loot else p.loot other := by
  unfold Party.clearLoot setTarget Party.loot
  simp only [Function.update_apply]
  split_ifs <;> rfl

theorem Exact.clearLoot (h : Exact p) (target : Nat) (t : Target) (hreckoned : t.loot.Reckoned)
    (hfew : t.loot.owed < 256) : Exact (p.clearLoot target t) := by
  refine ⟨h.toRolled.clearLoot target t, fun other => ?_, fun other => ?_⟩
  · rw [loot_clearLoot]
    split_ifs
    · exact hreckoned
    · exact h.reckoned other
  · rw [loot_clearLoot]
    split_ifs
    · exact hfew
    · exact h.few other

-- The steps that the counter follows: what is delivered is owed, and a fill
-- leaves fewer owed than the counter can hold.
def KeepsCounter (p : Party) (m : Message) : Prop :=
  match m.op with
  | .fill _ _ _ drops _ owner members =>
    (Loot.fillLoot m.view drops owner (members.map fun members => (members.guids, p.lootThreshold))).owed < 256
  | .openLoot target player _ =>
    (p.targets target).creature = false → ((p.loot target).fillNotNormalLootFor m.view player).owed < 256
  | .autostore target player slot => (p.loot target).takesUnowed m.view (p.targets target).creature
      (p.usesMaster m.view player) slot player = false
  | .masterGive target player slot receiver =>
    p.lootMethod = .masterLoot ∧ p.looterGuid = player ∧ m.view.inWorld receiver = true →
    (p.loot target).givesUnowed m.view slot receiver = false
  | .rollVote target slot player rollType => p.votesUnowed m.view target slot player rollType = false
  | .endRoll target => ∀ roll ∈ p.rolls, roll.lootedTarget = target → p.settlesUnowed m.view roll = false
  | .disband => ∀ roll ∈ p.rolls, p.settlesUnowed m.view roll = false
  | _ => True

theorem Exact.receive (h : Exact p) {m : Message} (hok : KeepsCounter p m) : Exact (p.receive m) := by
  have hrolled := h.toRolled.receive m
  revert hrolled
  unfold Party.receive
  unfold KeepsCounter at hok
  split <;> rename_i hop <;> rw [hop] at hok <;> intro hrolled
  · have hfilled := Loot.reckoned_fillLoot m.view
    exact h.clearLoot _ _ ⟨(hfilled _ _ _).count, (hfilled _ _ _).shown⟩ hok
  · exact h.openLoot _ hok
  · exact h.setLoot hrolled ((h.reckoned _).autostore hok)
  · revert hrolled
    unfold Party.masterGive
    split_ifs with hmaster
    · exact fun hrolled => h.setLoot hrolled ((h.reckoned _).masterGive (hok hmaster))
    · exact fun _ => h
  · exact h.countRollVote hok
  · exact h.endRoll _ _ hok
  · exact h.of_targets hrolled fun _ => rfl
  · exact h.disband _ hok
  · exact h.of_targets hrolled fun _ => rfl
  · exact h.setLoot hrolled ((h.reckoned _).of_owed rfl rfl rfl rfl)
  · exact h.clearLoot _ _ Loot.reckoned_cleared (show Loot.cleared.owed < 256 by decide)

theorem exact_of_empty (hrolls : p.rolls = []) (hloots : ∀ target, p.loot target = Loot.new) : Exact p := by
  refine ⟨rolled_of_empty hrolls, fun target => ?_, fun target => ?_⟩
  · rw [hloots]
    exact ⟨Loot.reckoned_cleared.count, Loot.reckoned_cleared.shown⟩
  · rw [hloots]
    decide

theorem Exact.counter (h : Exact p) (target : Nat) : (p.loot target).unlootedCount = (p.loot target).owed ∧
    ((p.loot target).isLooted = true ↔ (p.loot target).gold = 0 ∧ (p.loot target).owed = 0) := by
  have hcount := (h.reckoned target).count
  rw [Word.u8_of_lt (h.few target)] at hcount
  refine ⟨hcount, ?_⟩
  simp [Loot.isLooted, hcount]

theorem counter_run {p : Party} {messages : List Message} (hrolls : p.rolls = [])
    (hloots : ∀ target, p.loot target = Loot.new) (hruns : Run.Guarded Party.receive KeepsCounter p messages)
    (target : Nat) :
    let loot := (Run.run Party.receive p messages).loot target
    loot.unlootedCount = loot.owed ∧ (loot.isLooted = true ↔ loot.gold = 0 ∧ loot.owed = 0) :=
  (Run.run_invariant Party.receive KeepsCounter Exact (fun _ _ h hok => h.receive hok)
    (exact_of_empty hrolls hloots) hruns).counter target

instance (p : Party) (m : Message) : Decidable (KeepsCounter p m) := by
  unfold KeepsCounter
  exact match m.op with
  | .fill _ _ _ drops _ owner members =>
    inferInstanceAs (Decidable ((Loot.fillLoot m.view drops owner
      (members.map fun members => (members.guids, p.lootThreshold))).owed < 256))
  | .openLoot target player _ =>
    inferInstanceAs (Decidable ((p.targets target).creature = false →
      ((p.loot target).fillNotNormalLootFor m.view player).owed < 256))
  | .autostore target player slot =>
    inferInstanceAs (Decidable ((p.loot target).takesUnowed m.view (p.targets target).creature
      (p.usesMaster m.view player) slot player = false))
  | .masterGive target player slot receiver =>
    inferInstanceAs (Decidable (p.lootMethod = .masterLoot ∧ p.looterGuid = player ∧
      m.view.inWorld receiver = true → (p.loot target).givesUnowed m.view slot receiver = false))
  | .rollVote target slot player rollType =>
    inferInstanceAs (Decidable (p.votesUnowed m.view target slot player rollType = false))
  | .endRoll target =>
    inferInstanceAs (Decidable (∀ roll ∈ p.rolls, roll.lootedTarget = target → p.settlesUnowed m.view roll = false))
  | .disband => inferInstanceAs (Decidable (∀ roll ∈ p.rolls, p.settlesUnowed m.view roll = false))
  | .removeMember .. | .setLootMethod .. | .lootMoney .. | .clear .. => inferInstanceAs (Decidable True)

theorem counter_run_votes :
    let loot := (Run.run Party.receive sampleParty
      (sampleDrop ++ [sampleVote 1 1, sampleVote 2 2, sampleVote 3 0, ⟨sampleView, .endRoll 9⟩])).loot 9
    loot.unlootedCount = loot.owed ∧ (loot.isLooted = true ↔ loot.gold = 0 ∧ loot.owed = 0) :=
  counter_run rfl (fun _ => rfl) (by decide) 9

-- The master gives an entry that a member has taken: the counter goes from 0
-- to 255.
theorem not_counter_run : ¬∀ (p : Party) (messages : List Message), p.rolls = [] →
    (∀ target, p.loot target = Loot.new) → ∀ target,
    let loot := (Run.run Party.receive p messages).loot target
    loot.unlootedCount = loot.owed ∧ (loot.isLooted = true ↔ loot.gold = 0 ∧ loot.owed = 0) := by
  intro h
  have hcounter := h { sampleParty with lootMethod := .masterLoot, lootThreshold := 3 }
    (sampleDrop ++ [⟨sampleView, .autostore 9 2 0⟩, ⟨sampleView, .masterGive 9 1 0 3⟩]) rfl (fun _ => rfl) 9
  revert hcounter
  decide

end Party

end TurtleWow.Looting
