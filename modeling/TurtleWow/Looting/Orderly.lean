import TurtleWow.Looting.Rolling

namespace TurtleWow.Looting

-- The players' copies lead to entries: each copy of a list to one of its own,
-- an entry of the kind that the list is for.

namespace QuestItemMap

def Leads (ok : LootItem → QuestItem → Prop) (items : List LootItem) (copies : QuestItemMap) : Prop :=
  ∀ player ql, copies.find player = some ql → (ql.map QuestItem.index).Nodup ∧
    ∀ qitem ∈ ql, ∃ item, items[qitem.index]? = some item ∧ ok item qitem

variable {ok : LootItem → QuestItem → Prop} {items olds : List LootItem} {copies : QuestItemMap} {player copy : Nat}

theorem Leads.nil : Leads ok items [] := fun _ _ hql => by cases hql

theorem Leads.of_items (h : Leads ok olds copies)
    (hitems : ∀ (i : Nat) old, olds[i]? = some old →
      ∃ item, items[i]? = some item ∧ ∀ qitem, ok old qitem → ok item qitem) :
    Leads ok items copies := by
  refine fun player ql hql => ⟨(h player ql hql).1, fun qitem hqitem => ?_⟩
  obtain ⟨old, hold, hok⟩ := (h player ql hql).2 qitem hqitem
  obtain ⟨item, hitem, hkeeps⟩ := hitems _ old hold
  exact ⟨item, hitem, hkeeps qitem hok⟩

theorem Leads.cons (h : Leads ok items copies) (player : Nat) {ql : List QuestItem}
    (hnodup : (ql.map QuestItem.index).Nodup) (hql : ∀ qitem ∈ ql, ∃ item, items[qitem.index]? = some item ∧ ok item qitem) :
    Leads ok items ((player, ql) :: copies) := by
  intro other found hfound
  rw [find_cons] at hfound
  split_ifs at hfound with hsame
  · cases hfound
    exact ⟨hnodup, hql⟩
  · exact h other found hfound

theorem Leads.setLooted (h : Leads ok items copies) (player copy : Nat)
    (hmarked : ∀ ql qitem item, copies.find player = some ql → ql[copy]? = some qitem →
      items[qitem.index]? = some item → ok item qitem → ok item qitem.looted) :
    Leads ok items (copies.setLooted player copy) := by
  intro other found hfound
  rw [find_setLooted] at hfound
  split_ifs at hfound with hsame
  · obtain ⟨ql, hql, rfl⟩ := Option.map_eq_some_iff.mp hfound
    subst hsame
    obtain ⟨hnodup, hleads⟩ := h other ql hql
    refine ⟨?_, fun qitem hqitem => ?_⟩
    · rw [Lists.map_modify_same QuestItem.index (g := QuestItem.looted) fun _ => rfl]
      exact hnodup
    · obtain ⟨i, hi⟩ := List.mem_iff_getElem?.mp hqitem
      rw [List.getElem?_modify] at hi
      obtain ⟨old, hold, rfl⟩ := Option.map_eq_some_iff.mp hi
      obtain ⟨item, hitem, hok⟩ := hleads old (List.mem_of_getElem? hold)
      split_ifs with hcopy
      · subst hcopy
        exact ⟨item, hitem, hmarked ql old item hql hold hitem hok⟩
      · exact ⟨item, hitem, hok⟩
  · exact h other found hfound

end QuestItemMap

def LootItem.kind (item : LootItem) : Bool × Nat := (item.freeforall, item.conditionId)

namespace Loot

def LeadsFFA (item : LootItem) (_ : QuestItem) : Prop := item.freeforall = true

def LeadsConditional (item : LootItem) (qitem : QuestItem) : Prop :=
  item.freeforall = false ∧ item.conditionId ≠ 0 ∧ (qitem.isLooted = true → item.isLooted = true)

structure Orderly (loot : Loot) : Prop where
  size : loot.items.length ≤ maxNrLootItems
  ffa : loot.playerFFAItems.Leads LeadsFFA loot.items
  conditional : loot.playerConditionalItems.Leads LeadsConditional loot.items
  quest : loot.playerQuestItems.Leads (fun _ _ => True) loot.questItems
  room : ∀ player ql, loot.playerQuestItems.find player = some ql → loot.items.length + ql.length ≤ maxNrLootItems

variable {loot after : Loot} {view : View} {slot player : Nat}

theorem Orderly.u8_slot (h : Orderly loot) {item : LootItem} (hitem : loot.items[slot]? = some item) :
    Word.u8 slot = slot :=
  Word.u8_of_lt (Nat.lt_of_lt_of_le (List.getElem?_eq_some_iff.mp hitem).1 (Nat.le_trans h.size (by decide)))

theorem Orderly.u8_questSlot (h : Orderly loot) {ql : List QuestItem} {qitem : QuestItem} {copy : Nat}
    (hql : loot.playerQuestItems.find player = some ql) (hqitem : ql[copy]? = some qitem) :
    Word.u8 (loot.items.length + copy) = loot.items.length + copy := by
  have hlt := (List.getElem?_eq_some_iff.mp hqitem).1
  have hroom : loot.items.length + ql.length ≤ 16 := h.room player ql hql
  exact Word.u8_of_lt (by omega)

def Rewrites (items olds : List LootItem) : Prop :=
  items.length = olds.length ∧ ∀ (i : Nat) old, olds[i]? = some old → ∃ item, items[i]? = some item ∧
    item.kind = old.kind ∧ (old.isLooted = true → item.isLooted = true)

theorem Rewrites.refl (items : List LootItem) : Rewrites items items :=
  ⟨rfl, fun _ old hold => ⟨old, hold, rfl, id⟩⟩

theorem rewrites_modify (items : List LootItem) (slot : Nat) {f : LootItem → LootItem}
    (hkind : ∀ item, (f item).kind = item.kind)
    (hlooted : ∀ item, item.isLooted = true → (f item).isLooted = true) : Rewrites (items.modify slot f) items := by
  refine ⟨List.length_modify f items slot, fun i old hold => ?_⟩
  rw [List.getElem?_modify, hold]
  refine ⟨_, rfl, ?_⟩
  split_ifs
  · exact ⟨hkind old, hlooted old⟩
  · exact ⟨rfl, id⟩

theorem rewrites_of_map {items olds : List LootItem}
    (h : items.map (fun item => (item.kind, item.isLooted)) = olds.map fun item => (item.kind, item.isLooted)) :
    Rewrites items olds := by
  refine ⟨by simpa using congrArg List.length h, fun i old hold => ?_⟩
  have hget := congrArg (fun flags => flags[i]?) h
  simp only [List.getElem?_map, hold, Option.map_some] at hget
  obtain ⟨item, hitem, heq⟩ := Option.map_eq_some_iff.mp hget
  obtain ⟨hkind, hlooted⟩ := Prod.mk.inj heq
  exact ⟨item, hitem, hkind, fun h => hlooted.trans h⟩

section

variable (h : Orderly loot)

include h

theorem Orderly.rewrite (hitems : Rewrites after.items loot.items)
    (hquestItems : after.questItems.length = loot.questItems.length)
    (hffa : after.playerFFAItems = loot.playerFFAItems)
    (hconditional : after.playerConditionalItems = loot.playerConditionalItems)
    (hquest : after.playerQuestItems = loot.playerQuestItems) : Orderly after := by
  have hentries : ∀ (i : Nat) old, loot.questItems[i]? = some old → ∃ item, after.questItems[i]? = some item ∧
      ∀ qitem : QuestItem, True → True := by
    intro i old hold
    have hlt : i < after.questItems.length := by
      rw [hquestItems]
      exact (List.getElem?_eq_some_iff.mp hold).1
    exact ⟨after.questItems[i], List.getElem?_eq_getElem hlt, fun _ => id⟩
  refine ⟨?_, ?_, ?_, ?_, ?_⟩
  · rw [hitems.1]
    exact h.size
  · rw [hffa]
    refine h.ffa.of_items fun i old hold => ?_
    obtain ⟨item, hitem, hkind, -⟩ := hitems.2 i old hold
    exact ⟨item, hitem, fun _ hok => (Prod.mk.inj hkind).1.trans hok⟩
  · rw [hconditional]
    refine h.conditional.of_items fun i old hold => ?_
    obtain ⟨item, hitem, hkind, hlooted⟩ := hitems.2 i old hold
    obtain ⟨hffa, hcondition⟩ := Prod.mk.inj hkind
    refine ⟨item, hitem, fun _ hok => ⟨hffa.trans hok.1, ?_, fun hcopy => hlooted (hok.2.2 hcopy)⟩⟩
    rw [hcondition]
    exact hok.2.1
  · rw [hquest]
    exact h.quest.of_items hentries
  · rw [hquest, hitems.1]
    exact h.room

theorem Orderly.updateItem (slot : Nat) {f : LootItem → LootItem}
    (hkind : ∀ item, (f item).kind = item.kind)
    (hlooted : ∀ item, item.isLooted = true → (f item).isLooted = true) : Orderly (loot.updateItem slot f) :=
  h.rewrite (rewrites_modify loot.items slot hkind hlooted) rfl rfl rfl rfl

theorem Orderly.spend : Orderly loot.spend := ⟨h.size, h.ffa, h.conditional, h.quest, h.room⟩

theorem Orderly.handOut (quest : Bool) (index player : Nat) :
    Orderly (loot.handOut quest index player) := ⟨h.size, h.ffa, h.conditional, h.quest, h.room⟩

theorem Orderly.withGold (gold : Nat) : Orderly { loot with gold := gold } :=
  ⟨h.size, h.ffa, h.conditional, h.quest, h.room⟩

theorem Orderly.setUnderthreshold (threshold : Nat) :
    Orderly (loot.setUnderthreshold view threshold) :=
  h.rewrite (rewrites_of_map (map_setUnderthreshold _ (fun _ => rfl) view threshold loot)) rfl rfl rfl rfl

end

theorem length_questCopies (view : View) (player i room : Nat) (items : List LootItem) :
    (questCopies view player i room items).2.1.length ≤ room := by
  induction items generalizing i room with
  | nil => simp [questCopies]
  | cons item rest ih =>
    cases room with
    | zero => simp [questCopies]
    | succ room =>
      unfold questCopies
      split
      · exact Nat.succ_le_succ (ih (i + 1) room)
      · exact ih (i + 1) (room + 1)

theorem Orderly.fillFFALoot (h : Orderly loot) (player : Nat) : Orderly (fillFFALoot view player loot) := by
  unfold Loot.fillFFALoot
  simp only []
  split_ifs
  · exact h
  · have hcopied := copied_ffaCopies view player 0 loot.items
    refine ⟨h.size, h.ffa.cons player hcopied.nodup fun qitem hqitem => ?_, h.conditional, h.quest, h.room⟩
    obtain ⟨j, item, -, hindex, -, hitem, -, -, hffa⟩ := hcopied.leads hqitem
    rw [Nat.zero_add] at hindex
    exact ⟨item, hindex ▸ hitem, hffa⟩

theorem Orderly.fillConditionalLoot (h : Orderly loot) (player : Nat) :
    Orderly (fillNonQuestNonFFAConditionalLoot view player loot) := by
  unfold fillNonQuestNonFFAConditionalLoot
  simp only []
  split_ifs
  · exact h
  · have hcopied := copied_conditionalCopies view player 0 loot.items
    have hrewritten : Orderly { loot with items := (conditionalCopies view player 0 loot.items).1 } :=
      h.rewrite (rewrites_of_map (hcopied.map _ fun _ _ hmark => hmark.1 ▸ rfl)) rfl rfl rfl rfl
    refine ⟨hrewritten.size, hrewritten.ffa, hrewritten.conditional.cons player hcopied.nodup fun qitem hqitem => ?_,
      hrewritten.quest, hrewritten.room⟩
    obtain ⟨j, item, mark, hindex, hlooted, -, hmark, rfl, hffa, hcondition⟩ := hcopied.leads hqitem
    rw [Nat.zero_add] at hindex
    exact ⟨item.counted, hindex ▸ hmark, hffa, hcondition, fun hyes => by rw [hlooted] at hyes; cases hyes⟩

theorem Orderly.fillQuestLoot (h : Orderly loot) (player : Nat) : Orderly (fillQuestLoot view player loot) := by
  unfold Loot.fillQuestLoot
  simp only []
  split_ifs with hfull
  · exact h
  · exact h
  · have hlength := length_questCopies view player 0 (maxNrLootItems - loot.items.length) loot.questItems
    have hcopied := copied_questCopies view player 0 (maxNrLootItems - loot.items.length) loot.questItems
    have hlen : (questCopies view player 0 (maxNrLootItems - loot.items.length) loot.questItems).1.length =
        loot.questItems.length := by
      simpa using congrArg List.length (hcopied.map LootItem.itemid fun _ _ hmark => hmark ▸ rfl)
    have hrewritten : Orderly { loot with
        questItems := (questCopies view player 0 (maxNrLootItems - loot.items.length) loot.questItems).1 } :=
      h.rewrite (Rewrites.refl _) hlen rfl rfl rfl
    refine ⟨h.size, h.ffa, h.conditional, hrewritten.quest.cons player hcopied.nodup fun qitem hqitem => ?_, fun other ql hql => ?_⟩
    · obtain ⟨j, -, mark, hindex, -, -, hmark, -⟩ := hcopied.leads hqitem
      exact ⟨mark, by rwa [hindex, Nat.zero_add], trivial⟩
    · rw [QuestItemMap.find_cons] at hql
      split_ifs at hql
      · cases hql
        have hsize := h.size
        simp only
        omega
      · exact h.room other ql hql

theorem Orderly.fillNotNormalLootFor (h : Orderly loot) (player : Nat) :
    Orderly (loot.fillNotNormalLootFor view player) :=
  fillNotNormalLootFor_invariant Orderly (fun _ _ h => ⟨h.size, h.ffa, h.conditional, h.quest, h.room⟩)
    (fun _ h _ => h.fillQuestLoot player) (fun _ h _ => h.fillFFALoot player) (fun _ h => h.fillConditionalLoot player) h

theorem orderly_of_unfilled (hsize : loot.items.length ≤ maxNrLootItems) (hffa : loot.playerFFAItems = [])
    (hconditional : loot.playerConditionalItems = []) (hquest : loot.playerQuestItems = []) : Orderly loot := by
  refine ⟨hsize, ?_, ?_, ?_, ?_⟩
  · rw [hffa]
    exact QuestItemMap.Leads.nil
  · rw [hconditional]
    exact QuestItemMap.Leads.nil
  · rw [hquest]
    exact QuestItemMap.Leads.nil
  · rw [hquest]
    exact fun _ _ hql => by cases hql

theorem unfilled_addItems (view : View) (drops : List LootStoreItem) :
    let loot := drops.foldl (addItem view) cleared
    loot.items.length ≤ maxNrLootItems ∧ loot.playerFFAItems = [] ∧ loot.playerConditionalItems = [] ∧
      loot.playerQuestItems = [] := by
  have hall : ∀ loot : Loot, loot.items.length ≤ maxNrLootItems ∧ loot.playerFFAItems = [] ∧
      loot.playerConditionalItems = [] ∧ loot.playerQuestItems = [] →
      (drops.foldl (addItem view) loot).items.length ≤ maxNrLootItems ∧
        (drops.foldl (addItem view) loot).playerFFAItems = [] ∧
        (drops.foldl (addItem view) loot).playerConditionalItems = [] ∧
        (drops.foldl (addItem view) loot).playerQuestItems = [] := by
    induction drops with
    | nil => exact fun loot h => h
    | cons drop rest ih =>
      refine fun loot h => ih _ ?_
      unfold addItem
      by_cases hneeds : drop.needsQuest = true
      · rw [if_pos hneeds]
        split_ifs <;> exact h
      · rw [if_neg hneeds]
        by_cases hroom : loot.items.length < maxNrLootItems
        · rw [if_pos hroom]
          refine ⟨?_, h.2⟩
          rw [List.length_append]
          exact hroom
        · rw [if_neg hroom]
          exact h
  exact hall cleared ⟨Nat.zero_le _, rfl, rfl, rfl⟩

theorem orderly_fillLoot (view : View) (drops : List LootStoreItem) (owner : Nat) (group : Option (List Nat × Nat)) :
    Orderly (fillLoot view drops owner group) := by
  obtain ⟨hsize, hffa, hconditional, hquest⟩ := unfilled_addItems view drops
  exact fillLoot_invariant Orderly (fun _ h => ⟨h.size, h.ffa, h.conditional, h.quest, h.room⟩)
    (fun _ _ h => ⟨h.size, h.ffa, h.conditional, h.quest, h.room⟩) (fun _ player h => h.fillNotNormalLootFor player)
    (fun _ threshold h => h.setUnderthreshold threshold) (orderly_of_unfilled hsize hffa hconditional hquest) owner group

theorem Orderly.handOutFound (h : Orderly loot) (slot player : Nat) (found : Found) :
    Orderly (loot.handOutFound slot player found) := by
  cases found <;> exact h.handOut _ _ player

theorem copyOf_of_conditional {item : LootItem} {copy : Nat}
    (h : loot.lootItemInSlot slot player = some (item, .conditional copy)) :
    ∃ qitem, copyOf loot.playerConditionalItems player slot = some (copy, qitem) ∧ qitem.isLooted = false := by
  unfold lootItemInSlot at h
  split at h
  · split at h
    · cases h
    · split at h
      · cases h
      · split at h
        · cases h
        · split_ifs at h
          cases (Prod.mk.inj (Option.some.inj h)).2
  · rename_i entry hentry
    by_cases hffa : entry.freeforall
    · rw [if_pos hffa] at h
      split at h <;> split_ifs at h <;> cases (Prod.mk.inj (Option.some.inj h)).2
    · rw [if_neg hffa] at h
      by_cases hlooted : entry.isLooted
      · rw [if_pos hlooted] at h
        cases h
      · rw [if_neg hlooted] at h
        by_cases hcondition : entry.conditionId ≠ 0
        · rw [if_pos hcondition] at h
          split at h
          · cases (Prod.mk.inj (Option.some.inj h)).2
          · rename_i found qitem hcopy
            split_ifs at h with hcopied
            cases (Prod.mk.inj (Option.some.inj h)).2
            exact ⟨qitem, hcopy, by simpa using hcopied⟩
        · rw [if_neg hcondition] at h
          cases (Prod.mk.inj (Option.some.inj h)).2

section

variable (h : Orderly loot)

include h

theorem Orderly.markLooted {item : LootItem} {found : Found}
    (hfound : loot.lootItemInSlot slot player = some (item, found)) :
    Orderly (loot.markLooted slot player item found) := by
  have hlooted : ∀ after : Loot, Orderly after → Orderly (after.updateItem slot LootItem.looted) :=
    fun after hafter => hafter.updateItem slot (fun _ => rfl) fun _ _ => rfl
  cases found with
  | quest copy index =>
    have hcopies : Orderly { loot with playerQuestItems := loot.playerQuestItems.setLooted player copy } := by
      refine ⟨h.size, h.ffa, h.conditional, h.quest.setLooted player copy fun _ _ _ _ _ _ _ => trivial, ?_⟩
      intro other ql hql
      rw [QuestItemMap.find_setLooted] at hql
      split_ifs at hql
      · obtain ⟨old, hold, rfl⟩ := Option.map_eq_some_iff.mp hql
        rw [List.length_modify]
        exact h.room other old hold
      · exact h.room other ql hql
    refine hcopies.rewrite (Rewrites.refl _) ?_ rfl rfl rfl
    show (if item.freeforall then loot.questItems else loot.questItems.modify index LootItem.looted).length = _
    split_ifs
    · rfl
    · exact List.length_modify _ _ _
  | ffa copy =>
    exact ⟨h.size, h.ffa.setLooted player copy fun _ _ _ _ _ _ hok => hok, h.conditional, h.quest, h.room⟩
  | conditional copy =>
    obtain ⟨qitem, hcopy, -⟩ := copyOf_of_conditional hfound
    obtain ⟨ql, hql, hqitem, hindex, -⟩ := copyOf_some hcopy
    have hentry := hlooted loot h
    refine ⟨hentry.size, hentry.ffa, hentry.conditional.setLooted player copy ?_, hentry.quest, hentry.room⟩
    intro ql' qitem' entry hql' hqitem' hentry' hok
    obtain rfl := Option.some.inj (hql.symm.trans hql')
    obtain rfl := Option.some.inj (hqitem.symm.trans hqitem')
    rw [hindex] at hentry'
    obtain ⟨old, -, rfl⟩ := Option.map_eq_some_iff.mp ((List.getElem?_modify_eq _ slot loot.items).symm.trans hentry')
    exact ⟨hok.1, hok.2.1, fun _ => rfl⟩
  | plain =>
    unfold Loot.markLooted
    split_ifs
    · exact h
    · exact hlooted loot h

theorem Orderly.autostore (creature master : Bool) (slot player : Nat) :
    Orderly (loot.autostore view creature master slot player) := by
  unfold Loot.autostore
  split
  · exact h
  · rename_i item found hfound
    split_ifs
    · exact ((h.markLooted hfound).spend).handOutFound slot player found
    · exact h

theorem Orderly.masterGive (slot receiver : Nat) : Orderly (loot.masterGive view slot receiver) := by
  have hgive : ∀ given : Loot, Orderly given → Orderly (given.updateItem slot LootItem.givenAway).spend :=
    fun given hgiven => (hgiven.updateItem slot (f := LootItem.givenAway) (fun _ => rfl) fun _ _ => rfl).spend
  unfold Loot.masterGive
  split
  · exact h
  · dsimp only
    split_ifs
    · exact hgive loot h
    · exact hgive _ (h.handOut false slot receiver)
    · exact h

theorem Orderly.award (slot winner : Nat) (needed : Bool) : Orderly (loot.award view slot winner needed) := by
  have hlooted : ∀ given : Loot, Orderly given → Orderly (given.updateItem slot LootItem.looted).spend :=
    fun given hgiven => (hgiven.updateItem slot (f := LootItem.looted) (fun _ => rfl) fun _ _ => rfl).spend
  unfold Loot.award
  split
  · exact h
  · dsimp only
    split_ifs
    · exact hlooted loot h
    · exact hlooted _ (h.handOut false slot winner)
    · exact h.updateItem slot (fun _ => rfl) fun _ hitem => hitem
    · exact h.updateItem slot (fun _ => rfl) fun _ hitem => hitem
    · exact h

theorem Orderly.settle (roll : Roll) : Orderly (roll.settle view loot) := by
  unfold Roll.settle
  split
  · exact h.award _ _ _
  · exact h.updateItem _ (fun _ => rfl) fun _ hitem => hitem
  · exact h

end

end Loot

-- What holds of an empty loot and is kept by every function that writes to a
-- loot holds of all loots in every run.
structure LootInvariant (P : Loot → Prop) : Prop where
  filled : ∀ view drops owner group, P (Loot.fillLoot view drops owner group)
  cleared : P Loot.cleared
  gold : ∀ loot gold, P loot → P { loot with gold := gold }
  fillFor : ∀ view player loot, P loot → P (loot.fillNotNormalLootFor view player)
  threshold : ∀ view threshold loot, P loot → P (loot.setUnderthreshold view threshold)
  block : ∀ slot loot, P loot → P (loot.updateItem slot LootItem.blocked)
  under : ∀ slot loot, P loot → P (loot.updateItem slot LootItem.underthreshold)
  autostore : ∀ view creature master slot player loot, P loot → P (loot.autostore view creature master slot player)
  masterGive : ∀ view slot receiver loot, P loot → P (loot.masterGive view slot receiver)
  settle : ∀ view (roll : Roll) loot, P loot → P (roll.settle view loot)

theorem Loot.orderly_invariant : LootInvariant Loot.Orderly where
  filled := orderly_fillLoot
  cleared := orderly_of_unfilled (Nat.zero_le _) rfl rfl rfl
  gold := fun _ gold h => h.withGold gold
  fillFor := fun _ player _ h => h.fillNotNormalLootFor player
  threshold := fun _ threshold _ h => h.setUnderthreshold threshold
  block := fun slot _ h => h.updateItem slot (fun _ => rfl) fun _ hitem => hitem
  under := fun slot _ h => h.updateItem slot (fun _ => rfl) fun _ hitem => hitem
  autostore := fun _ creature master slot player _ h => h.autostore creature master slot player
  masterGive := fun _ slot receiver _ h => h.masterGive slot receiver
  settle := fun _ roll _ h => h.settle roll

namespace Party

variable {P : Loot → Prop} {p : Party} {view : View}

theorem holds_setLoot {target : Nat} {loot : Loot} (h : ∀ other, P (p.loot other)) (hloot : P loot) (other : Nat) :
    P ((p.setLoot target loot).loot other) := by
  rw [loot_setLoot]
  split_ifs
  · exact hloot
  · exact h other

theorem holds_clearLoot {target : Nat} {t : Target} (h : ∀ other, P (p.loot other)) (ht : P t.loot) (other : Nat) :
    P ((p.clearLoot target t).loot other) := by
  unfold Party.clearLoot setTarget Party.loot
  simp only [Function.update_apply]
  split_ifs
  · exact ht
  · exact h other

section

variable (hP : LootInvariant P)

include hP

theorem holds_countTheRoll (h : ∀ other, P (p.loot other)) (timeout : Bool) (i other : Nat) :
    P ((p.countTheRoll view timeout i).loot other) := by
  unfold Party.countTheRoll
  split
  · exact h other
  · rename_i roll _
    split_ifs
    · exact holds_setLoot h (hP.settle view roll _ (h roll.lootedTarget)) other
    · exact h other

theorem holds_endRoll (target fuel : Nat) (h : ∀ other, P (p.loot other)) (other : Nat) :
    P ((endRoll view target fuel p).loot other) := by
  induction fuel generalizing p with
  | zero => exact h other
  | succ fuel ih =>
    unfold endRoll
    split
    · exact h other
    · exact ih fun other => holds_countTheRoll hP h true _ other

theorem holds_disband (fuel : Nat) (h : ∀ other, P (p.loot other)) (other : Nat) :
    P ((disband view fuel p).loot other) := by
  induction fuel generalizing p with
  | zero => exact h other
  | succ fuel ih => exact ih fun other => holds_countTheRoll hP h false 0 other

theorem holds_openBody (members : List Nat) (target : Nat) (h : ∀ other, P (p.loot other))
    (other : Nat) : P ((p.openBody view members target).loot other) := by
  have hopened : ∀ other, P ((p.setOpened target).loot other) := by
    intro other
    rw [loot_setOpened]
    exact h other
  unfold openBody
  split_ifs
  · refine groupLoot_invariant (fun _ q => ∀ other, P (q.loot other)) (fun _ _ hq => hq)
      (fun q slot item _ _ _ hq => ?_) (fun q slot hq => holds_setLoot hq (hP.under slot _ (hq target))) hopened other
    unfold Party.startLootRoll
    split
    · exact hq
    · split_ifs
      · exact holds_setLoot hq (hP.block slot _ (hq target))
      · exact hq
  · exact hopened other

theorem holds_openLoot (members : List Nat) (target player : Nat)
    (h : ∀ other, P (p.loot other)) (other : Nat) : P ((p.openLoot view members target player).loot other) := by
  unfold openLoot
  dsimp only
  by_cases hcreature : (p.targets target).creature = true
  · rw [if_pos hcreature]
    have hopened : ∀ other,
        P ((if (p.targets target).lootForBody then p else p.openBody view members target).loot other) := by
      split_ifs
      · exact h
      · exact holds_openBody hP members target h
    generalize (if (p.targets target).lootForBody then p else p.openBody view members target) = opened at hopened
    split_ifs
    · exact holds_setLoot hopened (hP.threshold view _ _ (hopened target)) other
    · exact hopened other
  · rw [if_neg hcreature]
    exact holds_setLoot h (hP.fillFor view player _ (h target)) other

theorem holds_receive (h : ∀ other, P (p.loot other)) (m : Message) (other : Nat) :
    P ((p.receive m).loot other) := by
  unfold Party.receive
  split
  · rename_i target creature lootForBody drops gold owner members _
    have hfilled : P { Loot.fillLoot m.view drops owner
        (members.map fun members => (members.guids, p.lootThreshold)) with gold := gold } :=
      hP.gold _ gold (hP.filled _ _ _ _)
    exact holds_clearLoot h hfilled other
  · exact holds_openLoot hP _ _ _ h other
  · exact holds_setLoot h (hP.autostore _ _ _ _ _ _ (h _)) other
  · unfold Party.masterGive
    split_ifs
    · exact holds_setLoot h (hP.masterGive _ _ _ _ (h _)) other
    · exact h other
  · unfold Party.countRollVote
    split
    · dsimp only
      split_ifs
      · refine holds_countTheRoll hP ?_ false _ other
        exact h
      · exact h other
    · exact h other
  · exact holds_endRoll hP _ _ h other
  · exact h other
  · exact holds_disband hP _ h other
  · exact h other
  · exact holds_setLoot h (hP.gold _ _ (h _)) other
  · exact holds_clearLoot h hP.cleared other

theorem holds_run (h : ∀ other, P (p.loot other)) (messages : List Message) (other : Nat) :
    P ((Run.run Party.receive p messages).loot other) :=
  Run.run_invariant Party.receive (fun _ _ => True) (fun p => ∀ other, P (p.loot other))
    (fun _ m h _ => holds_receive hP h m) h (Run.guarded_of_forall _ _ (fun _ _ => trivial) p messages) other

end

theorem orderly_run (hloots : ∀ target, p.loot target = Loot.new) (messages : List Message) (target : Nat) :
    ((Run.run Party.receive p messages).loot target).Orderly := by
  refine holds_run Loot.orderly_invariant (fun other => ?_) messages target
  rw [hloots]
  exact Loot.orderly_of_unfilled (Nat.zero_le _) rfl rfl rfl

end Party

end TurtleWow.Looting
