import TurtleWow.Looting.Rolling

namespace TurtleWow.Looting

-- What a loot has given away is marked on its entries and on the players'
-- copies, and what is marked is not given away again.

namespace Loot

def given (loot : Loot) (quest : Bool) (index : Nat) : Nat :=
  loot.handed.countP fun handout => handout.quest = quest ∧ handout.index = index

def givenTo (loot : Loot) (quest : Bool) (index player : Nat) : Nat :=
  loot.handed.countP fun handout => handout.quest = quest ∧ handout.index = index ∧ handout.player = player

def AtMostOnce (loot : Loot) (quest : Bool) (index : Nat) (item : LootItem) : Prop :=
  if item.freeforall then ∀ player, loot.givenTo quest index player ≤ 1 else loot.given quest index ≤ 1

structure Once (loot : Loot) : Prop where
  items : ∀ slot item, loot.items[slot]? = some item → loot.AtMostOnce false slot item
  questItems : ∀ index item, loot.questItems[index]? = some item → loot.AtMostOnce true index item

def tookFFA (loot : Loot) (player slot : Nat) : Bool :=
  match copyOf loot.playerFFAItems player slot with
  | none => false
  | some (_, qitem) => qitem.isLooted

def TookQuest (loot : Loot) (player index : Nat) : Prop :=
  ∃ ql, loot.playerQuestItems.find player = some ql ∧ ∀ qitem ∈ ql, qitem.index = index → qitem.isLooted = true

structure Marked (loot : Loot) : Prop where
  plain : ∀ slot item, loot.items[slot]? = some item → item.freeforall = false →
    loot.given false slot = 0 ∨ loot.given false slot = 1 ∧ item.isLooted = true
  ffa : ∀ slot item player, loot.items[slot]? = some item → item.freeforall = true →
    loot.givenTo false slot player = 0 ∨ loot.givenTo false slot player = 1 ∧
      (loot.tookFFA player slot = true ∨ item.isLooted = true ∧ item.count = 0)
  quest : ∀ index item, loot.questItems[index]? = some item → item.freeforall = false →
    loot.given true index = 0 ∨ loot.given true index = 1 ∧ item.isLooted = true
  questFFA : ∀ index item player, loot.questItems[index]? = some item → item.freeforall = true →
    loot.givenTo true index player = 0 ∨ loot.givenTo true index player = 1 ∧ loot.TookQuest player index
  distinct : ∀ player ql, loot.playerQuestItems.find player = some ql → (ql.map QuestItem.index).Nodup

-- Marks are only added: what `after` shows of an entry follows from `loot`.
structure Follows (loot after : Loot) : Prop where
  handed : after.handed = loot.handed
  items : ∀ (slot : Nat) (item : LootItem), after.items[slot]? = some item → ∃ old : LootItem, loot.items[slot]? = some old ∧
    item.freeforall = old.freeforall ∧ (old.isLooted = true → item.isLooted = true) ∧
    (old.count = 0 → item.count = 0)
  questItems : ∀ (index : Nat) (item : LootItem), after.questItems[index]? = some item → ∃ old : LootItem,
    loot.questItems[index]? = some old ∧ item.freeforall = old.freeforall ∧ (old.isLooted = true → item.isLooted = true)
  ffa : ∀ player slot, loot.tookFFA player slot = true → after.tookFFA player slot = true
  quest : ∀ player index, loot.TookQuest player index → after.TookQuest player index
  distinct : (∀ player ql, loot.playerQuestItems.find player = some ql → (ql.map QuestItem.index).Nodup) →
    ∀ player ql, after.playerQuestItems.find player = some ql → (ql.map QuestItem.index).Nodup

section

variable {loot after : Loot} {view : View}

variable {slot player copy : Nat} {item : LootItem}

theorem Once.plain (h : Once loot) (hitem : loot.items[slot]? = some item)
    (hffa : item.freeforall = false) : loot.given false slot ≤ 1 := by
  have honce := h.items slot item hitem
  unfold AtMostOnce at honce
  rwa [if_neg (by simp [hffa])] at honce

theorem Marked.once (h : Marked loot) : Once loot := by
  refine ⟨fun slot item hitem => ?_, fun index item hitem => ?_⟩
  · unfold AtMostOnce
    split_ifs with hffa
    · intro player
      rcases h.ffa slot item player hitem hffa with hnone | ⟨hone, -⟩ <;> omega
    · rcases h.plain slot item hitem (by simpa using hffa) with hnone | ⟨hone, -⟩ <;> omega
  · unfold AtMostOnce
    split_ifs with hffa
    · intro player
      rcases h.questFFA index item player hitem hffa with hnone | ⟨hone, -⟩ <;> omega
    · rcases h.quest index item hitem (by simpa using hffa) with hnone | ⟨hone, -⟩ <;> omega

theorem Marked.follows (h : Marked loot) (hafter : Follows loot after) : Marked after := by
  have hgiven : ∀ quest index, after.given quest index = loot.given quest index := by
    intro quest index
    rw [given, hafter.handed, given]
  have hgivenTo : ∀ quest index player, after.givenTo quest index player = loot.givenTo quest index player := by
    intro quest index player
    rw [givenTo, hafter.handed, givenTo]
  refine ⟨?_, ?_, ?_, ?_, hafter.distinct h.distinct⟩
  · intro slot item hitem hffa
    obtain ⟨old, hold, heq, hlooted, -⟩ := hafter.items slot item hitem
    rw [hgiven]
    rcases h.plain slot old hold (heq ▸ hffa) with hnone | ⟨hone, hmark⟩
    · exact .inl hnone
    · exact .inr ⟨hone, hlooted hmark⟩
  · intro slot item player hitem hffa
    obtain ⟨old, hold, heq, hlooted, hcount⟩ := hafter.items slot item hitem
    rw [hgivenTo]
    rcases h.ffa slot old player hold (heq ▸ hffa) with hnone | ⟨hone, htook | ⟨hmark, hzero⟩⟩
    · exact .inl hnone
    · exact .inr ⟨hone, .inl (hafter.ffa player slot htook)⟩
    · exact .inr ⟨hone, .inr ⟨hlooted hmark, hcount hzero⟩⟩
  · intro index item hitem hffa
    obtain ⟨old, hold, heq, hlooted⟩ := hafter.questItems index item hitem
    rw [hgiven]
    rcases h.quest index old hold (heq ▸ hffa) with hnone | ⟨hone, hmark⟩
    · exact .inl hnone
    · exact .inr ⟨hone, hlooted hmark⟩
  · intro index item player hitem hffa
    obtain ⟨old, hold, heq, -⟩ := hafter.questItems index item hitem
    rw [hgivenTo]
    rcases h.questFFA index old player hold (heq ▸ hffa) with hnone | ⟨hone, htook⟩
    · exact .inl hnone
    · exact .inr ⟨hone, hafter.quest player index htook⟩

theorem given_handOut (loot : Loot) (quest : Bool) (index player : Nat) (quest' : Bool) (index' : Nat) :
    (loot.handOut quest index player).given quest' index' =
      loot.given quest' index' + if quest = quest' ∧ index = index' then 1 else 0 := by
  unfold given handOut
  rw [List.countP_cons]
  simp

theorem givenTo_handOut (loot : Loot) (quest : Bool) (index player : Nat) (quest' : Bool) (index' player' : Nat) :
    (loot.handOut quest index player).givenTo quest' index' player' =
      loot.givenTo quest' index' player' + if quest = quest' ∧ index = index' ∧ player = player' then 1 else 0 := by
  unfold givenTo handOut
  rw [List.countP_cons]
  simp

@[simp] theorem tookFFA_handOut (loot : Loot) (quest : Bool) (index player : Nat) :
    (loot.handOut quest index player).tookFFA = loot.tookFFA := rfl

@[simp] theorem tookQuest_handOut (loot : Loot) (quest : Bool) (index player : Nat) :
    (loot.handOut quest index player).TookQuest = loot.TookQuest := rfl

theorem Marked.handOut_slot (h : Marked loot)
    (hplain : ∀ item, loot.items[slot]? = some item → item.freeforall = false →
      loot.given false slot = 0 ∧ item.isLooted = true)
    (hffa : ∀ item, loot.items[slot]? = some item → item.freeforall = true → loot.givenTo false slot player = 0 ∧
      (loot.tookFFA player slot = true ∨ item.isLooted = true ∧ item.count = 0)) :
    Marked (loot.handOut false slot player) := by
  refine ⟨?_, ?_, ?_, ?_, h.distinct⟩
  · intro other item hitem hnot
    rw [given_handOut]
    by_cases heq : slot = other
    · subst heq
      obtain ⟨hnone, hmark⟩ := hplain item hitem hnot
      rw [hnone]
      exact .inr ⟨by simp, hmark⟩
    · simpa [heq] using h.plain other item hitem hnot
  · intro other item who hitem hyes
    rw [givenTo_handOut]
    by_cases heq : slot = other ∧ player = who
    · obtain ⟨rfl, rfl⟩ := heq
      obtain ⟨hnone, hmark⟩ := hffa item hitem hyes
      rw [hnone]
      exact .inr ⟨by simp, hmark⟩
    · simpa [heq] using h.ffa other item who hitem hyes
  · intro index item hitem hnot
    rw [given_handOut]
    simpa using h.quest index item hitem hnot
  · intro index item who hitem hyes
    rw [givenTo_handOut]
    simpa using h.questFFA index item who hitem hyes

theorem Marked.handOut_quest (h : Marked loot) {index : Nat}
    (hplain : ∀ item, loot.questItems[index]? = some item → item.freeforall = false →
      loot.given true index = 0 ∧ item.isLooted = true)
    (hffa : ∀ item, loot.questItems[index]? = some item → item.freeforall = true →
      loot.givenTo true index player = 0 ∧ loot.TookQuest player index) :
    Marked (loot.handOut true index player) := by
  refine ⟨?_, ?_, ?_, ?_, h.distinct⟩
  · intro slot item hitem hnot
    rw [given_handOut]
    simpa using h.plain slot item hitem hnot
  · intro slot item who hitem hyes
    rw [givenTo_handOut]
    simpa using h.ffa slot item who hitem hyes
  · intro other item hitem hnot
    rw [given_handOut]
    by_cases heq : index = other
    · subst heq
      obtain ⟨hnone, hmark⟩ := hplain item hitem hnot
      rw [hnone]
      exact .inr ⟨by simp, hmark⟩
    · simpa [heq] using h.quest other item hitem hnot
  · intro other item who hitem hyes
    rw [givenTo_handOut]
    by_cases heq : index = other ∧ player = who
    · obtain ⟨rfl, rfl⟩ := heq
      obtain ⟨hnone, hmark⟩ := hffa item hitem hyes
      rw [hnone]
      exact .inr ⟨by simp, hmark⟩
    · simpa [heq] using h.questFFA other item who hitem hyes

theorem Follows.refl (loot : Loot) : Follows loot loot :=
  ⟨rfl, fun _ item hitem => ⟨item, hitem, rfl, id, id⟩, fun _ item hitem => ⟨item, hitem, rfl, id⟩,
    fun _ _ h => h, fun _ _ h => h, fun h => h⟩

theorem Follows.trans {last : Loot} (h : Follows loot after) (h' : Follows after last) : Follows loot last := by
  refine ⟨h'.handed.trans h.handed, ?_, ?_, fun player slot ht => h'.ffa player slot (h.ffa player slot ht),
    fun player index ht => h'.quest player index (h.quest player index ht), fun hd => h'.distinct (h.distinct hd)⟩
  · intro slot item hitem
    obtain ⟨mid, hmid, hffa, hlooted, hcount⟩ := h'.items slot item hitem
    obtain ⟨old, hold, hffa', hlooted', hcount'⟩ := h.items slot mid hmid
    exact ⟨old, hold, hffa.trans hffa', fun ho => hlooted (hlooted' ho), fun ho => hcount (hcount' ho)⟩
  · intro index item hitem
    obtain ⟨mid, hmid, hffa, hlooted⟩ := h'.questItems index item hitem
    obtain ⟨old, hold, hffa', hlooted'⟩ := h.questItems index mid hmid
    exact ⟨old, hold, hffa.trans hffa', fun ho => hlooted (hlooted' ho)⟩

def mark (item : LootItem) : Bool × Bool × Nat := (item.freeforall, item.isLooted, item.count)

theorem exists_of_marks {items olds : List LootItem} (h : items.map mark = olds.map mark) {i : Nat}
    (hitem : items[i]? = some item) : ∃ old, olds[i]? = some old ∧ mark old = mark item := by
  have hget := congrArg (fun marks => marks[i]?) h
  simp only [List.getElem?_map, hitem, Option.map_some] at hget
  obtain ⟨old, hold, heq⟩ := Option.map_eq_some_iff.mp hget.symm
  exact ⟨old, hold, heq⟩

theorem Follows.of_marks (hhanded : after.handed = loot.handed) (hitems : after.items.map mark = loot.items.map mark)
    (hquestItems : after.questItems.map mark = loot.questItems.map mark)
    (hffa : ∀ player slot, loot.tookFFA player slot = true → after.tookFFA player slot = true)
    (hquest : ∀ player index, loot.TookQuest player index → after.TookQuest player index)
    (hdistinct : (∀ player ql, loot.playerQuestItems.find player = some ql → (ql.map QuestItem.index).Nodup) →
      ∀ player ql, after.playerQuestItems.find player = some ql → (ql.map QuestItem.index).Nodup) :
    Follows loot after := by
  refine ⟨hhanded, ?_, ?_, hffa, hquest, hdistinct⟩
  · intro slot item hitem
    obtain ⟨old, hold, hmark⟩ := exists_of_marks hitems hitem
    obtain ⟨hf, hrest⟩ := Prod.mk.inj hmark
    obtain ⟨hl, hc⟩ := Prod.mk.inj hrest
    exact ⟨old, hold, hf.symm, fun ho => hl ▸ ho, fun ho => hc ▸ ho⟩
  · intro index item hitem
    obtain ⟨old, hold, hmark⟩ := exists_of_marks hquestItems hitem
    obtain ⟨hf, hrest⟩ := Prod.mk.inj hmark
    exact ⟨old, hold, hf.symm, fun ho => (Prod.mk.inj hrest).1 ▸ ho⟩

theorem follows_updateItem (loot : Loot) (slot : Nat) {f : LootItem → LootItem}
    (hf : ∀ item, (f item).freeforall = item.freeforall ∧ (item.isLooted = true → (f item).isLooted = true) ∧
      (item.count = 0 → (f item).count = 0)) : Follows loot (loot.updateItem slot f) := by
  refine ⟨rfl, ?_, fun _ item hitem => ⟨item, hitem, rfl, id⟩, fun _ _ h => h, fun _ _ h => h, fun h => h⟩
  intro other item hitem
  unfold updateItem at hitem
  by_cases heq : slot = other
  · subst heq
    rw [List.getElem?_modify_eq] at hitem
    obtain ⟨old, hold, rfl⟩ := Option.map_eq_some_iff.mp hitem
    exact ⟨old, hold, hf old⟩
  · rw [List.getElem?_modify_ne f loot.items heq] at hitem
    exact ⟨item, hitem, rfl, id, id⟩

theorem follows_spend (loot : Loot) : Follows loot loot.spend :=
  ⟨rfl, fun _ item hitem => ⟨item, hitem, rfl, id, id⟩, fun _ item hitem => ⟨item, hitem, rfl, id⟩,
    fun _ _ h => h, fun _ _ h => h, fun h => h⟩

theorem follows_setUnderthreshold (view : View) (threshold : Nat) (loot : Loot) :
    Follows loot (loot.setUnderthreshold view threshold) := by
  exact .of_marks rfl (map_setUnderthreshold mark (fun _ => rfl) view threshold loot) rfl (fun _ _ h => h)
    (fun _ _ h => h) fun h => h

theorem follows_fillQuestLoot (hmissing : loot.playerQuestItems.find player = none) :
    Follows loot (fillQuestLoot view player loot) := by
  unfold fillQuestLoot
  simp only []
  split_ifs
  · exact .refl loot
  · exact .refl loot
  · refine .of_marks rfl rfl ((copied_questCopies view player 0 _ _).map mark fun _ _ h => h ▸ rfl) (fun _ _ h => h) ?_ ?_
    · rintro other index ⟨ql, hql, hlooted⟩
      have hne : player ≠ other := by
        rintro rfl
        rw [hmissing] at hql
        cases hql
      refine ⟨ql, ?_, hlooted⟩
      show QuestItemMap.find (_ :: _) other = some ql
      rw [QuestItemMap.find_cons, if_neg hne]
      exact hql
    · intro hdistinct other ql hql
      have hql : QuestItemMap.find (_ :: loot.playerQuestItems) other = some ql := hql
      rw [QuestItemMap.find_cons] at hql
      split_ifs at hql
      · rw [← Option.some.inj hql]
        exact (copied_questCopies view player 0 _ _).nodup
      · exact hdistinct other ql hql

theorem follows_fillFFALoot (hmissing : loot.playerFFAItems.find player = none) :
    Follows loot (fillFFALoot view player loot) := by
  unfold fillFFALoot
  simp only []
  split_ifs
  · exact .refl loot
  · refine .of_marks rfl rfl rfl ?_ (fun _ _ h => h) fun h => h
    intro other slot htook
    have hne : player ≠ other := by
      rintro rfl
      simp [tookFFA, copyOf, hmissing] at htook
    unfold tookFFA copyOf at htook ⊢
    simp only [QuestItemMap.find_cons, if_neg hne]
    exact htook

theorem follows_fillConditionalLoot (player : Nat) :
    Follows loot (fillNonQuestNonFFAConditionalLoot view player loot) := by
  unfold fillNonQuestNonFFAConditionalLoot
  simp only []
  split_ifs
  · exact .refl loot
  · exact .of_marks rfl ((copied_conditionalCopies view player 0 loot.items).map mark fun _ _ h => h.1 ▸ rfl) rfl (fun _ _ h => h)
      (fun _ _ h => h) fun h => h

theorem follows_fillNotNormalLootFor (view : View) (player : Nat) (loot : Loot) :
    Follows loot (loot.fillNotNormalLootFor view player) :=
  fillNotNormalLootFor_invariant (Follows loot)
    (fun _ _ h => h.trans (.of_marks rfl rfl rfl (fun _ _ h => h) (fun _ _ h => h) fun h => h))
    (fun _ h hmissing => h.trans (follows_fillQuestLoot hmissing)) (fun _ h hmissing => h.trans (follows_fillFFALoot hmissing))
    (fun _ h => h.trans (follows_fillConditionalLoot player)) (.refl loot)

theorem marked_of_fresh (hhanded : loot.handed = []) (hquest : loot.playerQuestItems = []) : Marked loot := by
  have hgiven : ∀ quest index, loot.given quest index = 0 := fun quest index => by rw [given, hhanded]; rfl
  have hgivenTo : ∀ quest index player, loot.givenTo quest index player = 0 :=
    fun quest index player => by rw [givenTo, hhanded]; rfl
  refine ⟨fun _ _ _ _ => .inl (hgiven _ _), fun _ _ _ _ _ => .inl (hgivenTo _ _ _), fun _ _ _ _ => .inl (hgiven _ _),
    fun _ _ _ _ _ => .inl (hgivenTo _ _ _), fun player ql hql => ?_⟩
  rw [hquest] at hql
  cases hql

variable (loot) in
theorem fresh_addItems (view : View) (drops : List LootStoreItem)
    (h : loot.handed = [] ∧ loot.playerQuestItems = []) :
    (drops.foldl (addItem view) loot).handed = [] ∧ (drops.foldl (addItem view) loot).playerQuestItems = [] := by
  induction drops generalizing loot with
  | nil => exact h
  | cons drop rest ih =>
    refine ih (loot.addItem view drop) ?_
    unfold addItem
    split_ifs <;> exact h

theorem marked_fillLoot (view : View) (drops : List LootStoreItem) (owner : Nat) (group : Option (List Nat × Nat)) :
    Marked (fillLoot view drops owner group) := by
  have hfresh := fresh_addItems cleared view drops ⟨rfl, rfl⟩
  exact fillLoot_invariant Marked (fun _ h => h.follows (.of_marks rfl rfl rfl (fun _ _ h => h) (fun _ _ h => h) fun h => h))
    (fun _ _ h => h.follows (.of_marks rfl rfl rfl (fun _ _ h => h) (fun _ _ h => h) fun h => h))
    (fun loot player h => h.follows (follows_fillNotNormalLootFor view player loot))
    (fun loot threshold h => h.follows (follows_setUnderthreshold view threshold loot))
    (marked_of_fresh hfresh.1 hfresh.2) owner group

theorem mem_modify_looted {ql : List QuestItem} {qitem : QuestItem}
    (h : qitem ∈ ql.modify copy QuestItem.looted) : qitem ∈ ql ∨ ∃ old ∈ ql, qitem = old.looted := by
  obtain ⟨i, hi⟩ := List.getElem?_of_mem h
  by_cases heq : copy = i
  · subst heq
    rw [List.getElem?_modify_eq] at hi
    obtain ⟨old, hold, rfl⟩ := Option.map_eq_some_iff.mp hi
    exact .inr ⟨old, List.mem_of_getElem? hold, rfl⟩
  · rw [List.getElem?_modify_ne _ _ heq] at hi
    exact .inl (List.mem_of_getElem? hi)

theorem tookQuest_setLooted {other index : Nat} (h : loot.TookQuest other index)
    (hafter : after.playerQuestItems = loot.playerQuestItems.setLooted player copy) : after.TookQuest other index := by
  obtain ⟨ql, hql, hlooted⟩ := h
  rw [TookQuest, hafter]
  simp only [QuestItemMap.find_setLooted]
  split_ifs
  · refine ⟨_, by rw [hql]; rfl, fun qitem hqitem hindex => ?_⟩
    rcases mem_modify_looted hqitem with hold | ⟨old, -, rfl⟩
    · exact hlooted qitem hold hindex
    · rfl
  · exact ⟨ql, hql, hlooted⟩

theorem tookQuest_of_setLooted {ql : List QuestItem} {qitem : QuestItem}
    (hql : loot.playerQuestItems.find player = some ql) (hcopy : ql[copy]? = some qitem)
    (hdistinct : (ql.map QuestItem.index).Nodup)
    (hafter : after.playerQuestItems = loot.playerQuestItems.setLooted player copy) :
    after.TookQuest player qitem.index := by
  rw [TookQuest, hafter]
  simp only [QuestItemMap.find_setLooted, if_true]
  refine ⟨_, by rw [hql]; rfl, fun other hother hindex => ?_⟩
  obtain ⟨i, hi⟩ := List.getElem?_of_mem hother
  by_cases heq : copy = i
  · subst heq
    rw [List.getElem?_modify_eq, hcopy] at hi
    rw [← Option.some.inj hi]
    rfl
  · rw [List.getElem?_modify_ne _ _ heq] at hi
    obtain ⟨hlt, -⟩ := List.getElem?_eq_some_iff.mp hcopy
    refine absurd ?_ heq
    refine (List.getElem?_inj (by simpa using hlt) hdistinct).mp ?_
    rw [List.getElem?_map, List.getElem?_map, hcopy, hi]
    simp [hindex]

theorem distinct_setLooted
    (hafter : after.playerQuestItems = loot.playerQuestItems.setLooted player copy)
    (h : ∀ player ql, loot.playerQuestItems.find player = some ql → (ql.map QuestItem.index).Nodup) :
    ∀ player ql, after.playerQuestItems.find player = some ql → (ql.map QuestItem.index).Nodup := by
  intro other ql hql
  rw [hafter, QuestItemMap.find_setLooted] at hql
  split_ifs at hql
  · obtain ⟨old, hold, rfl⟩ := Option.map_eq_some_iff.mp hql
    rw [Lists.map_modify_same QuestItem.index (g := QuestItem.looted) fun _ => rfl]
    exact h other old hold
  · exact h other ql hql

theorem tookFFA_setLooted {other : Nat} (h : loot.tookFFA other slot = true)
    (hafter : after.playerFFAItems = loot.playerFFAItems.setLooted player copy) : after.tookFFA other slot = true := by
  unfold tookFFA at h ⊢
  rw [hafter, copyOf_setLooted]
  cases hcopy : copyOf loot.playerFFAItems other slot with
  | none => simp [hcopy] at h
  | some entry =>
    rw [hcopy] at h
    simp only [Option.map_some]
    split_ifs
    · rfl
    · exact h

-- An unlooted entry, and a copy that is not looted, have not been given away.

theorem Marked.given_unlooted (h : Marked loot) (hitem : loot.items[slot]? = some item)
    (hffa : item.freeforall = false) (hlooted : item.isLooted = false) : loot.given false slot = 0 := by
  rcases h.plain slot item hitem hffa with hnone | ⟨-, hmark⟩
  · exact hnone
  · rw [hlooted] at hmark
    cases hmark

theorem Marked.given_questUnlooted (h : Marked loot) {index : Nat}
    (hitem : loot.questItems[index]? = some item) (hffa : item.freeforall = false) (hlooted : item.isLooted = false) :
    loot.given true index = 0 := by
  rcases h.quest index item hitem hffa with hnone | ⟨-, hmark⟩
  · exact hnone
  · rw [hlooted] at hmark
    cases hmark

theorem follows_looted (loot : Loot) (slot : Nat) : Follows loot (loot.updateItem slot LootItem.looted) :=
  follows_updateItem loot slot fun _ => ⟨rfl, fun _ => rfl, id⟩

section

variable (h : Marked loot)

include h

theorem Marked.take_slot
    (hitem : loot.items[slot]? = some item) (hffa : item.freeforall = false) (hnone : loot.given false slot = 0)
    {f : LootItem → LootItem} (hlooted : ∀ item, (f item).isLooted = true)
    (hsame : ∀ item, (f item).freeforall = item.freeforall ∧ (item.count = 0 → (f item).count = 0)) :
    Marked (((loot.updateItem slot f).spend).handOut false slot player) := by
  have hfollows := (follows_updateItem loot slot fun item => ⟨(hsame item).1, fun _ => hlooted item, (hsame item).2⟩).trans
    (follows_spend _)
  have hget : ((loot.updateItem slot f).spend).items[slot]? = some (f item) := by
    show (loot.items.modify slot f)[slot]? = _
    rw [List.getElem?_modify_eq, hitem]
    rfl
  refine (h.follows hfollows).handOut_slot (fun other hother _ => ?_) (fun other hother hyes => ?_)
  · rw [hget] at hother
    rw [← Option.some.inj hother]
    exact ⟨hnone, hlooted item⟩
  · rw [hget] at hother
    rw [← Option.some.inj hother, (hsame item).1, hffa] at hyes
    cases hyes

theorem Marked.take_ffa {qitem : QuestItem}
    (hitem : loot.items[slot]? = some item) (hffa : item.freeforall = true)
    (hcopy : copyOf loot.playerFFAItems player slot = some (copy, qitem)) (hqlooted : qitem.isLooted = false)
    (hgone : ¬(item.isLooted = true ∧ item.count = 0)) :
    Marked ((({ loot with playerFFAItems := loot.playerFFAItems.setLooted player copy } : Loot).spend).handOut false
      slot player) := by
  have hfollows : Follows loot ({ loot with playerFFAItems := loot.playerFFAItems.setLooted player copy } : Loot).spend :=
    .of_marks rfl rfl rfl (fun _ _ htook => tookFFA_setLooted htook rfl) (fun _ _ h => h) fun h => h
  have htook : ({ loot with playerFFAItems := loot.playerFFAItems.setLooted player copy } : Loot).spend.tookFFA player
      slot = true := by
    unfold tookFFA
    show (match copyOf (loot.playerFFAItems.setLooted player copy) player slot with
      | none => false
      | some (_, qitem) => qitem.isLooted) = true
    rw [copyOf_setLooted, hcopy]
    simp [QuestItem.looted]
  have hnone : loot.givenTo false slot player = 0 := by
    rcases h.ffa slot item player hitem hffa with hnone | ⟨-, hmark | hmark⟩
    · exact hnone
    · simp [tookFFA, hcopy, hqlooted] at hmark
    · exact absurd hmark hgone
  refine (h.follows hfollows).handOut_slot (fun other hother hnot => ?_) (fun _ _ _ => ⟨hnone, .inl htook⟩)
  have hother : loot.items[slot]? = some other := hother
  rw [hitem] at hother
  rw [← Option.some.inj hother, hffa] at hnot
  cases hnot

theorem Marked.take_quest {index : Nat}
    (hfinds : loot.Finds slot player item (.quest copy index)) :
    Marked (((loot.markLooted slot player item (.quest copy index)).spend).handOut true index player) := by
  obtain ⟨ql, qitem, hql, hget, rfl, hqlooted, hitem, hlooted⟩ := hfinds
  have hquestItems : ∀ other entry,
      (loot.markLooted slot player item (.quest copy qitem.index)).spend.questItems[other]? = some entry →
      ∃ old, loot.questItems[other]? = some old ∧ entry.freeforall = old.freeforall ∧
        (old.isLooted = true → entry.isLooted = true) ∧
        (other = qitem.index → item.freeforall = false → entry.isLooted = true) := by
    intro other entry hentry
    have hentry : (if item.freeforall then loot.questItems else
      loot.questItems.modify qitem.index LootItem.looted)[other]? = some entry := hentry
    by_cases hffa : item.freeforall
    · rw [if_pos hffa] at hentry
      exact ⟨entry, hentry, rfl, id, fun _ hnot => by rw [hffa] at hnot; cases hnot⟩
    · rw [if_neg hffa] at hentry
      by_cases heq : qitem.index = other
      · rw [heq, List.getElem?_modify_eq] at hentry
        obtain ⟨old, hold, rfl⟩ := Option.map_eq_some_iff.mp hentry
        exact ⟨old, hold, rfl, fun _ => rfl, fun _ _ => rfl⟩
      · rw [List.getElem?_modify_ne _ _ heq] at hentry
        exact ⟨entry, hentry, rfl, id, fun heq' => absurd heq'.symm heq⟩
  have hfollows : Follows loot (loot.markLooted slot player item (.quest copy qitem.index)).spend := by
    refine ⟨rfl, fun _ entry hentry => ⟨entry, hentry, rfl, id, id⟩, fun other entry hentry => ?_, fun _ _ h => h,
      fun _ _ htook => tookQuest_setLooted htook rfl, distinct_setLooted rfl⟩
    obtain ⟨old, hold, hffa, hmono, -⟩ := hquestItems other entry hentry
    exact ⟨old, hold, hffa, hmono⟩
  refine (h.follows hfollows).handOut_quest (fun entry hentry hffa => ?_) (fun entry hentry hffa => ?_)
  · obtain ⟨old, hold, heq, -, hmark⟩ := hquestItems qitem.index entry hentry
    rw [hitem] at hold
    cases hold
    rw [heq] at hffa
    exact ⟨h.given_questUnlooted hitem hffa hlooted, hmark rfl hffa⟩
  · obtain ⟨old, hold, heq, -, -⟩ := hquestItems qitem.index entry hentry
    rw [hitem] at hold
    cases hold
    refine ⟨?_, tookQuest_of_setLooted hql hget (h.distinct player ql hql) rfl⟩
    rcases h.questFFA qitem.index item player hitem (heq ▸ hffa) with hnone | ⟨-, ql', hql', hall⟩
    · exact hnone
    · rw [hql] at hql'
      cases hql'
      have hyes := hall qitem (List.mem_of_getElem? hget) rfl
      rw [hqlooted] at hyes
      cases hyes

theorem Marked.autostore {creature master : Bool}
    (hcopy : ∀ item, loot.lootItemInSlot slot player = some (item, .plain) →
      takes view creature master slot player item .plain = true → item.freeforall = false) :
    Marked (loot.autostore view creature master slot player) := by
  unfold Loot.autostore
  split
  · exact h
  · rename_i item found hfound
    have hfinds := finds_of_lootItemInSlot hfound
    split_ifs with htakes
    · cases found with
      | quest copy index => exact h.take_quest hfinds
      | ffa copy =>
        obtain ⟨hitem, hffa, qitem, hcopyOf, hqlooted⟩ := hfinds
        refine h.take_ffa hitem hffa hcopyOf hqlooted fun hgone => ?_
        simp [takes, hgone.2] at htakes
      | conditional copy =>
        obtain ⟨hitem, hffa, hlooted⟩ := hfinds
        have hnone := h.given_unlooted hitem hffa hlooted
        have hcopies : Marked { loot with
            playerConditionalItems := loot.playerConditionalItems.setLooted player copy } :=
          h.follows (.of_marks rfl rfl rfl (fun _ _ h => h) (fun _ _ h => h) fun h => h)
        exact hcopies.take_slot hitem hffa hnone (f := LootItem.looted) (fun _ => rfl) fun _ => ⟨rfl, id⟩
      | plain =>
        obtain ⟨hitem, hlooted⟩ := hfinds
        have hffa := hcopy item hfound htakes
        have hnone := h.given_unlooted hitem hffa hlooted
        unfold markLooted
        rw [if_neg (by simp [hffa])]
        exact h.take_slot hitem hffa hnone (f := LootItem.looted) (fun _ => rfl) fun _ => ⟨rfl, id⟩
    · exact h

theorem Marked.masterGive {receiver : Nat}
    (hfree : ∀ item, loot.items[slot]? = some item → loot.isAllowedLooter receiver false = true →
      view.canStore slot receiver = true → item.count ≠ 0 →
      item.isLooted = false ∧ (item.freeforall = true → loot.tookFFA receiver slot = false)) :
    Marked (loot.masterGive view slot receiver) := by
  unfold Loot.masterGive
  split
  · exact h
  · rename_i item hitem
    have hgone : Follows loot (loot.updateItem slot LootItem.givenAway).spend :=
      (follows_updateItem loot slot (f := LootItem.givenAway) fun _ => ⟨rfl, fun _ => rfl, fun _ => rfl⟩).trans
        (follows_spend _)
    simp only []
    split_ifs with hgives hcount
    · exact h.follows hgone
    · obtain ⟨hlooted, htook⟩ := hfree item hitem hgives.1 hgives.2 hcount
      show Marked (((loot.updateItem slot LootItem.givenAway).spend).handOut false slot receiver)
      by_cases hffa : item.freeforall
      · have hget : ((loot.updateItem slot LootItem.givenAway).spend).items[slot]? = some item.givenAway := by
          show (loot.items.modify slot LootItem.givenAway)[slot]? = _
          rw [List.getElem?_modify_eq, hitem]
          rfl
        have hnone : loot.givenTo false slot receiver = 0 := by
          rcases h.ffa slot item receiver hitem hffa with hnone | ⟨-, hmark | ⟨hmark, -⟩⟩
          · exact hnone
          · rw [htook hffa] at hmark
            cases hmark
          · rw [hlooted] at hmark
            cases hmark
        refine (h.follows hgone).handOut_slot (fun other hother hnot => ?_) (fun other hother _ => ?_)
        · rw [hget] at hother
          cases hother
          rw [show item.givenAway.freeforall = item.freeforall from rfl, hffa] at hnot
          cases hnot
        · rw [hget] at hother
          cases hother
          exact ⟨hnone, .inr ⟨rfl, rfl⟩⟩
      · have hffa : item.freeforall = false := by simpa using hffa
        exact h.take_slot hitem hffa (h.given_unlooted hitem hffa hlooted) (f := LootItem.givenAway) (fun _ => rfl)
          fun _ => ⟨rfl, fun _ => rfl⟩
    · exact h

theorem Marked.award {winner : Nat} {needed : Bool}
    (hfree : ∀ item, loot.items[slot]? = some item → item.freeforall = false ∧
      (item.isLooted = true → item.count = 0)) :
    Marked (loot.award view slot winner needed) := by
  unfold Loot.award
  split
  · exact h
  · rename_i item hitem
    obtain ⟨hffa, hcount0⟩ := hfree item hitem
    simp only []
    split_ifs with hworld hstore hcount
    · exact h.follows ((follows_looted loot slot).trans (follows_spend _))
    · have hlooted : item.isLooted = false := by
        cases hmark : item.isLooted with
        | false => rfl
        | true => exact absurd (hcount0 hmark) hcount
      exact h.take_slot hitem hffa (h.given_unlooted hitem hffa hlooted) (f := LootItem.looted) (fun _ => rfl)
        fun _ => ⟨rfl, id⟩
    · exact h.follows (follows_updateItem loot slot (f := fun item => (item.owned winner).unblocked) fun _ =>
        ⟨rfl, id, id⟩)
    · exact h.follows (follows_updateItem loot slot (f := LootItem.owned winner) fun _ => ⟨rfl, id, id⟩)
    · exact h

end

end

end Loot

end TurtleWow.Looting
