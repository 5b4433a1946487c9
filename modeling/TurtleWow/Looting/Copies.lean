import TurtleWow.Looting.State

namespace TurtleWow.Looting

open List

-- The players' copies: what a search finds in them and what the fills add.

namespace QuestItemMap

variable {copies : QuestItemMap} {player other copy : Nat}

theorem find_cons (player : Nat) (ql : List QuestItem) (copies : QuestItemMap) (other : Nat) :
    find ((player, ql) :: copies) other = if player = other then some ql else find copies other := by
  unfold find
  by_cases heq : player = other
  · simp [heq]
  · simp [heq]

theorem find_setLooted (copies : QuestItemMap) (player copy other : Nat) :
    find (setLooted copies player copy) other =
      if other = player then (find copies other).map fun ql => ql.modify copy QuestItem.looted
      else find copies other := by
  induction copies with
  | nil => simp [find, setLooted, Lists.updateFirst]
  | cons entry rest ih =>
    obtain ⟨owner, ql⟩ := entry
    unfold setLooted Lists.updateFirst
    by_cases howner : owner = player
    · simp only [howner, decide_true, if_true]
      rw [find_cons, find_cons]
      by_cases hother : player = other
      · simp [hother]
      · simp [hother, Ne.symm hother]
    · simp only [howner, decide_false, Bool.false_eq_true, if_false]
      rw [find_cons, find_cons]
      by_cases hother : owner = other
      · subst hother
        simp [howner]
      · simp only [if_neg hother]
        exact ih

end QuestItemMap

namespace Loot

variable {loot : Loot} {view : View} {slot player : Nat} {item : LootItem} {found : Found}

def Finds (loot : Loot) (slot player : Nat) (item : LootItem) : Found → Prop
  | .quest copy index => ∃ ql qitem, loot.playerQuestItems.find player = some ql ∧ ql[copy]? = some qitem ∧
      qitem.index = index ∧ qitem.isLooted = false ∧ loot.questItems[index]? = some item ∧ item.isLooted = false
  | .ffa copy => loot.items[slot]? = some item ∧ item.freeforall = true ∧
      ∃ qitem, copyOf loot.playerFFAItems player slot = some (copy, qitem) ∧ qitem.isLooted = false
  | .conditional _ => loot.items[slot]? = some item ∧ item.freeforall = false ∧ item.isLooted = false
  | .plain => loot.items[slot]? = some item ∧ item.isLooted = false

theorem finds_of_lootItemInSlot (h : loot.lootItemInSlot slot player = some (item, found)) :
    loot.Finds slot player item found := by
  unfold lootItemInSlot at h
  split at h
  · split at h
    · cases h
    · rename_i ql hql
      split at h
      · cases h
      · rename_i qitem hqitem
        split at h
        · cases h
        · rename_i entry hentry
          split_ifs at h with hlooted
          cases h
          rw [not_or] at hlooted
          exact ⟨ql, qitem, hql, hqitem, rfl, by simpa using hlooted.2, hentry, by simpa using hlooted.1⟩
  · rename_i entry hentry
    by_cases hffa : entry.freeforall
    · rw [if_pos hffa] at h
      split at h
      · split_ifs at h with hlooted
        cases h
        exact ⟨hentry, by simpa using hlooted⟩
      · rename_i copy qitem hcopy
        split_ifs at h with hlooted
        cases h
        exact ⟨hentry, hffa, qitem, hcopy, by simpa using hlooted⟩
    · rw [if_neg hffa] at h
      by_cases hlooted : entry.isLooted
      · rw [if_pos hlooted] at h
        cases h
      · rw [if_neg hlooted] at h
        by_cases hcondition : entry.conditionId ≠ 0
        · rw [if_pos hcondition] at h
          split at h
          · cases h
            exact ⟨hentry, by simpa using hlooted⟩
          · split_ifs at h
            cases h
            exact ⟨hentry, by simpa using hffa, by simpa using hlooted⟩
        · rw [if_neg hcondition] at h
          cases h
          exact ⟨hentry, by simpa using hlooted⟩

theorem copyOf_some {copies : QuestItemMap} {copy : Nat} {qitem : QuestItem}
    (h : copyOf copies player slot = some (copy, qitem)) :
    ∃ ql, copies.find player = some ql ∧ ql[copy]? = some qitem ∧ qitem.index = slot ∧
      ql.findIdx? (fun item => item.index = slot) = some copy := by
  unfold copyOf at h
  split at h
  · cases h
  · rename_i ql hql
    split at h
    · cases h
    · rename_i copy' hidx
      obtain ⟨qitem', hget, heq⟩ := Option.map_eq_some_iff.mp h
      cases heq
      refine ⟨ql, hql, hget, ?_, hidx⟩
      obtain ⟨hlt, hindex, -⟩ := List.findIdx?_eq_some_iff_getElem.mp hidx
      rw [(List.getElem?_eq_some_iff.mp hget).2] at hindex
      simpa using hindex

theorem findIdx_modify_looted (ql : List QuestItem) (copy slot : Nat) :
    (ql.modify copy QuestItem.looted).findIdx? (fun item => item.index = slot) =
      ql.findIdx? fun item => item.index = slot := by
  have hmap := Lists.map_modify_same QuestItem.index (g := QuestItem.looted) (fun _ => rfl) ql copy
  have hidx : ∀ l : List QuestItem, l.findIdx? (fun item => item.index = slot) =
      (l.map QuestItem.index).findIdx? fun index => index = slot := by
    intro l
    rw [List.findIdx?_map]
    rfl
  rw [hidx, hidx, hmap]

theorem copyOf_setLooted (copies : QuestItemMap) (owner copy player slot : Nat) :
    copyOf (copies.setLooted owner copy) player slot =
      (copyOf copies player slot).map fun entry =>
        if player = owner ∧ entry.1 = copy then (entry.1, entry.2.looted) else entry := by
  unfold copyOf
  rw [QuestItemMap.find_setLooted]
  by_cases howner : player = owner
  · rw [if_pos howner]
    cases copies.find player with
    | none => rfl
    | some ql =>
      simp only [Option.map_some, findIdx_modify_looted]
      cases ql.findIdx? (fun item => item.index = slot) with
      | none => rfl
      | some i =>
        simp only [List.getElem?_modify]
        cases ql[i]? with
        | none => rfl
        | some qitem =>
          by_cases hcopy : copy = i
          · simp [hcopy, howner]
          · simp [hcopy, howner, Ne.symm hcopy]
  · rw [if_neg howner]
    simp [howner]

-- A loop over the entries from an index on: it marks some and copies them.
inductive Copied (taken : LootItem → LootItem → Prop) : Nat → List LootItem → List LootItem → List QuestItem → Prop
  | stop (i : Nat) (items : List LootItem) : Copied taken i items items []
  | skip {i : Nat} {items marks : List LootItem} {copies : List QuestItem} (item : LootItem)
      (h : Copied taken (i + 1) items marks copies) : Copied taken i (item :: items) (item :: marks) copies
  | copy {i : Nat} {items marks : List LootItem} {copies : List QuestItem} {item mark : LootItem} (htaken : taken item mark)
      (h : Copied taken (i + 1) items marks copies) :
      Copied taken i (item :: items) (mark :: marks) ({ index := i, isLooted := false } :: copies)

variable {taken : LootItem → LootItem → Prop} {i : Nat} {items marks : List LootItem} {copies : List QuestItem}

theorem Copied.map {α : Type} (h : Copied taken i items marks copies) (key : LootItem → α)
    (hkey : ∀ item mark, taken item mark → key mark = key item) : marks.map key = items.map key := by
  induction h with
  | stop => rfl
  | skip item h ih => rw [map_cons, ih, map_cons]
  | copy htaken h ih => rw [map_cons, ih, map_cons, hkey _ _ htaken]

theorem Copied.leads (h : Copied taken i items marks copies) {qitem : QuestItem} (hqitem : qitem ∈ copies) :
    ∃ j item mark, qitem.index = i + j ∧ qitem.isLooted = false ∧ items[j]? = some item ∧ marks[j]? = some mark ∧ taken item mark := by
  induction h with
  | stop => cases hqitem
  | skip item h ih =>
    obtain ⟨j, item', mark, hindex, hrest⟩ := ih hqitem
    exact ⟨j + 1, item', mark, by omega, hrest⟩
  | copy htaken h ih =>
    rcases mem_cons.mp hqitem with rfl | hmem
    · exact ⟨0, _, _, rfl, rfl, rfl, rfl, htaken⟩
    · obtain ⟨j, item', mark, hindex, hrest⟩ := ih hmem
      exact ⟨j + 1, item', mark, by omega, hrest⟩

theorem Copied.nodup (h : Copied taken i items marks copies) : (copies.map QuestItem.index).Nodup := by
  induction h with
  | stop => exact nodup_nil
  | skip item h ih => exact ih
  | copy htaken h ih =>
    rw [map_cons, nodup_cons]
    refine ⟨fun hmem => ?_, ih⟩
    obtain ⟨qitem, hqitem, hindex⟩ := mem_map.mp hmem
    obtain ⟨j, -, -, hj, -⟩ := h.leads hqitem
    simp only at hindex
    omega

theorem copied_ffaCopies (view : View) (player i : Nat) (items : List LootItem) :
    Copied (fun item mark => mark = item ∧ item.freeforall = true) i items items (ffaCopies view player i items) := by
  induction items generalizing i with
  | nil => exact .stop i []
  | cons item rest ih =>
    unfold ffaCopies
    split_ifs with hcopy
    · exact .copy ⟨rfl, hcopy.2.1⟩ (ih (i + 1))
    · exact .skip item (ih (i + 1))

theorem copied_questCopies (view : View) (player i room : Nat) (items : List LootItem) :
    Copied (fun item mark => mark = item.blocked) i items (questCopies view player i room items).1
      (questCopies view player i room items).2.1 := by
  induction items generalizing i room with
  | nil => exact .stop i []
  | cons item rest ih =>
    cases room with
    | zero => exact .stop i _
    | succ room =>
      unfold questCopies
      split
      · exact .copy rfl (ih (i + 1) room)
      · exact .skip item (ih (i + 1) (room + 1))

theorem copied_conditionalCopies (view : View) (player i : Nat) (items : List LootItem) :
    Copied (fun item mark => mark = item.counted ∧ item.freeforall = false ∧ item.conditionId ≠ 0) i items
      (conditionalCopies view player i items).1 (conditionalCopies view player i items).2.1 := by
  induction items generalizing i with
  | nil => exact .stop i []
  | cons item rest ih =>
    unfold conditionalCopies
    simp only
    split
    · next hcopy => exact .copy ⟨rfl, by simpa using hcopy.2.1, hcopy.2.2.1⟩ (ih (i + 1))
    · exact .skip item (ih (i + 1))

end Loot

end TurtleWow.Looting
