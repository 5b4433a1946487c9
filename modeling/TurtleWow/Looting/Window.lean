import TurtleWow.Looting.Orderly
import TurtleWow.Looting.Tallies

namespace TurtleWow.Looting

open List

inductive PermissionTypes where
  | all | group | master | roundRobin | owner | none
  deriving DecidableEq, Repr

-- A function that answers MAX_LOOT_SLOT_TYPE has no type here.
inductive LootSlotType where
  | allowLoot | rollOngoing | master | locked | owner
  deriving DecidableEq, Repr

-- A slot of a window. The packet has the item's fields only, not which entry
-- of the loot they are from.
structure Record where
  slot : Nat
  quest : Bool
  index : Nat
  item : LootItem
  slotType : LootSlotType
  deriving DecidableEq, Repr

structure Window where
  gold : Nat
  itemsShown : Nat
  records : List Record
  deriving DecidableEq, Repr

namespace Loot

section

variable (view : View) (permission : PermissionTypes) (roundRobinPlayer viewer : Nat)

def getSlotTypeForSharedLoot (item : LootItem) (conditionOk : Bool) : Option LootSlotType :=
  if item.isLooted ∨ item.freeforall ∨ (item.conditionId ≠ 0 ∧ !conditionOk) ∨ !item.allowedForPlayer view viewer then
    none
  else
    match permission with
    | .group => some (if item.isBlocked ∨ item.isUnderthreshold then .allowLoot else .rollOngoing)
    | .all => some .allowLoot
    | .owner => some .allowLoot
    | .master => some (if !item.isUnderthreshold then .master else .allowLoot)
    | .roundRobin => none
    | .none => none

-- The slot type that the window's first loop writes, which depends on the
-- permission; `none` when the entry shall not be displayed.
def plainSlotType (item : LootItem) : Option LootSlotType :=
  match permission with
  | .group =>
    if item.isBlocked then some .rollOngoing
    else if roundRobinPlayer = 0 ∨ !item.isUnderthreshold ∨ viewer = roundRobinPlayer then some .allowLoot
    else none
  | .roundRobin => if roundRobinPlayer ≠ 0 ∧ viewer ≠ roundRobinPlayer then none else some .allowLoot
  | .all => some .allowLoot
  | .owner => some .allowLoot
  | .master => some .master
  | .none => none

-- Only the round robin player is allowed, unless he has no list of his own.
def heldBack (copies : QuestItemMap) (item : LootItem) : Bool :=
  !item.freeforall && roundRobinPlayer ≠ 0 && viewer ≠ roundRobinPlayer && (copies.find roundRobinPlayer).isSome

def plainRecord (entry : LootItem × Nat) : Option Record :=
  if !entry.1.isLooted ∧ !entry.1.freeforall ∧ entry.1.allowedForPlayer view viewer then
    (plainSlotType permission roundRobinPlayer viewer entry.1).map fun slotType =>
      { slot := Word.u8 entry.2, quest := false, index := entry.2, item := entry.1, slotType := slotType }
  else none

variable (loot : Loot)

def questRecord (copy : QuestItem × Nat) : Option Record :=
  match loot.questItems[copy.1.index]? with
  | none => none
  | some item =>
    if copy.1.isLooted ∨ item.isLooted then none
    else if heldBack roundRobinPlayer viewer loot.playerQuestItems item then none
    else
      some { slot := Word.u8 (loot.items.length + copy.2), quest := true, index := copy.1.index, item := item,
             slotType := .allowLoot }

def ffaRecord (fi : QuestItem) : Option Record :=
  match loot.items[fi.index]? with
  | none => none
  | some item =>
    if !fi.isLooted ∧ !item.isLooted then
      some { slot := Word.u8 fi.index, quest := false, index := fi.index, item := item, slotType := .allowLoot }
    else none

def conditionalRecord (ci : QuestItem) : Option Record :=
  match loot.items[ci.index]? with
  | none => none
  | some item =>
    match getSlotTypeForSharedLoot view permission viewer item (!ci.isLooted) with
    | none => none
    | some slotType =>
      if heldBack roundRobinPlayer viewer loot.playerConditionalItems item then none
      else
        some { slot := Word.u8 ci.index, quest := false, index := ci.index, item := item, slotType := slotType }

def plainRecords : List Record :=
  loot.items.zipIdx.filterMap (plainRecord view permission roundRobinPlayer viewer)

def questRecords : List Record :=
  ((loot.playerQuestItems.find viewer).getD []).zipIdx.filterMap (questRecord roundRobinPlayer viewer loot)

def ffaRecords : List Record := ((loot.playerFFAItems.find viewer).getD []).filterMap loot.ffaRecord

def conditionalRecords : List Record :=
  ((loot.playerConditionalItems.find viewer).getD []).filterMap
    (conditionalRecord view permission roundRobinPlayer viewer loot)

def records : List Record :=
  plainRecords view permission roundRobinPlayer viewer loot ++ questRecords roundRobinPlayer viewer loot ++
    ffaRecords viewer loot ++ conditionalRecords view permission roundRobinPlayer viewer loot

-- What operator<< writes of a LootView.
def lootView : Window :=
  if permission = .none then { gold := 0, itemsShown := 0, records := [] }
  else
    { gold := loot.gold, itemsShown := Word.u8 (records view permission roundRobinPlayer viewer loot).length,
      records := records view permission roundRobinPlayer viewer loot }

end

def Found.entry (slot : Nat) : Found → Bool × Nat
  | .quest _ index => (true, index)
  | _ => (false, slot)

-- The window is what its count says, and the decoder agrees with it.
structure Agrees (view : View) (permission : PermissionTypes) (roundRobinPlayer viewer : Nat) (loot : Loot) : Prop where
  count : (loot.lootView view permission roundRobinPlayer viewer).itemsShown =
    (loot.lootView view permission roundRobinPlayer viewer).records.length
  distinct : ((loot.lootView view permission roundRobinPlayer viewer).records.map Record.slot).Nodup
  decoded : ∀ record ∈ (loot.lootView view permission roundRobinPlayer viewer).records, ∃ found,
    loot.lootItemInSlot record.slot viewer = some (record.item, found) ∧
      found.entry record.slot = (record.quest, record.index)

section

variable {view : View} {permission : PermissionTypes} {roundRobinPlayer viewer : Nat} {loot : Loot} {slot : Nat}
  {record : Record} {item : LootItem}

theorem lootItemInSlot_plain (hitem : loot.items[slot]? = some item) (hlooted : item.isLooted = false)
    (hffa : item.freeforall = false)
    (hcopy : ∀ copy qitem, copyOf loot.playerConditionalItems viewer slot = some (copy, qitem) →
      qitem.isLooted = false) :
    ∃ found, loot.lootItemInSlot slot viewer = some (item, found) ∧ found.entry slot = (false, slot) := by
  unfold lootItemInSlot
  simp only [hitem, hffa, hlooted, Bool.false_eq_true, if_false]
  split_ifs
  · split
    · exact ⟨.plain, rfl, rfl⟩
    · rename_i copy qitem heq
      rw [if_neg (by rw [hcopy copy qitem heq]; exact Bool.false_ne_true)]
      exact ⟨.conditional copy, rfl, rfl⟩
  · exact ⟨.plain, rfl, rfl⟩

variable {qitem : QuestItem}

theorem lootItemInSlot_ffa {copy : Nat} (hitem : loot.items[slot]? = some item)
    (hffa : item.freeforall = true) (hcopy : copyOf loot.playerFFAItems viewer slot = some (copy, qitem))
    (hlooted : qitem.isLooted = false) : loot.lootItemInSlot slot viewer = some (item, .ffa copy) := by
  unfold lootItemInSlot
  simp only [hitem, hffa, hcopy, hlooted, if_true, Bool.false_eq_true, if_false]

theorem lootItemInSlot_conditional {copy : Nat} (hitem : loot.items[slot]? = some item)
    (hlooted : item.isLooted = false) (hffa : item.freeforall = false) (hcondition : item.conditionId ≠ 0)
    (hcopy : copyOf loot.playerConditionalItems viewer slot = some (copy, qitem)) (hcopied : qitem.isLooted = false) :
    loot.lootItemInSlot slot viewer = some (item, .conditional copy) := by
  unfold lootItemInSlot
  simp only [hitem, hffa, hlooted, Bool.false_eq_true, if_false, if_pos hcondition, hcopy, hcopied]

theorem lootItemInSlot_quest {ql : List QuestItem} {copy : Nat}
    (hql : loot.playerQuestItems.find viewer = some ql) (hqitem : ql[copy]? = some qitem)
    (hitem : loot.questItems[qitem.index]? = some item) (hlooted : qitem.isLooted = false)
    (hentry : item.isLooted = false) :
    loot.lootItemInSlot (loot.items.length + copy) viewer = some (item, .quest copy qitem.index) := by
  have hnone : loot.items[loot.items.length + copy]? = none := List.getElem?_eq_none (Nat.le_add_right _ _)
  unfold lootItemInSlot
  simp only [hnone, hql, Nat.add_sub_cancel_left, hqitem, hitem, hlooted, hentry]
  rfl

theorem copyOf_of_mem {copies : QuestItemMap} {ql : List QuestItem}
    (hql : copies.find viewer = some ql) (hnodup : (ql.map QuestItem.index).Nodup) (hqitem : qitem ∈ ql) :
    ∃ copy, copyOf copies viewer qitem.index = some (copy, qitem) := by
  have hsome : (ql.findIdx? fun entry => entry.index = qitem.index).isSome = true := by
    rw [List.findIdx?_isSome, any_eq_true]
    exact ⟨qitem, hqitem, decide_eq_true rfl⟩
  obtain ⟨copy, hcopy⟩ := Option.isSome_iff_exists.mp hsome
  obtain ⟨hlt, hindex, -⟩ := List.findIdx?_eq_some_iff_getElem.mp hcopy
  have hsame : ql[copy] = qitem :=
    Lists.eq_of_key hnodup (getElem_mem hlt) hqitem (of_decide_eq_true hindex)
  refine ⟨copy, ?_⟩
  unfold copyOf
  simp only [hql, hcopy, List.getElem?_eq_getElem hlt, hsame, Option.map_some]

theorem allowed_of_shared {conditionOk : Bool} {slotType : LootSlotType}
    (h : getSlotTypeForSharedLoot view permission viewer item conditionOk = some slotType) :
    item.isLooted = false ∧ item.allowedForPlayer view viewer = true := by
  unfold getSlotTypeForSharedLoot at h
  by_cases hout : item.isLooted = true ∨ item.freeforall = true ∨ (item.conditionId ≠ 0 ∧ (!conditionOk) = true) ∨
    (!item.allowedForPlayer view viewer) = true
  · rw [if_pos hout] at h
    cases h
  · rw [not_or, not_or, not_or] at hout
    exact ⟨by simpa using hout.1, by simpa using hout.2.2.2⟩

section

variable (h : Orderly loot)

include h

theorem mem_plainRecords (hrecord : record ∈ plainRecords view permission roundRobinPlayer viewer loot) :
    loot.items[record.slot]? = some record.item ∧ record.quest = false ∧ record.index = record.slot ∧
      record.item.isLooted = false ∧ record.item.freeforall = false ∧
      record.item.allowedForPlayer view viewer = true ∧
      plainSlotType permission roundRobinPlayer viewer record.item = some record.slotType := by
  obtain ⟨⟨item, i⟩, hentry, hshown⟩ := mem_filterMap.mp hrecord
  have hitem : loot.items[i]? = some item := mem_zipIdx_iff_getElem?.mp hentry
  unfold plainRecord at hshown
  split_ifs at hshown with hsees
  obtain ⟨slotType, htype, rfl⟩ := Option.map_eq_some_iff.mp hshown
  rw [h.u8_slot hitem]
  exact ⟨hitem, rfl, rfl, by simpa using hsees.1, by simpa using hsees.2.1, hsees.2.2, htype⟩

theorem mem_questRecords (hrecord : record ∈ questRecords roundRobinPlayer viewer loot) :
    ∃ ql copy qitem, loot.playerQuestItems.find viewer = some ql ∧ ql[copy]? = some qitem ∧
      record.slot = loot.items.length + copy ∧ record.quest = true ∧ record.index = qitem.index ∧
      loot.questItems[qitem.index]? = some record.item ∧ qitem.isLooted = false ∧ record.item.isLooted = false ∧
      heldBack roundRobinPlayer viewer loot.playerQuestItems record.item = false := by
  obtain ⟨⟨qitem, copy⟩, hentry, hshown⟩ := mem_filterMap.mp hrecord
  cases hql : loot.playerQuestItems.find viewer with
  | none =>
    rw [hql] at hentry
    cases hentry
  | some ql =>
    rw [hql] at hentry
    have hqitem : ql[copy]? = some qitem := mem_zipIdx_iff_getElem?.mp hentry
    unfold questRecord at hshown
    split at hshown
    · cases hshown
    · rename_i item hitem
      split_ifs at hshown with hlooted hheld
      cases hshown
      rw [not_or] at hlooted
      exact ⟨ql, copy, qitem, rfl, hqitem, h.u8_questSlot hql hqitem, rfl, rfl, hitem,
        by simpa using hlooted.1, by simpa using hlooted.2, by simpa using hheld⟩

theorem mem_ffaRecords (hrecord : record ∈ ffaRecords viewer loot) :
    ∃ ql qitem, loot.playerFFAItems.find viewer = some ql ∧ qitem ∈ ql ∧ qitem.index = record.slot ∧
      record.quest = false ∧ record.index = record.slot ∧ loot.items[record.slot]? = some record.item ∧
      qitem.isLooted = false ∧ record.item.freeforall = true ∧ record.item.isLooted = false := by
  obtain ⟨qitem, hqitem, hshown⟩ := mem_filterMap.mp hrecord
  cases hql : loot.playerFFAItems.find viewer with
  | none =>
    rw [hql] at hqitem
    cases hqitem
  | some ql =>
    rw [hql] at hqitem
    obtain ⟨item, hitem, hffa⟩ := (h.ffa viewer ql hql).2 qitem hqitem
    unfold ffaRecord at hshown
    simp only [hitem] at hshown
    split_ifs at hshown with hlooted
    cases hshown
    rw [h.u8_slot hitem]
    exact ⟨ql, qitem, rfl, hqitem, rfl, rfl, rfl, hitem, by simpa using hlooted.1, hffa, by simpa using hlooted.2⟩

theorem mem_conditionalRecords (hrecord : record ∈ conditionalRecords view permission roundRobinPlayer viewer loot) :
    ∃ ql qitem, loot.playerConditionalItems.find viewer = some ql ∧ qitem ∈ ql ∧ qitem.index = record.slot ∧
      record.quest = false ∧ record.index = record.slot ∧ loot.items[record.slot]? = some record.item ∧
      qitem.isLooted = false ∧ record.item.isLooted = false ∧ record.item.freeforall = false ∧
      record.item.conditionId ≠ 0 ∧ record.item.allowedForPlayer view viewer = true ∧
      getSlotTypeForSharedLoot view permission viewer record.item true = some record.slotType ∧
      heldBack roundRobinPlayer viewer loot.playerConditionalItems record.item = false := by
  obtain ⟨qitem, hqitem, hshown⟩ := mem_filterMap.mp hrecord
  cases hql : loot.playerConditionalItems.find viewer with
  | none =>
    rw [hql] at hqitem
    cases hqitem
  | some ql =>
    rw [hql] at hqitem
    obtain ⟨item, hitem, hffa, hcondition, hmarked⟩ := (h.conditional viewer ql hql).2 qitem hqitem
    unfold conditionalRecord at hshown
    simp only [hitem] at hshown
    split at hshown
    · cases hshown
    · rename_i slotType htype
      split_ifs at hshown with hheld
      cases hshown
      rw [h.u8_slot hitem]
      have hsees := allowed_of_shared htype
      have hcopy : qitem.isLooted = false := by
        by_contra hlooted
        rw [hmarked (by simpa using hlooted)] at hsees
        cases hsees.1
      rw [hcopy] at htype
      exact ⟨ql, qitem, rfl, hqitem, rfl, rfl, rfl, hitem, hcopy, hsees.1, hffa, hcondition, hsees.2, htype, by simpa using hheld⟩

theorem decoded_of_mem (hrecord : record ∈ records view permission roundRobinPlayer viewer loot) :
    ∃ found, loot.lootItemInSlot record.slot viewer = some (record.item, found) ∧
      found.entry record.slot = (record.quest, record.index) := by
  -- A copy of an entry that is not looted is not looted either.
  have hcopies : loot.items[record.slot]? = some record.item → record.item.isLooted = false →
      ∀ copy qitem, copyOf loot.playerConditionalItems viewer record.slot = some (copy, qitem) →
        qitem.isLooted = false := by
    intro hitem hlooted copy qitem hcopy
    obtain ⟨ql, hql, hqitem, hindex, -⟩ := copyOf_some hcopy
    obtain ⟨item, hentry, -, -, hmarked⟩ := (h.conditional viewer ql hql).2 qitem (mem_of_getElem? hqitem)
    rw [hindex, hitem] at hentry
    cases hentry
    by_contra hyes
    rw [hmarked (by simpa using hyes)] at hlooted
    cases hlooted
  unfold records at hrecord
  rw [mem_append, mem_append, mem_append] at hrecord
  rcases hrecord with ((hplain | hquest) | hffa) | hconditional
  · obtain ⟨hitem, hkind, hindex, hlooted, hshared, -, -⟩ := mem_plainRecords h hplain
    rw [hkind, hindex]
    exact lootItemInSlot_plain hitem hlooted hshared (hcopies hitem hlooted)
  · obtain ⟨ql, copy, qitem, hql, hqitem, hslot, hkind, hindex, hitem, hlooted, hentry, -⟩ :=
      mem_questRecords h hquest
    rw [hslot, hkind, hindex]
    exact ⟨_, lootItemInSlot_quest hql hqitem hitem hlooted hentry, rfl⟩
  · obtain ⟨ql, qitem, hql, hqitem, hslot, hkind, hindex, hitem, hlooted, hfree, -⟩ := mem_ffaRecords h hffa
    obtain ⟨copy, hcopy⟩ := copyOf_of_mem hql (h.ffa viewer ql hql).1 hqitem
    rw [hslot] at hcopy
    rw [hkind, hindex]
    exact ⟨_, lootItemInSlot_ffa hitem hfree hcopy hlooted, rfl⟩
  · obtain ⟨ql, qitem, -, -, -, hkind, hindex, hitem, -, hlooted, hshared, -⟩ := mem_conditionalRecords h hconditional
    rw [hkind, hindex]
    exact lootItemInSlot_plain hitem hlooted hshared (hcopies hitem hlooted)

-- Within each loop the slots are different, and the loops share none but
-- the first and the last.

theorem nodup_plainRecords : ((plainRecords view permission roundRobinPlayer viewer loot).map Record.slot).Nodup := by
  have hslots : ∀ entry ∈ loot.items.zipIdx, ∀ record,
      plainRecord view permission roundRobinPlayer viewer entry = some record → record.slot = entry.2 := by
    intro entry hentry record hrecord
    unfold plainRecord at hrecord
    split_ifs at hrecord
    obtain ⟨slotType, -, rfl⟩ := Option.map_eq_some_iff.mp hrecord
    exact h.u8_slot (mem_zipIdx_iff_getElem?.mp hentry)
  refine (Lists.sublist_map_filterMap hslots).nodup ?_
  rw [zipIdx_map_snd]
  exact nodup_range'

theorem nodup_questRecords : ((questRecords roundRobinPlayer viewer loot).map Record.slot).Nodup := by
  unfold questRecords
  cases hql : loot.playerQuestItems.find viewer with
  | none => exact nodup_nil
  | some ql =>
    have hslots : ∀ entry ∈ ql.zipIdx, ∀ record,
        questRecord roundRobinPlayer viewer loot entry = some record →
          record.slot = loot.items.length + entry.2 := by
      intro entry hentry record hrecord
      unfold questRecord at hrecord
      split at hrecord
      · cases hrecord
      · split_ifs at hrecord
        cases hrecord
        exact h.u8_questSlot hql (mem_zipIdx_iff_getElem?.mp hentry)
    refine (Lists.sublist_map_filterMap hslots).nodup ?_
    have hkeys : ql.zipIdx.map (fun entry => loot.items.length + entry.2) =
        (List.range' 0 ql.length).map (loot.items.length + ·) := by
      rw [← zipIdx_map_snd 0 ql, map_map]
      rfl
    rw [hkeys]
    exact List.Nodup.map (fun _ _ hsame => Nat.add_left_cancel hsame) nodup_range'

theorem nodup_ffaRecords : ((ffaRecords viewer loot).map Record.slot).Nodup := by
  unfold ffaRecords
  cases hql : loot.playerFFAItems.find viewer with
  | none => exact nodup_nil
  | some ql =>
    have hslots : ∀ qitem ∈ ql, ∀ record, loot.ffaRecord qitem = some record → record.slot = qitem.index := by
      intro qitem hqitem record hrecord
      unfold ffaRecord at hrecord
      split at hrecord
      · cases hrecord
      · rename_i item hitem
        split_ifs at hrecord
        cases hrecord
        exact h.u8_slot hitem
    exact (Lists.sublist_map_filterMap hslots).nodup (h.ffa viewer ql hql).1

theorem nodup_conditionalRecords :
    ((conditionalRecords view permission roundRobinPlayer viewer loot).map Record.slot).Nodup := by
  unfold conditionalRecords
  cases hql : loot.playerConditionalItems.find viewer with
  | none => exact nodup_nil
  | some ql =>
    have hslots : ∀ qitem ∈ ql, ∀ record, conditionalRecord view permission roundRobinPlayer viewer loot qitem =
        some record → record.slot = qitem.index := by
      intro qitem hqitem record hrecord
      unfold conditionalRecord at hrecord
      split at hrecord
      · cases hrecord
      · rename_i item hitem
        split at hrecord
        · cases hrecord
        · split_ifs at hrecord
          cases hrecord
          exact h.u8_slot hitem
    exact (Lists.sublist_map_filterMap hslots).nodup (h.conditional viewer ql hql).1

end

-- An entry that the first loop shows under this permission and that the last
-- one shows too, when the viewer has a copy of it.
def shownInBoth (permission : PermissionTypes) (roundRobinPlayer viewer : Nat) (item : LootItem) : Bool :=
  match permission with
  | .group => item.isBlocked || roundRobinPlayer = 0 || !item.isUnderthreshold || viewer = roundRobinPlayer
  | .all => true
  | .owner => true
  | .master => true
  | .roundRobin => false
  | .none => false

def shownTwice (view : View) (permission : PermissionTypes) (roundRobinPlayer viewer : Nat) (loot : Loot)
    (ci : QuestItem) : Bool :=
  match loot.items[ci.index]? with
  | none => false
  | some item =>
    !ci.isLooted && !item.isLooted && item.allowedForPlayer view viewer &&
      shownInBoth permission roundRobinPlayer viewer item &&
      !heldBack roundRobinPlayer viewer loot.playerConditionalItems item

def ShownOnce (view : View) (permission : PermissionTypes) (roundRobinPlayer viewer : Nat) (loot : Loot) : Prop :=
  ∀ ci ∈ (loot.playerConditionalItems.find viewer).getD [],
    shownTwice view permission roundRobinPlayer viewer loot ci = false

theorem shownInBoth_iff : shownInBoth permission roundRobinPlayer viewer item = true ↔
    (plainSlotType permission roundRobinPlayer viewer item).isSome = true ∧
      permission ≠ .roundRobin ∧ permission ≠ .none := by
  cases permission <;> simp [shownInBoth, plainSlotType]
  cases item.isBlocked <;> simp [or_assoc]

theorem isSome_shared (hlooted : item.isLooted = false) (hffa : item.freeforall = false)
    (hallowed : item.allowedForPlayer view viewer = true) :
    (getSlotTypeForSharedLoot view permission viewer item true).isSome = true ↔
      permission ≠ .roundRobin ∧ permission ≠ .none := by
  unfold getSlotTypeForSharedLoot
  rw [if_neg (by simp [hlooted, hffa, hallowed])]
  cases permission <;> simp

theorem mem_of_shownTwice (h : Orderly loot) {ci : QuestItem}
    (hci : ci ∈ (loot.playerConditionalItems.find viewer).getD [])
    (htwice : shownTwice view permission roundRobinPlayer viewer loot ci = true) :
    ci.index ∈ (plainRecords view permission roundRobinPlayer viewer loot).map Record.slot ∧
      ci.index ∈ (conditionalRecords view permission roundRobinPlayer viewer loot).map Record.slot := by
  unfold shownTwice at htwice
  split at htwice
  · cases htwice
  · rename_i item hitem
    simp only [Bool.and_eq_true, Bool.not_eq_eq_eq_not, Bool.not_true] at htwice
    obtain ⟨⟨⟨⟨hcopy, hlooted⟩, hallowed⟩, hboth⟩, hheld⟩ := htwice
    obtain ⟨hplain, hpermission⟩ := shownInBoth_iff.mp hboth
    have hffa : item.freeforall = false := by
      cases hql : loot.playerConditionalItems.find viewer with
      | none =>
        rw [hql] at hci
        cases hci
      | some ql =>
        rw [hql] at hci
        obtain ⟨entry, hentry, hffa, -⟩ := (h.conditional viewer ql hql).2 ci hci
        obtain rfl := Option.some.inj (hitem.symm.trans hentry)
        exact hffa
    obtain ⟨plainType, hplainType⟩ := Option.isSome_iff_exists.mp hplain
    obtain ⟨slotType, hslotType⟩ :=
      Option.isSome_iff_exists.mp ((isSome_shared hlooted hffa hallowed).mpr hpermission)
    have hfirst : plainRecord view permission roundRobinPlayer viewer (item, ci.index) =
        some { slot := Word.u8 ci.index, quest := false, index := ci.index, item := item, slotType := plainType } := by
      unfold plainRecord
      rw [if_pos (by simp [hlooted, hffa, hallowed]), hplainType]
      rfl
    have hlast : conditionalRecord view permission roundRobinPlayer viewer loot ci =
        some { slot := Word.u8 ci.index, quest := false, index := ci.index, item := item, slotType := slotType } := by
      unfold conditionalRecord
      simp only [hitem, hcopy, Bool.not_false, hslotType, hheld, Bool.false_eq_true, if_false]
    have hentry : (item, ci.index) ∈ loot.items.zipIdx := mem_zipIdx_iff_getElem?.mpr hitem
    exact ⟨mem_map.mpr ⟨_, mem_filterMap.mpr ⟨_, hentry, hfirst⟩, h.u8_slot hitem⟩,
      mem_map.mpr ⟨_, mem_filterMap.mpr ⟨_, hci, hlast⟩, h.u8_slot hitem⟩⟩

theorem shownTwice_of_mem (h : Orderly loot)
    (hfirst : slot ∈ (plainRecords view permission roundRobinPlayer viewer loot).map Record.slot)
    (hlast : slot ∈ (conditionalRecords view permission roundRobinPlayer viewer loot).map Record.slot) :
    ∃ ci ∈ (loot.playerConditionalItems.find viewer).getD [],
      shownTwice view permission roundRobinPlayer viewer loot ci = true := by
  obtain ⟨first, hmem, rfl⟩ := mem_map.mp hfirst
  obtain ⟨last, hlast, hsame⟩ := mem_map.mp hlast
  obtain ⟨hentry, -, -, -, -, -, hplain⟩ := mem_plainRecords h hmem
  obtain ⟨ql, ci, hql, hci, hindex, -, -, hitem, hcopy, hlooted, hffa, -, hallowed, htype, hheld⟩ :=
    mem_conditionalRecords h hlast
  rw [← hsame, hitem] at hentry
  have hitems := Option.some.inj hentry
  have hboth : shownInBoth permission roundRobinPlayer viewer last.item = true := by
    refine shownInBoth_iff.mpr ⟨?_, (isSome_shared hlooted hffa hallowed).mp ?_⟩
    · rw [hitems, hplain]
      rfl
    · rw [htype]
      rfl
  refine ⟨ci, ?_, ?_⟩
  · rw [hql]
    exact hci
  · unfold shownTwice
    simp only [hindex, hitem, hcopy, hlooted, hallowed, hboth, hheld]
    rfl

theorem nodup_records (h : Orderly loot) :
    ((records view permission roundRobinPlayer viewer loot).map Record.slot).Nodup ↔
      ShownOnce view permission roundRobinPlayer viewer loot := by
  unfold records
  rw [map_append, map_append, map_append]
  constructor
  · intro hnodup ci hci
    by_contra htwice
    obtain ⟨hfirst, hlast⟩ := mem_of_shownTwice h hci (by simpa using htwice)
    exact (nodup_append.mp hnodup).2.2 _ (mem_append_left _ (mem_append_left _ hfirst)) _ hlast rfl
  · intro honce
    have hlt : ∀ slot item, loot.items[slot]? = some item → slot < loot.items.length :=
      fun _ _ hitem => (List.getElem?_eq_some_iff.mp hitem).1
    refine nodup_append.mpr ⟨nodup_append.mpr ⟨nodup_append.mpr ⟨nodup_plainRecords h,
      nodup_questRecords h, ?_⟩, nodup_ffaRecords h, ?_⟩, nodup_conditionalRecords h, ?_⟩
    · rintro slot hplain other hquest rfl
      obtain ⟨plain, hmem, rfl⟩ := mem_map.mp hplain
      obtain ⟨quest, hquest, hsame⟩ := mem_map.mp hquest
      obtain ⟨ql, copy, qitem, -, -, hslot, -⟩ := mem_questRecords h hquest
      have hbound := hlt _ _ (mem_plainRecords h hmem).1
      omega
    · rintro slot hbefore other hffa rfl
      obtain ⟨ffa, hmem, rfl⟩ := mem_map.mp hffa
      obtain ⟨ql, qitem, -, -, -, -, -, hitem, -, hfree, -⟩ := mem_ffaRecords h hmem
      rcases mem_append.mp hbefore with hplain | hquest
      · obtain ⟨plain, hplain, hsame⟩ := mem_map.mp hplain
        obtain ⟨hentry, -, -, -, hshared, -⟩ := mem_plainRecords h hplain
        rw [hsame, hitem] at hentry
        rw [← Option.some.inj hentry, hfree] at hshared
        cases hshared
      · obtain ⟨quest, hquest, hsame⟩ := mem_map.mp hquest
        obtain ⟨ql, copy, qitem, -, -, hslot, -⟩ := mem_questRecords h hquest
        have hbound := hlt _ _ hitem
        omega
    · rintro slot hbefore other hconditional rfl
      rcases mem_append.mp hbefore with hbefore | hffa
      · rcases mem_append.mp hbefore with hplain | hquest
        · obtain ⟨ci, hci, htwice⟩ := shownTwice_of_mem h hplain hconditional
          rw [honce ci hci] at htwice
          cases htwice
        · obtain ⟨quest, hmem, rfl⟩ := mem_map.mp hquest
          obtain ⟨last, hlast, hsame⟩ := mem_map.mp hconditional
          obtain ⟨ql, copy, qitem, -, -, hslot, -⟩ := mem_questRecords h hmem
          obtain ⟨ql', ci, -, -, -, -, -, hitem, -⟩ := mem_conditionalRecords h hlast
          have hbound := hlt _ _ hitem
          omega
      · obtain ⟨ffa, hmem, rfl⟩ := mem_map.mp hffa
        obtain ⟨last, hlast, hsame⟩ := mem_map.mp hconditional
        obtain ⟨ql, qitem, -, -, -, -, -, hitem, -, hfree, -⟩ := mem_ffaRecords h hmem
        obtain ⟨ql', ci, -, -, -, -, -, hentry, -, -, hshared, -⟩ := mem_conditionalRecords h hlast
        rw [hsame, hitem] at hentry
        rw [← Option.some.inj hentry, hfree] at hshared
        cases hshared

theorem length_le_items {ok : LootItem → QuestItem → Prop} {copies : QuestItemMap} {ql : List QuestItem}
    (hleads : copies.Leads ok loot.items) (hql : copies.find viewer = some ql) : ql.length ≤ loot.items.length := by
  obtain ⟨hnodup, hentries⟩ := hleads viewer ql hql
  have hsubset : ql.map QuestItem.index ⊆ List.range loot.items.length := by
    intro index hindex
    obtain ⟨qitem, hqitem, rfl⟩ := mem_map.mp hindex
    obtain ⟨item, hitem, -⟩ := hentries qitem hqitem
    exact mem_range.mpr (List.getElem?_eq_some_iff.mp hitem).1
  simpa using (subperm_of_subset hnodup hsubset).length_le

theorem length_records (h : Orderly loot) : (records view permission roundRobinPlayer viewer loot).length < 256 := by
  have hsize : loot.items.length ≤ 16 := h.size
  have hplain : (plainRecords view permission roundRobinPlayer viewer loot).length ≤ 16 := by
    refine Nat.le_trans (length_filterMap_le _ _) ?_
    rw [length_zipIdx]
    exact hsize
  have hquest : (questRecords roundRobinPlayer viewer loot).length ≤ 16 := by
    refine Nat.le_trans (length_filterMap_le _ _) ?_
    rw [length_zipIdx]
    cases hql : loot.playerQuestItems.find viewer with
    | none => exact Nat.zero_le _
    | some ql => exact Nat.le_trans (Nat.le_add_left _ _) (h.room viewer ql hql)
  have hffa : (ffaRecords viewer loot).length ≤ 16 := by
    refine Nat.le_trans (length_filterMap_le _ _) ?_
    cases hql : loot.playerFFAItems.find viewer with
    | none => exact Nat.zero_le _
    | some ql => exact Nat.le_trans (length_le_items h.ffa hql) hsize
  have hconditional : (conditionalRecords view permission roundRobinPlayer viewer loot).length ≤ 16 := by
    refine Nat.le_trans (length_filterMap_le _ _) ?_
    cases hql : loot.playerConditionalItems.find viewer with
    | none => exact Nat.zero_le _
    | some ql => exact Nat.le_trans (length_le_items h.conditional hql) hsize
  unfold records
  rw [length_append, length_append, length_append]
  omega

theorem agrees_iff (h : Orderly loot) (hpermission : permission ≠ .none) :
    loot.Agrees view permission roundRobinPlayer viewer ↔ ShownOnce view permission roundRobinPlayer viewer loot := by
  have hview : loot.lootView view permission roundRobinPlayer viewer =
      { gold := loot.gold, itemsShown := Word.u8 (records view permission roundRobinPlayer viewer loot).length,
        records := records view permission roundRobinPlayer viewer loot } := if_neg hpermission
  constructor
  · intro hagrees
    have hdistinct := hagrees.distinct
    rw [hview] at hdistinct
    exact (nodup_records h).mp hdistinct
  · intro honce
    refine ⟨?_, ?_, ?_⟩
    · rw [hview]
      exact Word.u8_of_lt (length_records h)
    · rw [hview]
      exact (nodup_records h).mpr honce
    · rw [hview]
      exact fun record hrecord => decoded_of_mem h hrecord

instance (view : View) (permission : PermissionTypes) (roundRobinPlayer viewer : Nat) (loot : Loot) :
    Decidable (ShownOnce view permission roundRobinPlayer viewer loot) :=
  inferInstanceAs (Decidable (∀ ci ∈ (loot.playerConditionalItems.find viewer).getD [],
    shownTwice view permission roundRobinPlayer viewer loot ci = false))

end

end Loot

namespace Party

theorem lootView_run {p : Party} (hloots : ∀ target, p.loot target = Loot.new) (messages : List Message)
    (target : Nat) (view : View) {permission : PermissionTypes} (hpermission : permission ≠ .none)
    (roundRobinPlayer viewer : Nat) :
    let loot := (Run.run Party.receive p messages).loot target
    loot.Agrees view permission roundRobinPlayer viewer ↔ loot.ShownOnce view permission roundRobinPlayer viewer :=
  Loot.agrees_iff (orderly_run hloots messages target) hpermission

theorem lootView_run_votes : ((Run.run Party.receive sampleParty (sampleDrop ++ [sampleVote 1 1])).loot 9).Agrees
    sampleView .group 1 2 :=
  (lootView_run (fun _ => rfl) _ 9 sampleView (by decide) 1 2).mpr (by decide)

-- A creature drops an item with a condition that its killer meets. His window
-- shows two items, both in slot 0.
theorem not_lootView_run : ¬∀ (p : Party), (∀ target, p.loot target = Loot.new) → ∀ (messages : List Message)
    (target : Nat) (view : View) (permission : PermissionTypes), permission ≠ .none →
    ∀ roundRobinPlayer viewer : Nat,
    ((Run.run Party.receive p messages).loot target).Agrees view permission roundRobinPlayer viewer := by
  intro h
  have hagrees := h sampleParty (fun _ => rfl)
    [⟨sampleView, .fill 9 true false [{ itemid := 25, conditionId := 7, needsQuest := false, count := 1 }] 0 1 none⟩]
    9 sampleView .owner (by decide) 0 1
  have hdistinct := hagrees.distinct
  revert hdistinct
  decide

end Party

end TurtleWow.Looting
