import TurtleWow.Looting.Window

namespace TurtleWow.Looting

open List

def LootMethod.permission : LootMethod → PermissionTypes
  | .masterLoot => .master
  | .freeForAll => .all
  | .roundRobin => .roundRobin
  | .groupLoot => .group
  | .needBeforeGreed => .group

namespace Loot

section

variable {view : View} {creature master : Bool} {permission : PermissionTypes} {roundRobinPlayer player slot : Nat}
  {loot : Loot} {item : LootItem} {found : Found}

def delivers (view : View) (creature master : Bool) (slot player : Nat) (loot : Loot) : Bool :=
  match loot.lootItemInSlot slot player with
  | none => false
  | some (item, found) => takes view creature master slot player item found

theorem handed_markLooted (slot player : Nat) (item : LootItem) (found : Found) :
    (loot.markLooted slot player item found).handed = loot.handed := by
  cases found with
  | quest copy index => rfl
  | ffa copy => rfl
  | conditional copy => rfl
  | plain =>
    unfold markLooted
    split_ifs <;> rfl

theorem handed_autostore : (loot.autostore view creature master slot player).handed ≠ loot.handed ↔
    loot.delivers view creature master slot player = true := by
  unfold autostore delivers
  cases hfound : loot.lootItemInSlot slot player with
  | none => simp
  | some entry =>
    obtain ⟨item, found⟩ := entry
    dsimp only
    by_cases htakes : takes view creature master slot player item found = true
    · rw [if_pos htakes]
      have hmarked : (loot.markLooted slot player item found).spend.handed = loot.handed :=
        handed_markLooted slot player item found
      refine ⟨fun _ => htakes, fun _ hsame => ?_⟩
      have hlength := congrArg List.length hsame
      cases found <;> simp only [handOutFound, handOut, length_cons, hmarked] at hlength <;> omega
    · rw [if_neg htakes]
      exact ⟨fun h => absurd rfl h, fun h => absurd h htakes⟩

-- The types that the window's loops give to an entry that is not blocked.

def allowsPlain (permission : PermissionTypes) (roundRobinPlayer player : Nat) (item : LootItem) : Bool :=
  match permission with
  | .group => roundRobinPlayer = 0 || !item.isUnderthreshold || player = roundRobinPlayer
  | .roundRobin => roundRobinPlayer = 0 || player = roundRobinPlayer
  | .all => true
  | .owner => true
  | .master => false
  | .none => false

def allowsShared (permission : PermissionTypes) (item : LootItem) : Bool :=
  match permission with
  | .group => item.isUnderthreshold
  | .all => true
  | .owner => true
  | .master => item.isUnderthreshold
  | .roundRobin => false
  | .none => false

theorem plainSlotType_allowLoot (hblocked : item.isBlocked = false) :
    plainSlotType permission roundRobinPlayer player item = some .allowLoot ↔
      allowsPlain permission roundRobinPlayer player item = true := by
  cases permission with
  | group =>
    simp only [plainSlotType, allowsPlain, hblocked, Bool.false_eq_true, if_false, Bool.or_eq_true, decide_eq_true_eq,
      or_assoc]
    split_ifs with hfree
    · simp only [hfree]
    · simp only [hfree]
  | roundRobin =>
    simp only [plainSlotType, allowsPlain, Bool.or_eq_true, decide_eq_true_eq]
    split_ifs with hheld
    · simp [hheld.1, hheld.2]
    · simp only [true_iff]
      by_cases hzero : roundRobinPlayer = 0
      · exact .inl hzero
      · exact .inr (by_contra fun hne => hheld ⟨hzero, hne⟩)
  | all => simp [plainSlotType, allowsPlain]
  | owner => simp [plainSlotType, allowsPlain]
  | master => simp [plainSlotType, allowsPlain]
  | none => simp [plainSlotType, allowsPlain]

theorem shared_allowLoot (hblocked : item.isBlocked = false) (hlooted : item.isLooted = false)
    (hffa : item.freeforall = false) (hallowed : item.allowedForPlayer view player = true) :
    getSlotTypeForSharedLoot view permission player item true = some .allowLoot ↔
      allowsShared permission item = true := by
  unfold getSlotTypeForSharedLoot
  rw [if_neg (by simp [hlooted, hffa, hallowed])]
  cases permission <;> simp [allowsShared, hblocked]

-- When the window has the slot for an entry that the handler would deliver: a
-- quest item by the round robin rule, a free for all item while its entry is
-- not marked, another entry by the permission, and one with a condition by the
-- player's own copy too.
def allowed (permission : PermissionTypes) (roundRobinPlayer player : Nat) (loot : Loot) (item : LootItem)
    (found : Found) : Bool :=
  match found with
  | .quest _ _ => permission ≠ .none && !heldBack roundRobinPlayer player loot.playerQuestItems item
  | .ffa _ => permission ≠ .none && !item.isLooted
  | .conditional _ =>
    allowsPlain permission roundRobinPlayer player item ||
      (allowsShared permission item && !heldBack roundRobinPlayer player loot.playerConditionalItems item)
  | .plain => !item.freeforall && allowsPlain permission roundRobinPlayer player item

def Shows (view : View) (permission : PermissionTypes) (roundRobinPlayer player slot : Nat) (loot : Loot) : Prop :=
  ∃ record ∈ (loot.lootView view permission roundRobinPlayer player).records,
    record.slot = slot ∧ record.slotType = .allowLoot

theorem shows_iff (hpermission : permission ≠ .none) : loot.Shows view permission roundRobinPlayer player slot ↔
    ∃ record ∈ records view permission roundRobinPlayer player loot,
      record.slot = slot ∧ record.slotType = .allowLoot := by
  unfold Shows lootView
  rw [if_neg hpermission]

theorem not_shows_none : ¬loot.Shows view .none roundRobinPlayer player slot := by
  rintro ⟨record, hrecord, -⟩
  cases hrecord

theorem takes_iff : takes view creature master slot player item found = true →
    item.allowedForPlayer view player = true ∧ (isQuest found = false → item.isBlocked = false) ∧
      (isQuest found = false → isFFA found = false → creature = true → master = true → item.isUnderthreshold = true) := by
  intro htakes
  simp only [takes, Bool.and_eq_true, Bool.or_eq_true, Bool.not_eq_eq_eq_not, Bool.not_true] at htakes
  obtain ⟨⟨⟨⟨hallowed, hblocked⟩, hmaster⟩, -⟩, -⟩ := htakes
  refine ⟨hallowed, fun hquest => ?_, fun hquest hffa hcreature hyes => ?_⟩
  · rcases hblocked with hyes | hblocked
    · rw [hyes] at hquest
      cases hquest
    · exact hblocked
  · by_contra hover
    simp [hcreature, hyes, hquest, hffa, hover] at hmaster

theorem entry_not_quest {quest : Bool} {index : Nat} (h : found.entry slot = (quest, index)) :
    isQuest found = quest := by
  cases found <;> exact congrArg Prod.fst h

theorem item_of_record (h : Orderly loot) {record : Record} (hslot : record.slot = slot)
    (hrecord : record ∈ records view permission roundRobinPlayer player loot)
    (hfound : loot.lootItemInSlot slot player = some (item, found)) :
    record.item = item ∧ isQuest found = record.quest := by
  obtain ⟨found', hdecoded, hentry⟩ := decoded_of_mem h hrecord
  rw [hslot, hfound] at hdecoded
  cases hdecoded
  exact ⟨rfl, entry_not_quest hentry⟩

theorem allowed_of_shows (h : Orderly loot) (hpermission : permission ≠ .none)
    (hfound : loot.lootItemInSlot slot player = some (item, found))
    (hblocked : isQuest found = false → item.isBlocked = false)
    (hshows : loot.Shows view permission roundRobinPlayer player slot) :
    allowed permission roundRobinPlayer player loot item found = true := by
  obtain ⟨record, hrecord, hslot, htype⟩ := (shows_iff hpermission).mp hshows
  obtain ⟨hitem, hquest⟩ := item_of_record h hslot hrecord hfound
  subst hitem
  have hfinds := finds_of_lootItemInSlot hfound
  unfold records at hrecord
  rw [mem_append, mem_append, mem_append] at hrecord
  rcases hrecord with ((hplain | hquests) | hffa) | hconditional
  · obtain ⟨-, hkind, -, -, hshared, -, hplainType⟩ := mem_plainRecords h hplain
    rw [hkind] at hquest
    rw [htype, plainSlotType_allowLoot (hblocked hquest)] at hplainType
    cases found with
    | quest copy index => cases hquest
    | ffa copy =>
      rw [hfinds.2.1] at hshared
      cases hshared
    | conditional copy => simp [allowed, hplainType]
    | plain => simp [allowed, hplainType, hshared]
  · obtain ⟨ql, copy, qitem, -, -, -, hkind, -, -, -, -, hheld⟩ := mem_questRecords h hquests
    rw [hkind] at hquest
    cases found with
    | quest copy index => simp [allowed, hheld, hpermission]
    | ffa copy => cases hquest
    | conditional copy => cases hquest
    | plain => cases hquest
  · obtain ⟨ql, qitem, hql, hqitem, hindex, -, -, hitem, hlooted, hfree, hentry⟩ := mem_ffaRecords h hffa
    obtain ⟨copy, hcopy⟩ := copyOf_of_mem hql (h.ffa player ql hql).1 hqitem
    rw [hindex] at hcopy
    have hdecoded := lootItemInSlot_ffa hitem hfree hcopy hlooted
    rw [hslot, hfound] at hdecoded
    rw [(Prod.mk.inj (Option.some.inj hdecoded)).2]
    simp [allowed, hentry, hpermission]
  · obtain ⟨ql, qitem, hql, hqitem, hindex, hkind, -, hitem, hcopied, hlooted, hshared, hcondition, hallowed,
      hslotType, hheld⟩ := mem_conditionalRecords h hconditional
    obtain ⟨copy, hcopy⟩ := copyOf_of_mem hql (h.conditional player ql hql).1 hqitem
    rw [hindex] at hcopy
    have hdecoded := lootItemInSlot_conditional hitem hlooted hshared hcondition hcopy hcopied
    rw [hslot, hfound] at hdecoded
    rw [hkind] at hquest
    rw [htype, shared_allowLoot (hblocked hquest) hlooted hshared hallowed] at hslotType
    rw [(Prod.mk.inj (Option.some.inj hdecoded)).2]
    simp [allowed, hslotType, hheld]

theorem slot_of_quest {copy index : Nat} (hfound : loot.lootItemInSlot slot player = some (item, .quest copy index)) :
    slot = loot.items.length + copy := by
  unfold lootItemInSlot at hfound
  split at hfound
  · rename_i hnone
    have hle := List.getElem?_eq_none_iff.mp hnone
    split at hfound
    · cases hfound
    · split at hfound
      · cases hfound
      · split at hfound
        · cases hfound
        · split_ifs at hfound
          have hcopy := (Found.quest.inj (Prod.mk.inj (Option.some.inj hfound)).2).1
          omega
  · rename_i entry hentry
    by_cases hffa : entry.freeforall
    · rw [if_pos hffa] at hfound
      split at hfound <;> split_ifs at hfound <;> cases (Prod.mk.inj (Option.some.inj hfound)).2
    · rw [if_neg hffa] at hfound
      by_cases hlooted : entry.isLooted
      · rw [if_pos hlooted] at hfound
        cases hfound
      · rw [if_neg hlooted] at hfound
        by_cases hcondition : entry.conditionId ≠ 0
        · rw [if_pos hcondition] at hfound
          split at hfound
          · cases (Prod.mk.inj (Option.some.inj hfound)).2
          · split_ifs at hfound
            cases (Prod.mk.inj (Option.some.inj hfound)).2
        · rw [if_neg hcondition] at hfound
          cases (Prod.mk.inj (Option.some.inj hfound)).2

theorem mem_plainRecords_of (h : Orderly loot) (hitem : loot.items[slot]? = some item) (hlooted : item.isLooted = false)
    (hffa : item.freeforall = false) (hallowed : item.allowedForPlayer view player = true) {slotType : LootSlotType}
    (htype : plainSlotType permission roundRobinPlayer player item = some slotType) :
    { slot := slot, quest := false, index := slot, item := item, slotType := slotType } ∈
      plainRecords view permission roundRobinPlayer player loot := by
  refine mem_filterMap.mpr ⟨(item, slot), mem_zipIdx_iff_getElem?.mpr hitem, ?_⟩
  unfold plainRecord
  rw [if_pos (by simp [hlooted, hffa, hallowed]), htype, h.u8_slot hitem]
  rfl

theorem mem_copyOf {copies : QuestItemMap} {copy : Nat} {qitem : QuestItem}
    (hcopy : copyOf copies player slot = some (copy, qitem)) :
    qitem ∈ (copies.find player).getD [] ∧ qitem.index = slot := by
  obtain ⟨ql, hql, hqitem, hindex, -⟩ := copyOf_some hcopy
  rw [hql]
  exact ⟨mem_of_getElem? hqitem, hindex⟩

theorem shows_of_allowed (h : Orderly loot) (hpermission : permission ≠ .none)
    (hfound : loot.lootItemInSlot slot player = some (item, found))
    (hallowed : item.allowedForPlayer view player = true) (hblocked : isQuest found = false → item.isBlocked = false)
    (hshown : allowed permission roundRobinPlayer player loot item found = true) :
    loot.Shows view permission roundRobinPlayer player slot := by
  rw [shows_iff hpermission]
  have hfinds := finds_of_lootItemInSlot hfound
  unfold records
  -- An entry that the first loop shows.
  have hplain : loot.items[slot]? = some item → item.isLooted = false → item.freeforall = false →
      item.isBlocked = false → allowsPlain permission roundRobinPlayer player item = true →
      ∃ record ∈ plainRecords view permission roundRobinPlayer player loot ++ questRecords roundRobinPlayer player loot ++
        ffaRecords player loot ++ conditionalRecords view permission roundRobinPlayer player loot,
        record.slot = slot ∧ record.slotType = .allowLoot := by
    intro hitem hlooted hffa hfree hplain
    have hmem := mem_plainRecords_of h hitem hlooted hffa hallowed ((plainSlotType_allowLoot hfree).mpr hplain)
    exact ⟨_, mem_append_left _ (mem_append_left _ (mem_append_left _ hmem)), rfl, rfl⟩
  cases found with
  | quest copy index =>
    obtain ⟨ql, qitem, hql, hqitem, rfl, hcopied, hitem, hlooted⟩ := hfinds
    have hheld : heldBack roundRobinPlayer player loot.playerQuestItems item = false := by
      simp only [allowed, Bool.and_eq_true, Bool.not_eq_eq_eq_not, Bool.not_true] at hshown
      exact hshown.2
    have hslot : Word.u8 (loot.items.length + copy) = slot := by
      rw [slot_of_quest hfound]
      exact h.u8_questSlot hql hqitem
    have hrecord : questRecord roundRobinPlayer player loot (qitem, copy) =
        some { slot := slot, quest := true, index := qitem.index, item := item, slotType := .allowLoot } := by
      unfold questRecord
      simp only [hitem, hcopied, hlooted, hheld, hslot, Bool.false_eq_true, or_self, if_false]
    have hentry : (qitem, copy) ∈ ((loot.playerQuestItems.find player).getD []).zipIdx := by
      rw [hql]
      exact mem_zipIdx_iff_getElem?.mpr hqitem
    exact ⟨_, mem_append_left _ (mem_append_left _ (mem_append_right _
      (mem_filterMap.mpr ⟨_, hentry, hrecord⟩))), rfl, rfl⟩
  | ffa copy =>
    obtain ⟨hitem, -, qitem, hcopy, hcopied⟩ := hfinds
    obtain ⟨hqitem, hindex⟩ := mem_copyOf hcopy
    have hlooted : item.isLooted = false := by
      simp only [allowed, Bool.and_eq_true, Bool.not_eq_eq_eq_not, Bool.not_true] at hshown
      exact hshown.2
    have hrecord : loot.ffaRecord qitem =
        some { slot := slot, quest := false, index := slot, item := item, slotType := .allowLoot } := by
      unfold ffaRecord
      simp only [hindex, hitem, hcopied, hlooted, h.u8_slot hitem, Bool.not_false, and_self, if_true]
    exact ⟨_, mem_append_left _ (mem_append_right _ (mem_filterMap.mpr ⟨qitem, hqitem, hrecord⟩)),
      rfl, rfl⟩
  | conditional copy =>
    obtain ⟨hitem, hffa, hlooted⟩ := hfinds
    simp only [allowed, Bool.or_eq_true, Bool.and_eq_true, Bool.not_eq_eq_eq_not, Bool.not_true] at hshown
    rcases hshown with hfirst | ⟨hshared, hheld⟩
    · exact hplain hitem hlooted hffa (hblocked rfl) hfirst
    · obtain ⟨qitem, hcopy, hcopied⟩ := copyOf_of_conditional hfound
      obtain ⟨hqitem, hindex⟩ := mem_copyOf hcopy
      have htype := (shared_allowLoot (hblocked rfl) hlooted hffa hallowed).mpr hshared
      have hrecord : conditionalRecord view permission roundRobinPlayer player loot qitem =
          some { slot := slot, quest := false, index := slot, item := item, slotType := .allowLoot } := by
        unfold conditionalRecord
        simp only [hindex, hitem, hcopied, Bool.not_false, htype, hheld, h.u8_slot hitem, Bool.false_eq_true, if_false]
      exact ⟨_, mem_append_right _ (mem_filterMap.mpr ⟨qitem, hqitem, hrecord⟩), rfl, rfl⟩
  | plain =>
    obtain ⟨hitem, hlooted⟩ := hfinds
    simp only [allowed, Bool.and_eq_true, Bool.not_eq_eq_eq_not, Bool.not_true] at hshown
    exact hplain hitem hlooted hshown.1 (hblocked rfl) hshown.2

end

end Loot

namespace Party

variable {p : Party} {view : View} {target player slot roundRobinPlayer : Nat}

def permission (p : Party) (view : View) (player : Nat) : PermissionTypes :=
  if view.member player then p.lootMethod.permission else .none

def OnlyShown (view : View) (target player slot roundRobinPlayer : Nat) (p : Party) : Prop :=
  ((p.autostore view target player slot).loot target).handed ≠ (p.loot target).handed →
    (p.loot target).Shows view (p.permission view player) roundRobinPlayer player slot

-- The requests for which that is so: what passes the handler's checks is
-- allowed to a member, by the permission of the group's method.
def Allowed (view : View) (target player slot roundRobinPlayer : Nat) (p : Party) : Prop :=
  match (p.loot target).lootItemInSlot slot player with
  | none => True
  | some (item, found) =>
    Loot.takes view (p.targets target).creature (p.usesMaster view player) slot player item found = true →
      view.member player = true ∧
        (p.loot target).allowed p.lootMethod.permission roundRobinPlayer player item found = true

theorem onlyShown_iff (h : (p.loot target).Orderly) :
    OnlyShown view target player slot roundRobinPlayer p ↔ Allowed view target player slot roundRobinPlayer p := by
  have hgives : ((p.autostore view target player slot).loot target).handed ≠ (p.loot target).handed ↔
      (p.loot target).delivers view (p.targets target).creature (p.usesMaster view player) slot player = true := by
    unfold autostore
    rw [loot_setLoot, if_pos rfl]
    exact Loot.handed_autostore
  unfold OnlyShown Allowed
  rw [hgives]
  unfold Loot.delivers
  cases hfound : (p.loot target).lootItemInSlot slot player with
  | none => simp
  | some entry =>
    obtain ⟨item, found⟩ := entry
    refine forall_congr' fun htakes => ?_
    obtain ⟨hallowed, hblocked, -⟩ := Loot.takes_iff htakes
    by_cases hmember : view.member player = true
    · have hgrant : p.permission view player = p.lootMethod.permission := if_pos hmember
      have hpermission : p.lootMethod.permission ≠ .none := by
        cases p.lootMethod <;> exact PermissionTypes.noConfusion
      rw [hgrant]
      exact ⟨fun hshows => ⟨hmember, Loot.allowed_of_shows h hpermission hfound hblocked hshows⟩,
        fun hyes => Loot.shows_of_allowed h hpermission hfound hallowed hblocked hyes.2⟩
    · have hgrant : p.permission view player = .none := if_neg hmember
      rw [hgrant]
      exact ⟨fun hshows => absurd hshows Loot.not_shows_none, fun hyes => absurd hyes.1 hmember⟩

instance : Decidable (Allowed view target player slot roundRobinPlayer p) := by
  unfold Allowed
  split
  · exact inferInstance
  · exact inferInstance

theorem onlyShown_run (hloots : ∀ target, p.loot target = Loot.new) (messages : List Message) (view : View)
    (target player slot roundRobinPlayer : Nat) :
    OnlyShown view target player slot roundRobinPlayer (Run.run Party.receive p messages) ↔
      Allowed view target player slot roundRobinPlayer (Run.run Party.receive p messages) :=
  onlyShown_iff (orderly_run hloots messages target)

theorem onlyShown_run_votes : OnlyShown sampleView 9 2 0 1
    (Run.run Party.receive { sampleParty with lootMethod := .freeForAll } sampleDrop) :=
  (onlyShown_run (fun _ => rfl) sampleDrop sampleView 9 2 0 1).mpr (by decide)

-- Round robin has the body for player 1; player 2, whose window is empty,
-- asks for slot 0 and gets the item.
theorem not_onlyShown_run : ¬∀ (p : Party), (∀ target, p.loot target = Loot.new) → ∀ (messages : List Message)
    (view : View) (target player slot roundRobinPlayer : Nat),
    ((Run.run Party.receive p messages).targets target).creature = true →
    OnlyShown view target player slot roundRobinPlayer (Run.run Party.receive p messages) := by
  intro h
  have hshown := h { sampleParty with lootMethod := .roundRobin } (fun _ => rfl) sampleDrop sampleView 9 2 0 1
    (by decide) (by decide)
  obtain ⟨record, hrecord, -⟩ := hshown
  revert record
  decide

end Party

end TurtleWow.Looting
