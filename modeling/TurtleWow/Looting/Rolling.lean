import TurtleWow.Looting.Handlers
import TurtleWow.Looting.Copies

namespace TurtleWow.Looting

open List Function

-- What the running rolls have to do with the entries they are for: in every
-- run an entry has at most one roll, and while it has one it is blocked.

def LootItem.lock (item : LootItem) : Bool × Bool := (item.freeforall, item.isBlocked)

namespace Loot

variable {loot : Loot} {view : View}

def locks (loot : Loot) : List (Bool × Bool) := loot.items.map LootItem.lock

theorem locks_updateItem (slot : Nat) {f : LootItem → LootItem} (hf : ∀ item, (f item).lock = item.lock) :
    (loot.updateItem slot f).locks = loot.locks := Lists.map_modify_same _ hf loot.items slot

theorem map_setUnderthreshold {α : Type} (key : LootItem → α) (hkey : ∀ item, key item.underthreshold = key item)
    (view : View) (threshold : Nat) (loot : Loot) :
    (loot.setUnderthreshold view threshold).items.map key = loot.items.map key := by
  unfold setUnderthreshold
  rw [map_map]
  refine map_congr_left fun item _ => ?_
  simp only [comp_apply]
  split_ifs
  · exact hkey item
  · rfl

theorem fillMissing_invariant {missing : Bool} {fill : Loot → Loot} (invariant : Loot → Prop)
    (hfill : invariant loot → missing = true → invariant (fill loot)) (h : invariant loot) :
    invariant (fillMissing missing fill loot) := by
  unfold fillMissing
  split_ifs with hmissing
  · exact hfill h hmissing
  · exact h

-- What every fill keeps, filling a loot for a player or for a group keeps.
section

variable (invariant : Loot → Prop)

theorem fillNotNormalLootFor_invariant {player : Nat}
    (hlooters : ∀ loot looters, invariant loot → invariant { loot with allowedLooters := looters })
    (hquest : ∀ loot, invariant loot → loot.playerQuestItems.find player = none →
      invariant (fillQuestLoot view player loot))
    (hffa : ∀ loot, invariant loot → loot.playerFFAItems.find player = none → invariant (fillFFALoot view player loot))
    (hconditional : ∀ loot, invariant loot → invariant (fillNonQuestNonFFAConditionalLoot view player loot))
    (h : invariant loot) : invariant (loot.fillNotNormalLootFor view player) := by
  unfold fillNotNormalLootFor
  split_ifs
  · refine fillMissing_invariant invariant (fun h _ => hconditional _ h) ?_
    refine fillMissing_invariant invariant (fun h hmissing => hffa _ h (Option.isNone_iff_eq_none.mp hmissing)) ?_
    refine fillMissing_invariant invariant (fun h hmissing => hquest _ h (Option.isNone_iff_eq_none.mp hmissing)) ?_
    exact hlooters loot _ h
  · exact h

theorem fillLoot_invariant (hpersonal : ∀ loot, invariant loot → invariant { loot with personal := false })
    (hlooters : ∀ loot looters, invariant loot → invariant { loot with allowedLooters := looters })
    (hfill : ∀ loot player, invariant loot → invariant (loot.fillNotNormalLootFor view player))
    (hthreshold : ∀ loot threshold, invariant loot → invariant (loot.setUnderthreshold view threshold))
    {drops : List LootStoreItem} (h : invariant (drops.foldl (addItem view) cleared)) (owner : Nat)
    (group : Option (List Nat × Nat)) : invariant (fillLoot view drops owner group) := by
  unfold fillLoot
  dsimp only
  split
  · exact hfill _ owner h
  · refine hthreshold _ _ (List.foldlRecOn (motive := invariant) _ _ (hpersonal _ h) fun loot h player _ => ?_)
    exact hfill _ player (hlooters loot _ h)

end

theorem map_fillNotNormalLootFor {α : Type} (key : LootItem → α) (hkey : ∀ item, key item.counted = key item)
    (view : View) (player : Nat) (loot : Loot) :
    (loot.fillNotNormalLootFor view player).items.map key = loot.items.map key := by
  refine fillNotNormalLootFor_invariant (fun after => after.items.map key = loot.items.map key) (fun _ _ h => h)
    (fun after h _ => ?_) (fun after h _ => ?_) (fun after h => ?_) rfl
  · unfold fillQuestLoot
    simp only []
    split_ifs <;> exact h
  · unfold fillFFALoot
    simp only []
    split_ifs <;> exact h
  · unfold fillNonQuestNonFFAConditionalLoot
    simp only []
    split_ifs
    · exact h
    · exact ((copied_conditionalCopies view player 0 after.items).map key fun item _ h => h.1 ▸ hkey item).trans h

theorem locks_markLooted (slot player : Nat) (item : LootItem) (found : Found) :
    (loot.markLooted slot player item found).locks = loot.locks := by
  have hlooted : ∀ after : Loot, after.items = loot.items →
      (after.updateItem slot LootItem.looted).locks = loot.locks := by
    intro after hitems
    have hlocks : after.locks = loot.locks := congrArg (List.map LootItem.lock) hitems
    exact (locks_updateItem slot (f := LootItem.looted) fun _ => rfl).trans hlocks
  cases found with
  | quest copy index => rfl
  | ffa copy => rfl
  | conditional copy => exact hlooted _ rfl
  | plain =>
    unfold markLooted
    split_ifs
    · rfl
    · exact hlooted _ rfl

theorem locks_handOutFound (slot player : Nat) (found : Found) :
    (loot.handOutFound slot player found).locks = loot.locks := by
  cases found <;> rfl

theorem locks_autostore (creature master : Bool) (slot player : Nat) :
    (loot.autostore view creature master slot player).locks = loot.locks := by
  unfold autostore
  split
  · rfl
  · rename_i item found _
    split_ifs
    · rw [locks_handOutFound]
      exact locks_markLooted slot player item found
    · rfl

theorem locks_masterGive (slot receiver : Nat) : (loot.masterGive view slot receiver).locks = loot.locks := by
  unfold masterGive
  split
  · rfl
  · simp only []
    split_ifs
    · exact locks_updateItem slot fun _ => rfl
    · exact locks_updateItem slot fun _ => rfl
    · rfl

end Loot

theorem getElem?_items_updateItem_ne {loot : Loot} {slot other : Nat} (f : LootItem → LootItem) (hne : slot ≠ other) :
    (loot.updateItem slot f).items[other]? = loot.items[other]? :=
   List.getElem?_modify_ne f loot.items hne

namespace Roll

variable {roll : Roll} {view : View} {loot : Loot}

theorem settle_other (other : Nat) (hne : roll.itemSlot ≠ other) :
    (roll.settle view loot).items[other]? = loot.items[other]? := by
  unfold settle
  split
  · unfold Loot.award
    split
    · rfl
    · simp only []
      split_ifs
      · exact getElem?_items_updateItem_ne _ hne
      · exact getElem?_items_updateItem_ne _ hne
      · exact getElem?_items_updateItem_ne _ hne
      · exact getElem?_items_updateItem_ne _ hne
      · rfl
  · exact getElem?_items_updateItem_ne _ hne
  · rfl

def place (roll : Roll) : Option (Nat × Nat) :=
  if roll.valid then some (roll.lootedTarget, roll.itemSlot) else none

theorem place_register (roll : Roll) (player : Nat) (vote : RollVote) : (roll.register player vote).place = roll.place := by
  cases vote <;> rfl

theorem place_removeVoter (roll : Roll) (player : Nat) : (roll.removeVoter player).place = roll.place := by
  unfold removeVoter
  split <;> rfl

theorem place_of_valid (roll : Roll) (h : roll.valid = true) :
    roll.place = some (roll.lootedTarget, roll.itemSlot) := if_pos h

end Roll

namespace Party

variable {p : Party} {view : View}

def places (p : Party) : List (Nat × Nat) := p.rolls.filterMap Roll.place

theorem loot_setLoot (p : Party) (target : Nat) (loot : Loot) (other : Nat) :
    (p.setLoot target loot).loot other = if other = target then loot else p.loot other := by
  unfold setLoot setTarget Party.loot
  simp only [update_apply]
  split_ifs <;> rfl

theorem lootForBody_setLoot (p : Party) (target : Nat) (loot : Loot) (other : Nat) :
    ((p.setLoot target loot).targets other).lootForBody = (p.targets other).lootForBody := by
  unfold setLoot setTarget
  simp only [update_apply]
  split_ifs with heq
  · rw [heq]
  · rfl

structure Rolled (p : Party) : Prop where
  opened : ∀ place ∈ p.places, (p.targets place.1).lootForBody = true
  locked : ∀ place ∈ p.places, (p.loot place.1).locks[place.2]? = some (false, true)
  distinct : p.places.Nodup

theorem Rolled.of_sublist (h : Rolled p) {q : Party} (hplaces : q.places.Sublist p.places)
    (hopened : ∀ place ∈ q.places, (q.targets place.1).lootForBody = (p.targets place.1).lootForBody)
    (hlocks : ∀ place ∈ q.places, (q.loot place.1).locks[place.2]? = (p.loot place.1).locks[place.2]?) :
    Rolled q := by
  refine ⟨fun place hplace => ?_, fun place hplace => ?_, h.distinct.sublist hplaces⟩
  · rw [hopened place hplace]
    exact h.opened place (hplaces.subset hplace)
  · rw [hlocks place hplace]
    exact h.locked place (hplaces.subset hplace)

theorem Rolled.setLoot (h : Rolled p) {target : Nat} {loot : Loot} (hlocks : loot.locks = (p.loot target).locks) :
    Rolled (p.setLoot target loot) := by
  refine h.of_sublist (List.Sublist.refl _) (fun place _ => lootForBody_setLoot p target loot place.1) ?_
  intro place _
  rw [loot_setLoot]
  split_ifs with heq
  · rw [hlocks, heq]
  · rfl

theorem Rolled.startLootRoll (h : Rolled p) {members : List Nat} {target slot : Nat} {method : LootMethod}
    {item : LootItem} (hitem : (p.loot target).items[slot]? = some item) (hffa : item.freeforall = false)
    (hopened : (p.targets target).lootForBody = true) (hfresh : (target, slot) ∉ p.places) :
    Rolled (p.startLootRoll view members target method slot) := by
  unfold Party.startLootRoll
  rw [hitem]
  simp only []
  by_cases hvoters : 0 < Word.u8 (p.voters view members target method item).length
  · rw [if_pos hvoters]
    have hblocked : ((p.loot target).updateItem slot LootItem.blocked).locks[slot]? = some (false, true) := by
      unfold Loot.locks Loot.updateItem
      rw [List.getElem?_map, List.getElem?_modify_eq, hitem]
      simp [LootItem.lock, LootItem.blocked, hffa]
    have hplaces : ∀ q : Party, q.rolls = p.rolls ++ [.start target slot item.itemid
        (p.voters view members target method item)] → q.places = p.places ++ [(target, slot)] := by
      intro q hq
      rw [places, hq, filterMap_append]
      rfl
    have hnew := hplaces { p.setLoot target ((p.loot target).updateItem slot LootItem.blocked) with
      rolls := p.rolls ++ [.start target slot item.itemid (p.voters view members target method item)] } rfl
    refine ⟨fun place hplace => ?_, fun place hplace => ?_, ?_⟩
    · refine (lootForBody_setLoot p target _ place.1).trans ?_
      rw [hnew] at hplace
      rcases mem_append.mp hplace with hold | hnew
      · exact h.opened place hold
      · rw [mem_singleton.mp hnew]
        exact hopened
    · show ((p.setLoot target ((p.loot target).updateItem slot LootItem.blocked)).loot place.1).locks[place.2]? = _
      rw [loot_setLoot]
      rw [hnew] at hplace
      rcases mem_append.mp hplace with hold | hnew
      · split_ifs with heq
        · have hne : slot ≠ place.2 := fun hslot => hfresh (by rw [hslot, ← heq]; exact hold)
          rw [← h.locked place hold, heq]
          unfold Loot.locks
          rw [List.getElem?_map, List.getElem?_map, getElem?_items_updateItem_ne _ hne]
        · exact h.locked place hold
      · rw [mem_singleton.mp hnew, if_pos rfl]
        exact hblocked
    · rw [hnew]
      exact Lists.nodup_concat h.distinct hfresh
  · rw [if_neg hvoters]
    exact h

theorem places_startLootRoll {members : List Nat} {target slot : Nat} {method : LootMethod} {place : Nat × Nat}
    (h : place ∈ (p.startLootRoll view members target method slot).places) :
    place ∈ p.places ∨ place = (target, slot) := by
  unfold Party.startLootRoll at h
  split at h
  · exact .inl h
  · split_ifs at h
    · rw [places, filterMap_append] at h
      rcases mem_append.mp h with hold | hnew
      · exact .inl hold
      · exact .inr (mem_singleton.mp hnew)
    · exact .inl h

theorem lootForBody_startLootRoll (members : List Nat) (target slot : Nat) (method : LootMethod) (other : Nat) :
    ((p.startLootRoll view members target method slot).targets other).lootForBody =
      (p.targets other).lootForBody := by
  unfold Party.startLootRoll
  split
  · rfl
  · split_ifs
    · exact lootForBody_setLoot p target _ other
    · rfl

theorem Rolled.groupLoot (h : Rolled p) (members : List Nat) {target : Nat} (method : LootMethod)
    (hopened : (p.targets target).lootForBody = true) (hfresh : ∀ place ∈ p.places, place.1 ≠ target) :
    Rolled (p.groupLoot view members target method) := by
  refine (groupLoot_invariant (fun slot q => Rolled q ∧ (q.targets target).lootForBody = true ∧
    ∀ place ∈ q.places, place.1 = target → place.2 < slot) ?_ ?_ ?_ ?_).1
  · exact fun q slot ⟨hq, ho, hlt⟩ => ⟨hq, ho, fun place hplace heq => Nat.lt_succ_of_lt (hlt place hplace heq)⟩
  · intro q slot item hitem hffa _ ⟨hq, ho, hlt⟩
    have hnew : (target, slot) ∉ q.places := fun hmem => Nat.lt_irrefl slot (hlt _ hmem rfl)
    refine ⟨hq.startLootRoll hitem hffa ho hnew, (lootForBody_startLootRoll members target slot method target).trans ho, ?_⟩
    intro place hplace heq
    rcases places_startLootRoll hplace with hold | rfl
    · exact Nat.lt_succ_of_lt (hlt place hold heq)
    · exact Nat.lt_succ_self slot
  · intro q slot ⟨hq, ho, hlt⟩
    refine ⟨hq.setLoot (Loot.locks_updateItem slot fun _ => rfl), (lootForBody_setLoot q target _ target).trans ho, ?_⟩
    exact fun place hplace heq => Nat.lt_succ_of_lt (hlt place hplace heq)
  · exact ⟨h, hopened, fun place hplace heq => absurd heq (hfresh place hplace)⟩

theorem fresh_of_unopened (h : Rolled p) {target : Nat} (hclosed : (p.targets target).lootForBody = false) :
    ∀ place ∈ p.places, place.1 ≠ target := by
  intro place hplace heq
  have hbody := h.opened place hplace
  rw [heq, hclosed] at hbody
  cases hbody

theorem loot_setOpened (p : Party) (target other : Nat) : (p.setOpened target).loot other = p.loot other := by
  unfold setOpened setTarget Party.loot
  simp only [update_apply]
  split_ifs with heq
  · rw [heq]
  · rfl

theorem lootForBody_setOpened (p : Party) (target : Nat) : ((p.setOpened target).targets target).lootForBody = true := by
  unfold setOpened setTarget
  simp only [update_self]

theorem Rolled.setOpened (h : Rolled p) (target : Nat) : Rolled (p.setOpened target) := by
  refine ⟨fun place hplace => ?_, fun place hplace => ?_, h.distinct⟩
  · unfold Party.setOpened setTarget
    simp only [update_apply]
    split_ifs
    · rfl
    · exact h.opened place hplace
  · rw [loot_setOpened]
    exact h.locked place hplace

theorem Rolled.openBody (h : Rolled p) (members : List Nat) {target : Nat}
    (hclosed : (p.targets target).lootForBody = false) : Rolled (p.openBody view members target) := by
  have hset := h.setOpened target
  unfold Party.openBody
  split_ifs
  · exact hset.groupLoot members p.lootMethod (lootForBody_setOpened p target) (fresh_of_unopened h hclosed)
  · exact hset

theorem Rolled.openLoot (h : Rolled p) (members : List Nat) (target player : Nat) :
    Rolled (p.openLoot view members target player) := by
  unfold Party.openLoot
  have hopened : Rolled (if (p.targets target).lootForBody then p else p.openBody view members target) := by
    split_ifs with hbody
    · exact h
    · exact h.openBody members (by simpa using hbody)
  simp only []
  generalize (if (p.targets target).lootForBody then p else p.openBody view members target) = opened at hopened
  split_ifs
  · exact hopened.setLoot (Loot.map_setUnderthreshold LootItem.lock (fun _ => rfl) view _ _)
  · exact hopened
  · exact h.setLoot (Loot.map_fillNotNormalLootFor LootItem.lock (fun _ => rfl) view player _)

theorem places_countTheRoll (p : Party) (view : View) (timeout : Bool) (i : Nat) :
    (p.countTheRoll view timeout i).places = (p.rolls.eraseIdx i).filterMap Roll.place := by
  rw [places, rolls_countTheRoll]

theorem countTheRoll_entry (h : Rolled p) {timeout : Bool} {i : Nat} {place : Nat × Nat}
    (hplace : place ∈ (p.countTheRoll view timeout i).places) :
    ((p.countTheRoll view timeout i).loot place.1).items[place.2]? = (p.loot place.1).items[place.2]? := by
  rw [places_countTheRoll] at hplace
  unfold Party.countTheRoll
  split
  · rfl
  · rename_i roll hroll
    by_cases hvalid : roll.valid
    · rw [if_pos hvalid]
      have hgone := Lists.notMem_filterMap_eraseIdx h.distinct hroll (roll.place_of_valid hvalid)
      show ((p.setLoot roll.lootedTarget (roll.settle view (p.loot roll.lootedTarget))).loot place.1).items[place.2]? = _
      rw [loot_setLoot]
      split_ifs with heq
      · rw [Roll.settle_other place.2, heq]
        intro hslot
        exact hgone (by rw [← heq, hslot]; exact hplace)
      · rfl
    · rw [if_neg hvalid]
      rfl

theorem lootForBody_countTheRoll (timeout : Bool) (i other : Nat) :
    ((p.countTheRoll view timeout i).targets other).lootForBody = (p.targets other).lootForBody := by
  unfold Party.countTheRoll
  split
  · rfl
  · split_ifs
    · exact lootForBody_setLoot p _ _ other
    · rfl

theorem Rolled.countTheRoll (h : Rolled p) (timeout : Bool) (i : Nat) : Rolled (p.countTheRoll view timeout i) := by
  refine h.of_sublist ?_ (fun place _ => lootForBody_countTheRoll timeout i place.1) (fun place hplace => ?_)
  · rw [places_countTheRoll]
    exact (eraseIdx_sublist p.rolls i).filterMap _
  · unfold Loot.locks
    rw [List.getElem?_map, List.getElem?_map, countTheRoll_entry h hplace]

theorem Rolled.endRoll (h : Rolled p) (target fuel : Nat) : Rolled (Party.endRoll view target fuel p) := by
  induction fuel generalizing p with
  | zero => exact h
  | succ fuel ih =>
    unfold Party.endRoll
    split
    · exact h
    · exact ih (h.countTheRoll true _)

theorem Rolled.disband (h : Rolled p) (fuel : Nat) : Rolled (Party.disband view fuel p) := by
  induction fuel generalizing p with
  | zero => exact h
  | succ fuel ih => exact ih (h.countTheRoll false 0)

theorem places_of_map {q : Party} (h : q.rolls.map Roll.place = p.rolls.map Roll.place) : q.places = p.places := by
  have hfilter := congrArg (List.filterMap id) h
  rw [filterMap_map, filterMap_map] at hfilter
  exact hfilter

theorem places_voted {i : Nat} {roll : Roll} (hroll : p.rolls[i]? = some roll) (player : Nat) (vote : RollVote) :
    ({ p with rolls := p.rolls.set i (roll.register player vote) } : Party).places = p.places :=
  places_of_map (Lists.map_set_same Roll.place hroll (roll.place_register player vote))

theorem places_removeRolls (guid : Nat) : (p.removeRolls guid).places = p.places := by
  refine places_of_map ?_
  rw [removeRolls, map_map]
  exact map_congr_left fun roll _ => roll.place_removeVoter guid

theorem places_clearLoot (target : Nat) (t : Target) :
    (p.clearLoot target t).places = p.places.filter fun place => place.1 ≠ target := by
  unfold places clearLoot
  simp only []
  induction p.rolls with
  | nil => rfl
  | cons roll rest ih =>
    rw [map_cons]
    by_cases hvalid : roll.valid
    · by_cases htarget : roll.lootedTarget = target
      · have hplace : Roll.place { roll with valid := false } = none := rfl
        rw [if_pos htarget, filterMap_cons_none hplace, ih,
          filterMap_cons_some (roll.place_of_valid hvalid), filter_cons_of_neg (by simpa using htarget)]
      · rw [if_neg htarget, filterMap_cons_some (roll.place_of_valid hvalid), ih,
          filterMap_cons_some (roll.place_of_valid hvalid), filter_cons_of_pos (by simpa using htarget)]
    · have hplace : roll.place = none := if_neg hvalid
      have hcut : (if roll.lootedTarget = target then { roll with valid := false } else roll).place = none := by
        split_ifs
        · rfl
        · exact hplace
      rw [filterMap_cons_none hcut, filterMap_cons_none hplace]
      exact ih

theorem Rolled.of_places (h : Rolled p) {q : Party} (hplaces : q.places = p.places) (htargets : q.targets = p.targets) :
    Rolled q := by
  refine h.of_sublist (hplaces ▸ List.Sublist.refl _) (fun place _ => by rw [htargets]) (fun place _ => ?_)
  rw [Party.loot, Party.loot, htargets]

theorem Rolled.countRollVote (h : Rolled p) (target slot player rollType : Nat) :
    Rolled (p.countRollVote view target slot player rollType) := by
  unfold Party.countRollVote
  split
  · rename_i vote i roll _ hroll
    have hvoted : Rolled { p with rolls := p.rolls.set i (roll.register player vote) } :=
      h.of_places (places_voted (votedRoll_some hroll) player vote) rfl
    by_cases hfull : (roll.register player vote).full
    · simp only [hfull, if_true]
      exact hvoted.countTheRoll false i
    · simp only [hfull]
      exact hvoted
  · exact h

theorem Rolled.clearLoot (h : Rolled p) (target : Nat) (t : Target) : Rolled (p.clearLoot target t) := by
  have hother : ∀ place ∈ (p.clearLoot target t).places, (p.clearLoot target t).targets place.1 = p.targets place.1 := by
    intro place hplace
    rw [places_clearLoot] at hplace
    have hne : place.1 ≠ target := by simpa using (mem_filter.mp hplace).2
    exact update_of_ne hne _ _
  refine h.of_sublist ?_ (fun place hplace => ?_) (fun place hplace => ?_)
  · rw [places_clearLoot]
    exact filter_sublist
  · rw [hother place hplace]
  · rw [Party.loot, hother place hplace, Party.loot]

theorem Rolled.receive (h : Rolled p) (m : Message) : Rolled (p.receive m) := by
  unfold Party.receive
  split
  · exact h.clearLoot _ _
  · exact h.openLoot _ _ _
  · exact h.setLoot (Loot.locks_autostore _ _ _ _)
  · unfold Party.masterGive
    split_ifs
    · exact h.setLoot (Loot.locks_masterGive _ _)
    · exact h
  · exact h.countRollVote _ _ _ _
  · exact h.endRoll _ _
  · exact h.of_places (places_removeRolls _) rfl
  · exact h.disband _
  · exact h.of_places rfl rfl
  · exact h.setLoot rfl
  · exact h.clearLoot _ _

theorem rolled_of_empty (h : p.rolls = []) : Rolled p := by
  have hplaces : p.places = [] := by
    rw [places, h]
    rfl
  refine ⟨?_, ?_, ?_⟩ <;> simp [hplaces]

theorem rolled_run (messages : List Message) (h : p.rolls = []) : Rolled (Run.run Party.receive p messages) :=
  Run.run_invariant Party.receive (fun _ _ => True) Rolled (fun _ m hrolled _ => hrolled.receive m)
    (rolled_of_empty h) (Run.guarded_of_forall _ _ (fun _ _ => trivial) _ _)

end Party

end TurtleWow.Looting
