import TurtleWow.Looting.Once
import TurtleWow.Looting.Tallies

namespace TurtleWow.Looting

-- A party whose loots are all handed out at most once, over whole runs.

namespace Loot

-- What goes wrong in a delivery: an entry that is free for all is taken
-- without a copy to mark, or the master gives what is gone already.

def takesUncopied (view : View) (creature master : Bool) (slot player : Nat) (loot : Loot) : Bool :=
  match loot.lootItemInSlot slot player with
  | some (item, .plain) => item.freeforall && takes view creature master slot player item .plain
  | _ => false

def givesAgain (view : View) (slot receiver : Nat) (loot : Loot) : Bool :=
  match loot.items[slot]? with
  | none => false
  | some item =>
    loot.isAllowedLooter receiver false && view.canStore slot receiver && item.count ≠ 0 &&
      (item.isLooted || (item.freeforall && loot.tookFFA receiver slot))

variable {loot : Loot} {view : View}

theorem autostore_blocked {creature master : Bool} {slot player other : Nat} {item : LootItem}
    (hitem : loot.items[other]? = some item) (hblocked : item.isBlocked = true) :
    (loot.autostore view creature master slot player).items[other]? = some item := by
  unfold autostore
  split
  · exact hitem
  · rename_i entry found hfound
    have hfinds := finds_of_lootItemInSlot hfound
    have hne : isQuest found = false → takes view creature master slot player entry found = true →
        loot.items[slot]? = some entry → slot ≠ other := by
      rintro hquest htakes hentry rfl
      rw [hitem] at hentry
      cases hentry
      simp [takes, hquest, hblocked] at htakes
    split_ifs with htakes
    · cases found with
      | quest copy index => exact hitem
      | ffa copy => exact hitem
      | conditional copy =>
        refine (getElem?_items_updateItem_ne LootItem.looted (hne rfl htakes hfinds.1)).trans ?_
        exact hitem
      | plain =>
        unfold markLooted
        split_ifs
        · exact hitem
        · exact (getElem?_items_updateItem_ne LootItem.looted (hne rfl htakes hfinds.1)).trans hitem
    · exact hitem

theorem updateItem_entry {slot other : Nat} {f : LootItem → LootItem} {item : LootItem}
    (hitem : (loot.updateItem slot f).items[other]? = some item) :
    loot.items[other]? = some item ∨ ∃ old, loot.items[other]? = some old ∧ item = f old := by
  unfold updateItem at hitem
  by_cases heq : slot = other
  · rw [heq, List.getElem?_modify_eq] at hitem
    obtain ⟨old, hold, rfl⟩ := Option.map_eq_some_iff.mp hitem
    exact .inr ⟨old, hold, rfl⟩
  · rw [List.getElem?_modify_ne f loot.items heq] at hitem
    exact .inl hitem

theorem masterGive_entry {slot receiver other : Nat} {item : LootItem}
    (hitem : (loot.masterGive view slot receiver).items[other]? = some item) :
    loot.items[other]? = some item ∨ item.count = 0 := by
  have hgiven : (loot.updateItem slot LootItem.givenAway).items[other]? = some item →
      loot.items[other]? = some item ∨ item.count = 0 := by
    intro h
    rcases updateItem_entry h with hold | ⟨old, -, rfl⟩
    · exact .inl hold
    · exact .inr rfl
  unfold masterGive at hitem
  split at hitem
  · exact .inl hitem
  · simp only [] at hitem
    split_ifs at hitem
    · exact hgiven hitem
    · exact hgiven hitem
    · exact .inl hitem

end Loot

namespace Party

variable {p : Party} {view : View}

structure Fair (p : Party) : Prop extends Rolled p where
  marked : ∀ target, (p.loot target).Marked
  spent : ∀ place ∈ p.places, ∀ item, (p.loot place.1).items[place.2]? = some item → item.isLooted = true →
    item.count = 0

theorem Rolled.entry (h : Rolled p) {place : Nat × Nat} (hplace : place ∈ p.places) :
    ∃ item, (p.loot place.1).items[place.2]? = some item ∧ item.freeforall = false ∧ item.isBlocked = true := by
  have hlock := h.locked place hplace
  unfold Loot.locks at hlock
  rw [List.getElem?_map] at hlock
  obtain ⟨item, hitem, heq⟩ := Option.map_eq_some_iff.mp hlock
  exact ⟨item, hitem, (Prod.mk.inj heq).1, (Prod.mk.inj heq).2⟩

variable {target : Nat}

section

variable (h : Fair p)

include h

theorem Fair.setLoot {loot : Loot} (hlocks : loot.locks = (p.loot target).locks)
    (hmarked : loot.Marked) (hspent : ∀ place ∈ p.places, place.1 = target → ∀ item, loot.items[place.2]? = some item →
      item.isLooted = true → item.count = 0) : Fair (p.setLoot target loot) := by
  refine ⟨h.toRolled.setLoot hlocks, fun other => ?_, fun place hplace => ?_⟩
  · rw [loot_setLoot]
    split_ifs
    · exact hmarked
    · exact h.marked other
  · rw [loot_setLoot]
    split_ifs with heq
    · exact hspent place hplace heq
    · exact h.spent place hplace

theorem Fair.setLoot_marks {loot : Loot} (hlocks : loot.locks = (p.loot target).locks)
    (hmarked : loot.Marked) (hmarks : loot.items.map Loot.mark = (p.loot target).items.map Loot.mark) :
    Fair (p.setLoot target loot) := by
  refine h.setLoot hlocks hmarked fun place hplace heq item hitem hlooted => ?_
  obtain ⟨old, hold, hmark⟩ := Loot.exists_of_marks hmarks hitem
  obtain ⟨-, hrest⟩ := Prod.mk.inj hmark
  obtain ⟨hl, hc⟩ := Prod.mk.inj hrest
  rw [← hc]
  exact h.spent place hplace old (heq ▸ hold) (hl ▸ hlooted)

theorem Fair.autostore {player slot : Nat}
    (hcopied : (p.loot target).takesUncopied view (p.targets target).creature (p.usesMaster view player) slot player =
      false) : Fair (p.autostore view target player slot) := by
  refine h.setLoot (Loot.locks_autostore _ _ _ _) ((h.marked target).autostore fun item hfound htakes => ?_) ?_
  · unfold Loot.takesUncopied at hcopied
    rw [hfound] at hcopied
    simpa [htakes] using hcopied
  · intro place hplace heq item hitem
    obtain ⟨old, hold, -, hblocked⟩ := h.toRolled.entry hplace
    rw [heq] at hold
    rw [Loot.autostore_blocked hold hblocked] at hitem
    obtain rfl := Option.some.inj hitem
    exact h.spent place hplace old (heq ▸ hold)

theorem Fair.masterGive {player slot receiver : Nat}
    (honce : p.lootMethod = .masterLoot ∧ p.looterGuid = player ∧ view.inWorld receiver = true →
      (p.loot target).givesAgain view slot receiver = false) :
    Fair (p.masterGive view target player slot receiver) := by
  unfold Party.masterGive
  split_ifs with hmaster
  · have honce := honce hmaster
    refine h.setLoot (Loot.locks_masterGive _ _) ((h.marked target).masterGive fun item hitem hallowed hstore hcount => ?_) ?_
    · simp only [Loot.givesAgain, hitem, hallowed, hstore, hcount, ne_eq, not_false_eq_true, decide_true, Bool.and_self,
        Bool.true_and, Bool.or_eq_false_iff, Bool.and_eq_false_imp] at honce
      exact honce
    · intro place hplace heq item hitem hlooted
      rcases Loot.masterGive_entry hitem with hold | hzero
      · exact h.spent place hplace item (heq ▸ hold) hlooted
      · exact hzero
  · exact h

theorem Fair.countTheRoll (timeout : Bool) (i : Nat) : Fair (p.countTheRoll view timeout i) := by
  refine ⟨h.toRolled.countTheRoll timeout i, fun target => ?_, fun place hplace item hitem => ?_⟩
  · unfold Party.countTheRoll
    split
    · exact h.marked target
    · rename_i roll hroll
      by_cases hvalid : roll.valid
      · rw [if_pos hvalid]
        show ((p.setLoot roll.lootedTarget (roll.settle view (p.loot roll.lootedTarget))).loot target).Marked
        rw [loot_setLoot]
        split_ifs
        · have hplace : (roll.lootedTarget, roll.itemSlot) ∈ p.places :=
            List.mem_filterMap.mpr ⟨roll, List.mem_of_getElem? hroll, roll.place_of_valid hvalid⟩
          unfold Roll.settle
          split
          · refine (h.marked _).award fun item hitem => ?_
            obtain ⟨old, hold, hffa, -⟩ := h.toRolled.entry hplace
            rw [hitem] at hold
            cases hold
            exact ⟨hffa, h.spent _ hplace item hitem⟩
          · exact (h.marked _).follows (Loot.follows_updateItem _ _ (f := LootItem.unblocked) fun _ => ⟨rfl, id, id⟩)
          · exact h.marked _
        · exact h.marked target
      · rw [if_neg hvalid]
        exact h.marked target
  · rw [countTheRoll_entry h.toRolled hplace] at hitem
    rw [places_countTheRoll] at hplace
    exact h.spent place (((List.eraseIdx_sublist p.rolls i).filterMap _).subset hplace) item hitem

theorem Fair.endRoll (target fuel : Nat) : Fair (Party.endRoll view target fuel p) := by
  induction fuel generalizing p with
  | zero => exact h
  | succ fuel ih =>
    unfold Party.endRoll
    split
    · exact h
    · exact ih (h.countTheRoll true _)

theorem Fair.disband (fuel : Nat) : Fair (Party.disband view fuel p) := by
  induction fuel generalizing p with
  | zero => exact h
  | succ fuel ih => exact ih (h.countTheRoll false 0)

theorem Fair.of_places {q : Party} (hplaces : q.places = p.places) (htargets : q.targets = p.targets) :
    Fair q := by
  have hloot : ∀ target, q.loot target = p.loot target := fun target => by rw [Party.loot, Party.loot, htargets]
  refine ⟨h.toRolled.of_places hplaces htargets, fun target => hloot target ▸ h.marked target, fun place hplace => ?_⟩
  rw [hloot]
  exact h.spent place (hplaces ▸ hplace)

theorem Fair.countRollVote (target slot player rollType : Nat) :
    Fair (p.countRollVote view target slot player rollType) := by
  unfold Party.countRollVote
  split
  · rename_i vote i roll _ hroll
    have hvoted : Fair { p with rolls := p.rolls.set i (roll.register player vote) } :=
      h.of_places (places_voted (votedRoll_some hroll) player vote) rfl
    by_cases hfull : (roll.register player vote).full
    · simp only [hfull, if_true]
      exact hvoted.countTheRoll false i
    · simp only [hfull]
      exact hvoted
  · exact h

theorem Fair.clearLoot (target : Nat) (t : Target) (ht : t.loot.Marked) : Fair (p.clearLoot target t) := by
  have htarget : ∀ other, (p.clearLoot target t).loot other = if other = target then t.loot else p.loot other := by
    intro other
    unfold Party.clearLoot setTarget Party.loot
    simp only [Function.update_apply]
    split_ifs <;> rfl
  refine ⟨h.toRolled.clearLoot target t, fun other => ?_, fun place hplace item hitem => ?_⟩
  · rw [htarget]
    split_ifs
    · exact ht
    · exact h.marked other
  · rw [places_clearLoot] at hplace
    obtain ⟨hold, hne⟩ := List.mem_filter.mp hplace
    rw [htarget, if_neg (by simpa using hne)] at hitem
    exact h.spent place hold item hitem

end

def putsUp (p : Party) (view : View) (members : List Nat) (target : Nat) (method : LootMethod) (item : LootItem) : Bool :=
  !item.freeforall &&
    (match view.quality item.itemid with
      | none => false
      | some quality => p.lootThreshold ≤ quality) &&
    0 < Word.u8 (p.voters view members target method item).length

theorem loot_startLootRoll (p : Party) (view : View) (members : List Nat) (target slot : Nat) (method : LootMethod)
    (other : Nat) :
    (p.startLootRoll view members target method slot).loot other = p.loot other ∨
      other = target ∧ (p.startLootRoll view members target method slot).loot other =
        (p.loot target).updateItem slot LootItem.blocked := by
  unfold Party.startLootRoll
  split
  · exact .inl rfl
  · split_ifs
    · show (p.setLoot target _).loot other = _ ∨ _ ∧ (p.setLoot target _).loot other = _
      rw [loot_setLoot]
      split_ifs with heq
      · exact .inr ⟨heq, rfl⟩
      · exact .inl rfl
    · exact .inl rfl

theorem startLootRoll_of_no_voters {members : List Nat} {slot : Nat} {method : LootMethod} {item : LootItem}
    (hitem : (p.loot target).items[slot]? = some item)
    (hnone : ¬0 < Word.u8 (p.voters view members target method item).length) :
    p.startLootRoll view members target method slot = p := by
  unfold Party.startLootRoll
  rw [hitem]
  exact if_neg hnone

theorem Fair.startLootRoll (h : Fair p) {members : List Nat} {slot : Nat} {method : LootMethod}
    {item : LootItem} (hitem : (p.loot target).items[slot]? = some item) (hffa : item.freeforall = false)
    (hopened : (p.targets target).lootForBody = true) (hfresh : (target, slot) ∉ p.places)
    (hspent : item.isLooted = true → item.count = 0) :
    Fair (p.startLootRoll view members target method slot) := by
  refine ⟨h.toRolled.startLootRoll hitem hffa hopened hfresh, fun other => ?_, fun place hplace entry hentry hlooted => ?_⟩
  · rcases loot_startLootRoll p view members target slot method other with heq | ⟨-, heq⟩
    · rw [heq]
      exact h.marked other
    · rw [heq]
      exact (h.marked target).follows (Loot.follows_updateItem _ _ (f := LootItem.blocked) fun _ => ⟨rfl, id, id⟩)
  · have hold : ∃ old, (p.loot place.1).items[place.2]? = some old ∧ Loot.mark old = Loot.mark entry := by
      rcases loot_startLootRoll p view members target slot method place.1 with heq | ⟨htarget, heq⟩
      · rw [heq] at hentry
        exact ⟨entry, hentry, rfl⟩
      · rw [heq] at hentry
        refine Loot.exists_of_marks ?_ hentry
        rw [htarget]
        exact Lists.map_modify_same Loot.mark (g := LootItem.blocked) (fun _ => rfl) _ _
    obtain ⟨old, hold, hmark⟩ := hold
    obtain ⟨-, hrest⟩ := Prod.mk.inj hmark
    obtain ⟨hl, hc⟩ := Prod.mk.inj hrest
    rw [← hc]
    rw [← hl] at hlooted
    rcases places_startLootRoll hplace with hin | rfl
    · exact h.spent place hin old hold hlooted
    · rw [hitem] at hold
      cases hold
      exact hspent hlooted

theorem voters_congr {q : Party} (hlooters : (q.loot target).allowedLooters = (p.loot target).allowedLooters)
    (members : List Nat) (method : LootMethod) (item : LootItem) :
    q.voters view members target method item = p.voters view members target method item := by
  have hrolls : ∀ player, q.rollsFor view target method item player = p.rollsFor view target method item player := by
    intro player
    unfold rollsFor Loot.isAllowedLooter
    rw [hlooters]
    simp
  unfold voters
  rw [funext hrolls]

theorem Fair.groupLoot (h : Fair p) (members : List Nat) (method : LootMethod)
    (hopened : (p.targets target).lootForBody = true) (hfresh : ∀ place ∈ p.places, place.1 ≠ target)
    (hunlooted : ∀ item ∈ (p.loot target).items, p.putsUp view members target method item = true →
      item.isLooted = true → item.count = 0) : Fair (p.groupLoot view members target method) := by
  refine (groupLoot_invariant (fun slot q => Fair q ∧ (q.targets target).lootForBody = true ∧
    (∀ place ∈ q.places, place.1 = target → place.2 < slot) ∧
    (q.loot target).allowedLooters = (p.loot target).allowedLooters ∧ q.lootThreshold = p.lootThreshold ∧
    ∀ i, slot ≤ i → (q.loot target).items[i]? = (p.loot target).items[i]?) ?_ ?_ ?_ ?_).1
  · rintro q slot ⟨hq, ho, hlt, hlooters, hthreshold, hlater⟩
    exact ⟨hq, ho, fun place hplace heq => Nat.lt_succ_of_lt (hlt place hplace heq), hlooters, hthreshold,
      fun i hi => hlater i (Nat.le_of_succ_le hi)⟩
  · rintro q slot item hitem hffa ⟨quality, hquality, hle⟩ ⟨hq, ho, hlt, hlooters, hthreshold, hlater⟩
    have hlater' : ∀ i, slot + 1 ≤ i → (q.loot target).items[i]? = (p.loot target).items[i]? :=
      fun i hi => hlater i (Nat.le_of_succ_le hi)
    by_cases hvoters : 0 < Word.u8 (q.voters view members target method item).length
    · have hnew : (target, slot) ∉ q.places := fun hmem => Nat.lt_irrefl slot (hlt _ hmem rfl)
      have hspent : item.isLooted = true → item.count = 0 := by
        refine hunlooted item ?_ ?_
        · rw [hlater slot (Nat.le_refl slot)] at hitem
          exact List.mem_of_getElem? hitem
        · rw [voters_congr hlooters] at hvoters
          rw [hthreshold] at hle
          simp [putsUp, hffa, hquality, hle, hvoters]
      have hplaces : ∀ place ∈ (q.startLootRoll view members target method slot).places, place.1 = target →
          place.2 < slot + 1 := by
        intro place hplace heq
        rcases places_startLootRoll hplace with hold | rfl
        · exact Nat.lt_succ_of_lt (hlt place hold heq)
        · exact Nat.lt_succ_self slot
      have hloot := loot_startLootRoll q view members target slot method target
      refine ⟨hq.startLootRoll hitem hffa ho hnew hspent,
        (lootForBody_startLootRoll members target slot method target).trans ho, hplaces, ?_, ?_, ?_⟩
      · rcases hloot with heq | ⟨-, heq⟩
        · rw [heq]
          exact hlooters
        · rw [heq]
          exact hlooters
      · refine Eq.trans ?_ hthreshold
        unfold Party.startLootRoll
        rw [hitem]
        simp only []
        rw [if_pos hvoters]
        rfl
      · intro i hi
        rcases hloot with heq | ⟨-, heq⟩
        · rw [heq]
          exact hlater' i hi
        · rw [heq, getElem?_items_updateItem_ne _ (Nat.ne_of_lt hi)]
          exact hlater' i hi
    · rw [startLootRoll_of_no_voters hitem hvoters]
      exact ⟨hq, ho, fun place hplace heq => Nat.lt_succ_of_lt (hlt place hplace heq), hlooters, hthreshold, hlater'⟩
  · rintro q slot ⟨hq, ho, hlt, hlooters, hthreshold, hlater⟩
    have hunder : Fair (q.setLoot target ((q.loot target).updateItem slot LootItem.underthreshold)) :=
      hq.setLoot_marks (Loot.locks_updateItem slot fun _ => rfl)
        ((hq.marked target).follows (Loot.follows_updateItem _ _ (f := LootItem.underthreshold) fun _ => ⟨rfl, id, id⟩))
        (Lists.map_modify_same Loot.mark (g := LootItem.underthreshold) (fun _ => rfl) _ _)
    refine ⟨hunder, (lootForBody_setLoot q target _ target).trans ho,
      fun place hplace heq => Nat.lt_succ_of_lt (hlt place hplace heq), ?_, hthreshold, fun i hi => ?_⟩
    · rw [loot_setLoot, if_pos rfl]
      exact hlooters
    · rw [loot_setLoot, if_pos rfl, getElem?_items_updateItem_ne _ (Nat.ne_of_lt hi)]
      exact hlater i (Nat.le_of_succ_le hi)
  · exact ⟨h, hopened, fun place hplace heq => absurd heq (hfresh place hplace), rfl, rfl, fun _ _ => rfl⟩

theorem Fair.openBody (h : Fair p) (members : List Nat)
    (hclosed : (p.targets target).lootForBody = false)
    (hunlooted : p.lootMethod = .groupLoot ∨ p.lootMethod = .needBeforeGreed → ∀ item ∈ (p.loot target).items,
      p.putsUp view members target p.lootMethod item = true → item.isLooted = true → item.count = 0) :
    Fair (p.openBody view members target) := by
  have hset : Fair (p.setOpened target) := by
    refine ⟨h.toRolled.setOpened target, fun other => ?_, fun place hplace => ?_⟩
    · rw [loot_setOpened]
      exact h.marked other
    · rw [loot_setOpened]
      exact h.spent place hplace
  unfold Party.openBody
  split_ifs with hmethod
  · refine hset.groupLoot members p.lootMethod (lootForBody_setOpened p target)
      (fresh_of_unopened h.toRolled hclosed) ?_
    rw [loot_setOpened]
    intro item hitem hup
    refine hunlooted hmethod item hitem ?_
    have hvoters : (p.setOpened target).voters view members target p.lootMethod item =
        p.voters view members target p.lootMethod item :=
      voters_congr (by rw [loot_setOpened]) members p.lootMethod item
    unfold putsUp at hup ⊢
    rw [hvoters] at hup
    exact hup
  · exact hset

theorem Fair.openLoot (h : Fair p) (members : List Nat) (player : Nat)
    (hunlooted : (p.targets target).creature = true → (p.targets target).lootForBody = false →
      p.lootMethod = .groupLoot ∨ p.lootMethod = .needBeforeGreed → ∀ item ∈ (p.loot target).items,
      p.putsUp view members target p.lootMethod item = true → item.isLooted = true → item.count = 0) :
    Fair (p.openLoot view members target player) := by
  unfold Party.openLoot
  simp only []
  by_cases hcreature : (p.targets target).creature = true
  · rw [if_pos hcreature]
    have hopened : Fair (if (p.targets target).lootForBody then p else p.openBody view members target) := by
      split_ifs with hbody
      · exact h
      · have hclosed : (p.targets target).lootForBody = false := by simpa using hbody
        exact h.openBody members hclosed (hunlooted hcreature hclosed)
    generalize (if (p.targets target).lootForBody then p else p.openBody view members target) = opened at hopened
    split_ifs
    · exact hopened.setLoot_marks (Loot.map_setUnderthreshold LootItem.lock (fun _ => rfl) view _ _)
        ((hopened.marked target).follows (Loot.follows_setUnderthreshold view _ _))
        (Loot.map_setUnderthreshold Loot.mark (fun _ => rfl) view _ _)
    · exact hopened
  · rw [if_neg hcreature]
    exact h.setLoot_marks (Loot.map_fillNotNormalLootFor LootItem.lock (fun _ => rfl) view player _)
      ((h.marked target).follows (Loot.follows_fillNotNormalLootFor view player _))
      (Loot.map_fillNotNormalLootFor Loot.mark (fun _ => rfl) view player _)

-- The steps that deliver nothing twice: no copy is missing when an entry that
-- is free for all is taken, the master gives nothing that is gone, and a body
-- is not rolled out for what has been taken from it.
def DeliversOnce (p : Party) (m : Message) : Prop :=
  match m.op with
  | .openLoot target _ members => (p.targets target).creature = true → (p.targets target).lootForBody = false →
      p.lootMethod = .groupLoot ∨ p.lootMethod = .needBeforeGreed → ∀ item ∈ (p.loot target).items,
      p.putsUp m.view members.guids target p.lootMethod item = true → item.isLooted = true → item.count = 0
  | .autostore target player slot => (p.loot target).takesUncopied m.view (p.targets target).creature
      (p.usesMaster m.view player) slot player = false
  | .masterGive target player slot receiver =>
    p.lootMethod = .masterLoot ∧ p.looterGuid = player ∧ m.view.inWorld receiver = true →
    (p.loot target).givesAgain m.view slot receiver = false
  | _ => True

theorem Fair.receive (h : Fair p) {m : Message} (hok : DeliversOnce p m) : Fair (p.receive m) := by
  unfold Party.receive
  unfold DeliversOnce at hok
  split <;> rename_i hop <;> rw [hop] at hok
  · refine h.clearLoot _ _ ?_
    exact (Loot.marked_fillLoot _ _ _ _).follows
      (.of_marks rfl rfl rfl (fun _ _ h => h) (fun _ _ h => h) fun h => h)
  · exact h.openLoot _ _ hok
  · exact h.autostore hok
  · exact h.masterGive hok
  · exact h.countRollVote _ _ _ _
  · exact h.endRoll _ _
  · exact h.of_places (places_removeRolls _) rfl
  · exact h.disband _
  · exact h.of_places rfl rfl
  · exact h.setLoot_marks rfl ((h.marked _).follows
      (.of_marks rfl rfl rfl (fun _ _ h => h) (fun _ _ h => h) fun h => h)) rfl
  · exact h.clearLoot _ _ (Loot.marked_of_fresh rfl rfl)

theorem fair_of_empty (hrolls : p.rolls = []) (hloots : ∀ target, p.loot target = Loot.new) : Fair p := by
  refine ⟨rolled_of_empty hrolls, fun target => ?_, fun place hplace => ?_⟩
  · rw [hloots]
    exact Loot.marked_of_fresh rfl rfl
  · rw [places, hrolls] at hplace
    cases hplace

theorem once_run {p : Party} {messages : List Message} (hrolls : p.rolls = [])
    (hloots : ∀ target, p.loot target = Loot.new) (hruns : Run.Guarded Party.receive DeliversOnce p messages)
    (target : Nat) : ((Run.run Party.receive p messages).loot target).Once :=
  ((Run.run_invariant Party.receive DeliversOnce Fair (fun _ _ h hok => h.receive hok)
    (fair_of_empty hrolls hloots) hruns).marked target).once

instance (p : Party) (m : Message) : Decidable (DeliversOnce p m) := by
  unfold DeliversOnce
  exact match m.op with
  | .openLoot target _ members =>
    inferInstanceAs (Decidable ((p.targets target).creature = true →
      (p.targets target).lootForBody = false → p.lootMethod = .groupLoot ∨ p.lootMethod = .needBeforeGreed →
      ∀ item ∈ (p.loot target).items, p.putsUp m.view members.guids target p.lootMethod item = true →
      item.isLooted = true → item.count = 0))
  | .autostore target player slot =>
    inferInstanceAs (Decidable ((p.loot target).takesUncopied m.view (p.targets target).creature
      (p.usesMaster m.view player) slot player = false))
  | .masterGive target player slot receiver =>
    inferInstanceAs (Decidable (p.lootMethod = .masterLoot ∧ p.looterGuid = player ∧
      m.view.inWorld receiver = true → (p.loot target).givesAgain m.view slot receiver = false))
  | .fill .. | .rollVote .. | .endRoll .. | .removeMember .. | .disband | .setLootMethod .. | .lootMoney ..
  | .clear .. => inferInstanceAs (Decidable True)

theorem once_run_votes : ((Run.run Party.receive sampleParty
    (sampleDrop ++ [sampleVote 1 1, sampleVote 2 2, sampleVote 3 0, ⟨sampleView, .autostore 9 2 0⟩])).loot 9).Once :=
  once_run rfl (fun _ => rfl) (by decide) 9

-- Player 1 is the master looter, and the item is under the threshold: player 2
-- takes it, then player 1 gives it to player 3.
theorem not_once_run : ¬∀ (p : Party) (messages : List Message), p.rolls = [] →
    (∀ target, p.loot target = Loot.new) → ∀ target, ((Run.run Party.receive p messages).loot target).Once := by
  intro h
  have honce := h { sampleParty with lootMethod := .masterLoot, lootThreshold := 3 }
    (sampleDrop ++ [⟨sampleView, .autostore 9 2 0⟩, ⟨sampleView, .masterGive 9 1 0 3⟩]) rfl (fun _ => rfl) 9
  have hplain (loot : Loot) (hloot : loot.Once) (item : LootItem) (hitem : loot.items[0]? = some item)
      (hffa : item.freeforall = false) : loot.given false 0 ≤ 1 := hloot.plain hitem hffa
  have hgiven := hplain _ honce
  revert hgiven
  decide

end Party

end TurtleWow.Looting
