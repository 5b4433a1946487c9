import TurtleWow.Looting.Tallies
import TurtleWow.Looting.Rolling

namespace TurtleWow.Looting

-- Who gets what when a roll is resolved.

namespace Roll

variable {view : View} {roll : Roll} {player : Nat} {vote : RollVote}

-- The first of those who voted so, in the order of the guids, with the highest
-- roll.
def Leads (view : View) (roll : Roll) (vote : RollVote) (player : Nat) : Prop :=
  Lists.FirstMax (fun entry : Nat × RollVote => roll100 (view.dice roll.itemSlot) entry.1)
    (fun entry => entry.2 = vote) roll.playerVote (player, vote)

def Voted (roll : Roll) (vote : RollVote) : Prop := ∃ entry ∈ roll.playerVote, entry.2 = vote

theorem roll100_pos (dice : Nat → Nat) (player : Nat) : 0 < roll100 dice player := by
  simp [roll100]

theorem exists_leads (view : View) (h : roll.Voted vote) : ∃ player, roll.Leads view vote player := by
  have hmax : ∃ entry, Lists.FirstMax (fun entry : Nat × RollVote => roll100 (view.dice roll.itemSlot) entry.1)
      (fun entry => entry.2 = vote) roll.playerVote entry := Lists.exists_firstMax h
  obtain ⟨⟨player, other⟩, hmax⟩ := hmax
  obtain rfl : other = vote := hmax.mem.2
  exact ⟨player, hmax⟩

section

variable (h : roll.Leads view vote player)

include h

theorem winner_of_leads (first : Nat) : winner (view.dice roll.itemSlot) vote roll.playerVote first = player := by
  have hpos : (first, 0).2 < roll100 (view.dice roll.itemSlot) player := roll100_pos _ _
  exact congrArg Prod.fst (Lists.best_of_firstMax h hpos)

theorem Leads.unique {other : Nat} (h' : roll.Leads view vote other) : player = other :=
  (winner_of_leads h 0).symm.trans (winner_of_leads h' 0)

theorem Leads.voted : roll.Voted vote := ⟨_, h.mem.1, rfl⟩

end

theorem votes_pos_iff : 0 < roll.votes vote ↔ roll.Voted vote := by
  simp [votes, Voted, List.countP_pos_iff]

def Decides (roll : Roll) (vote : RollVote) : Prop := vote = .need ∨ vote = .greed ∧ ¬roll.Voted .need

theorem outcome_of_leads (h : Tallied roll) (hdecides : roll.Decides vote) (hleads : roll.Leads view vote player) :
    roll.outcome view = .won player (vote = .need) := by
  obtain ⟨entry, hentry, -⟩ := hleads.voted
  have hpos := votes_pos_iff.mpr hleads.voted
  unfold outcome
  rcases hdecides with rfl | ⟨rfl, hnone⟩
  · dsimp only
    rw [if_pos (by rw [h.need]; exact hpos)]
    split
    · rename_i hnil
      simp [hnil] at hentry
    · simp [winner_of_leads hleads]
  · have hzero : ¬0 < roll.totalNeed := by
      rw [h.need]
      exact fun hneed => hnone (votes_pos_iff.mp hneed)
    rw [if_neg hzero, if_pos (by rw [h.greed]; exact hpos)]
    split
    · rename_i hnil
      simp [hnil] at hentry
    · simp [winner_of_leads hleads]

theorem outcome_allPassed (view : View) (h : Tallied roll) (hneed : ¬roll.Voted .need) (hgreed : ¬roll.Voted .greed) :
    roll.outcome view = .allPassed := by
  rw [← votes_pos_iff, ← h.need] at hneed
  rw [← votes_pos_iff, ← h.greed] at hgreed
  simp only [outcome, if_neg hneed, if_neg hgreed]

-- Either somebody leads, or everybody has passed.
theorem leads_or_passed (view : View) (roll : Roll) :
    (∃ vote player, roll.Decides vote ∧ roll.Leads view vote player) ∨ ¬roll.Voted .need ∧ ¬roll.Voted .greed := by
  by_cases hneed : roll.Voted .need
  · obtain ⟨player, hleads⟩ := exists_leads view hneed
    exact .inl ⟨.need, player, .inl rfl, hleads⟩
  · by_cases hgreed : roll.Voted .greed
    · obtain ⟨player, hleads⟩ := exists_leads view hgreed
      exact .inl ⟨.greed, player, .inr ⟨rfl, hneed⟩, hleads⟩
    · exact .inr ⟨hneed, hgreed⟩

end Roll

namespace Loot

variable {view : View} {loot : Loot} {slot winner : Nat} {needed : Bool} {item : LootItem}

-- The item is in the winner's bags, or it waits for him alone.
def AwardedTo (before after : Loot) (slot winner : Nat) : Prop :=
  ∃ item, after.items[slot]? = some item ∧
    (after.handed = { quest := false, index := slot, player := winner } :: before.handed ∧ item.isLooted = true ∨
      item.isLooted = false ∧ item.isBlocked = false ∧ item.lootOwner = winner)

-- What the winner has to meet for that: he is online, and what he has room for
-- is there.
def ReachesWinner (view : View) (slot winner : Nat) (needed : Bool) (item : LootItem) : Prop :=
  if view.inWorld winner then
    if view.canStore slot winner then item.count ≠ 0 else item.isLooted = false
  else item.isLooted = false ∧ item.isBlocked = false ∧ (needed = true ∨ item.lootOwner = winner)

section

variable (hitem : loot.items[slot]? = some item)

include hitem

theorem items_updateItem (f : LootItem → LootItem) : (loot.updateItem slot f).items[slot]? = some (f item) := by
  simp [updateItem, hitem]

theorem awardedTo_iff :
    AwardedTo loot (loot.award view slot winner needed) slot winner ↔ ReachesWinner view slot winner needed item := by
  have hkept : ∀ handout : Handout, loot.handed ≠ handout :: loot.handed := by simp
  simp only [award, hitem, ReachesWinner]
  split
  · split
    · by_cases hcount : item.count = 0
      · simp [AwardedTo, hcount, updateItem, spend, hitem, LootItem.looted]
      · simp [AwardedTo, hcount, updateItem, spend, handOut, hitem, LootItem.looted]
    · simp [AwardedTo, updateItem, hitem, LootItem.owned, LootItem.unblocked]
  · cases needed with
    | true => simp [AwardedTo, updateItem, hitem, LootItem.owned]
    | false => simp [AwardedTo, hitem]

theorem award_unlocked (h : ReachesWinner view slot winner needed item)
    {after : LootItem} (hafter : (loot.award view slot winner needed).items[slot]? = some after)
    (hblocked : after.isBlocked = true) : after.isLooted = true := by
  obtain ⟨found, hfound, hwon | hwaits⟩ := (awardedTo_iff hitem).mpr h
  · rw [hfound] at hafter
    cases hafter
    exact hwon.2
  · rw [hfound] at hafter
    cases hafter
    rw [hwaits.2.1] at hblocked
    cases hblocked

end

end Loot

namespace Party

variable {p : Party} {view : View} {roll : Roll} {item : LootItem}

def Unlocked (p : Party) (target slot : Nat) : Prop :=
  (∃ roll ∈ p.rolls, roll.valid = true ∧ roll.lootedTarget = target ∧ roll.itemSlot = slot) ∨
    ∀ item, (p.loot target).items[slot]? = some item → item.isBlocked = true → item.isLooted = true

-- What a roll is for: the winner has voted best, and he has the item or may
-- take it; if everybody has passed, anyone may.
def RightlyResolved (view : View) (roll : Roll) (before after : Party) : Prop :=
  (match roll.outcome view with
    | .won winner _ => (∃ vote, roll.Decides vote ∧ (winner, vote) ∈ roll.playerVote ∧
          ∀ entry ∈ roll.playerVote, entry.2 = vote →
            Roll.roll100 (view.dice roll.itemSlot) entry.1 ≤ Roll.roll100 (view.dice roll.itemSlot) winner) ∧
        Loot.AwardedTo (before.loot roll.lootedTarget) (after.loot roll.lootedTarget) roll.itemSlot winner
    | .allPassed => ¬roll.Voted .need ∧ ¬roll.Voted .greed ∧
        ∃ item, (after.loot roll.lootedTarget).items[roll.itemSlot]? = some item ∧ item.isBlocked = false ∧
          item.lootOwner = 0
    | .nobody => False) ∧
  after.Unlocked roll.lootedTarget roll.itemSlot

-- The leader of the roll can be given the item, or everybody passes on an item
-- that nobody owns yet.
def Resolvable (view : View) (roll : Roll) (item : LootItem) : Prop :=
  (∃ vote player, roll.Decides vote ∧ roll.Leads view vote player ∧
      Loot.ReachesWinner view roll.itemSlot player (vote = .need) item) ∨
    ¬roll.Voted .need ∧ ¬roll.Voted .greed ∧ item.lootOwner = 0

theorem loot_countTheRoll {timeout : Bool} {i : Nat} (hroll : p.rolls[i]? = some roll) (hvalid : roll.valid = true) :
    (p.countTheRoll view timeout i).loot roll.lootedTarget = roll.settle view (p.loot roll.lootedTarget) := by
  simp [countTheRoll, hroll, hvalid, Party.loot, setLoot, setTarget]

theorem decides_unique {first second : RollVote} {player other : Nat} (h : roll.Decides first)
    (h' : roll.Decides second) (hleads : roll.Leads view first player) (hleads' : roll.Leads view second other) :
    first = second := by
  rcases h with rfl | ⟨rfl, hnone⟩
  · rcases h' with rfl | ⟨rfl, hnone'⟩
    · rfl
    · exact absurd hleads.voted hnone'
  · rcases h' with rfl | ⟨rfl, -⟩
    · exact absurd hleads'.voted hnone
    · rfl

theorem resolvable_of_leads {vote : RollVote} {player : Nat} (hdecides : roll.Decides vote)
    (hleads : roll.Leads view vote player) :
    Resolvable view roll item ↔ Loot.ReachesWinner view roll.itemSlot player (vote = .need) item := by
  constructor
  · rintro (⟨other, winner, hdecides', hleads', hreaches⟩ | ⟨hneed, hgreed, -⟩)
    · obtain rfl := decides_unique hdecides hdecides' hleads hleads'
      obtain rfl := hleads.unique hleads'
      exact hreaches
    · rcases hdecides with rfl | ⟨rfl, -⟩
      · exact absurd hleads.voted hneed
      · exact absurd hleads.voted hgreed
  · exact fun hreaches => .inl ⟨vote, player, hdecides, hleads, hreaches⟩

theorem resolvable_of_passed (hneed : ¬roll.Voted .need) (hgreed : ¬roll.Voted .greed) :
    Resolvable view roll item ↔ item.lootOwner = 0 := by
  constructor
  · rintro (⟨vote, player, hdecides, hleads, -⟩ | ⟨-, -, howner⟩)
    · rcases hdecides with rfl | ⟨rfl, -⟩
      · exact absurd hleads.voted hneed
      · exact absurd hleads.voted hgreed
    · exact howner
  · exact fun howner => .inr ⟨hneed, hgreed, howner⟩

-- No two rolls of a group are for one item, and an item that is rolled for
-- stays in its slot, locked, whatever the players send.
theorem rolled_items_run (hrolls : p.rolls = []) (messages : List Message) :
    (Run.run Party.receive p messages).places.Nodup ∧
      ∀ roll ∈ (Run.run Party.receive p messages).rolls, roll.valid = true →
        ∃ item, ((Run.run Party.receive p messages).loot roll.lootedTarget).items[roll.itemSlot]? = some item ∧
          item.freeforall = false ∧ item.isBlocked = true := by
  have hrolled := rolled_run messages hrolls
  refine ⟨hrolled.distinct, fun roll hroll hvalid => ?_⟩
  have hlocked := hrolled.locked _ (List.mem_filterMap.mpr ⟨roll, hroll, Roll.place_of_valid roll hvalid⟩)
  rw [Loot.locks, List.getElem?_map] at hlocked
  obtain ⟨item, hitem, hlock⟩ := Option.map_eq_some_iff.mp hlocked
  exact ⟨item, hitem, congrArg Prod.fst hlock, congrArg Prod.snd hlock⟩

theorem rolled_items_run_vote :
    (Run.run Party.receive sampleParty (sampleDrop ++ [sampleVote 1 1])).places.Nodup :=
  (rolled_items_run rfl (sampleDrop ++ [sampleVote 1 1])).1

def sampleRoll : Roll :=
  { lootedTarget := 9, valid := true, itemid := 25, itemSlot := 0,
    playerVote := [(1, .need), (2, .greed), (3, .notEmitedYet)], totalPlayersRolling := 3, totalNeed := 1,
    totalGreed := 1, totalPass := 0 }

def rolledItem : LootItem :=
  { itemid := 25, conditionId := 0, count := 1, isLooted := false, isBlocked := true, freeforall := false,
    isUnderthreshold := false, isCounted := false, needsQuest := false, lootOwner := 0 }

def rollingParty : Party :=
  { sampleParty with
    rolls := [sampleRoll],
    targets := fun _ => { creature := true, lootForBody := true, loot := { Loot.new with items := [rolledItem] } } }

theorem tallied_sampleRoll : sampleRoll.Tallied := by
  constructor <;> decide

end Party

end TurtleWow.Looting
