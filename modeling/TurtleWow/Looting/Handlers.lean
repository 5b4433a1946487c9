import TurtleWow.Looting.State
import Mathlib.Data.List.Sort

namespace TurtleWow.Looting

inductive RollVote where
  | pass | need | greed | notEmitedYet
  deriving DecidableEq, Repr

def RollVote.ofClient : Nat → Option RollVote
  | 0 => some .pass
  | 1 => some .need
  | 2 => some .greed
  | _ => none

-- `valid` is the link to the loot, which a cleared loot cuts.
structure Roll where
  lootedTarget : Nat
  valid : Bool
  itemid : Nat
  itemSlot : Nat
  playerVote : List (Nat × RollVote)
  totalPlayersRolling : Nat
  totalNeed : Nat
  totalGreed : Nat
  totalPass : Nat
  deriving DecidableEq, Repr

structure Target where
  creature : Bool
  lootForBody : Bool
  loot : Loot

structure Resolved where
  roll : Roll
  timeout : Bool
  deriving DecidableEq, Repr

-- A group with its rolls, and what there is to loot. The source does not keep
-- the rolls that have been resolved.
structure Party where
  lootMethod : LootMethod
  looterGuid : Nat
  lootThreshold : Nat
  rolls : List Roll
  resolved : List Resolved
  targets : Nat → Target

namespace Loot

section

variable (loot : Loot)

def updateItem (slot : Nat) (f : LootItem → LootItem) : Loot :=
  { loot with items := loot.items.modify slot f }

def spend : Loot := { loot with unlootedCount := Word.u8 (loot.unlootedCount + 255) }

def handOut (quest : Bool) (index player : Nat) : Loot :=
  { loot with handed := { quest := quest, index := index, player := player } :: loot.handed }

def markLooted (slot player : Nat) (item : LootItem) : Found → Loot
  | .quest copy index =>
    { loot with
      playerQuestItems := loot.playerQuestItems.setLooted player copy,
      questItems :=
        if item.freeforall then loot.questItems
        else loot.questItems.modify index LootItem.looted }
  | .ffa copy => { loot with playerFFAItems := loot.playerFFAItems.setLooted player copy }
  | .conditional copy =>
    ({ loot with playerConditionalItems := loot.playerConditionalItems.setLooted player copy } : Loot).updateItem
      slot LootItem.looted
  | .plain => if item.freeforall then loot else loot.updateItem slot LootItem.looted

def handOutFound (slot player : Nat) : Found → Loot
  | .quest _ index => loot.handOut true index player
  | _ => loot.handOut false slot player

end

def isQuest : Found → Bool
  | .quest .. => true
  | _ => false

def isFFA : Found → Bool
  | .ffa _ => true
  | _ => false

-- The checks of HandleAutostoreLootItemOpcode, from the loot on. `master` says
-- that the player's group uses master loot; nothing is created of a count of 0.
def takes (view : View) (creature master : Bool) (slot player : Nat) (item : LootItem) (found : Found) : Bool :=
  item.allowedForPlayer view player && (isQuest found || !item.isBlocked) &&
    !(creature && !item.isUnderthreshold && !isQuest found && !isFFA found && master) &&
    view.canStore slot player && item.count ≠ 0

def autostore (view : View) (creature master : Bool) (slot player : Nat) (loot : Loot) : Loot :=
  match loot.lootItemInSlot slot player with
  | none => loot
  | some (item, found) =>
    if takes view creature master slot player item found then
      ((loot.markLooted slot player item found).spend).handOutFound slot player found
    else loot

-- HandleLootMasterGiveOpcode, from the loot on: the entry is marked and
-- counted even when nothing could be created of it.
def masterGive (view : View) (slot receiver : Nat) (loot : Loot) : Loot :=
  match loot.items[slot]? with
  | none => loot
  | some item =>
    if loot.isAllowedLooter receiver false ∧ view.canStore slot receiver then
      let given := if item.count = 0 then loot else loot.handOut false slot receiver
      (given.updateItem slot LootItem.givenAway).spend
    else loot

def award (view : View) (slot winner : Nat) (needed : Bool) (loot : Loot) : Loot :=
  match loot.items[slot]? with
  | none => loot
  | some item =>
    if view.inWorld winner then
      if view.canStore slot winner then
        let given := if item.count = 0 then loot else loot.handOut false slot winner
        (given.updateItem slot LootItem.looted).spend
      else loot.updateItem slot fun item => (item.owned winner).unblocked
    else if needed then loot.updateItem slot (LootItem.owned winner)
    else loot

end Loot

namespace Roll

def increment (total : Nat) : Nat := Word.u8 (total + 1)

def decrement (total : Nat) : Nat := Word.u8 (total + 255)

def start (target slot itemid : Nat) (voters : List Nat) : Roll :=
  { lootedTarget := target, valid := true, itemid := itemid, itemSlot := slot,
    playerVote := voters.map fun player => (player, .notEmitedYet),
    totalPlayersRolling := Word.u8 voters.length, totalNeed := 0, totalGreed := 0, totalPass := 0 }

-- The players' votes are a map in the order of the guids.

def voteOf (roll : Roll) (player : Nat) : Option RollVote :=
  (roll.playerVote.find? fun entry => entry.1 = player).map fun entry => entry.2

def setVote (player : Nat) (vote : RollVote) (votes : List (Nat × RollVote)) : List (Nat × RollVote) :=
  Lists.updateFirst (fun entry => entry.1 = player) (fun entry => (entry.1, vote)) votes

def eraseVote (player : Nat) (votes : List (Nat × RollVote)) : List (Nat × RollVote) :=
  votes.eraseP fun entry => entry.1 = player

def register (roll : Roll) (player : Nat) : RollVote → Roll
  | .pass =>
    { roll with totalPass := increment roll.totalPass, playerVote := setVote player .pass roll.playerVote }
  | .need =>
    { roll with totalNeed := increment roll.totalNeed, playerVote := setVote player .need roll.playerVote }
  | .greed =>
    { roll with totalGreed := increment roll.totalGreed, playerVote := setVote player .greed roll.playerVote }
  | .notEmitedYet => roll

def full (roll : Roll) : Bool :=
  roll.totalPlayersRolling ≤ roll.totalPass + roll.totalNeed + roll.totalGreed

def roll100 (dice : Nat → Nat) (player : Nat) : Nat := dice player % 100 + 1

-- The highest roll among those who voted so; the first voter of all when
-- nobody did.
def winner (dice : Nat → Nat) (vote : RollVote) (votes : List (Nat × RollVote)) (first : Nat) : Nat :=
  (votes.foldl (fun (best : Nat × Nat) entry =>
    if entry.2 = vote ∧ best.2 < roll100 dice entry.1 then (entry.1, roll100 dice entry.1) else best) (first, 0)).1

inductive Outcome where
  | won (winner : Nat) (needed : Bool)
  | allPassed
  | nobody
  deriving DecidableEq, Repr

def outcome (view : View) (roll : Roll) : Outcome :=
  let dice := view.dice roll.itemSlot
  if 0 < roll.totalNeed then
    match roll.playerVote with
    | [] => .nobody
    | (first, _) :: _ => .won (winner dice .need roll.playerVote first) true
  else if 0 < roll.totalGreed then
    match roll.playerVote with
    | [] => .nobody
    | (first, _) :: _ => .won (winner dice .greed roll.playerVote first) false
  else .allPassed

def settle (view : View) (roll : Roll) (loot : Loot) : Loot :=
  match roll.outcome view with
  | .won winner needed => loot.award view roll.itemSlot winner needed
  | .allPassed => loot.updateItem roll.itemSlot LootItem.unblocked
  | .nobody => loot

-- The part of _removeRolls for one roll. The CountRollVote that follows finds
-- no vote of the player any more, so it never resolves the roll.
def removeVoter (player : Nat) (roll : Roll) : Roll :=
  match roll.voteOf player with
  | none => roll
  | some vote =>
    { roll with
      totalGreed := if vote = .greed then decrement roll.totalGreed else roll.totalGreed,
      totalNeed := if vote = .need then decrement roll.totalNeed else roll.totalNeed,
      totalPass := if vote = .pass then decrement roll.totalPass else roll.totalPass,
      totalPlayersRolling := decrement roll.totalPlayersRolling,
      playerVote := eraseVote player roll.playerVote }

end Roll

namespace Party

variable (p : Party)

def loot (target : Nat) : Loot := (p.targets target).loot

def setTarget (target : Nat) (t : Target) : Party := { p with targets := Function.update p.targets target t }

def setLoot (target : Nat) (loot : Loot) : Party := p.setTarget target { p.targets target with loot := loot }

section

variable (view : View)

def rollsFor (target : Nat) (method : LootMethod) (item : LootItem) (player : Nat) : Bool :=
  view.inWorld player && (method ≠ .needBeforeGreed || view.canUse player item.itemid) &&
    item.allowedForPlayer view player && (p.loot target).isAllowedLooter player false && view.near player

def voters (members : List Nat) (target : Nat) (method : LootMethod) (item : LootItem) : List Nat :=
  (members.filter (p.rollsFor view target method item)).insertionSort (· ≤ ·)

def startLootRoll (members : List Nat) (target : Nat) (method : LootMethod) (slot : Nat) : Party :=
  match (p.loot target).items[slot]? with
  | none => p
  | some item =>
    if 0 < Word.u8 (p.voters view members target method item).length then
      { p.setLoot target ((p.loot target).updateItem slot LootItem.blocked) with
        rolls := p.rolls ++ [.start target slot item.itemid (p.voters view members target method item)] }
    else p

def groupLootSlot (members : List Nat) (target : Nat) (method : LootMethod) (slot : Nat) : Party :=
  match (p.loot target).items[slot]? with
  | none => p
  | some item =>
    if item.freeforall then p
    else
      match view.quality item.itemid with
      | none => p
      | some quality =>
        if p.lootThreshold ≤ quality then p.startLootRoll view members target method slot
        else p.setLoot target ((p.loot target).updateItem slot LootItem.underthreshold)

-- GroupLoot and NeedBeforeGreed, which differ in who takes part.
def groupLoot (members : List Nat) (target : Nat) (method : LootMethod) : Party :=
  (List.range (p.loot target).items.length).foldl
    (fun p slot => p.groupLootSlot view members target method slot) p

end

theorem groupLoot_invariant {p : Party} {view : View} {members : List Nat} {target : Nat} {method : LootMethod}
    (invariant : Nat → Party → Prop) (hskip : ∀ q slot, invariant slot q → invariant (slot + 1) q)
    (hroll : ∀ q slot item, (q.loot target).items[slot]? = some item → item.freeforall = false →
      (∃ quality, view.quality item.itemid = some quality ∧ q.lootThreshold ≤ quality) → invariant slot q →
      invariant (slot + 1) (q.startLootRoll view members target method slot))
    (hunder : ∀ q slot, invariant slot q → invariant (slot + 1)
      (q.setLoot target ((q.loot target).updateItem slot LootItem.underthreshold)))
    (h : invariant 0 p) : invariant (p.loot target).items.length (p.groupLoot view members target method) := by
  unfold groupLoot
  generalize (p.loot target).items.length = count
  induction count with
  | zero => exact h
  | succ slot ih =>
    rw [List.range_succ, List.foldl_append, List.foldl_cons, List.foldl_nil]
    generalize (List.range slot).foldl (fun p slot => p.groupLootSlot view members target method slot) p = q at ih ⊢
    unfold groupLootSlot
    split
    · exact hskip q slot ih
    · rename_i item hitem
      split_ifs with hffa
      · exact hskip q slot ih
      · split
        · exact hskip q slot ih
        · rename_i quality hquality
          split_ifs with hle
          · exact hroll q slot item hitem (by simpa using hffa) ⟨quality, hquality, hle⟩ ih
          · exact hunder q slot ih

def setOpened (target : Nat) : Party := p.setTarget target { p.targets target with lootForBody := true }

def openBody (view : View) (members : List Nat) (target : Nat) : Party :=
  if p.lootMethod = .groupLoot ∨ p.lootMethod = .needBeforeGreed then
    (p.setOpened target).groupLoot view members target p.lootMethod
  else p.setOpened target

-- SendLoot: a chest may have more for who opens it.
def openLoot (view : View) (members : List Nat) (target player : Nat) : Party :=
  let t := p.targets target
  if t.creature then
    let opened := if t.lootForBody then p else p.openBody view members target
    if view.member player ∧ opened.lootMethod = .masterLoot then
      opened.setLoot target ((opened.loot target).setUnderthreshold view opened.lootThreshold)
    else opened
  else p.setLoot target ((p.loot target).fillNotNormalLootFor view player)

def usesMaster (view : View) (player : Nat) : Bool :=
  if view.member player then p.lootMethod = .masterLoot else view.otherMethod player = some .masterLoot

def autostore (view : View) (target player slot : Nat) : Party :=
  p.setLoot target ((p.loot target).autostore view (p.targets target).creature (p.usesMaster view player) slot player)

def masterGive (view : View) (target player slot receiver : Nat) : Party :=
  if p.lootMethod = .masterLoot ∧ p.looterGuid = player ∧ view.inWorld receiver then
    p.setLoot target ((p.loot target).masterGive view slot receiver)
  else p

-- CountTheRoll; `timeout` says that EndRoll calls it.
def countTheRoll (view : View) (timeout : Bool) (i : Nat) : Party :=
  match p.rolls[i]? with
  | none => p
  | some roll =>
    if roll.valid then
      { p.setLoot roll.lootedTarget (roll.settle view (p.loot roll.lootedTarget)) with
        rolls := p.rolls.eraseIdx i,
        resolved := { roll := roll, timeout := timeout } :: p.resolved }
    else { p with rolls := p.rolls.eraseIdx i }

theorem rolls_countTheRoll (view : View) (timeout : Bool) (i : Nat) :
    (p.countTheRoll view timeout i).rolls = p.rolls.eraseIdx i := by
  unfold Party.countTheRoll
  split
  · rename_i hnone
    exact (List.eraseIdx_of_length_le (List.getElem?_eq_none_iff.mp hnone)).symm
  · split_ifs <;> rfl

def votedRoll (target slot player : Nat) : Option (Nat × Roll) :=
  match p.rolls.findIdx? fun roll => roll.valid && roll.lootedTarget = target && roll.itemSlot = slot with
  | none => none
  | some i =>
    match p.rolls[i]? with
    | none => none
    | some roll => if roll.voteOf player = none ∨ (p.loot target).items = [] then none else some (i, roll)

theorem votedRoll_some {p : Party} {target slot player i : Nat} {roll : Roll}
    (h : p.votedRoll target slot player = some (i, roll)) : p.rolls[i]? = some roll := by
  unfold votedRoll at h
  split at h
  · cases h
  · split at h
    · cases h
    · rename_i hroll
      split_ifs at h with hout
      cases h
      exact hroll

-- HandleLootRoll and CountRollVote
def countRollVote (view : View) (target slot player rollType : Nat) : Party :=
  match RollVote.ofClient rollType, p.votedRoll target slot player with
  | some vote, some (i, roll) =>
    let roll := roll.register player vote
    let voted : Party := { p with rolls := p.rolls.set i roll }
    if roll.full then voted.countTheRoll view false i else voted
  | _, _ => p

-- EndRoll starts over after each roll; it removes one each time.
def endRoll (view : View) (target : Nat) : Nat → Party → Party
  | 0, p => p
  | fuel + 1, p =>
    match p.rolls.findIdx? fun roll => roll.valid && roll.lootedTarget = target with
    | none => p
    | some i => endRoll view target fuel (p.countTheRoll view true i)

def removeRolls (guid : Nat) : Party := { p with rolls := p.rolls.map (Roll.removeVoter guid) }

def disband (view : View) : Nat → Party → Party
  | 0, p => p
  | fuel + 1, p => disband view fuel (p.countTheRoll view false 0)

def clearLoot (target : Nat) (t : Target) : Party :=
  { p.setTarget target t with
    rolls := p.rolls.map fun roll => if roll.lootedTarget = target then { roll with valid := false } else roll }

end Party

-- The players that a group's references lead to: each once, at most as many
-- as fit a raid.
structure Members where
  guids : List Nat
  distinct : guids.Nodup
  size : guids.length ≤ 40

inductive Op where
  | fill (target : Nat) (creature lootForBody : Bool) (drops : List LootStoreItem) (gold owner : Nat)
      (members : Option Members)
  | openLoot (target player : Nat) (members : Members)
  | autostore (target player slot : Nat)
  | masterGive (target player slot receiver : Nat)
  | rollVote (target slot player rollType : Nat)
  | endRoll (target : Nat)
  | removeMember (guid : Nat)
  | disband
  | setLootMethod (method : LootMethod) (looter threshold : Nat)
  | lootMoney (target : Nat)
  | clear (target : Nat)

structure Message where
  view : View
  op : Op

namespace Party

def receive (p : Party) (m : Message) : Party :=
  match m.op with
  | .fill target creature lootForBody drops gold owner members =>
    let group := members.map fun members => (members.guids, p.lootThreshold)
    p.clearLoot target
      { creature := creature, lootForBody := lootForBody,
        loot := { Loot.fillLoot m.view drops owner group with gold := gold } }
  | .openLoot target player members => p.openLoot m.view members.guids target player
  | .autostore target player slot => p.autostore m.view target player slot
  | .masterGive target player slot receiver => p.masterGive m.view target player slot receiver
  | .rollVote target slot player rollType => p.countRollVote m.view target slot player rollType
  | .endRoll target => endRoll m.view target p.rolls.length p
  | .removeMember guid => p.removeRolls guid
  | .disband => disband m.view p.rolls.length p
  | .setLootMethod method looter threshold =>
    { p with lootMethod := method, looterGuid := looter, lootThreshold := threshold }
  | .lootMoney target => p.setLoot target { p.loot target with gold := 0 }
  | .clear target => p.clearLoot target { p.targets target with loot := Loot.cleared }

end Party

end TurtleWow.Looting
