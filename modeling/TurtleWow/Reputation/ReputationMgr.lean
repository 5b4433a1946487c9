import Mathlib.Data.Fin.VecNotation
import Mathlib.Data.List.FinRange
import TurtleWow.Lib.Bytes
import TurtleWow.Lib.Fibers

namespace TurtleWow.Reputation

-- The reputation of one player: its states in memory, and its stored rows

abbrev ReputationRank := Fin 8

def REP_HATED : ReputationRank := ⟨0, by decide⟩

def REP_HOSTILE : ReputationRank := ⟨1, by decide⟩

def REP_UNFRIENDLY : ReputationRank := ⟨2, by decide⟩

def REP_NEUTRAL : ReputationRank := ⟨3, by decide⟩

def REP_FRIENDLY : ReputationRank := ⟨4, by decide⟩

def REP_HONORED : ReputationRank := ⟨5, by decide⟩

def REP_REVERED : ReputationRank := ⟨6, by decide⟩

def REP_EXALTED : ReputationRank := ⟨7, by decide⟩

abbrev FactionFlags := BitVec 32

def FACTION_FLAG_VISIBLE : FactionFlags := 0x01

def FACTION_FLAG_AT_WAR : FactionFlags := 0x02

def FACTION_FLAG_HIDDEN : FactionFlags := 0x04

def FACTION_FLAG_INVISIBLE_FORCED : FactionFlags := 0x08

def FACTION_FLAG_PEACE_FORCED : FactionFlags := 0x10

def FACTION_FLAG_INACTIVE : FactionFlags := 0x20

def Reputation_Cap : Int := 42999

def Reputation_Bottom : Int := -42000

def pointsInRank : List (ReputationRank × Int) :=
  [(REP_HATED, 36000), (REP_HOSTILE, 3000), (REP_UNFRIENDLY, 3000), (REP_NEUTRAL, 3000), (REP_FRIENDLY, 6000),
    (REP_HONORED, 12000), (REP_REVERED, 21000), (REP_EXALTED, 1000)]

-- From the highest rank down
def rankFrom (standing : Int) : List (ReputationRank × Int) → Int → ReputationRank
  | [], _ => REP_HATED
  | (rank, points) :: rest, limit => if standing ≥ limit - points then rank else rankFrom standing rest (limit - points)

def reputationToRank (standing : Int) : ReputationRank := rankFrom standing pointsInRank.reverse (Reputation_Cap + 1)

def clamp (standing : Int) : Int :=
  if standing > Reputation_Cap then Reputation_Cap else if standing < Reputation_Bottom then Reputation_Bottom else standing

structure FactionEntry where
  id : Nat
  reputationListID : Int
  baseRepRaceMask : Fin 4 → Nat
  baseRepClassMask : Fin 4 → Nat
  baseRepValue : Fin 4 → Int
  reputationFlags : Fin 4 → FactionFlags

namespace FactionEntry

variable (e : FactionEntry)

def getIndexFitTo (raceMask classMask : Nat) : Option (Fin 4) :=
  (List.finRange 4).find? fun i =>
    (e.baseRepRaceMask i = 0 || e.baseRepRaceMask i &&& raceMask ≠ 0) &&
      (e.baseRepClassMask i = 0 || e.baseRepClassMask i &&& classMask ≠ 0)

def canHaveReputation : Bool := decide (e.reputationListID ≥ 0)

def repListID : Nat := Word.toU32 e.reputationListID

end FactionEntry

-- `rate` multiplies by the rate of a spillover and converts the product back to
-- an integer.
structure Spillover where
  faction : Nat
  factionRank : Nat
  rate : Int → Int

-- The factions in the order of their map, and the masks of the player
structure Tables where
  factions : List FactionEntry
  distinct : (factions.map fun e => e.id).Nodup
  spillovers : Nat → Option (List Spillover)
  raceMask : Nat
  classMask : Nat

namespace Tables

variable (t : Tables)

def getFactionEntry (id : Nat) : Option FactionEntry := t.factions.find? fun e => e.id = id

def getBaseReputation (e : FactionEntry) : Int :=
  match e.getIndexFitTo t.raceMask t.classMask with
  | some idx => e.baseRepValue idx
  | none => 0

def getDefaultStateFlags (e : FactionEntry) : FactionFlags :=
  match e.getIndexFitTo t.raceMask t.classMask with
  | some idx => e.reputationFlags idx
  | none => 0

end Tables

structure Row where
  faction : Nat
  standing : Int
  flags : FactionFlags

structure FactionState where
  id : Nat
  flags : FactionFlags
  standing : Int
  needSave : Bool

namespace FactionState

variable (faction : FactionState)

def has (flag : FactionFlags) : Bool := Flags.has faction.flags flag

-- always invisible or hidden faction can't be make visible
def setVisible : FactionState :=
  if faction.has (FACTION_FLAG_INVISIBLE_FORCED ||| FACTION_FLAG_HIDDEN) then faction
  else if faction.has FACTION_FLAG_VISIBLE then faction
  else { faction with flags := faction.flags ||| FACTION_FLAG_VISIBLE, needSave := true }

def setAtWar (atWar : Bool) : FactionState × Bool :=
  if faction.has FACTION_FLAG_AT_WAR && atWar then (faction, false)
  -- not allow declare war to faction unless already hated or less
  else if atWar && faction.has FACTION_FLAG_PEACE_FORCED && decide (reputationToRank faction.standing > REP_HATED) then
    (faction, false)
  else if atWar then ({ faction with flags := faction.flags ||| FACTION_FLAG_AT_WAR, needSave := true }, true)
  else ({ faction with flags := faction.flags &&& ~~~FACTION_FLAG_AT_WAR, needSave := true }, true)

-- The same by id: always invisible or hidden faction can't change war state
def setAtWarById (on : Bool) : FactionState × Bool :=
  if faction.has (FACTION_FLAG_INVISIBLE_FORCED ||| FACTION_FLAG_HIDDEN) then (faction, false) else faction.setAtWar on

def setInactive (inactive : Bool) : FactionState :=
  if inactive && (faction.has (FACTION_FLAG_INVISIBLE_FORCED ||| FACTION_FLAG_HIDDEN) || !faction.has FACTION_FLAG_VISIBLE) then
    faction
  else if faction.has FACTION_FLAG_INACTIVE = inactive then faction
  else if inactive then { faction with flags := faction.flags ||| FACTION_FLAG_INACTIVE, needSave := true }
  else { faction with flags := faction.flags &&& ~~~FACTION_FLAG_INACTIVE, needSave := true }

-- SetOneFactionReputation on the state it has found; `hook` is what scripts make
-- of the new standing.
def setOne (t : Tables) (e : FactionEntry) (hook : Int → Int) (standing : Int) (incremental noBase : Bool) :
    FactionState × Bool :=
  let baseRep := t.getBaseReputation e
  let standing := clamp (hook (if incremental then standing + (faction.standing + baseRep) else standing))
  let rankOld := reputationToRank (faction.standing + baseRep)
  let rankNew := reputationToRank standing
  let faction := { faction with standing := if noBase then standing else standing - baseRep, needSave := true }
  let faction := faction.setVisible
  let faction :=
    if rankNew ≠ rankOld then
      -- when reputation dips to "Hostile"
      if rankNew < REP_UNFRIENDLY ∧ rankNew < rankOld ∧ rankOld > REP_HOSTILE then (faction.setAtWar true).1
      -- when reputation improves to "Neutral"
      else if rankNew > REP_UNFRIENDLY ∧ rankNew > rankOld ∧ rankOld < REP_NEUTRAL then (faction.setAtWarById false).1
      else faction
    else faction
  (faction, decide (rankNew > rankOld))

-- From a row: the standing, and what is seen
def restoreShown (row : Row) : FactionState :=
  let faction := { faction with standing := row.standing }
  let faction := if Flags.has row.flags FACTION_FLAG_VISIBLE then faction.setVisible else faction
  if Flags.has row.flags FACTION_FLAG_INACTIVE then faction.setInactive true else faction

def restoreAtWar (row : Row) : FactionState :=
  if Flags.has row.flags FACTION_FLAG_AT_WAR then (faction.setAtWar true).1
  -- allow remove if visible
  else if faction.has FACTION_FLAG_VISIBLE then (faction.setAtWar false).1
  else faction

end FactionState

structure ReputationMgr where
  factions : OrderedMap Nat FactionState
  forcedReactions : OrderedMap Nat ReputationRank

namespace ReputationMgr

variable (m : ReputationMgr) (t : Tables)

def put (id : Nat) (faction : FactionState) : ReputationMgr := { m with factions := m.factions.insert id faction }

def getReputation (e : FactionEntry) : Int :=
  if e.canHaveReputation then
    match m.factions.find e.repListID with
    | some faction => t.getBaseReputation e + faction.standing
    | none => 0
  else 0

def getRank (e : FactionEntry) : ReputationRank := reputationToRank (m.getReputation t e)

def initializeFactions : ReputationMgr :=
  { m with factions := t.factions.foldl (fun factions e =>
      if e.canHaveReputation then factions.insert e.repListID ⟨e.id, t.getDefaultStateFlags e, 0, true⟩ else factions) .empty }

def setVisible (factionEntry : Nat) : ReputationMgr :=
  match t.getFactionEntry factionEntry with
  | none => m
  | some e =>
    if e.canHaveReputation then
      match m.factions.find e.repListID with
      | none => m
      | some faction => m.put e.repListID faction.setVisible
    else m

def setAtWar (repListID : Nat) (on : Bool) : ReputationMgr × Bool :=
  match m.factions.find repListID with
  | none => (m, false)
  | some faction => (m.put repListID (faction.setAtWarById on).1, (faction.setAtWarById on).2)

def setInactive (repListID : Nat) (on : Bool) : ReputationMgr :=
  match m.factions.find repListID with
  | none => m
  | some faction => m.put repListID (faction.setInactive on)

def setOneFactionReputation (hook : Nat → Int → Int) (e : FactionEntry) (standing : Int) (incremental noBase : Bool) :
    ReputationMgr × Bool :=
  match m.factions.find e.repListID with
  | none => (m, false)
  | some faction =>
    let result := faction.setOne t e (hook e.id) standing incremental noBase
    (m.put e.repListID result.1, result.2)

def spill (hook : Nat → Int → Int) (standing : Int) (incremental noBase : Bool) (m : ReputationMgr) (spillover : Spillover) :
    ReputationMgr :=
  if spillover.faction = 0 then m
  else
    match t.getFactionEntry spillover.faction with
    | none => m
    | some e =>
      if (m.getRank t e).val ≤ spillover.factionRank then
        (m.setOneFactionReputation t hook e (spillover.rate standing) incremental noBase).1
      else m

def setReputation (hook : Nat → Int → Int) (factionEntry : Nat) (standing : Int) (incremental noSpillover noBase : Bool) :
    ReputationMgr × Bool :=
  match t.getFactionEntry factionEntry with
  | none => (m, false)
  | some e =>
    let m :=
      if noSpillover then m
      else ((t.spillovers e.id).getD []).foldl (spill t hook standing incremental noBase) m
    m.setOneFactionReputation t hook e standing incremental noBase

-- set atWar for hostile
def forceAtWar (e : FactionEntry) (faction : FactionState) : FactionState :=
  match m.forcedReactions.find e.id with
  | some rank => if rank ≤ REP_HOSTILE then (faction.setAtWar true).1 else faction
  | none =>
    if reputationToRank (t.getBaseReputation e + faction.standing) ≤ REP_HOSTILE then (faction.setAtWar true).1 else faction

def restore (e : FactionEntry) (row : Row) (faction : FactionState) : FactionState :=
  let faction := m.forceAtWar t e ((faction.restoreShown row).restoreAtWar row)
  -- reset changed flag if values similar to saved in DB
  if faction.flags = row.flags then { faction with needSave := false } else faction

-- m_factions[id] of an unknown id is an empty state.
def loadRow (m : ReputationMgr) (row : Row) : ReputationMgr :=
  match t.getFactionEntry row.faction with
  | none => m
  | some e =>
    if e.canHaveReputation then
      m.put e.repListID (m.restore t e row ((m.factions.find e.repListID).getD ⟨0, 0, 0, false⟩))
    else m

def loadFromDB (result : List Row) : ReputationMgr := result.foldl (loadRow t) (m.initializeFactions t)

def saveFaction (rows : List Row) (faction : FactionState) : List Row :=
  if faction.needSave then rows.filter (fun row => row.faction ≠ faction.id) ++ [⟨faction.id, faction.standing, faction.flags⟩]
  else rows

def saveToDB (rows : List Row) : ReputationMgr × List Row :=
  ({ m with factions := ⟨m.factions.entries.map fun entry => (entry.1, { entry.2 with needSave := false }), by
      simpa only [List.pairwise_map] using m.factions.sorted⟩ },
    m.factions.entries.foldl (fun rows entry => saveFaction rows entry.2) rows)

def fresh : ReputationMgr := ⟨.empty, .empty⟩

end ReputationMgr

structure Stored where
  mgr : ReputationMgr
  rows : List Row

inductive Op
  | setReputation (hook : Nat → Int → Int) (factionEntry : Nat) (standing : Int) (incremental noSpillover noBase : Bool)
  | setAtWar (repListID : Nat) (on : Bool)
  | setInactive (repListID : Nat) (on : Bool)
  | setVisible (factionEntry : Nat)
  | save

namespace Stored

variable (t : Tables)

def load (rows : List Row) : Stored := ⟨ReputationMgr.fresh.loadFromDB t rows, rows⟩

def step (s : Stored) : Op → Stored
  | .setReputation hook factionEntry standing incremental noSpillover noBase =>
    { s with mgr := (s.mgr.setReputation t hook factionEntry standing incremental noSpillover noBase).1 }
  | .setAtWar repListID on => { s with mgr := (s.mgr.setAtWar repListID on).1 }
  | .setInactive repListID on => { s with mgr := s.mgr.setInactive repListID on }
  | .setVisible factionEntry => { s with mgr := s.mgr.setVisible t factionEntry }
  | .save => ⟨(s.mgr.saveToDB s.rows).1, (s.mgr.saveToDB s.rows).2⟩

end Stored

end TurtleWow.Reputation
