import TurtleWow.Matches.Ground

namespace TurtleWow.Matches

open Battlegrounds (Team Bracket getTeamIndexByTeamId)
open Word

inductive FlagState where
  | ON_BASE
  | WAIT_RESPAWN
  | ON_PLAYER
  | ON_GROUND
deriving DecidableEq

def BG_WS_MAX_TEAM_SCORE : Nat := 3

def BG_WS_FLAG_RESPAWN_TIME : Int := 23000

def BG_WS_FLAG_DROP_TIME : Int := 10000

def WS_EVENT_SPIRITGUIDES_SPAWN : Nat := 2

-- WS_EVENT_FLAG_A and WS_EVENT_FLAG_H.
def flagEvent : Team → Nat
  | .ALLIANCE => 0
  | .HORDE => 1

-- WS_ALLIANCE_FLAG_GROUND and WS_HORDE_FLAG_GROUND.
def flagGroundEntry : Team → Nat
  | .ALLIANCE => 179785
  | .HORDE => 179786

-- AREATRIGGER_ALLIANCE_FLAG_SPAWN and AREATRIGGER_HORDE_FLAG_SPAWN.
def flagSpawnTrigger : Team → Nat
  | .ALLIANCE => 3646
  | .HORDE => 3647

-- BG_WS_FLAG_UNK_*.
def flagUnkField : Team → Nat
  | .ALLIANCE => 1545
  | .HORDE => 1546

-- BG_WS_FLAG_CAPTURES_*.
def flagCapturesField : Team → Nat
  | .ALLIANCE => 1581
  | .HORDE => 1582

def BG_WS_FLAG_CAPTURES_MAX : Nat := 1601

-- BG_WS_FLAG_STATE_*.
def flagStateField : Team → Nat
  | .HORDE => 2338
  | .ALLIANCE => 2339

def BG_WSG_WinMatchHonor : List Nat := [5, 1, 2, 4, 7, 11, 19, 20]

def BG_WSG_WinMatchHonorHolidays : List Nat := [5, 2, 5, 8, 14, 23, 38, 40]

def BG_WSG_WinMatchHonorBonusCompleteHolidays : List Nat := [10, 3, 7, 12, 20, 34, 57, 59]

-- The members of BattleGroundWS that are arrays over the teams: what they hold of
-- one team's flag. `grounded` are the dropped flag objects that are on the map.
structure Flag where
  keeper : Option Nat
  droppedGuid : Option Nat
  state : FlagState
  timer : Int
  dropTimer : Int
  grounded : List Nat

-- A capture that counted: who made it, and how the flags were when he did.
structure Capture where
  source : Player
  flags : Team → Flag

structure Warsong where
  flags : Team → Flag
  captures : List Capture

abbrev BattleGroundWS := BattleGround Warsong

-- The object a player clicks on; `event1` is that of GetGameObjectEventIndex, whose
-- table does not have the objects that spells create.
structure GameObject where
  guid : Nat
  entry : Nat
  event1 : Nat
  summoned : ∀ flag, entry = flagGroundEntry flag → event1 = BG_EVENT_NONE

-- What a handler asks the map: `near` is IsWithinDistInMap of the clicked object,
-- `inZone team guid` whether the player is found inside the area trigger of that
-- team's flag.
structure Surroundings where
  view : View
  near : Bool
  inZone : Team → Nat → Bool

namespace BattleGroundWS

def opening (bracketId : Bracket) : BattleGroundWS :=
  BattleGround.opening bracketId (fun _ => 0) (fun _ => BG_EVENT_NONE)
    ⟨fun _ => ⟨none, none, .ON_BASE, 0, 0, []⟩, []⟩

section

variable (bg : BattleGroundWS)

section

variable (flag : Team)

def modifyFlag (change : Flag → Flag) : BattleGroundWS :=
  { bg with own.flags := Function.update bg.own.flags flag (change (bg.own.flags flag)) }

def setFlagState (state : FlagState) : BattleGroundWS :=
  modifyFlag bg flag fun f => { f with state := state }

def setFlagPicker (picker : Option Nat) : BattleGroundWS :=
  modifyFlag bg flag fun f => { f with keeper := picker }

def setFlagsTimer (timer : Int) : BattleGroundWS :=
  modifyFlag bg flag fun f => { f with timer := timer }

def setFlagsDropTimer (timer : Int) : BattleGroundWS :=
  modifyFlag bg flag fun f => { f with dropTimer := timer }

def setDroppedFlagGuid (guid : Option Nat) : BattleGroundWS :=
  modifyFlag bg flag fun f => { f with droppedGuid := guid }

-- GameObject::Delete of a dropped flag.
def deleteGrounded (guid : Nat) : BattleGroundWS :=
  modifyFlag bg flag fun f => { f with grounded := f.grounded.filter (· ≠ guid) }

end

def getTeamScore (team : Team) : Nat := toU32 (bg.teamScores team)

def addPoint (team : Team) : BattleGroundWS :=
  { bg with teamScores := Function.update bg.teamScores team (bg.teamScores team + 1) }

def getWinningTeam : Option Team :=
  if bg.getTeamScore .ALLIANCE = bg.getTeamScore .HORDE then none
  else if bg.getTeamScore .ALLIANCE > bg.getTeamScore .HORDE then some .ALLIANCE else some .HORDE

end

def endBattleGround (v : View) (winner : Option Team) (bg : BattleGroundWS) : BattleGroundWS :=
  let bonus := BG_WSG_WinMatchHonorBonusCompleteHolidays.getD bg.bracketId 0
  let completed := if v.weekend then [.honor bonus .ALLIANCE, .honor bonus .HORDE] else []
  let won := match winner with
    | some team =>
      Reward.honor (BG_WSG_WinMatchHonor.getD bg.bracketId 0) team ::
        if v.weekend then [.honor (BG_WSG_WinMatchHonorHolidays.getD bg.bracketId 0) team] else []
    | none => []
  bg.finish .WS v winner (completed ++ won)

section

variable (bg : BattleGroundWS)

def updateFlagState (team : Team) (value : Nat) : BattleGroundWS :=
  bg.updateWorldState (flagStateField team) value

def updateTeamScore (team : Team) : BattleGroundWS :=
  bg.updateWorldState (flagCapturesField team) (bg.getTeamScore team)

def respawnFlag (flag : Team) (captured : Bool) : BattleGroundWS :=
  let bg := (bg.setFlagState flag .ON_BASE).spawnEvent (flagEvent flag) 0
  if captured then (bg.spawnEvent (flagEvent .ALLIANCE) 0).spawnEvent (flagEvent .HORDE) 0 else bg

-- The winner of EventPlayerCapturedFlag.
def scoreWinner : Option Team :=
  if bg.getTeamScore .HORDE = BG_WS_MAX_TEAM_SCORE then some .HORDE
  else if bg.getTeamScore .ALLIANCE = BG_WS_MAX_TEAM_SCORE then some .ALLIANCE
  else none

end

def logCapture (source : Player) (bg : BattleGroundWS) : BattleGroundWS :=
  let capture : Capture := ⟨source, bg.own.flags⟩
  { bg with own.captures := bg.own.captures ++ [capture] }

-- EventPlayerCapturedFlag up to the score. Taking the flag aura off calls
-- EventPlayerDroppedFlag again, which finds no keeper any more.
def takePoint (source : Player) (bg : BattleGroundWS) : BattleGroundWS :=
  let flag := getOtherTeam source.team
  let bg := setFlagState (setFlagPicker (logCapture source bg) flag none) flag .WAIT_RESPAWN
  let bg := if getTeamScore bg source.team < BG_WS_MAX_TEAM_SCORE then addPoint bg source.team else bg
  let bg := (bg.despawnEvent (flagEvent .ALLIANCE) 0).despawnEvent (flagEvent .HORDE) 0
  updateTeamScore (updateFlagState bg source.team 1) source.team

def clearWorldStates (bg : BattleGroundWS) : BattleGroundWS :=
  (((bg.updateWorldState (flagUnkField .ALLIANCE) 0).updateWorldState (flagUnkField .HORDE) 0).updateWorldState
    (flagStateField .ALLIANCE) 1).updateWorldState (flagStateField .HORDE) 1

def eventPlayerCapturedFlag (v : View) (source : Player) (bg : BattleGroundWS) : BattleGroundWS :=
  let flag := getOtherTeam source.team
  if bg.status ≠ .IN_PROGRESS ∨ (bg.own.flags flag).keeper = none then bg
  else
    let bg := takePoint source bg
    match scoreWinner bg with
    | some winner => endBattleGround v (some winner) (clearWorldStates bg)
    | none => setFlagsTimer bg flag BG_WS_FLAG_RESPAWN_TIME

-- HandleAreaTrigger at the flag spawns; the two portals make the player leave,
-- and the other triggers have no effect.
def handleAreaTrigger (v : View) (source : Player) (trigger : Nat) (bg : BattleGroundWS) : BattleGroundWS :=
  let captures (flag : Team) :=
    (bg.own.flags (getOtherTeam flag)).state ≠ .ON_BASE ∧ (bg.own.flags flag).state = .ON_BASE ∧
      (bg.own.flags (getOtherTeam flag)).keeper = some source.guid
  if bg.status ≠ .IN_PROGRESS then bg
  else if trigger = flagSpawnTrigger .ALLIANCE then
    if captures .ALLIANCE then eventPlayerCapturedFlag v source bg else bg
  else if trigger = flagSpawnTrigger .HORDE then
    if captures .HORDE then eventPlayerCapturedFlag v source bg else bg
  else bg

section

variable (w : Surroundings)

-- The keeper of the opposite flag has a Player object on the map when he is
-- found in the zone; he is of the team whose flag has come back.
def forceFlagAreaTrigger (flag : Team) (bg : BattleGroundWS) : BattleGroundWS :=
  match (bg.own.flags (getOtherTeam flag)).keeper with
  | some keeper =>
    if w.inZone flag keeper then
      match bg.players.find keeper with
      | some team => handleAreaTrigger w.view ⟨keeper, team⟩ (flagSpawnTrigger flag) bg
      | none => bg
    else bg
  | none => bg

def respawnFlagAfterDrop (flag : Team) (bg : BattleGroundWS) : BattleGroundWS :=
  if bg.status ≠ .IN_PROGRESS then bg
  else
    let bg := respawnFlag bg flag false
    let bg := match (bg.own.flags flag).droppedGuid with
      | some guid => deleteGrounded bg flag guid
      | none => bg
    forceFlagAreaTrigger w flag (setDroppedFlagGuid bg flag none)

-- EffectSummonObjectWild of the dropped flag, where the spell succeeds.
def summonDroppedFlag (flag : Team) (summoned : Option Nat) (bg : BattleGroundWS) : BattleGroundWS :=
  match summoned with
  | some guid => modifyFlag bg flag fun f => { f with grounded := guid :: f.grounded, droppedGuid := some guid }
  | none => bg

def eventPlayerDroppedFlag (source : Player) (summoned : Option Nat) (bg : BattleGroundWS) : BattleGroundWS :=
  let flag := getOtherTeam source.team
  if (bg.own.flags flag).keeper = some source.guid then
    let cleared := setFlagPicker bg flag none
    if bg.status ≠ .IN_PROGRESS then cleared
    else
      let bg := summonDroppedFlag flag summoned (setFlagState cleared flag .ON_GROUND)
      let bg := (updateFlagState bg source.team 1).updateWorldState (flagUnkField flag) (toU32 (-1))
      setFlagsDropTimer bg flag BG_WS_FLAG_DROP_TIME
  else bg

-- The flag goes to the player, from its base or from the ground.
def pickUpFlag (flag : Team) (source : Player) (bg : BattleGroundWS) : BattleGroundWS :=
  let bg := setFlagPicker (bg.despawnEvent (flagEvent flag) 0) flag (some source.guid)
  (updateFlagState (setFlagState bg flag .ON_PLAYER) (getOtherTeam flag) 2).updateWorldState (flagUnkField flag) 1

def pickUpFromBase (flag : Team) (source : Player) (target : GameObject) (bg : BattleGroundWS) : BattleGroundWS :=
  if source.team = getOtherTeam flag ∧ (bg.own.flags flag).state = .ON_BASE ∧ target.event1 = flagEvent flag then
    pickUpFlag flag source bg
  else bg

def touchOnGround (flag : Team) (source : Player) (target : GameObject) (bg : BattleGroundWS) : BattleGroundWS :=
  if (bg.own.flags flag).state = .ON_GROUND ∧ w.near = true ∧ target.entry = flagGroundEntry flag then
    if source.team = flag then
      forceFlagAreaTrigger w flag (respawnFlag (updateFlagState bg (getOtherTeam flag) 1) flag false)
    else pickUpFlag flag source bg
  else bg

def eventPlayerClickedOnFlag (source : Player) (target : GameObject) (bg : BattleGroundWS) : BattleGroundWS :=
  if bg.status ≠ .IN_PROGRESS then bg
  else
    touchOnGround w .HORDE source target (touchOnGround w .ALLIANCE source target
      (pickUpFromBase .HORDE source target (pickUpFromBase .ALLIANCE source target bg)))

-- A click as the spell effect or the object's Use makes it: a dropped flag is
-- deleted afterwards, whatever the battleground has done.
def useFlag (source : Player) (target : GameObject) (bg : BattleGroundWS) : BattleGroundWS :=
  let bg := eventPlayerClickedOnFlag w source target bg
  if target.entry = flagGroundEntry .ALLIANCE then deleteGrounded bg .ALLIANCE target.guid
  else if target.entry = flagGroundEntry .HORDE then deleteGrounded bg .HORDE target.guid
  else bg

def removeKeeper (flag : Team) (guid : Nat) (plr : Option Team) (summoned : Option Nat) (bg : BattleGroundWS) :
    BattleGroundWS :=
  if (bg.own.flags flag).keeper = some guid then
    match plr with
    | none => respawnFlag (setFlagPicker bg flag none) flag false
    | some team => eventPlayerDroppedFlag ⟨guid, team⟩ summoned bg
  else bg

def removePlayer (guid : Nat) (plr : Option Team) (summoned : Option Nat) (bg : BattleGroundWS) : BattleGroundWS :=
  removeKeeper .HORDE guid plr summoned (removeKeeper .ALLIANCE guid plr summoned bg)

-- One flag's part of Update; the timers are int32, `diff` is uint32.
def updateWaiting (flag : Team) (diff : Nat) (bg : BattleGroundWS) : BattleGroundWS :=
  if (bg.own.flags flag).state = .WAIT_RESPAWN then
    let timer := i32 ((bg.own.flags flag).timer - diff)
    if timer < 0 then respawnFlag (setFlagsTimer bg flag 0) flag true else setFlagsTimer bg flag timer
  else bg

def updateDropped (flag : Team) (diff : Nat) (bg : BattleGroundWS) : BattleGroundWS :=
  if (bg.own.flags flag).state = .ON_GROUND then
    let timer := i32 ((bg.own.flags flag).dropTimer - diff)
    if timer < 0 then respawnFlagAfterDrop w flag (setFlagsDropTimer bg flag 0) else setFlagsDropTimer bg flag timer
  else bg

def updateFlag (flag : Team) (diff : Nat) (bg : BattleGroundWS) : BattleGroundWS :=
  updateDropped w flag diff (updateWaiting flag diff bg)

def startingEventOpenDoors (bg : BattleGroundWS) : BattleGroundWS :=
  ((bg.spawnEvent WS_EVENT_SPIRITGUIDES_SPAWN 0).spawnEvent (flagEvent .ALLIANCE) 0).spawnEvent (flagEvent .HORDE) 0

def methods : Methods Warsong where
  typeId := .WS
  startDelayTimes := usualStartDelayTimes
  getWinningTeam := getWinningTeam
  endBattleGround := endBattleGround
  startingEventOpenDoors := startingEventOpenDoors
  removePlayer := removePlayer

def update (t : Tick) (bg : BattleGroundWS) : BattleGroundWS :=
  let bg := if bg.status = .IN_PROGRESS then updateFlag w .HORDE t.diff (updateFlag w .ALLIANCE t.diff bg) else bg
  BattleGround.update methods t bg

end

def handleKillPlayer (victim : Player) (summoned : Option Nat) (bg : BattleGroundWS) : BattleGroundWS :=
  if bg.status ≠ .IN_PROGRESS then bg else eventPlayerDroppedFlag victim summoned bg

-- What FillInitialWorldStates sends for FLAG_UNK_* and FLAG_STATE_*.
def unkValue : FlagState → Nat
  | .ON_GROUND => toU32 (-1)
  | .ON_PLAYER => 1
  | _ => 0

def flagStateValue : FlagState → Nat
  | .ON_PLAYER => 2
  | _ => 1

def fillInitialWorldStates (bg : BattleGroundWS) : List (Nat × Nat) :=
  [(flagCapturesField .ALLIANCE, bg.getTeamScore .ALLIANCE),
    (flagCapturesField .HORDE, bg.getTeamScore .HORDE),
    (flagUnkField .ALLIANCE, unkValue (bg.own.flags .ALLIANCE).state),
    (flagUnkField .HORDE, unkValue (bg.own.flags .HORDE).state),
    (BG_WS_FLAG_CAPTURES_MAX, BG_WS_MAX_TEAM_SCORE),
    (flagStateField .ALLIANCE, flagStateValue (bg.own.flags .HORDE).state),
    (flagStateField .HORDE, flagStateValue (bg.own.flags .ALLIANCE).state)]

-- `summoned` is the object of a dropped flag, `vanished` the end of one that no
-- handler has deleted.
inductive Op where
  | added (player : Player)
  | removed (guid : Nat) (plr : Option Team) (summoned : Option Nat)
  | clicked (w : Surroundings) (source : Player) (target : GameObject)
  | dropped (source : Player) (summoned : Option Nat)
  | killed (victim : Player) (summoned : Option Nat)
  | areaTrigger (v : View) (source : Player) (trigger : Nat)
  | vanished (flag : Team) (guid : Nat)
  | ticked (w : Surroundings) (t : Tick)
  | commenced
  | stopped

def perform (bg : BattleGroundWS) : Op → BattleGroundWS
  | .added player => bg.addPlayer player
  | .removed guid plr summoned => bg.removePlayerAtLeave methods guid plr summoned
  | .clicked w source target => useFlag w source target bg
  | .dropped source summoned => eventPlayerDroppedFlag source summoned bg
  | .killed victim summoned => handleKillPlayer victim summoned bg
  | .areaTrigger v source trigger => handleAreaTrigger v source trigger bg
  | .vanished flag guid => deleteGrounded bg flag guid
  | .ticked w t => update w t bg
  | .commenced => bg.commence
  | .stopped => bg.stopBattleGround

-- Nothing happens to a battleground that has deleted itself.
def step (bg : BattleGroundWS) (op : Op) : BattleGroundWS := if bg.deleted then bg else perform bg op

end BattleGroundWS

end TurtleWow.Matches
