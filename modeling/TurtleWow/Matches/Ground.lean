import TurtleWow.Battlegrounds.Queue
import TurtleWow.Lib.Run

namespace TurtleWow.Matches

open Battlegrounds (Team Bracket getTeamIndexByTeamId)
open Word

inductive TypeId where
  | WS
  | AB
  | AV
  | SV
  | BR
deriving DecidableEq

inductive Status where
  | WAIT_QUEUE
  | WAIT_JOIN
  | IN_PROGRESS
  | WAIT_LEAVE
deriving DecidableEq

inductive Winner where
  | HORDE
  | ALLIANCE
  | NONE
deriving DecidableEq

def BG_EVENT_NONE : Nat := 255

def TIME_TO_AUTOREMOVE : Int := 120000

-- 20 * MINUTE * IN_MILLISECONDS
def HARD_TIME_LIMIT : Nat := 1200000

def getOtherTeam : Team → Team
  | .ALLIANCE => .HORDE
  | .HORDE => .ALLIANCE

@[simp] theorem getOtherTeam_getOtherTeam (team : Team) : getOtherTeam (getOtherTeam team) = team := by
  cases team <;> rfl

@[simp] theorem getOtherTeam_ne (team : Team) : getOtherTeam team ≠ team := by cases team <;> nofun

@[simp] theorem ne_getOtherTeam (team : Team) : team ≠ getOtherTeam team := by cases team <;> nofun

theorem eq_getOtherTeam_of_ne {team other : Team} (h : team ≠ other) : team = getOtherTeam other := by
  cases team <;> cases other <;> simp_all [getOtherTeam]

theorem forall_team {p : Team → Prop} : (∀ team, p team) ↔ p .ALLIANCE ∧ p .HORDE :=
  ⟨fun h => ⟨h _, h _⟩, fun h team => by cases team; exacts [h.1, h.2]⟩

-- A player as the handlers are given him; `team` is Player::GetTeam.
structure Player where
  guid : Nat
  team : Team

-- What EndBattleGround gives: RewardHonorToTeam with an amount or with that of
-- GetBonusHonorFromKill, RewardReputationToTeam, the share of a level's
-- experience, and the spell of RewardMark.
inductive Reward where
  | honor (amount : Nat) (team : Team)
  | honorForKills (kills : Nat) (modified : Bool) (team : Team)
  | reputation (faction amount : Nat) (team : Team)
  | experience (guid : Nat) (factor : Rat)
  | mark (guid : Nat) (won : Bool)
deriving DecidableEq

-- One call of BattleGround::EndBattleGround, with all that was given at it.
structure Ending where
  winner : Option Team
  rewards : List Reward
deriving DecidableEq

-- The bits of m_Events.
structure StartingEvents where
  first : Bool
  second : Bool
  third : Bool
  fourth : Bool
  doorsDespawned : Bool
deriving DecidableEq

-- The members of BattleGround, those of the derived class in `own`. The keys of
-- m_PlayerScores are those of m_Players: AddPlayer adds to both and
-- RemovePlayerAtLeave erases from both. `packets` is what UpdateWorldState has
-- sent to all players, `endings` the calls of EndBattleGround.
structure BattleGround (δ : Type) where
  bracketId : Bracket
  status : Status
  winner : Winner
  startTime : Nat
  endTime : Int
  startDelayTime : Int
  events : StartingEvents
  prematureCountDown : Bool
  prematureCountDownTimer : Nat
  players : OrderedMap Nat Team
  playersCount : Team → Nat
  teamScores : Team → Int
  activeEvents : Nat → Nat
  own : δ
  packets : List (Nat × Nat)
  endings : List Ending
  deleted : Bool

-- What the end of a match reads of the world: who has a Player object, levels,
-- the challenges that exclude from experience, and IsBGWeekend.
structure View where
  found : Nat → Bool
  level : Nat → Nat
  barred : Nat → Bool
  weekend : Bool

-- One call of Update. `invited`: GetInvitedCount of some team is not 0.
structure Tick where
  view : View
  diff : Nat
  invited : Bool
  prematureFinishTime : Nat
  minPlayersPerTeam : Nat
  maxPlayers : Nat
  testing : Bool
  setup : Bool

structure StartDelayTimes where
  first : Int
  second : Int
  third : Int
  fourth : Int

def usualStartDelayTimes : StartDelayTimes := ⟨120000, 60000, 30000, 0⟩

def shortStartDelayTimes : StartDelayTimes := ⟨60000, 30000, 15000, 0⟩

-- The virtual functions that the base class calls.
structure Methods (δ : Type) where
  typeId : TypeId
  startDelayTimes : StartDelayTimes
  getWinningTeam : BattleGround δ → Option Team
  endBattleGround : View → Option Team → BattleGround δ → BattleGround δ
  startingEventOpenDoors : BattleGround δ → BattleGround δ
  removePlayer : Nat → Option Team → Option Nat → BattleGround δ → BattleGround δ

namespace BattleGround

variable {δ : Type}

-- After Reset and SetStatus(STATUS_WAIT_JOIN).
def opening (bracketId : Bracket) (teamScores : Team → Int) (activeEvents : Nat → Nat) (own : δ) : BattleGround δ where
  bracketId := bracketId
  status := .WAIT_JOIN
  winner := .NONE
  startTime := 0
  endTime := 0
  startDelayTime := 0
  events := ⟨false, false, false, false, false⟩
  prematureCountDown := false
  prematureCountDownTimer := 0
  players := .empty
  playersCount := fun _ => 0
  teamScores := teamScores
  activeEvents := activeEvents
  own := own
  packets := []
  endings := []
  deleted := false

section

variable (bg : BattleGround δ)

def updateWorldState (field value : Nat) : BattleGround δ :=
  { bg with packets := bg.packets ++ [(field, value)] }

def setActive (event1 event2 : Nat) : BattleGround δ :=
  { bg with activeEvents := Function.update bg.activeEvents event1 event2 }

-- SpawnEvent with spawn = false. What it does to creatures and objects, also
-- `delay` and `forced_despawn`, has no part in m_ActiveEvents.
def despawnEvent (event1 event2 : Nat) : BattleGround δ :=
  if event2 = BG_EVENT_NONE ∨ bg.activeEvents event1 ≠ event2 then bg else bg.setActive event1 BG_EVENT_NONE

-- SpawnEvent with spawn = true.
def spawnEvent (event1 event2 : Nat) : BattleGround δ :=
  if event2 = BG_EVENT_NONE ∨ bg.activeEvents event1 = event2 then bg
  else (bg.despawnEvent event1 (bg.activeEvents event1)).setActive event1 event2

theorem spawnEvent_eq (event1 : Nat) {event2 : Nat} (h : event2 ≠ BG_EVENT_NONE) :
    bg.spawnEvent event1 event2 = bg.setActive event1 event2 := by
  unfold spawnEvent despawnEvent
  split
  · rename_i hactive
    obtain rfl := hactive.resolve_left h
    simp [setActive]
  · split <;> simp [setActive]

theorem despawnEvent_eq (event1 : Nat) {event2 : Nat} (h : event2 ≠ BG_EVENT_NONE) : bg.despawnEvent event1 event2 =
      bg.setActive event1 (if bg.activeEvents event1 = event2 then BG_EVENT_NONE else bg.activeEvents event1) := by
  unfold despawnEvent
  by_cases hactive : bg.activeEvents event1 = event2
  · rw [if_neg (by simp [h, hactive]), if_pos hactive]
  · rw [if_pos (.inr hactive), if_neg hactive]
    simp [setActive]

@[simp] theorem spawnEvent_zero (event1 : Nat) : bg.spawnEvent event1 0 = bg.setActive event1 0 :=
  bg.spawnEvent_eq event1 (by decide)

@[simp] theorem despawnEvent_zero (event1 : Nat) : bg.despawnEvent event1 0 =
      bg.setActive event1 (if bg.activeEvents event1 = 0 then BG_EVENT_NONE else bg.activeEvents event1) :=
  bg.despawnEvent_eq event1 (by decide)

def rewardExperience (typeId : TypeId) (v : View) (winner : Option Team) (entry : Nat × Team) : List Reward :=
  if v.found entry.1 && !v.barred entry.1 then
    let factor : Rat := if some entry.2 = winner then 1 / 20 else 1 / 40
    let factor := if v.level entry.1 > 20 then factor / (v.level entry.1 / 10) else factor
    let factor := if typeId = .BR then factor / 3 else factor
    [.experience entry.1 factor]
  else []

def rewardMark (v : View) (winner : Option Team) (entry : Nat × Team) : List Reward :=
  if v.found entry.1 then [.mark entry.1 (decide (some entry.2 = winner))] else []

def winnerOf : Option Team → Winner
  | some .ALLIANCE => .ALLIANCE
  | some .HORDE => .HORDE
  | none => .NONE

-- BattleGround::EndBattleGround. `given` is what the derived class has given
-- before it calls this.
def finish (typeId : TypeId) (v : View) (winner : Option Team) (given : List Reward) : BattleGround δ :=
  let rewards := bg.players.entries.flatMap (rewardExperience typeId v winner) ++
    bg.players.entries.flatMap (rewardMark v winner)
  { bg with
    winner := winnerOf winner
    status := .WAIT_LEAVE
    endTime := if typeId = .BR then 15000 else TIME_TO_AUTOREMOVE
    endings := bg.endings ++ [⟨winner, given ++ rewards⟩] }

def endNow : BattleGround δ := { bg with status := .WAIT_LEAVE, endTime := 0 }

-- BattleGround::AddPlayer.
def addPlayer (player : Player) : BattleGround δ :=
  { bg with
    players := bg.players.insert player.guid player.team
    playersCount := Function.update bg.playersCount player.team (add32 (bg.playersCount player.team) 1) }

def erasePlayer (guid : Nat) : BattleGround δ :=
  match bg.players.find guid with
  | some team =>
    { bg with
      players := bg.players.erase guid
      playersCount := Function.update bg.playersCount team (sub32 (bg.playersCount team) 1) }
  | none => bg

end

-- `plr` is the team of the Player object, when there is one, and `summoned` the
-- object that a spell cast by the derived class creates.
def removePlayerAtLeave (m : Methods δ) (guid : Nat) (plr : Option Team) (summoned : Option Nat) (bg : BattleGround δ) :
    BattleGround δ := m.removePlayer guid plr summoned (bg.erasePlayer guid)

-- The end of a battleground that has been left alone for two minutes.
def removeAll (m : Methods δ) (t : Tick) (bg : BattleGround δ) : BattleGround δ :=
  let bg := bg.players.entries.foldl
    (fun bg entry => bg.removePlayerAtLeave m entry.1 (if t.view.found entry.1 then some entry.2 else none) none) bg
  { bg with deleted := true }

def timeIsUp (bg : BattleGround δ) (typeId : TypeId) : Bool :=
  decide (bg.status = .IN_PROGRESS) && (decide (typeId = .WS) || decide (typeId = .AB)) &&
    decide (bg.startTime > HARD_TIME_LIMIT)

def timeLimit (m : Methods δ) (t : Tick) (bg : BattleGround δ) : BattleGround δ :=
  if bg.timeIsUp m.typeId then m.endBattleGround t.view (m.getWinningTeam bg) bg else bg

def tooFew (bg : BattleGround δ) (typeId : TypeId) (t : Tick) : Bool :=
  decide (typeId ≠ .BR) && decide (bg.status = .IN_PROGRESS) && decide (t.prematureFinishTime ≠ 0) &&
    (decide (bg.playersCount .ALLIANCE < t.minPlayersPerTeam) || decide (bg.playersCount .HORDE < t.minPlayersPerTeam))

def prematureFinish (m : Methods δ) (t : Tick) (bg : BattleGround δ) : BattleGround δ :=
  if bg.tooFew m.typeId t then
    if !bg.prematureCountDown then
      { bg with prematureCountDown := true, prematureCountDownTimer := t.prematureFinishTime }
    else if bg.prematureCountDownTimer < t.diff then
      { m.endBattleGround t.view (m.getWinningTeam bg) bg with prematureCountDown := false }
    else if !t.testing then { bg with prematureCountDownTimer := sub32 bg.prematureCountDownTimer t.diff }
    else bg
  else if bg.prematureCountDown then { bg with prematureCountDown := false }
  else bg

-- The starting system. The second component says that Update returns there.
def starting (m : Methods δ) (t : Tick) (bg : BattleGround δ) : BattleGround δ × Bool :=
  if bg.status = .WAIT_JOIN then
    let bg := { bg with startDelayTime := i32 (bg.startDelayTime - t.diff) }
    if !bg.events.first then
      let bg := { bg with events := { bg.events with first := true } }
      if !t.setup then (bg.endNow, true) else ({ bg with startDelayTime := m.startDelayTimes.first }, false)
    else if bg.startDelayTime ≤ m.startDelayTimes.second && !bg.events.second then
      ({ bg with events := { bg.events with second := true } }, false)
    else if bg.startDelayTime ≤ m.startDelayTimes.third && !bg.events.third then
      ({ bg with events := { bg.events with third := true } }, false)
    else if bg.startDelayTime ≤ 0 && !bg.events.fourth then
      let bg := { bg with events := { bg.events with fourth := true } }
      if m.typeId = .BR && bg.players.size < t.maxPlayers && !t.testing then (bg.endNow, true)
      else
        ({ m.startingEventOpenDoors bg with
            status := .IN_PROGRESS
            startDelayTime := m.startDelayTimes.fourth }, false)
    else (bg, false)
  else (bg, false)

-- The doors are despawned three minutes after the setup, and time goes on.
def passTime (t : Tick) (bg : BattleGround δ) : BattleGround δ :=
  let bg :=
    if !bg.events.doorsDespawned && bg.status = .IN_PROGRESS && bg.startTime > 180000 then
      { bg with events := { bg.events with doorsDespawned := true } }
    else bg
  { bg with startTime := add32 bg.startTime t.diff }

-- BattleGround::Update.
def update (m : Methods δ) (t : Tick) (bg : BattleGround δ) : BattleGround δ :=
  let bg := if bg.status = .WAIT_LEAVE then { bg with endTime := i32 (bg.endTime - t.diff) } else bg
  if bg.status = .WAIT_LEAVE ∧ bg.endTime ≤ 0 then removeAll m t { bg with endTime := 0 }
  else if bg.players.size = 0 then
    if t.invited then bg else { bg with deleted := true }
  else
    let started := starting m t (prematureFinish m t (timeLimit m t bg))
    if started.2 then started.1 else passTime t started.1

-- The commands .bg start and .bg stop.
def commence (bg : BattleGround δ) : BattleGround δ := { bg with startDelayTime := 0 }

def stopBattleGround (bg : BattleGround δ) : BattleGround δ :=
  { bg with prematureCountDown := true, prematureCountDownTimer := 100 }

end BattleGround

end TurtleWow.Matches
