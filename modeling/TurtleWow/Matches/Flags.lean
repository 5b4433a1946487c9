import TurtleWow.Matches.Endings

namespace TurtleWow.Matches

open Battlegrounds (Team Bracket)
open Word

-- One flag of a match in progress. `touched` are the dropped flags that have been
-- clicked on and are about to be deleted, `event2` is the active event of the
-- flag's base object.
structure Flag.Sound (touched : Nat → Prop) (event2 : Nat) (f : Flag) : Prop where
  carried : f.keeper = none ↔ f.state ≠ .ON_PLAYER
  spawned : event2 = 0 → f.state = .ON_BASE
  grounded : ∀ guid ∈ f.grounded, touched guid ∨ f.droppedGuid = some guid ∧ f.state = .ON_GROUND
  respawning : f.state = .WAIT_RESPAWN → 0 ≤ f.timer ∧ f.timer < 2147483648
  lying : f.state = .ON_GROUND → 0 ≤ f.dropTimer ∧ f.dropTimer < 2147483648

-- The carrier of the enemy flag made it, and his own flag was at its base.
structure Capture.Proper (c : Capture) : Prop where
  carrier : (c.flags (getOtherTeam c.source.team)).keeper = some c.source.guid
  away : (c.flags (getOtherTeam c.source.team)).state = .ON_PLAYER
  home : (c.flags c.source.team).state = .ON_BASE

@[simp] theorem flagEvent_getOtherTeam_ne (flag : Team) : flagEvent (getOtherTeam flag) ≠ flagEvent flag := by
  cases flag <;> decide

theorem eq_or_eq_getOtherTeam (team other : Team) : other = team ∨ other = getOtherTeam team := by
  cases team <;> cases other <;> simp [getOtherTeam]

namespace BattleGroundWS

-- What holds at all times of a match.
structure Held (bg : BattleGroundWS) : Prop where
  keepers : ∀ flag guid, (bg.own.flags flag).keeper = some guid → bg.players.find guid = some (getOtherTeam flag)
  scores : ∀ team, bg.teamScores team = bg.own.captures.countP fun c => decide (c.source.team = team)
  captures : ∀ c ∈ bg.own.captures, c.Proper

-- While one flag waits for its respawn, the other is at its base and its object
-- is not spawned either, so that nobody can take it.
structure InPlay (touched : Team → Nat → Prop) (bg : BattleGroundWS) : Prop where
  sound : ∀ flag, (bg.own.flags flag).Sound (touched flag) (bg.activeEvents (flagEvent flag))
  waiting : ∀ flag, (bg.own.flags flag).state = .WAIT_RESPAWN →
    (bg.own.flags (getOtherTeam flag)).state = .ON_BASE ∧ bg.activeEvents (flagEvent (getOtherTeam flag)) ≠ 0
  below : ∀ team, bg.teamScores team < 3

structure Good (touched : Team → Nat → Prop) (bg : BattleGroundWS) : Prop where
  held : bg.Held
  inPlay : bg.status = .IN_PROGRESS → bg.InPlay touched

-- What the work on the flags does to the members of the base class: the match
-- ends at three captures.
structure Plays (bg bg' : BattleGroundWS) : Prop where
  players : bg'.players = bg.players
  deleted : bg'.deleted = bg.deleted
  startTime : bg'.startTime = bg.startTime
  playersCount : bg'.playersCount = bg.playersCount
  prematureCountDown : bg'.prematureCountDown = bg.prematureCountDown
  prematureCountDownTimer : bg'.prematureCountDownTimer = bg.prematureCountDownTimer
  scores : bg.status ≠ .IN_PROGRESS → bg'.teamScores = bg.teamScores
  status : bg'.status = bg.status ∨
    bg.status = .IN_PROGRESS ∧ bg'.status = .WAIT_LEAVE ∧ ∃ team, bg'.teamScores team = 3

theorem Plays.refl (bg : BattleGroundWS) : bg.Plays bg := ⟨rfl, rfl, rfl, rfl, rfl, rfl, fun _ => rfl, .inl rfl⟩

theorem Plays.trans {bg bg' bg'' : BattleGroundWS} (h : bg.Plays bg') (h' : bg'.Plays bg'') : bg.Plays bg'' where
  players := h'.players.trans h.players
  deleted := h'.deleted.trans h.deleted
  startTime := h'.startTime.trans h.startTime
  playersCount := h'.playersCount.trans h.playersCount
  prematureCountDown := h'.prematureCountDown.trans h.prematureCountDown
  prematureCountDownTimer := h'.prematureCountDownTimer.trans h.prematureCountDownTimer
  scores := fun hstatus => by
    have hsame := h.status.resolve_right fun hends => hstatus hends.1
    exact (h'.scores (hsame ▸ hstatus)).trans (h.scores hstatus)
  status := by
    rcases h.status with hstatus | ⟨hbefore, hafter, team, hteam⟩
    · rw [← hstatus]
      exact h'.status
    · have hover : bg'.status ≠ .IN_PROGRESS := by rw [hafter]; nofun
      have hsame := h'.status.resolve_right fun hends => hover hends.1
      exact .inr ⟨hbefore, hsame.trans hafter, team, by rw [h'.scores hover]; exact hteam⟩

def Handles (touched : Team → Nat → Prop) (bg bg' : BattleGroundWS) : Prop :=
  bg.Good touched → bg'.Good touched ∧ bg.Plays bg'

theorem Handles.refl (touched : Team → Nat → Prop) (bg : BattleGroundWS) : Handles touched bg bg :=
  fun h => ⟨h, .refl bg⟩

theorem Handles.trans {touched : Team → Nat → Prop} {bg bg' bg'' : BattleGroundWS} (h : Handles touched bg bg')
    (h' : Handles touched bg' bg'') : Handles touched bg bg'' := fun hgood =>
  ⟨(h' (h hgood).1).1, (h hgood).2.trans (h' (h hgood).1).2⟩

-- A handler that changes one flag and the active event of its base object, and
-- nothing else.
structure Changes (bg bg' : BattleGroundWS) (flag : Team) (f : Flag) (event2 : Nat) : Prop where
  flags : bg'.own.flags flag = f
  active : bg'.activeEvents (flagEvent flag) = event2
  others : bg'.own.flags (getOtherTeam flag) = bg.own.flags (getOtherTeam flag)
  activeOthers : bg'.activeEvents (flagEvent (getOtherTeam flag)) = bg.activeEvents (flagEvent (getOtherTeam flag))
  captures : bg'.own.captures = bg.own.captures
  scores : bg'.teamScores = bg.teamScores
  status : bg'.status = bg.status
  players : bg'.players = bg.players
  deleted : bg'.deleted = bg.deleted
  startTime : bg'.startTime = bg.startTime
  playersCount : bg'.playersCount = bg.playersCount
  prematureCountDown : bg'.prematureCountDown = bg.prematureCountDown
  prematureCountDownTimer : bg'.prematureCountDownTimer = bg.prematureCountDownTimer

section

variable {touched : Team → Nat → Prop} {bg bg' : BattleGroundWS} {flag : Team} {f : Flag} {event2 : Nat}

@[simp] theorem flags_modifyFlag (change : Flag → Flag) :
    (modifyFlag bg flag change).own.flags flag = change (bg.own.flags flag) := by simp [modifyFlag]

@[simp] theorem flags_modifyFlag_other (change : Flag → Flag) :
    (modifyFlag bg flag change).own.flags (getOtherTeam flag) = bg.own.flags (getOtherTeam flag) := by simp [modifyFlag]

theorem InPlay.other_not_waiting (h : bg.InPlay touched)
    (hflag : (bg.own.flags flag).state ≠ .ON_BASE ∨ bg.activeEvents (flagEvent flag) = 0) :
    (bg.own.flags (getOtherTeam flag)).state ≠ .WAIT_RESPAWN := by
  intro hwait
  obtain ⟨hstate, hactive⟩ := h.waiting _ hwait
  rw [getOtherTeam_getOtherTeam] at hstate hactive
  exact hflag.elim (· hstate) hactive

section

variable (h : Changes bg bg' flag f event2)

include h

theorem Changes.plays : bg.Plays bg' :=
  ⟨h.players, h.deleted, h.startTime, h.playersCount, h.prematureCountDown, h.prematureCountDownTimer,
    fun _ => h.scores, .inl h.status⟩

theorem Changes.held (hheld : bg.Held)
    (hkeeper : ∀ guid, f.keeper = some guid → bg.players.find guid = some (getOtherTeam flag)) : bg'.Held where
  keepers := fun team guid hguid => by
    rw [h.players]
    rcases eq_or_eq_getOtherTeam flag team with rfl | rfl
    · exact hkeeper guid (h.flags ▸ hguid)
    · exact hheld.keepers _ guid (h.others ▸ hguid)
  scores := fun team => by rw [h.scores, h.captures]; exact hheld.scores team
  captures := fun c hc => hheld.captures c (h.captures ▸ hc)

theorem Changes.inPlay (hplay : bg.InPlay touched) (hsound : f.Sound (touched flag) event2)
    (hwaits : f.state = .WAIT_RESPAWN →
      (bg.own.flags (getOtherTeam flag)).state = .ON_BASE ∧ bg.activeEvents (flagEvent (getOtherTeam flag)) ≠ 0)
    (hother : (bg.own.flags (getOtherTeam flag)).state = .WAIT_RESPAWN → f.state = .ON_BASE ∧ event2 ≠ 0) :
    bg'.InPlay touched where
  sound := fun team => by
    rcases eq_or_eq_getOtherTeam flag team with rfl | rfl
    · rw [h.flags, h.active]
      exact hsound
    · rw [h.others, h.activeOthers]
      exact hplay.sound _
  waiting := fun team hwait => by
    rcases eq_or_eq_getOtherTeam flag team with rfl | rfl
    · rw [h.others, h.activeOthers]
      exact hwaits (h.flags ▸ hwait)
    · rw [getOtherTeam_getOtherTeam, h.flags, h.active]
      exact hother (h.others ▸ hwait)
  below := fun team => h.scores ▸ hplay.below team

end

theorem changes_pickUpFlag (source : Player) :
    Changes bg (pickUpFlag flag source bg) flag
      { bg.own.flags flag with keeper := some source.guid, state := .ON_PLAYER }
      (if bg.activeEvents (flagEvent flag) = 0 then BG_EVENT_NONE else bg.activeEvents (flagEvent flag)) := by
  constructor <;>
    simp [pickUpFlag, setFlagPicker, setFlagState, modifyFlag, updateFlagState, BattleGround.updateWorldState,
      BattleGround.setActive]

variable {source : Player}

theorem handles_pickUpFlag (hstatus : bg.status = .IN_PROGRESS)
    (hin : bg.players.find source.guid = some (getOtherTeam flag))
    (hfree : (bg.own.flags flag).state = .ON_BASE ∧ bg.activeEvents (flagEvent flag) = 0 ∨
      (bg.own.flags flag).state = .ON_GROUND ∧ ∀ guid ∈ (bg.own.flags flag).grounded, touched flag guid) :
    Handles touched bg (pickUpFlag flag source bg) := by
  intro h
  have hplay := h.inPlay hstatus
  have hchanges : Changes bg (pickUpFlag flag source bg) flag _ _ := changes_pickUpFlag source
  have hgrounded : ∀ guid ∈ (bg.own.flags flag).grounded, touched flag guid := by
    intro guid hguid
    rcases hfree with ⟨hbase, -⟩ | ⟨-, hall⟩
    · exact ((hplay.sound flag).grounded guid hguid).resolve_right fun hdropped => by simp [hbase] at hdropped
    · exact hall guid hguid
  have hother : (bg.own.flags (getOtherTeam flag)).state ≠ .WAIT_RESPAWN :=
    hplay.other_not_waiting (hfree.elim (fun hbase => .inr hbase.2) fun hground => .inl (by rw [hground.1]; nofun))
  have hsound : Flag.Sound (touched flag)
      (if bg.activeEvents (flagEvent flag) = 0 then BG_EVENT_NONE else bg.activeEvents (flagEvent flag))
      { bg.own.flags flag with keeper := some source.guid, state := .ON_PLAYER } := by
    refine ⟨by simp, fun hactive => ?_, fun guid hguid => .inl (hgrounded guid hguid), nofun, nofun⟩
    split at hactive
    · cases hactive
    · exact absurd hactive ‹_›
  refine ⟨⟨hchanges.held h.held fun guid hguid => ?_, fun _ => hchanges.inPlay hplay hsound nofun (absurd · hother)⟩,
    hchanges.plays⟩
  obtain rfl : source.guid = guid := Option.some.inj hguid
  exact hin

theorem Changes.handles (h : Changes bg bg' flag f (bg.activeEvents (flagEvent flag)))
    (hsame : f.keeper = (bg.own.flags flag).keeper ∧ f.state = (bg.own.flags flag).state)
    (hsound : bg.InPlay touched → f.Sound (touched flag) (bg.activeEvents (flagEvent flag))) : Handles touched bg bg' := by
  intro hgood
  refine ⟨⟨h.held hgood.held fun guid hguid => hgood.held.keepers flag guid (hsame.1 ▸ hguid), fun hstatus => ?_⟩, h.plays⟩
  have hplay := hgood.inPlay (h.status ▸ hstatus)
  refine h.inPlay hplay (hsound hplay) (fun hwait => hplay.waiting flag (hsame.2 ▸ hwait)) fun hwait => ?_
  have hhere := hplay.waiting _ hwait
  rw [getOtherTeam_getOtherTeam] at hhere
  exact ⟨hsame.2 ▸ hhere.1, hhere.2⟩

theorem Changes.returns (h : Changes bg bg' flag f 0) (hfrom : (bg.own.flags flag).state ≠ .ON_BASE) (hback : f.state = .ON_BASE)
    (hkeeper : f.keeper = none) (hgrounded : bg.InPlay touched → ∀ guid ∈ f.grounded, touched flag guid) :
    Handles touched bg bg' := by
  intro hgood
  refine ⟨⟨h.held hgood.held fun guid hguid => by simp [hkeeper] at hguid, fun hstatus => ?_⟩, h.plays⟩
  have hplay := hgood.inPlay (h.status ▸ hstatus)
  have hsound : f.Sound (touched flag) 0 := by
    refine ⟨by simp [hkeeper, hback], fun _ => hback, fun guid hguid => .inl (hgrounded hplay guid hguid), ?_, ?_⟩ <;>
      · rw [hback]
        nofun
  exact h.inPlay hplay hsound (by rw [hback]; nofun) (absurd · (hplay.other_not_waiting (.inl hfrom)))

section

variable (summoned : Option Nat)

-- What becomes of the flag of a player who drops it.
def dropFlag (f : Flag) : Flag :=
  let lying : Flag := { f with keeper := none, state := .ON_GROUND, dropTimer := BG_WS_FLAG_DROP_TIME }
  match summoned with
  | some guid => { lying with grounded := guid :: f.grounded, droppedGuid := some guid }
  | none => lying

@[simp] theorem keeper_dropFlag (f : Flag) : (dropFlag summoned f).keeper = none := by
  cases summoned <;> rfl

@[simp] theorem state_dropFlag (f : Flag) : (dropFlag summoned f).state = .ON_GROUND := by
  cases summoned <;> rfl

@[simp] theorem dropTimer_dropFlag (f : Flag) :
    (dropFlag summoned f).dropTimer = BG_WS_FLAG_DROP_TIME := by cases summoned <;> rfl

end

theorem sound_dropFlag {gone : Nat → Prop} (h : f.Sound gone event2) (hcarried : f.state = .ON_PLAYER)
    (summoned : Option Nat) : (dropFlag summoned f).Sound gone event2 := by
  have hgone : ∀ guid ∈ f.grounded, gone guid := fun guid hguid =>
    (h.grounded guid hguid).resolve_right fun hdropped => by simp [hcarried] at hdropped
  refine ⟨by simp, fun hactive => ?_, fun guid hguid => ?_, by simp, by simp [BG_WS_FLAG_DROP_TIME]⟩
  · exact absurd (h.spawned hactive) (by rw [hcarried]; nofun)
  · cases summoned with
    | none => exact .inl (hgone guid hguid)
    | some object =>
      rcases List.mem_cons.mp hguid with rfl | hguid
      · exact .inr ⟨rfl, rfl⟩
      · exact .inl (hgone guid hguid)

theorem changes_dropped (summoned : Option Nat) (hstatus : bg.status = .IN_PROGRESS)
    (hflag : flag = getOtherTeam source.team) (hkeeper : (bg.own.flags flag).keeper = some source.guid) :
    Changes bg (eventPlayerDroppedFlag source summoned bg) flag (dropFlag summoned (bg.own.flags flag))
      (bg.activeEvents (flagEvent flag)) := by
  subst hflag
  unfold eventPlayerDroppedFlag
  rw [if_pos hkeeper, if_neg (by simp [hstatus])]
  cases summoned <;> constructor <;>
    simp [dropFlag, summonDroppedFlag, setFlagPicker, setFlagState, setFlagsDropTimer, modifyFlag, updateFlagState,
      BattleGround.updateWorldState]

theorem changes_cleared (summoned : Option Nat) (hstatus : bg.status ≠ .IN_PROGRESS)
    (hflag : flag = getOtherTeam source.team) (hkeeper : (bg.own.flags flag).keeper = some source.guid) :
    Changes bg (eventPlayerDroppedFlag source summoned bg) flag { bg.own.flags flag with keeper := none }
      (bg.activeEvents (flagEvent flag)) := by
  subst hflag
  unfold eventPlayerDroppedFlag
  rw [if_pos hkeeper, if_pos hstatus]
  constructor <;> simp [setFlagPicker, modifyFlag]

theorem handles_eventPlayerDroppedFlag (source : Player) (summoned : Option Nat) :
    Handles touched bg (eventPlayerDroppedFlag source summoned bg) := by
  intro h
  by_cases hkeeper : (bg.own.flags (getOtherTeam source.team)).keeper = some source.guid
  · by_cases hstatus : bg.status = .IN_PROGRESS
    · have hchanges := changes_dropped summoned hstatus rfl hkeeper
      have hplay := h.inPlay hstatus
      have hsound := hplay.sound (getOtherTeam source.team)
      have hcarried : (bg.own.flags (getOtherTeam source.team)).state = .ON_PLAYER :=
        by_contra fun haway => by simp [hsound.carried.mpr haway] at hkeeper
      have hother := hplay.other_not_waiting (.inl (by rw [hcarried]; nofun))
      exact ⟨⟨hchanges.held h.held (by simp), fun _ => hchanges.inPlay hplay (sound_dropFlag hsound hcarried summoned)
        (by simp) (absurd · hother)⟩, hchanges.plays⟩
    · have hchanges := changes_cleared summoned hstatus rfl hkeeper
      exact ⟨⟨hchanges.held h.held nofun, fun hprogress => absurd (hchanges.status ▸ hprogress) hstatus⟩, hchanges.plays⟩
  · rw [eventPlayerDroppedFlag]
    rw [if_neg hkeeper]
    exact Handles.refl touched bg h

-- The end of the wait: both flags are at their bases, and both objects are
-- spawned.
theorem handles_respawnCaptured (hwait : (bg.own.flags flag).state = .WAIT_RESPAWN) :
    Handles touched bg (respawnFlag bg flag true) := by
  intro h
  have hback : (respawnFlag bg flag true).own.flags flag = { bg.own.flags flag with state := .ON_BASE } := by
    simp [respawnFlag, setFlagState, modifyFlag, BattleGround.setActive]
  have hother : (respawnFlag bg flag true).own.flags (getOtherTeam flag) = bg.own.flags (getOtherTeam flag) := by
    simp [respawnFlag, setFlagState, modifyFlag, BattleGround.setActive]
  have hactive : ∀ team, (respawnFlag bg flag true).activeEvents (flagEvent team) = 0 := by
    rw [forall_team]
    cases flag <;> simp [respawnFlag, setFlagState, modifyFlag, BattleGround.setActive, flagEvent]
  have hstatus : (respawnFlag bg flag true).status = bg.status := by
    simp [respawnFlag, setFlagState, modifyFlag, BattleGround.setActive]
  have hframe : Plays bg (respawnFlag bg flag true) ∧ (respawnFlag bg flag true).own.captures = bg.own.captures ∧
      (respawnFlag bg flag true).teamScores = bg.teamScores := by
    refine ⟨⟨?_, ?_, ?_, ?_, ?_, ?_, fun _ => ?_, .inl hstatus⟩, ?_, ?_⟩ <;>
      simp [respawnFlag, setFlagState, modifyFlag, BattleGround.setActive]
  refine ⟨⟨⟨fun team guid hguid => ?_, fun team => ?_, ?_⟩, fun hprogress => ?_⟩, hframe.1⟩
  · rw [hframe.1.players]
    rcases eq_or_eq_getOtherTeam flag team with rfl | rfl
    · exact h.held.keepers _ guid (by rw [hback] at hguid; exact hguid)
    · exact h.held.keepers _ guid (hother ▸ hguid)
  · rw [hframe.2.1, hframe.2.2]
    exact h.held.scores team
  · rw [hframe.2.1]
    exact h.held.captures
  · have hplay := h.inPlay (hstatus ▸ hprogress)
    have hbase := (hplay.waiting flag hwait).1
    have hsound : ∀ team, (bg.own.flags team).state ≠ .ON_PLAYER → (bg.own.flags team).state ≠ .ON_GROUND →
        Flag.Sound (touched team) 0 { bg.own.flags team with state := .ON_BASE } := by
      intro team hcarried hlying
      refine ⟨by simp [(hplay.sound team).carried.mpr hcarried], fun _ => rfl, fun guid hguid => .inl ?_, by simp, by simp⟩
      exact ((hplay.sound team).grounded guid hguid).resolve_right fun hdropped => hlying hdropped.2
    have hothers : bg.own.flags (getOtherTeam flag) = { bg.own.flags (getOtherTeam flag) with state := .ON_BASE } := by
      rw [← hbase]
    refine ⟨fun team => ?_, fun team hteam => ?_, hframe.2.2 ▸ hplay.below⟩
    · rw [hactive]
      rcases eq_or_eq_getOtherTeam flag team with rfl | rfl
      · rw [hback]
        exact hsound _ (by simp [hwait]) (by simp [hwait])
      · rw [hother, hothers]
        exact hsound _ (by simp [hbase]) (by simp [hbase])
    · rcases eq_or_eq_getOtherTeam flag team with rfl | rfl
      · rw [hback] at hteam
        cases hteam
      · rw [hother, hbase] at hteam
        cases hteam

-- What EventPlayerCapturedFlag has done when it looks for a winner.
structure TakesPoint (bg bg' : BattleGroundWS) (source : Player) : Prop where
  flags : bg'.own.flags (getOtherTeam source.team) =
    { bg.own.flags (getOtherTeam source.team) with keeper := none, state := .WAIT_RESPAWN }
  others : bg'.own.flags source.team = bg.own.flags source.team
  active : ∀ team, bg'.activeEvents (flagEvent team) ≠ 0
  captures : bg'.own.captures = bg.own.captures ++ [⟨source, bg.own.flags⟩]
  scored : bg'.teamScores source.team = bg.teamScores source.team + 1
  scores : bg'.teamScores (getOtherTeam source.team) = bg.teamScores (getOtherTeam source.team)
  status : bg'.status = bg.status
  players : bg'.players = bg.players
  deleted : bg'.deleted = bg.deleted
  startTime : bg'.startTime = bg.startTime
  playersCount : bg'.playersCount = bg.playersCount
  prematureCountDown : bg'.prematureCountDown = bg.prematureCountDown
  prematureCountDownTimer : bg'.prematureCountDownTimer = bg.prematureCountDownTimer

theorem takesPoint (hbelow : getTeamScore bg source.team < BG_WS_MAX_TEAM_SCORE) :
    TakesPoint bg (takePoint source bg) source := by
  have hpoint : getTeamScore (setFlagState (setFlagPicker (logCapture source bg) (getOtherTeam source.team) none)
      (getOtherTeam source.team) .WAIT_RESPAWN) source.team < BG_WS_MAX_TEAM_SCORE := hbelow
  unfold takePoint
  dsimp only
  rw [if_pos hpoint]
  constructor <;>
    simp [logCapture, setFlagPicker, setFlagState, addPoint, modifyFlag, updateTeamScore, updateFlagState,
      BattleGround.updateWorldState, BattleGround.setActive, forall_team, flagEvent, BG_EVENT_NONE]
  constructor <;> split <;> omega

theorem getTeamScore_eq (h : bg.Held) (team : Team) (hbound : bg.teamScores team ≤ 3) :
    (getTeamScore bg team : Int) = bg.teamScores team := by
  have hscore := h.scores team
  unfold getTeamScore toU32
  omega

theorem TakesPoint.held (h : TakesPoint bg bg' source) (hheld : bg.Held)
    (hproper : Capture.Proper ⟨source, bg.own.flags⟩) : bg'.Held where
  keepers := fun team guid hguid => by
    rw [h.players]
    rcases eq_or_eq_getOtherTeam source.team team with rfl | rfl
    · exact hheld.keepers _ guid (h.others ▸ hguid)
    · simp [h.flags] at hguid
  scores := fun team => by
    rw [h.captures, List.countP_append, List.countP_singleton]
    rcases eq_or_eq_getOtherTeam source.team team with rfl | rfl
    · simp [h.scored, hheld.scores]
    · simp [h.scores, hheld.scores]
  captures := fun c hc => by
    rw [h.captures, List.mem_append, List.mem_singleton] at hc
    rcases hc with hc | rfl
    · exact hheld.captures c hc
    · exact hproper

theorem TakesPoint.inPlay (h : TakesPoint bg bg' source) (hplay : bg.InPlay touched)
    (hproper : Capture.Proper ⟨source, bg.own.flags⟩) (hbelow : ∀ team, bg'.teamScores team < 3) :
    (setFlagsTimer bg' (getOtherTeam source.team) BG_WS_FLAG_RESPAWN_TIME).InPlay touched := by
  have hcarried : (bg.own.flags (getOtherTeam source.team)).state = .ON_PLAYER := hproper.away
  have hhome : (bg.own.flags source.team).state = .ON_BASE := hproper.home
  have hflags : (setFlagsTimer bg' (getOtherTeam source.team) BG_WS_FLAG_RESPAWN_TIME).own.flags
      (getOtherTeam source.team) =
        { bg.own.flags (getOtherTeam source.team) with
          keeper := none, state := .WAIT_RESPAWN, timer := BG_WS_FLAG_RESPAWN_TIME } := by
    simp [setFlagsTimer, modifyFlag, h.flags]
  have hothers : (setFlagsTimer bg' (getOtherTeam source.team) BG_WS_FLAG_RESPAWN_TIME).own.flags source.team =
      bg.own.flags source.team := by simp [setFlagsTimer, modifyFlag, h.others]
  refine ⟨fun team => ?_, fun team hwait => ?_, hbelow⟩
  · rcases eq_or_eq_getOtherTeam source.team team with rfl | rfl
    · have hsound := hplay.sound source.team
      rw [hothers]
      exact ⟨hsound.carried, fun hactive => absurd hactive (h.active _), hsound.grounded, hsound.respawning, hsound.lying⟩
    · have hsound := hplay.sound (getOtherTeam source.team)
      rw [hflags]
      refine ⟨by simp, fun hactive => absurd hactive (h.active _), fun guid hguid => .inl ?_, fun _ => ?_, fun hlying => by simp at hlying⟩
      · exact (hsound.grounded guid hguid).resolve_right fun hdropped => by simp [hcarried] at hdropped
      · exact (by decide : (0 : Int) ≤ BG_WS_FLAG_RESPAWN_TIME ∧ BG_WS_FLAG_RESPAWN_TIME < 2147483648)
  · rcases eq_or_eq_getOtherTeam source.team team with rfl | rfl
    · rw [hothers, hhome] at hwait
      cases hwait
    · rw [getOtherTeam_getOtherTeam, hothers]
      exact ⟨hhome, h.active _⟩

-- The end of the match leaves the flags and the scores as they are.
structure Finishes (bg bg' : BattleGroundWS) : Prop where
  own : bg'.own = bg.own
  scores : bg'.teamScores = bg.teamScores
  status : bg'.status = .WAIT_LEAVE
  players : bg'.players = bg.players
  deleted : bg'.deleted = bg.deleted
  startTime : bg'.startTime = bg.startTime
  playersCount : bg'.playersCount = bg.playersCount
  prematureCountDown : bg'.prematureCountDown = bg.prematureCountDown
  prematureCountDownTimer : bg'.prematureCountDownTimer = bg.prematureCountDownTimer

theorem finishes (v : View) (winner : Option Team) (bg : BattleGroundWS) :
    Finishes bg (endBattleGround v winner bg) := by
  constructor <;> simp only [endBattleGround, BattleGround.finish]

theorem finishes_cleared (v : View) (winner : Option Team) (bg : BattleGroundWS) :
    Finishes bg (endBattleGround v winner (clearWorldStates bg)) := by
  constructor <;> simp only [endBattleGround, BattleGround.finish, clearWorldStates, BattleGround.updateWorldState]

theorem Finishes.held (h : Finishes bg bg') (hheld : bg.Held) : bg'.Held where
  keepers := fun team guid hguid => by
    rw [h.players]
    exact hheld.keepers team guid (h.own ▸ hguid)
  scores := fun team => by rw [h.scores, h.own]; exact hheld.scores team
  captures := fun c hc => hheld.captures c (h.own ▸ hc)

theorem handles_eventPlayerCapturedFlag (v : View) (hhome : (bg.own.flags source.team).state = .ON_BASE)
    (hkeeper : (bg.own.flags (getOtherTeam source.team)).keeper = some source.guid) :
    Handles touched bg (eventPlayerCapturedFlag v source bg) := by
  intro h
  by_cases hstatus : bg.status = .IN_PROGRESS
  · have hplay := h.inPlay hstatus
    have haway : (bg.own.flags (getOtherTeam source.team)).state = .ON_PLAYER :=
      by_contra fun haway => by simp [(hplay.sound _).carried.mpr haway] at hkeeper
    have hproper : Capture.Proper ⟨source, bg.own.flags⟩ := ⟨hkeeper, haway, hhome⟩
    have hmax := hplay.below source.team
    have hscore := getTeamScore_eq h.held source.team (by omega)
    have htakes : TakesPoint bg (takePoint source bg) source := takesPoint (by unfold BG_WS_MAX_TEAM_SCORE; omega)
    have hheld := htakes.held h.held hproper
    have hbound : ∀ team, (takePoint source bg).teamScores team ≤ 3 := by
      intro team
      rcases eq_or_eq_getOtherTeam source.team team with rfl | rfl
      · rw [htakes.scored]
        omega
      · rw [htakes.scores]
        exact Int.le_of_lt (hplay.below _)
    have hscores := fun team => getTeamScore_eq hheld team (hbound team)
    unfold eventPlayerCapturedFlag
    dsimp only
    rw [if_neg (by simp [hstatus, hkeeper])]
    have hwinner : ∀ winner, scoreWinner (takePoint source bg) = some winner →
        (takePoint source bg).teamScores winner = 3 := by
      intro winner hwinner
      unfold scoreWinner BG_WS_MAX_TEAM_SCORE at hwinner
      have hhorde := hscores .HORDE
      have halliance := hscores .ALLIANCE
      split_ifs at hwinner <;> cases hwinner <;> omega
    cases hend : scoreWinner (takePoint source bg) with
    | some winner =>
      have hends := finishes_cleared v (some winner) (takePoint source bg)
      have hscore : (endBattleGround v (some winner) (clearWorldStates (takePoint source bg))).teamScores winner = 3 := by
        rw [hends.scores]
        exact hwinner winner hend
      refine ⟨⟨hends.held hheld, fun hprogress => ?_⟩, ⟨hends.players.trans htakes.players,
        hends.deleted.trans htakes.deleted, hends.startTime.trans htakes.startTime,
        hends.playersCount.trans htakes.playersCount, hends.prematureCountDown.trans htakes.prematureCountDown,
        hends.prematureCountDownTimer.trans htakes.prematureCountDownTimer, fun hover => absurd hstatus hover,
        .inr ⟨hstatus, hends.status, winner, hscore⟩⟩⟩
      rw [hends.status] at hprogress
      cases hprogress
    | none =>
      have hbelow : ∀ team, (takePoint source bg).teamScores team < 3 := by
        intro team
        have hthis := hscores team
        have hle := hbound team
        unfold scoreWinner BG_WS_MAX_TEAM_SCORE at hend
        cases team <;> split_ifs at hend <;> omega
      refine ⟨⟨⟨fun team guid hguid => ?_, hheld.scores, hheld.captures⟩, fun _ => htakes.inPlay hplay hproper hbelow⟩, ?_⟩
      · rcases eq_or_eq_getOtherTeam (getOtherTeam source.team) team with rfl | rfl
        · rw [setFlagsTimer, flags_modifyFlag] at hguid
          simp [htakes.flags] at hguid
        · refine hheld.keepers _ guid ?_
          rwa [setFlagsTimer, flags_modifyFlag_other] at hguid
      · exact ⟨htakes.players, htakes.deleted, htakes.startTime, htakes.playersCount, htakes.prematureCountDown,
          htakes.prematureCountDownTimer, fun hover => absurd hstatus hover, .inl htakes.status⟩
  · unfold eventPlayerCapturedFlag
    rw [if_pos (.inl hstatus)]
    exact Handles.refl touched bg h

-- A player of the match is known by his team.
def Known (bg : BattleGroundWS) (source : Player) : Prop := ∀ team, bg.players.find source.guid = some team → source.team = team

theorem handles_handleAreaTrigger (v : View) (trigger : Nat) (hknown : Known bg source) :
    Handles touched bg (handleAreaTrigger v source trigger bg) := by
  have hcapture : ∀ flag, (bg.own.flags flag).state = .ON_BASE →
      (bg.own.flags (getOtherTeam flag)).keeper = some source.guid →
      Handles touched bg (eventPlayerCapturedFlag v source bg) := by
    intro flag hhome hkeeper h
    have hteam : source.team = flag := by
      have hfind := h.held.keepers _ _ hkeeper
      rw [getOtherTeam_getOtherTeam] at hfind
      exact hknown flag hfind
    subst hteam
    exact handles_eventPlayerCapturedFlag v hhome hkeeper h
  unfold handleAreaTrigger
  dsimp only
  split
  · exact Handles.refl touched bg
  split
  · split
    · rename_i hcapt
      exact hcapture _ hcapt.2.1 hcapt.2.2
    · exact Handles.refl touched bg
  split
  · split
    · rename_i hcapt
      exact hcapture _ hcapt.2.1 hcapt.2.2
    · exact Handles.refl touched bg
  · exact Handles.refl touched bg

section

variable (w : Surroundings)

theorem handles_forceFlagAreaTrigger (flag : Team) (bg : BattleGroundWS) :
    Handles touched bg (forceFlagAreaTrigger w flag bg) := by
  unfold forceFlagAreaTrigger
  split
  · rename_i keeper hkeeper
    split
    · split
      · rename_i team hteam
        refine handles_handleAreaTrigger w.view _ fun found hfound => ?_
        rw [hteam] at hfound
        exact Option.some.inj hfound
      · exact Handles.refl touched bg
    · exact Handles.refl touched bg
  · exact Handles.refl touched bg

-- The flag after the time on the ground is over.
def liftFlag (f : Flag) : Flag :=
  { f with state := .ON_BASE, droppedGuid := none, grounded := f.grounded.filter fun guid => some guid ≠ f.droppedGuid }

theorem handles_respawnFlagAfterDrop (hground : (bg.own.flags flag).state = .ON_GROUND) :
    Handles touched bg (respawnFlagAfterDrop w flag bg) := by
  by_cases hstatus : bg.status = .IN_PROGRESS
  · unfold respawnFlagAfterDrop
    rw [if_neg (by simp [hstatus])]
    refine .trans ?_ (handles_forceFlagAreaTrigger w flag _)
    intro h
    have hplay := h.inPlay hstatus
    have hguid : ((respawnFlag bg flag false).own.flags flag).droppedGuid = (bg.own.flags flag).droppedGuid := by
      simp [respawnFlag, setFlagState, BattleGround.setActive]
    rw [hguid]
    have hkeeper : (bg.own.flags flag).keeper = none := (hplay.sound flag).carried.mpr (by simp [hground])
    refine Changes.returns (?_ : Changes bg _ flag (liftFlag (bg.own.flags flag)) 0) (by simp [hground]) rfl hkeeper
      (fun _ guid hguid => ?_) h
    · cases hdropped : (bg.own.flags flag).droppedGuid <;> constructor <;>
        simp [respawnFlag, setFlagState, setDroppedFlagGuid, deleteGrounded, modifyFlag, BattleGround.setActive, liftFlag,
          hdropped]
    · obtain ⟨hmem, hne⟩ := List.mem_filter.mp hguid
      exact ((hplay.sound flag).grounded guid hmem).resolve_right fun hdropped => by simp [hdropped.1] at hne
  · unfold respawnFlagAfterDrop
    rw [if_pos hstatus]
    exact Handles.refl touched bg

theorem handles_removeKeeper {guid : Nat} (plr : Option Team) (summoned : Option Nat) :
    Handles touched bg (removeKeeper flag guid plr summoned bg) := by
  unfold removeKeeper
  split
  · rename_i hkeeper
    cases plr with
    | some team => exact handles_eventPlayerDroppedFlag _ _
    | none =>
      intro h
      have hchanges : Changes bg (respawnFlag (setFlagPicker bg flag none) flag false) flag
          { bg.own.flags flag with keeper := none, state := .ON_BASE } 0 := by
        constructor <;> simp [respawnFlag, setFlagState, setFlagPicker, modifyFlag, BattleGround.setActive]
      by_cases hstatus : bg.status = .IN_PROGRESS
      · have hsound := (h.inPlay hstatus).sound flag
        have hcarried : (bg.own.flags flag).state = .ON_PLAYER :=
          by_contra fun haway => by simp [hsound.carried.mpr haway] at hkeeper
        refine hchanges.returns (by simp [hcarried]) rfl rfl (fun _ object hobject => ?_) h
        exact (hsound.grounded object hobject).resolve_right fun hdropped => by simp [hcarried] at hdropped
      · exact ⟨⟨hchanges.held h.held (by simp), fun hprogress => absurd (hchanges.status ▸ hprogress) hstatus⟩, hchanges.plays⟩
  · exact Handles.refl touched bg

theorem handles_removePlayer (guid : Nat) (plr : Option Team) (summoned : Option Nat) (bg : BattleGroundWS) :
    Handles touched bg (removePlayer guid plr summoned bg) :=
  (handles_removeKeeper plr summoned).trans (handles_removeKeeper plr summoned)

theorem i32_lt (z : Int) : i32 z < 2147483648 := by
  unfold i32
  split <;> omega

theorem handles_updateWaiting (diff : Nat) :
    Handles touched bg (updateWaiting flag diff bg) := by
  unfold updateWaiting
  split
  · rename_i hwait
    have hchanges : ∀ timer : Int, Changes bg (setFlagsTimer bg flag timer) flag { bg.own.flags flag with timer := timer }
        (bg.activeEvents (flagEvent flag)) := fun timer => by constructor <;> simp [setFlagsTimer, modifyFlag]
    have hkeeps : ∀ timer : Int, 0 ≤ timer → timer < 2147483648 → Handles touched bg (setFlagsTimer bg flag timer) :=
      fun timer hle hlt => (hchanges timer).handles ⟨rfl, rfl⟩ fun hplay =>
        ⟨(hplay.sound flag).carried, (hplay.sound flag).spawned, (hplay.sound flag).grounded, fun _ => ⟨hle, hlt⟩,
          (hplay.sound flag).lying⟩
    dsimp only
    split
    · refine (hkeeps 0 (by decide) (by decide)).trans (handles_respawnCaptured ?_)
      rw [(hchanges 0).flags]
      exact hwait
    · rename_i htimer
      exact hkeeps _ (by omega) (i32_lt _)
  · exact Handles.refl touched bg

theorem handles_updateDropped (diff : Nat) : Handles touched bg (updateDropped w flag diff bg) := by
  unfold updateDropped
  split
  · rename_i hground
    have hchanges : ∀ timer : Int, Changes bg (setFlagsDropTimer bg flag timer) flag
        { bg.own.flags flag with dropTimer := timer } (bg.activeEvents (flagEvent flag)) :=
      fun timer => by constructor <;> simp [setFlagsDropTimer, modifyFlag]
    have hkeeps : ∀ timer : Int, 0 ≤ timer → timer < 2147483648 → Handles touched bg (setFlagsDropTimer bg flag timer) :=
      fun timer hle hlt => (hchanges timer).handles ⟨rfl, rfl⟩ fun hplay =>
        ⟨(hplay.sound flag).carried, (hplay.sound flag).spawned, (hplay.sound flag).grounded,
          (hplay.sound flag).respawning, fun _ => ⟨hle, hlt⟩⟩
    dsimp only
    split
    · refine (hkeeps 0 (by decide) (by decide)).trans (handles_respawnFlagAfterDrop w ?_)
      rw [(hchanges 0).flags]
      exact hground
    · rename_i htimer
      exact hkeeps _ (by omega) (i32_lt _)
  · exact Handles.refl touched bg

theorem handles_updateFlag (flag : Team) (diff : Nat) (bg : BattleGroundWS) :
    Handles touched bg (updateFlag w flag diff bg) :=
  (handles_updateWaiting diff).trans (handles_updateDropped w diff)

end

end

end BattleGroundWS

end TurtleWow.Matches
