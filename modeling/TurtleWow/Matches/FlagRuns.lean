import TurtleWow.Matches.Flags

namespace TurtleWow.Matches

open OrderedMap

open Battlegrounds (Team Bracket)
open Word Run

namespace BattleGroundWS

abbrev untouched : Team → Nat → Prop := fun _ _ => False

-- Until the doors open, nobody can get at the flags.
structure Before (bg : BattleGroundWS) : Prop where
  flags : ∀ flag, (bg.own.flags flag).keeper = none ∧ (bg.own.flags flag).state = .ON_BASE ∧
    (bg.own.flags flag).grounded = []
  captures : bg.own.captures = []

structure Sound (bg : BattleGroundWS) : Prop where
  good : bg.Good untouched
  before : bg.status = .WAIT_JOIN → bg.Before

def Exists (bg : BattleGroundWS) (target : GameObject) : Prop :=
  (∀ flag, target.event1 = flagEvent flag → bg.activeEvents (flagEvent flag) = 0) ∧
    ∀ flag, target.entry = flagGroundEntry flag → target.guid ∈ (bg.own.flags flag).grounded

-- A player of the match acts under his team, who comes is not inside yet, and
-- what is clicked on exists.
def Meets (bg : BattleGroundWS) : Op → Prop
  | .added player => bg.players.find player.guid = none
  | .removed guid plr _ => ∀ team, plr = some team → Known bg ⟨guid, team⟩
  | .clicked _ source target => bg.players.find source.guid = some source.team ∧ Exists bg target
  | .dropped source _ => Known bg source
  | .killed victim _ => Known bg victim
  | .areaTrigger _ source _ => Known bg source
  | _ => True

section

variable {touched : Team → Nat → Prop} {bg bg' : BattleGroundWS}

theorem Good.touch {less : Team → Nat → Prop} (h : bg.Good less)
    (hgrounded : ∀ flag guid, guid ∈ (bg.own.flags flag).grounded → less flag guid → touched flag guid) :
    bg.Good touched where
  held := h.held
  inPlay := fun hstatus =>
    have hplay := h.inPlay hstatus
    ⟨fun flag =>
      have hsound := hplay.sound flag
      ⟨hsound.carried, hsound.spawned, fun guid hguid => (hsound.grounded guid hguid).imp_left (hgrounded flag guid hguid),
        hsound.respawning, hsound.lying⟩,
      hplay.waiting, hplay.below⟩

theorem flagGroundEntry_injective {first second : Team} (h : flagGroundEntry first = flagGroundEntry second) : first = second := by
  cases first <;> cases second <;> first | rfl | cases h

theorem flagEvent_injective {first second : Team} (h : flagEvent first = flagEvent second) : first = second := by
  cases first <;> cases second <;> first | rfl | cases h

theorem flagEvent_ne_none (flag : Team) : flagEvent flag ≠ BG_EVENT_NONE := by cases flag <;> decide

section

variable (w : Surroundings)

theorem clicked_cases (source : Player) (target : GameObject) (hstatus : bg.status = .IN_PROGRESS) :
    eventPlayerClickedOnFlag w source target bg = bg ∨
    (∃ flag, source.team = getOtherTeam flag ∧ (bg.own.flags flag).state = .ON_BASE ∧ target.event1 = flagEvent flag ∧
      eventPlayerClickedOnFlag w source target bg = pickUpFlag flag source bg) ∨
    ∃ flag, (bg.own.flags flag).state = .ON_GROUND ∧ target.entry = flagGroundEntry flag ∧
      eventPlayerClickedOnFlag w source target bg = if source.team = flag then
        forceFlagAreaTrigger w flag (respawnFlag (updateFlagState bg (getOtherTeam flag) 1) flag false)
      else pickUpFlag flag source bg := by
  have hbase : ∀ flag bg', target.event1 ≠ flagEvent flag → pickUpFromBase flag source target bg' = bg' :=
    fun flag bg' hne => if_neg fun h => hne h.2.2
  have hground : ∀ flag bg', target.entry ≠ flagGroundEntry flag → touchOnGround w flag source target bg' = bg' :=
    fun flag bg' hne => if_neg fun h => hne h.2.2
  have heq : eventPlayerClickedOnFlag w source target bg = touchOnGround w .HORDE source target
      (touchOnGround w .ALLIANCE source target (pickUpFromBase .HORDE source target
        (pickUpFromBase .ALLIANCE source target bg))) := if_neg (by simp [hstatus])
  rw [heq]
  by_cases hentry : ∃ flag, target.entry = flagGroundEntry flag
  · obtain ⟨flag, hentry⟩ := hentry
    have hevent : ∀ other, target.event1 ≠ flagEvent other := fun other h =>
      flagEvent_ne_none other (h ▸ target.summoned flag hentry)
    have hother : ∀ bg', touchOnGround w (getOtherTeam flag) source target bg' = bg' := fun bg' =>
      hground _ bg' fun h => ne_getOtherTeam flag (flagGroundEntry_injective (hentry ▸ h))
    have honly : touchOnGround w .HORDE source target (touchOnGround w .ALLIANCE source target bg) =
        touchOnGround w flag source target bg := by
      cases flag
      · exact hother _
      · rw [show touchOnGround w .ALLIANCE source target bg = bg from hother bg]
    rw [hbase _ _ (hevent _), hbase _ _ (hevent _), honly]
    unfold touchOnGround
    split
    · rename_i h
      exact .inr (.inr ⟨flag, h.1, hentry, rfl⟩)
    · exact .inl rfl
  · have hno : ∀ flag, target.entry ≠ flagGroundEntry flag := fun flag h => hentry ⟨flag, h⟩
    rw [hground _ _ (hno _), hground _ _ (hno _)]
    by_cases hevent : ∃ flag, target.event1 = flagEvent flag
    · obtain ⟨flag, hevent⟩ := hevent
      have hother : ∀ bg', pickUpFromBase (getOtherTeam flag) source target bg' = bg' := fun bg' =>
        hbase _ bg' fun h => ne_getOtherTeam flag (flagEvent_injective (hevent ▸ h))
      have honly : pickUpFromBase .HORDE source target (pickUpFromBase .ALLIANCE source target bg) =
          pickUpFromBase flag source target bg := by
        cases flag
        · exact hother _
        · rw [show pickUpFromBase .ALLIANCE source target bg = bg from hother bg]
      rw [honly]
      unfold pickUpFromBase
      split
      · rename_i h
        exact .inr (.inl ⟨flag, h.1, h.2.1, hevent, rfl⟩)
      · exact .inl rfl
    · have hne : ∀ flag, target.event1 ≠ flagEvent flag := fun flag h => hevent ⟨flag, h⟩
      rw [hbase _ _ (hne _), hbase _ _ (hne _)]
      exact .inl rfl

theorem changes_deleteGrounded (flag : Team) (guid : Nat) :
    Changes bg (deleteGrounded bg flag guid) flag
      { bg.own.flags flag with grounded := (bg.own.flags flag).grounded.filter (· ≠ guid) }
      (bg.activeEvents (flagEvent flag)) := by
  constructor <;> simp [deleteGrounded, modifyFlag]

theorem handles_deleteGrounded (flag : Team) (guid : Nat) : Handles touched bg (deleteGrounded bg flag guid) :=
  (changes_deleteGrounded flag guid).handles ⟨rfl, rfl⟩ fun hplay =>
    have hsound := hplay.sound flag
    ⟨hsound.carried, hsound.spawned, fun object hobject => hsound.grounded object (List.mem_of_mem_filter hobject),
      hsound.respawning, hsound.lying⟩

-- The flags on the ground that the click is about.
def Touched (target : GameObject) (flag : Team) (guid : Nat) : Prop :=
  target.entry = flagGroundEntry flag ∧ guid = target.guid

theorem handles_eventPlayerClickedOnFlag {source : Player} {target : GameObject}
    (hin : bg.players.find source.guid = some source.team)
    (hactive : ∀ flag, target.event1 = flagEvent flag → bg.activeEvents (flagEvent flag) = 0)
    (hgrounded : ∀ flag, target.entry = flagGroundEntry flag →
      ∀ guid ∈ (bg.own.flags flag).grounded, guid = target.guid) :
    Handles (Touched target) bg (eventPlayerClickedOnFlag w source target bg) := by
  by_cases hstatus : bg.status = .IN_PROGRESS
  · rcases clicked_cases w source target hstatus with h | ⟨flag, hteam, hbase, hevent, h⟩ | ⟨flag, hground, hentry, h⟩ <;> rw [h]
    · exact Handles.refl _ bg
    · exact handles_pickUpFlag hstatus (hteam ▸ hin) (.inl ⟨hbase, hactive flag hevent⟩)
    · have htouched : ∀ guid ∈ (bg.own.flags flag).grounded, Touched target flag guid := fun guid hguid =>
        ⟨hentry, hgrounded flag hentry guid hguid⟩
      split
      · refine .trans (fun hgood => ?_) (handles_forceFlagAreaTrigger w flag _)
        have hkeeper : (bg.own.flags flag).keeper = none :=
          ((hgood.inPlay hstatus).sound flag).carried.mpr (by simp [hground])
        have hchanges : Changes bg (respawnFlag (updateFlagState bg (getOtherTeam flag) 1) flag false) flag
            { bg.own.flags flag with state := .ON_BASE } 0 := by
          constructor <;>
            simp [respawnFlag, setFlagState, modifyFlag, BattleGround.setActive, updateFlagState,
              BattleGround.updateWorldState]
        exact hchanges.returns (by simp [hground]) rfl hkeeper (fun _ => htouched) hgood
      · rename_i hteam
        exact handles_pickUpFlag hstatus (eq_getOtherTeam_of_ne hteam ▸ hin) (.inr ⟨hground, htouched⟩)
  · have h : eventPlayerClickedOnFlag w source target bg = bg := if_pos hstatus
    rw [h]
    exact Handles.refl _ bg

theorem handles_useFlag {source : Player} {target : GameObject}
    (hin : bg.players.find source.guid = some source.team) (hexists : Exists bg target) :
    Handles untouched bg (useFlag w source target bg) := by
  intro h
  have hone : bg.status = .IN_PROGRESS → ∀ flag, target.entry = flagGroundEntry flag →
      ∀ guid ∈ (bg.own.flags flag).grounded, guid = target.guid := by
    intro hstatus flag hentry guid hguid
    have hsound := (h.inPlay hstatus).sound flag
    have hthis := (hsound.grounded guid hguid).resolve_left id
    have htarget := (hsound.grounded _ (hexists.2 flag hentry)).resolve_left id
    exact Option.some.inj (hthis.1.symm.trans htarget.1)
  have hclicked : (eventPlayerClickedOnFlag w source target bg).Good (Touched target) ∧
      bg.Plays (eventPlayerClickedOnFlag w source target bg) := by
    have hgood : bg.Good (Touched target) := h.touch fun _ _ _ => False.elim
    by_cases hstatus : bg.status = .IN_PROGRESS
    · exact handles_eventPlayerClickedOnFlag w hin hexists.1 (hone hstatus) hgood
    · rw [show eventPlayerClickedOnFlag w source target bg = bg from if_pos hstatus]
      exact ⟨hgood, .refl bg⟩
  have hdelete : ∀ flag, target.entry = flagGroundEntry flag →
      (deleteGrounded (eventPlayerClickedOnFlag w source target bg) flag target.guid).Good untouched ∧
        bg.Plays (deleteGrounded (eventPlayerClickedOnFlag w source target bg) flag target.guid) := by
    intro flag hentry
    have hdeleted := handles_deleteGrounded flag target.guid hclicked.1
    refine ⟨hdeleted.1.touch fun other guid hguid htouched => ?_, hclicked.2.trans hdeleted.2⟩
    obtain rfl : other = flag := flagGroundEntry_injective (htouched.1.symm.trans hentry)
    rw [(changes_deleteGrounded other target.guid).flags] at hguid
    have hne := (List.mem_filter.mp hguid).2
    simp [htouched.2] at hne
  unfold useFlag
  split
  · exact hdelete _ ‹_›
  split
  · exact hdelete _ ‹_›
  · rename_i hno hno'
    refine ⟨hclicked.1.touch fun flag guid _ htouched => ?_, hclicked.2⟩
    cases flag with
    | ALLIANCE => exact hno htouched.1
    | HORDE => exact hno' htouched.1

theorem Good.frame (h : bg.Good touched) (hown : bg'.own = bg.own) (hscores : bg'.teamScores = bg.teamScores)
    (hplayers : bg'.players = bg.players) (hactive : bg'.activeEvents = bg.activeEvents)
    (hstatus : bg'.status = .IN_PROGRESS → bg.status = .IN_PROGRESS) : bg'.Good touched where
  held :=
    { keepers := fun flag guid hguid => by
        rw [hplayers]
        exact h.held.keepers flag guid (hown ▸ hguid)
      scores := fun team => by
        rw [hscores, hown]
        exact h.held.scores team
      captures := fun c hc => h.held.captures c (hown ▸ hc) }
  inPlay := fun hprogress =>
    have hplay := h.inPlay (hstatus hprogress)
    { sound := fun flag => by
        rw [hown, hactive]
        exact hplay.sound flag
      waiting := fun flag hwait => by
        rw [hown, hactive]
        exact hplay.waiting flag (hown ▸ hwait)
      below := fun team => hscores ▸ hplay.below team }

theorem Handles.sound (hhandles : Handles untouched bg bg') (h : bg.Sound) (hjoin : bg.status ≠ .WAIT_JOIN) : bg'.Sound := by
  obtain ⟨hgood, hplays⟩ := hhandles h.good
  refine ⟨hgood, fun hstatus => ?_⟩
  rcases hplays.status with hsame | ⟨-, hafter, -⟩
  · exact absurd (hsame ▸ hstatus) hjoin
  · rw [hafter] at hstatus
    cases hstatus

theorem Before.eventPlayerDroppedFlag (h : bg.Before) (source : Player) (summoned : Option Nat) :
    eventPlayerDroppedFlag source summoned bg = bg := if_neg (by simp [(h.flags _).1])

theorem Before.removePlayer (h : bg.Before) (guid : Nat) (plr : Option Team) (summoned : Option Nat) :
    removePlayer guid plr summoned bg = bg := by
  have hkeeper : ∀ flag, removeKeeper flag guid plr summoned bg = bg := fun flag => if_neg (by simp [(h.flags flag).1])
  unfold BattleGroundWS.removePlayer
  rw [hkeeper, hkeeper]

theorem Sound.eventPlayerDroppedFlag (h : bg.Sound) (source : Player) (summoned : Option Nat) :
    (eventPlayerDroppedFlag source summoned bg).Sound := by
  by_cases hjoin : bg.status = .WAIT_JOIN
  · rwa [(h.before hjoin).eventPlayerDroppedFlag]
  · exact (handles_eventPlayerDroppedFlag source summoned).sound h hjoin

theorem keeper_removeKeeper {flag : Team} {guid : Nat} {plr : Option Team} (summoned : Option Nat) (hheld : bg.Held)
    (hplr : ∀ team, plr = some team → Known bg ⟨guid, team⟩) :
    ((removeKeeper flag guid plr summoned bg).own.flags flag).keeper ≠ some guid ∧
      (removeKeeper flag guid plr summoned bg).own.flags (getOtherTeam flag) = bg.own.flags (getOtherTeam flag) := by
  unfold removeKeeper
  split
  · rename_i hkeeper
    cases plr with
    | none => simp [respawnFlag, setFlagState, setFlagPicker, modifyFlag, BattleGround.setActive]
    | some team =>
      have hteam : team = getOtherTeam flag := hplr team rfl _ (hheld.keepers flag guid hkeeper)
      have hflag : flag = getOtherTeam (Player.mk guid team).team := by rw [hteam, getOtherTeam_getOtherTeam]
      by_cases hstatus : bg.status = .IN_PROGRESS
      · have hchanges := changes_dropped summoned hstatus hflag hkeeper
        exact ⟨by simp [hchanges.flags], hchanges.others⟩
      · have hchanges := changes_cleared summoned hstatus hflag hkeeper
        exact ⟨by simp [hchanges.flags], hchanges.others⟩
  · exact ⟨‹_›, rfl⟩

theorem keeper_removePlayer {guid : Nat} {plr : Option Team} (summoned : Option Nat) (hgood : bg.Good untouched)
    (hplr : ∀ team, plr = some team → Known bg ⟨guid, team⟩) (flag : Team) :
    ((removePlayer guid plr summoned bg).own.flags flag).keeper ≠ some guid := by
  have hfirst := @keeper_removeKeeper _ .ALLIANCE _ _ summoned hgood.held hplr
  obtain ⟨hgood', hplays⟩ := @handles_removeKeeper _ _ .ALLIANCE guid plr summoned hgood
  have hplr' : ∀ team, plr = some team → Known (removeKeeper .ALLIANCE guid plr summoned bg) ⟨guid, team⟩ :=
    fun team hteam found hfound => hplr team hteam found (hplays.players ▸ hfound)
  have hsecond := @keeper_removeKeeper _ .HORDE _ _ summoned hgood'.held hplr'
  cases flag with
  | ALLIANCE => exact hsecond.2 ▸ hfirst.1
  | HORDE => exact hsecond.1

-- The keepers are looked up without m_Players.
def withPlayers (bg : BattleGroundWS) (players : OrderedMap Nat Team) (count : Team → Nat) : BattleGroundWS :=
  { bg with players := players, playersCount := count }

theorem removeKeeper_withPlayers (flag : Team) (guid : Nat) (plr : Option Team) (summoned : Option Nat)
    (players : OrderedMap Nat Team) (count : Team → Nat) :
    removeKeeper flag guid plr summoned (withPlayers bg players count) =
      withPlayers (removeKeeper flag guid plr summoned bg) players count := by
  unfold removeKeeper
  by_cases hkeeper : (bg.own.flags flag).keeper = some guid
  · rw [if_pos hkeeper, if_pos (show ((withPlayers bg players count).own.flags flag).keeper = some guid from hkeeper)]
    cases plr with
    | none =>
      simp only [respawnFlag, BattleGround.spawnEvent_zero]
      rfl
    | some team =>
      unfold BattleGroundWS.eventPlayerDroppedFlag
      dsimp only
      by_cases hdrops : (bg.own.flags (getOtherTeam team)).keeper = some guid
      · rw [if_pos hdrops, if_pos (show ((withPlayers bg players count).own.flags _).keeper = some guid from hdrops)]
        by_cases hstatus : bg.status = .IN_PROGRESS
        · rw [if_neg (not_not.mpr hstatus),
            if_neg (not_not.mpr (show (withPlayers bg players count).status = .IN_PROGRESS from hstatus))]
          cases summoned <;> rfl
        · rw [if_pos hstatus, if_pos (show (withPlayers bg players count).status ≠ .IN_PROGRESS from hstatus)]
          rfl
      · rw [if_neg hdrops, if_neg (show ¬((withPlayers bg players count).own.flags _).keeper = some guid from hdrops)]
  · rw [if_neg hkeeper, if_neg (show ¬((withPlayers bg players count).own.flags flag).keeper = some guid from hkeeper)]

theorem removePlayer_withPlayers (guid : Nat) (plr : Option Team) (summoned : Option Nat) (players : OrderedMap Nat Team)
    (count : Team → Nat) :
    removePlayer guid plr summoned (withPlayers bg players count) =
      withPlayers (removePlayer guid plr summoned bg) players count := by
  unfold removePlayer
  rw [removeKeeper_withPlayers, removeKeeper_withPlayers]

theorem Sound.removePlayerAtLeave (h : bg.Sound) {guid : Nat} {plr : Option Team} (summoned : Option Nat)
    (hplr : ∀ team, plr = some team → Known bg ⟨guid, team⟩) :
    Sound (bg.removePlayerAtLeave methods guid plr summoned) := by
  have hremoved : (removePlayer guid plr summoned bg).Sound := by
    by_cases hjoin : bg.status = .WAIT_JOIN
    · rwa [(h.before hjoin).removePlayer]
    · exact (handles_removePlayer guid plr summoned bg).sound h hjoin
  have hkeeper := keeper_removePlayer summoned h.good hplr
  have hplays := (handles_removePlayer guid plr summoned bg h.good).2
  show (removePlayer guid plr summoned (bg.erasePlayer guid)).Sound
  unfold BattleGround.erasePlayer
  split
  · rename_i team hteam
    have heq := @removePlayer_withPlayers bg guid plr summoned (bg.players.erase guid)
      (Function.update bg.playersCount team (sub32 (bg.playersCount team) 1))
    unfold withPlayers at heq
    rw [heq]
    refine ⟨⟨⟨fun flag other hother => ?_, hremoved.good.held.scores, hremoved.good.held.captures⟩, fun hstatus => ?_⟩,
      fun hstatus => ⟨(hremoved.before hstatus).flags, (hremoved.before hstatus).captures⟩⟩
    · have hfind := hremoved.good.held.keepers flag other hother
      rw [hplays.players] at hfind
      have hne : other ≠ guid := fun hsame => hkeeper flag (hsame ▸ hother)
      rw [find_erase, if_neg hne]
      exact hfind
    · have hplay := hremoved.good.inPlay hstatus
      exact ⟨hplay.sound, hplay.waiting, hplay.below⟩
  · exact hremoved

theorem Sound.frame (h : bg.Sound) (hown : bg'.own = bg.own) (hscores : bg'.teamScores = bg.teamScores)
    (hplayers : bg'.players = bg.players) (hactive : bg'.activeEvents = bg.activeEvents)
    (hstatus : bg'.status = bg.status ∨ bg'.status = .WAIT_LEAVE) : bg'.Sound where
  good := h.good.frame hown hscores hplayers hactive fun hprogress =>
    hstatus.elim (fun hsame => hsame ▸ hprogress) fun hleave => by rw [hleave] at hprogress; cases hprogress
  before := fun hjoin => by
    have hsame := hstatus.resolve_right (by rw [hjoin]; nofun)
    have hbefore := h.before (hsame ▸ hjoin)
    exact ⟨by rw [hown]; exact hbefore.flags, by rw [hown]; exact hbefore.captures⟩

theorem Sound.endBattleGround (h : bg.Sound) (v : View) (winner : Option Team) : (endBattleGround v winner bg).Sound :=
  h.frame rfl rfl (finishes v winner bg).players rfl (.inr rfl)

theorem Sound.timeLimit (h : bg.Sound) (t : Tick) : Sound (bg.timeLimit methods t) := by
  unfold BattleGround.timeLimit
  split
  · exact h.endBattleGround _ _
  · exact h

theorem Sound.prematureFinish (h : bg.Sound) (t : Tick) : Sound (bg.prematureFinish methods t) := by
  unfold BattleGround.prematureFinish
  split
  · split
    · exact h.frame rfl rfl rfl rfl (.inl rfl)
    split
    · exact (h.endBattleGround t.view (getWinningTeam bg)).frame rfl rfl rfl rfl (.inl rfl)
    split
    · exact h.frame rfl rfl rfl rfl (.inl rfl)
    · exact h
  · split
    · exact h.frame rfl rfl rfl rfl (.inl rfl)
    · exact h

theorem Before.open (h : bg.Before) (hgood : bg.Good untouched) (hbg : bg'.own = bg.own ∧ bg'.teamScores = bg.teamScores ∧
    bg'.players = bg.players ∧ ∀ flag, bg'.activeEvents (flagEvent flag) = 0) : bg'.Good untouched := by
  obtain ⟨hown, hscores, hplayers, hactive⟩ := hbg
  refine ⟨⟨fun flag guid hguid => ?_, fun team => ?_, fun c hc => hgood.held.captures c (hown ▸ hc)⟩, fun _ =>
    ⟨fun flag => ?_, fun flag hwait => ?_, fun team => ?_⟩⟩
  · rw [hown, (h.flags flag).1] at hguid
    cases hguid
  · rw [hscores, hown]
    exact hgood.held.scores team
  · obtain ⟨hkeeper, hstate, hgrounded⟩ := h.flags flag
    rw [hown, hactive]
    refine ⟨by simp [hkeeper, hstate], fun _ => hstate, by simp [hgrounded], ?_, ?_⟩ <;>
      · rw [hstate]
        nofun
  · rw [hown, (h.flags flag).2.1] at hwait
    cases hwait
  · have hscore := hgood.held.scores team
    rw [h.captures] at hscore
    rw [hscores, hscore]
    exact (by decide : (0 : Int) < 3)

theorem Sound.starting (h : bg.Sound) (t : Tick) : Sound (bg.starting methods t).1 := by
  unfold BattleGround.starting
  by_cases hjoin : bg.status = .WAIT_JOIN
  · rw [if_pos hjoin]
    dsimp only
    have hquiet : ∀ bg' : BattleGroundWS, bg'.own = bg.own → bg'.teamScores = bg.teamScores → bg'.players = bg.players →
        bg'.activeEvents = bg.activeEvents → (bg'.status = bg.status ∨ bg'.status = .WAIT_LEAVE) → bg'.Sound :=
      fun _ => h.frame
    split
    · split
      · exact hquiet _ rfl rfl rfl rfl (.inr rfl)
      · exact hquiet _ rfl rfl rfl rfl (.inl rfl)
    split
    · exact hquiet _ rfl rfl rfl rfl (.inl rfl)
    split
    · exact hquiet _ rfl rfl rfl rfl (.inl rfl)
    split
    · split
      · exact hquiet _ rfl rfl rfl rfl (.inr rfl)
      · refine ⟨(h.before hjoin).open h.good ⟨?_, ?_, ?_, ?_⟩, nofun⟩
        · simp [methods, startingEventOpenDoors, BattleGround.setActive]
        · simp [methods, startingEventOpenDoors, BattleGround.setActive]
        · simp [methods, startingEventOpenDoors, BattleGround.setActive]
        · rw [forall_team]
          simp [methods, startingEventOpenDoors, BattleGround.setActive, flagEvent, WS_EVENT_SPIRITGUIDES_SPAWN]
    · exact hquiet _ rfl rfl rfl rfl (.inl rfl)
  · rw [if_neg hjoin]
    exact h

theorem Sound.passTime (h : bg.Sound) (t : Tick) : Sound (bg.passTime t) := by
  unfold BattleGround.passTime
  split <;> exact h.frame rfl rfl rfl rfl (.inl rfl)

theorem find_removePlayerAtLeave (h : bg.Good untouched) (guid : Nat) (plr : Option Team) (summoned : Option Nat)
    {other : Nat} {team : Team} (hfind : (bg.removePlayerAtLeave methods guid plr summoned).players.find other = some team) :
    bg.players.find other = some team := by
  have hplays := (handles_removePlayer guid plr summoned bg h).2
  have heq : bg.removePlayerAtLeave methods guid plr summoned = removePlayer guid plr summoned (bg.erasePlayer guid) := rfl
  rw [heq] at hfind
  unfold BattleGround.erasePlayer at hfind
  split at hfind
  · rename_i found hfound
    have hwith := @removePlayer_withPlayers bg guid plr summoned (bg.players.erase guid)
      (Function.update bg.playersCount found (sub32 (bg.playersCount found) 1))
    unfold withPlayers at hwith
    rw [hwith] at hfind
    rw [find_erase] at hfind
    split at hfind
    · cases hfind
    · exact hfind
  · rwa [hplays.players] at hfind

theorem scores_removePlayerAtLeave (h : bg.Good untouched) (hover : bg.status ≠ .IN_PROGRESS) (guid : Nat) (plr : Option Team)
    (summoned : Option Nat) : (bg.removePlayerAtLeave methods guid plr summoned).teamScores = bg.teamScores := by
  have hplays := (handles_removePlayer guid plr summoned bg h).2
  show (removePlayer guid plr summoned (bg.erasePlayer guid)).teamScores = _
  unfold BattleGround.erasePlayer
  split
  · rename_i found hfound
    have hwith := @removePlayer_withPlayers bg guid plr summoned (bg.players.erase guid)
      (Function.update bg.playersCount found (sub32 (bg.playersCount found) 1))
    unfold withPlayers at hwith
    rw [hwith]
    exact hplays.scores hover
  · exact hplays.scores hover

theorem Sound.removeAll (h : bg.Sound) (t : Tick) :
    Sound (bg.removeAll methods t) ∧ (bg.status = .WAIT_LEAVE → (bg.removeAll methods t).teamScores = bg.teamScores) := by
  have hfold : ∀ (entries : List (Nat × Team)) (start : BattleGroundWS), start.Sound →
      (∀ entry ∈ entries, ∀ team, start.players.find entry.1 = some team → entry.2 = team) →
      Sound (entries.foldl (fun bg entry => bg.removePlayerAtLeave methods entry.1
        (if t.view.found entry.1 then some entry.2 else none) none) start) ∧
      (start.status = .WAIT_LEAVE → (entries.foldl (fun bg entry => bg.removePlayerAtLeave methods entry.1
        (if t.view.found entry.1 then some entry.2 else none) none) start).teamScores = start.teamScores) := by
    intro entries
    induction entries with
    | nil => exact fun start hstart _ => ⟨hstart, fun _ => rfl⟩
    | cons entry rest ih =>
      intro start hstart hentries
      obtain ⟨hentry, hrest⟩ := List.forall_mem_cons.mp hentries
      have hknown : ∀ team, (if t.view.found entry.1 then some entry.2 else none) = some team →
          Known start ⟨entry.1, team⟩ := by
        intro team hteam found hfound
        split at hteam
        · cases hteam
          exact hentry found hfound
        · cases hteam
      have hnext := ih _ (hstart.removePlayerAtLeave none hknown) fun other hother team hteam =>
        hrest other hother team (find_removePlayerAtLeave hstart.good _ _ _ hteam)
      refine ⟨hnext.1, fun hleave => ?_⟩
      have hgoes := BattleGround.goesOn_removePlayerAtLeave orderly_methods entry.1
        (if t.view.found entry.1 then some entry.2 else none) none start
      have hstatus := (hgoes.status.resolve_right (by rw [hleave]; nofun)).trans hleave
      exact (hnext.2 hstatus).trans (scores_removePlayerAtLeave hstart.good (by rw [hleave]; nofun) _ _ _)
  have hall := hfold bg.players.entries bg h fun entry hentry team hteam => by
    rw [find_of_mem hentry] at hteam
    exact Option.some.inj hteam
  exact ⟨hall.1.frame rfl rfl rfl rfl (.inl rfl), hall.2⟩

theorem Sound.updateBase (h : bg.Sound) (t : Tick) : Sound (BattleGround.update methods t bg) := by
  unfold BattleGround.update
  have hclock : Sound (if bg.status = .WAIT_LEAVE then { bg with endTime := i32 (bg.endTime - t.diff) } else bg) := by
    split
    · exact h.frame rfl rfl rfl rfl (.inl rfl)
    · exact h
  revert hclock
  generalize (if bg.status = .WAIT_LEAVE then { bg with endTime := i32 (bg.endTime - t.diff) } else bg) = clocked
  intro hclock
  dsimp only
  split
  · have hended : Sound { clocked with endTime := 0 } := hclock.frame rfl rfl rfl rfl (.inl rfl)
    exact (hended.removeAll t).1
  split
  · split
    · exact hclock
    · exact hclock.frame rfl rfl rfl rfl (.inl rfl)
  · have hstarted := ((hclock.timeLimit t).prematureFinish t).starting t
    split
    · exact hstarted
    · exact hstarted.passTime t

theorem handles_updateFlags (diff : Nat) (bg : BattleGroundWS) :
    Handles touched bg (updateFlag w .HORDE diff (updateFlag w .ALLIANCE diff bg)) :=
  (handles_updateFlag w .ALLIANCE diff bg).trans (handles_updateFlag w .HORDE diff _)

end

theorem Sound.update (h : bg.Sound) (w : Surroundings) (t : Tick) : (update w t bg).Sound := by
  unfold BattleGroundWS.update
  split
  · rename_i hstatus
    exact ((handles_updateFlags w t.diff bg).sound h (by rw [hstatus]; nofun)).updateBase t
  · exact h.updateBase t

theorem Sound.addPlayer (h : bg.Sound) {player : Player} (hnew : bg.players.find player.guid = none) :
    Sound (bg.addPlayer player) := by
  refine ⟨⟨⟨fun flag guid hguid => ?_, h.good.held.scores, h.good.held.captures⟩, fun hstatus => ?_⟩, fun hstatus =>
    ⟨(h.before hstatus).flags, (h.before hstatus).captures⟩⟩
  · have hfind := h.good.held.keepers flag guid hguid
    have hne : guid ≠ player.guid := fun hsame => by rw [hsame, hnew] at hfind; cases hfind
    show (bg.players.insert player.guid player.team).find guid = _
    rw [find_insert, if_neg hne]
    exact hfind
  · have hplay := h.good.inPlay hstatus
    exact ⟨hplay.sound, hplay.waiting, hplay.below⟩

theorem Sound.deleteGrounded (h : bg.Sound) (flag : Team) (guid : Nat) : (deleteGrounded bg flag guid).Sound := by
  have hchanges : Changes bg (BattleGroundWS.deleteGrounded bg flag guid) flag _ _ := changes_deleteGrounded flag guid
  refine ⟨(handles_deleteGrounded flag guid h.good).1, fun hjoin => ?_⟩
  have hbefore := h.before (hchanges.status ▸ hjoin)
  refine ⟨fun other => ?_, hchanges.captures ▸ hbefore.captures⟩
  rcases eq_or_eq_getOtherTeam flag other with rfl | rfl
  · rw [hchanges.flags]
    obtain ⟨hkeeper, hstate, hgrounded⟩ := hbefore.flags other
    exact ⟨hkeeper, hstate, by simp [hgrounded]⟩
  · rw [hchanges.others]
    exact hbefore.flags _

theorem Sound.useFlag (h : bg.Sound) (w : Surroundings) {source : Player} {target : GameObject}
    (hin : bg.players.find source.guid = some source.team) (hexists : Exists bg target) :
    (useFlag w source target bg).Sound := by
  by_cases hjoin : bg.status = .WAIT_JOIN
  · have hno : ∀ flag, target.entry ≠ flagGroundEntry flag := fun flag hentry => by
      have hmem := hexists.2 flag hentry
      rw [((h.before hjoin).flags flag).2.2] at hmem
      cases hmem
    unfold BattleGroundWS.useFlag
    rw [if_neg (hno _), if_neg (hno _), show eventPlayerClickedOnFlag w source target bg = bg from if_pos (by simp [hjoin])]
    exact h
  · exact (handles_useFlag w hin hexists).sound h hjoin

theorem Sound.handleAreaTrigger (h : bg.Sound) (v : View) {source : Player} (trigger : Nat) (hknown : Known bg source) :
    (handleAreaTrigger v source trigger bg).Sound := by
  by_cases hjoin : bg.status = .WAIT_JOIN
  · rw [show BattleGroundWS.handleAreaTrigger v source trigger bg = bg from if_pos (by simp [hjoin])]
    exact h
  · exact (handles_handleAreaTrigger v trigger hknown).sound h hjoin

theorem sound_step {op : Op} (h : bg.Sound) (hmeets : Meets bg op) : (step bg op).Sound := by
  unfold step
  split
  · exact h
  cases op with
  | added player => exact h.addPlayer hmeets
  | removed guid plr summoned => exact h.removePlayerAtLeave summoned hmeets
  | clicked w source target => exact h.useFlag w hmeets.1 hmeets.2
  | dropped source summoned => exact h.eventPlayerDroppedFlag source summoned
  | killed victim summoned =>
    show (handleKillPlayer victim summoned bg).Sound
    unfold handleKillPlayer
    split
    · exact h
    · exact h.eventPlayerDroppedFlag victim summoned
  | areaTrigger v source trigger => exact h.handleAreaTrigger v trigger hmeets
  | vanished flag guid => exact h.deleteGrounded flag guid
  | ticked w t => exact h.update w t
  | commenced => exact h.frame rfl rfl rfl rfl (.inl rfl)
  | stopped => exact h.frame rfl rfl rfl rfl (.inl rfl)

theorem sound_opening (bracketId : Bracket) : (opening bracketId).Sound :=
  ⟨⟨⟨nofun, fun _ => rfl, nofun⟩, nofun⟩, fun _ => ⟨fun _ => ⟨rfl, rfl, rfl⟩, rfl⟩⟩

theorem sound_run (bracketId : Bracket) {ops : List Op} (hg : Guarded step Meets (opening bracketId) ops) :
    (run step (opening bracketId) ops).Sound :=
  run_invariant step Meets Sound (fun _ _ h hmeets => sound_step h hmeets) (sound_opening bracketId) hg

-- The two ways in which a tick ends a match: the time limit, and a team that has
-- been too small for too long.
def Due (bg : BattleGroundWS) (t : Tick) : Prop :=
  bg.timeIsUp .WS = true ∨
    bg.tooFew .WS t = true ∧ bg.prematureCountDown = true ∧ bg.prematureCountDownTimer < t.diff

theorem Plays.due (h : bg.Plays bg') (hstatus : bg'.status = bg.status) {t : Tick} (hdue : Due bg' t) : Due bg t := by
  unfold Due BattleGround.timeIsUp BattleGround.tooFew at *
  rw [h.startTime, h.playersCount, h.prematureCountDown, h.prematureCountDownTimer, hstatus] at hdue
  exact hdue

theorem timeLimit_of_over (hover : bg.status ≠ .IN_PROGRESS) (t : Tick) : bg.timeLimit methods t = bg :=
  if_neg (by simp [BattleGround.timeIsUp, hover])

theorem scores_prematureFinish (hover : bg.status ≠ .IN_PROGRESS) (t : Tick) :
    (bg.prematureFinish methods t).teamScores = bg.teamScores ∧ (bg.prematureFinish methods t).status = bg.status := by
  unfold BattleGround.prematureFinish
  rw [if_neg (by simp [BattleGround.tooFew, hover])]
  split <;> exact ⟨rfl, rfl⟩

theorem starting_of_not_join (hjoin : bg.status ≠ .WAIT_JOIN) (t : Tick) : bg.starting methods t = (bg, false) :=
  if_neg hjoin

theorem passTime_frame (t : Tick) : (bg.passTime t).teamScores = bg.teamScores ∧ (bg.passTime t).status = bg.status := by
  unfold BattleGround.passTime
  split <;> exact ⟨rfl, rfl⟩

theorem scores_updateBase (h : bg.Sound) (hover : bg.status = .WAIT_LEAVE) (t : Tick) :
    (BattleGround.update methods t bg).teamScores = bg.teamScores := by
  have hended : Sound { bg with endTime := 0 } := h.frame rfl rfl rfl rfl (.inl rfl)
  unfold BattleGround.update
  rw [if_pos hover]
  dsimp only
  split
  · exact (hended.removeAll t).2 hover
  split
  · split <;> rfl
  · generalize hclocked : ({ bg with endTime := i32 (bg.endTime - t.diff) } : BattleGroundWS) = clocked
    have hleave : clocked.status = .WAIT_LEAVE := hclocked ▸ hover
    have hscores : clocked.teamScores = bg.teamScores := hclocked ▸ rfl
    rw [timeLimit_of_over (by rw [hleave]; nofun)]
    obtain ⟨hfinish, hstatus⟩ := @scores_prematureFinish clocked (by rw [hleave]; nofun) t
    rw [starting_of_not_join (by rw [hstatus, hleave]; nofun)]
    exact passTime_frame t |>.1.trans (hfinish.trans hscores)

theorem status_updateBase (hprogress : bg.status = .IN_PROGRESS) {t : Tick} (hdue : ¬Due bg t) :
    (BattleGround.update methods t bg).status = .IN_PROGRESS := by
  obtain ⟨hlimit, hfinish⟩ := not_or.mp hdue
  have hclock : (if bg.status = .WAIT_LEAVE then { bg with endTime := i32 (bg.endTime - t.diff) } else bg) = bg :=
    if_neg (by rw [hprogress]; nofun)
  have hrunning : ¬(bg.status = .WAIT_LEAVE ∧ bg.endTime ≤ 0) := fun hover => by
    rw [hprogress] at hover
    cases hover.1
  unfold BattleGround.update
  rw [hclock]
  rw [if_neg hrunning]
  split
  · split <;> exact hprogress
  · rw [show bg.timeLimit methods t = bg from if_neg hlimit]
    have hpremature : (bg.prematureFinish methods t).status = .IN_PROGRESS := by
      unfold BattleGround.prematureFinish
      split
      · rename_i hfew
        split
        · exact hprogress
        split
        · rename_i hcount htimer
          exact absurd ⟨hfew, by simpa using hcount, htimer⟩ hfinish
        split <;> exact hprogress
      · split <;> exact hprogress
    rw [starting_of_not_join (by rw [hpremature]; nofun)]
    exact (passTime_frame t).2.trans hpremature

-- A match ends at three captures, or when it is due.
theorem ends_at_three (h : bg.Sound) {op : Op} (hmeets : Meets bg op) (hprogress : bg.status = .IN_PROGRESS)
    (hends : (step bg op).status ≠ .IN_PROGRESS) :
    (∃ team, (step bg op).teamScores team = 3) ∨ ∃ w t, op = .ticked w t ∧ Due bg t := by
  have hplays : ∀ bg' : BattleGroundWS, bg.Plays bg' → bg'.status ≠ .IN_PROGRESS → ∃ team, bg'.teamScores team = 3 :=
    fun bg' hplays hover => ((hplays.status.resolve_left fun hsame => hover (hsame.trans hprogress)).2).2
  unfold step at hends ⊢
  by_cases hdeleted : bg.deleted = true
  · rw [if_pos hdeleted] at hends
    exact absurd hprogress hends
  rw [if_neg hdeleted] at hends ⊢
  cases op with
  | added player => exact absurd hprogress hends
  | removed guid plr summoned => 
    have hgoes := BattleGround.goesOn_removePlayerAtLeave orderly_methods guid plr summoned bg
    exact absurd ((hgoes.status.resolve_right (by rw [hprogress]; nofun)).trans hprogress) hends
  | clicked w source target => exact .inl (hplays _ (handles_useFlag w hmeets.1 hmeets.2 h.good).2 hends)
  | dropped source summoned => exact .inl (hplays _ (handles_eventPlayerDroppedFlag source summoned h.good).2 hends)
  | killed victim summoned =>
    have heq : perform bg (.killed victim summoned) = eventPlayerDroppedFlag victim summoned bg :=
      if_neg (by simp [hprogress])
    rw [heq] at hends ⊢
    exact .inl (hplays _ (handles_eventPlayerDroppedFlag victim summoned h.good).2 hends)
  | areaTrigger v source trigger => exact .inl (hplays _ (handles_handleAreaTrigger v trigger hmeets h.good).2 hends)
  | vanished flag guid => exact .inl (hplays _ (handles_deleteGrounded flag guid h.good).2 hends)
  | commenced => exact absurd hprogress hends
  | stopped => exact absurd hprogress hends
  | ticked w t =>
    have heq : perform bg (.ticked w t) =
        BattleGround.update methods t (updateFlag w .HORDE t.diff (updateFlag w .ALLIANCE t.diff bg)) := by
      show update w t bg = _
      unfold update
      rw [if_pos hprogress]
    have hflags := handles_updateFlags w t.diff bg h.good
    have hsound := (handles_updateFlags w t.diff bg).sound h (by rw [hprogress]; nofun)
    rw [heq] at hends ⊢
    rcases hflags.2.status with hsame | ⟨-, hafter, team, hteam⟩
    · refine .inr ⟨w, t, rfl, hflags.2.due hsame ?_⟩
      exact by_contra fun hdue => hends (status_updateBase (hsame.trans hprogress) hdue)
    · exact .inl ⟨team, by rw [scores_updateBase hsound hafter]; exact hteam⟩

end

end BattleGroundWS

end TurtleWow.Matches
