import TurtleWow.Matches.FlagRuns

namespace TurtleWow.Matches

open Battlegrounds (Team Bracket)
open Word Run

-- The flag is neither at its base nor carried.
def Flag.Away (f : Flag) : Prop := f.state = .WAIT_RESPAWN ∨ f.state = .ON_GROUND

-- The time until such a flag comes back.
def Flag.left (f : Flag) : Int := if f.state = .WAIT_RESPAWN then f.timer else f.dropTimer

-- The members that the time depends on.
structure Flag.Same (f f' : Flag) : Prop where
  state : f'.state = f.state
  timer : f'.timer = f.timer
  dropTimer : f'.dropTimer = f.dropTimer

theorem Flag.Same.of_eq {f f' : Flag} (h : f' = f) : f.Same f' := by
  subst h
  exact ⟨rfl, rfl, rfl⟩

theorem Flag.Same.away {f f' : Flag} (h : f.Same f') (haway : f.Away) : f'.Away := by
  unfold Flag.Away
  rw [h.state]
  exact haway

theorem Flag.Same.left {f f' : Flag} (h : f.Same f') : f'.left = f.left := by
  unfold Flag.left
  rw [h.state, h.timer, h.dropTimer]

namespace BattleGroundWS

-- The flag is back, or has that much less time to wait.
def Nearer (diff : Nat) (f f' : Flag) : Prop := f'.state = .ON_BASE ∨ f'.Away ∧ f'.left = f.left - diff

def Op.diff : Op → Nat
  | .ticked _ t => t.diff
  | _ => 0

-- No click, and no tick of 2^31 milliseconds or more.
def Op.Waits : Op → Prop
  | .clicked _ _ _ => False
  | .ticked _ t => t.diff < 2147483648
  | _ => True

section

variable {bg bg' : BattleGroundWS} {flag : Team}

theorem keeper_of_away (h : bg.Sound) (hprogress : bg.status = .IN_PROGRESS) (haway : (bg.own.flags flag).Away) :
    (bg.own.flags flag).keeper = none := by
  refine ((h.good.inPlay hprogress).sound flag).carried.mpr ?_
  rcases haway with hstate | hstate <;> rw [hstate] <;> nofun

theorem nearer_of_same {f f' : Flag} (h : f.Same f') (haway : f.Away) : Nearer 0 f f' :=
  .inr ⟨h.away haway, by rw [h.left]; simp⟩

section

variable (hfree : (bg.own.flags flag).keeper = none)

include hfree

theorem flags_eventPlayerDroppedFlag (source : Player) (summoned : Option Nat) :
    (eventPlayerDroppedFlag source summoned bg).own.flags flag = bg.own.flags flag := by
  by_cases hkeeper : (bg.own.flags (getOtherTeam source.team)).keeper = some source.guid
  · have hne : flag ≠ getOtherTeam source.team := fun hsame => by simp [← hsame, hfree] at hkeeper
    have hother : flag = getOtherTeam (getOtherTeam source.team) := eq_getOtherTeam_of_ne hne
    by_cases hstatus : bg.status = .IN_PROGRESS
    · have hchanges := changes_dropped summoned hstatus rfl hkeeper
      rw [hother]
      exact hchanges.others
    · have hchanges := changes_cleared summoned hstatus rfl hkeeper
      rw [hother]
      exact hchanges.others
  · unfold eventPlayerDroppedFlag
    rw [if_neg hkeeper]

theorem flags_removeKeeper (other : Team) (guid : Nat) (plr : Option Team)
    (summoned : Option Nat) : (removeKeeper other guid plr summoned bg).own.flags flag = bg.own.flags flag := by
  unfold removeKeeper
  by_cases hkeeper : (bg.own.flags other).keeper = some guid
  · rw [if_pos hkeeper]
    cases plr with
    | some team => exact flags_eventPlayerDroppedFlag hfree _ summoned
    | none =>
      have hne : flag ≠ other := fun hsame => by simp [← hsame, hfree] at hkeeper
      simp [respawnFlag, setFlagState, setFlagPicker, modifyFlag, BattleGround.setActive, hne]
  · rw [if_neg hkeeper]

theorem flags_removePlayer (guid : Nat) (plr : Option Team) (summoned : Option Nat) :
    (removePlayer guid plr summoned bg).own.flags flag = bg.own.flags flag := by
  have hfirst := flags_removeKeeper hfree .ALLIANCE guid plr summoned
  exact (flags_removeKeeper (hfirst ▸ hfree) .HORDE guid plr summoned).trans hfirst

end

theorem flags_takePoint {source : Player} (hne : flag ≠ getOtherTeam source.team) :
    (takePoint source bg).own.flags flag = bg.own.flags flag := by
  unfold takePoint
  dsimp only
  split <;> simp [logCapture, setFlagPicker, setFlagState, addPoint, modifyFlag, updateTeamScore, updateFlagState,
    BattleGround.updateWorldState, BattleGround.setActive, hne]

section

variable (hfree : (bg.own.flags flag).keeper = none)

include hfree

theorem flags_eventPlayerCapturedFlag (v : View) (source : Player) :
    (eventPlayerCapturedFlag v source bg).own.flags flag = bg.own.flags flag := by
  unfold eventPlayerCapturedFlag
  dsimp only
  by_cases hstops : bg.status ≠ .IN_PROGRESS ∨ (bg.own.flags (getOtherTeam source.team)).keeper = none
  · rw [if_pos hstops]
  · rw [if_neg hstops]
    have hne : flag ≠ getOtherTeam source.team := fun hsame => hstops (.inr (hsame ▸ hfree))
    have htakes : (takePoint source bg).own.flags flag = bg.own.flags flag := flags_takePoint hne
    split
    · rw [(finishes_cleared v _ _).own, htakes]
    · simp only [setFlagsTimer, modifyFlag]
      rw [Function.update_of_ne hne, htakes]

theorem flags_handleAreaTrigger (v : View) (source : Player) (trigger : Nat) :
    (handleAreaTrigger v source trigger bg).own.flags flag = bg.own.flags flag := by
  have hcaptured := flags_eventPlayerCapturedFlag hfree v source
  unfold handleAreaTrigger
  dsimp only
  split
  · rfl
  split
  · split
    · exact hcaptured
    · rfl
  split
  · split
    · exact hcaptured
    · rfl
  · rfl

theorem flags_forceFlagAreaTrigger (w : Surroundings) (other : Team) :
    (forceFlagAreaTrigger w other bg).own.flags flag = bg.own.flags flag := by
  unfold forceFlagAreaTrigger
  split
  · split
    · split
      · exact flags_handleAreaTrigger hfree w.view _ _
      · rfl
    · rfl
  · rfl

theorem flags_updateFlag_other (w : Surroundings) (diff : Nat) :
    (updateFlag w (getOtherTeam flag) diff bg).own.flags flag = bg.own.flags flag := by
  have hwaiting : (updateWaiting (getOtherTeam flag) diff bg).own.flags flag = bg.own.flags flag := by
    unfold updateWaiting
    dsimp only
    split
    · split <;> simp [respawnFlag, setFlagsTimer, setFlagState, modifyFlag, BattleGround.setActive]
    · rfl
  unfold updateFlag
  rw [← hwaiting] at hfree ⊢
  generalize updateWaiting (getOtherTeam flag) diff bg = waited at hfree ⊢
  unfold updateDropped respawnFlagAfterDrop
  dsimp only
  split
  · split
    · have htimer : (setFlagsDropTimer waited (getOtherTeam flag) 0).own.flags flag = waited.own.flags flag := by
        simp [setFlagsDropTimer, modifyFlag]
      split
      · exact htimer
      · refine (flags_forceFlagAreaTrigger ?_ w _).trans ?_
        · split <;> simp [respawnFlag, setFlagState, setDroppedFlagGuid, deleteGrounded, setFlagsDropTimer, modifyFlag,
            BattleGround.setActive, hfree]
        · split <;> simp [respawnFlag, setFlagState, setDroppedFlagGuid, deleteGrounded, setFlagsDropTimer, modifyFlag,
            BattleGround.setActive]
    · simp [setFlagsDropTimer, modifyFlag]
  · rfl

end

variable {diff : Nat}

theorem i32_sub {timer : Int} (hle : 0 ≤ timer) (hlt : timer < 2147483648) (hdiff : diff < 2147483648) :
    i32 (timer - diff) = timer - diff := by
  unfold i32
  split <;> omega

theorem state_updateWaiting (hwait : (bg.own.flags flag).state = .WAIT_RESPAWN) (hle : 0 ≤ (bg.own.flags flag).timer)
    (hlt : (bg.own.flags flag).timer < 2147483648) (hdiff : diff < 2147483648) :
    Nearer diff (bg.own.flags flag) ((updateWaiting flag diff bg).own.flags flag) ∧
      ((updateWaiting flag diff bg).own.flags flag).state ≠ .ON_GROUND := by
  unfold updateWaiting
  dsimp only
  rw [if_pos hwait, i32_sub hle hlt hdiff]
  split
  · have hback : ((respawnFlag (setFlagsTimer bg flag 0) flag true).own.flags flag).state = .ON_BASE := by
      simp [respawnFlag, setFlagsTimer, setFlagState, modifyFlag, BattleGround.setActive]
    exact ⟨.inl hback, by simp [hback]⟩
  · have hflag : (setFlagsTimer bg flag ((bg.own.flags flag).timer - diff)).own.flags flag =
        { bg.own.flags flag with timer := (bg.own.flags flag).timer - diff } := flags_modifyFlag _
    rw [hflag]
    refine ⟨.inr ⟨.inl hwait, ?_⟩, by simp [hwait]⟩
    simp [Flag.left, hwait]

theorem state_respawnFlagAfterDrop (hprogress : bg.status = .IN_PROGRESS) (hfree : (bg.own.flags flag).keeper = none)
    (w : Surroundings) : ((respawnFlagAfterDrop w flag bg).own.flags flag).state = .ON_BASE := by
  unfold respawnFlagAfterDrop
  dsimp only
  rw [if_neg (not_not.mpr hprogress)]
  split
  · rw [flags_forceFlagAreaTrigger] <;>
      simp [respawnFlag, setFlagState, setDroppedFlagGuid, deleteGrounded, modifyFlag, BattleGround.setActive, hfree]
  · rw [flags_forceFlagAreaTrigger] <;>
      simp [respawnFlag, setFlagState, setDroppedFlagGuid, modifyFlag, BattleGround.setActive, hfree]

theorem state_updateDropped (hprogress : bg.status = .IN_PROGRESS) (hfree : (bg.own.flags flag).keeper = none)
    (hground : (bg.own.flags flag).state = .ON_GROUND) (hle : 0 ≤ (bg.own.flags flag).dropTimer)
    (hlt : (bg.own.flags flag).dropTimer < 2147483648) (w : Surroundings) (hdiff : diff < 2147483648) :
    Nearer diff (bg.own.flags flag) ((updateDropped w flag diff bg).own.flags flag) := by
  unfold updateDropped
  dsimp only
  rw [if_pos hground, i32_sub hle hlt hdiff]
  split
  · refine .inl (@state_respawnFlagAfterDrop (setFlagsDropTimer bg flag 0) _ hprogress ?_ w)
    simp [setFlagsDropTimer, hfree]
  · have hflag : (setFlagsDropTimer bg flag ((bg.own.flags flag).dropTimer - diff)).own.flags flag =
        { bg.own.flags flag with dropTimer := (bg.own.flags flag).dropTimer - diff } := flags_modifyFlag _
    rw [hflag]
    refine .inr ⟨.inr hground, ?_⟩
    simp [Flag.left, hground]

theorem state_updateFlag (h : bg.Sound) (hprogress : bg.status = .IN_PROGRESS) (haway : (bg.own.flags flag).Away)
    (w : Surroundings) (hdiff : diff < 2147483648) :
    Nearer diff (bg.own.flags flag) ((updateFlag w flag diff bg).own.flags flag) := by
  have hsound := (h.good.inPlay hprogress).sound flag
  have hfree := keeper_of_away h hprogress haway
  unfold updateFlag
  rcases haway with hwait | hground
  · obtain ⟨hle, hlt⟩ := hsound.respawning hwait
    obtain ⟨hnearer, hground⟩ := state_updateWaiting hwait hle hlt hdiff
    rw [show updateDropped w flag diff (updateWaiting flag diff bg) = updateWaiting flag diff bg from if_neg hground]
    exact hnearer
  · obtain ⟨hle, hlt⟩ := hsound.lying hground
    rw [show updateWaiting flag diff bg = bg from if_neg (by rw [hground]; nofun)]
    exact state_updateDropped hprogress hfree hground hle hlt w hdiff

theorem Nearer.free (h : bg'.Sound)
    (hnearer : Nearer diff (bg.own.flags flag) (bg'.own.flags flag)) (hprogress : bg'.status = .IN_PROGRESS) :
    (bg'.own.flags flag).keeper = none := by
  rcases hnearer with hbase | ⟨haway, -⟩
  · exact ((h.good.inPlay hprogress).sound flag).carried.mpr (by rw [hbase]; nofun)
  · exact keeper_of_away h hprogress haway

theorem nearer_updateFlags (h : bg.Sound) (hprogress : bg.status = .IN_PROGRESS) (haway : (bg.own.flags flag).Away)
    (w : Surroundings) (hdiff : diff < 2147483648)
    (hafter : (updateFlag w .HORDE diff (updateFlag w .ALLIANCE diff bg)).status = .IN_PROGRESS) :
    Nearer diff (bg.own.flags flag) ((updateFlag w .HORDE diff (updateFlag w .ALLIANCE diff bg)).own.flags flag) := by
  have hmid := (concludes_updateFlag w .ALLIANCE diff bg).between (concludes_updateFlag w .HORDE diff _) hprogress hafter
  have hsound : (updateFlag w .ALLIANCE diff bg).Sound :=
    (handles_updateFlag w .ALLIANCE diff bg).sound h (by rw [hprogress]; nofun)
  cases flag with
  | ALLIANCE =>
    have hnearer := state_updateFlag h hprogress haway w hdiff
    have hsame : (updateFlag w .HORDE diff (updateFlag w .ALLIANCE diff bg)).own.flags .ALLIANCE =
        (updateFlag w .ALLIANCE diff bg).own.flags .ALLIANCE :=
      flags_updateFlag_other (hnearer.free hsound hmid) w diff
    rw [hsame]
    exact hnearer
  | HORDE =>
    have hsame : (updateFlag w .ALLIANCE diff bg).own.flags .HORDE = bg.own.flags .HORDE :=
      flags_updateFlag_other (keeper_of_away h hprogress haway) w diff
    rw [← hsame] at haway ⊢
    exact state_updateFlag hsound hmid haway w hdiff

theorem own_timeLimit (t : Tick) : (bg.timeLimit methods t).own = bg.own := by
  unfold BattleGround.timeLimit
  split
  · exact (finishes t.view (getWinningTeam bg) bg).own
  · rfl

theorem own_prematureFinish (t : Tick) : (bg.prematureFinish methods t).own = bg.own := by
  have hfinishes := finishes t.view (getWinningTeam bg) bg
  unfold BattleGround.prematureFinish
  split
  · split
    · rfl
    split
    · exact hfinishes.own
    split <;> rfl
  · split <;> rfl

theorem own_passTime (t : Tick) : (bg.passTime t).own = bg.own := by
  unfold BattleGround.passTime
  split <;> rfl

theorem own_updateBase (hprogress : bg.status = .IN_PROGRESS) (t : Tick) :
    (BattleGround.update methods t bg).own = bg.own := by
  have hclock : (if bg.status = .WAIT_LEAVE then { bg with endTime := i32 (bg.endTime - t.diff) } else bg) = bg :=
    if_neg (by rw [hprogress]; nofun)
  have hrunning : ¬(bg.status = .WAIT_LEAVE ∧ bg.endTime ≤ 0) := fun hover => by
    rw [hprogress] at hover
    cases hover.1
  unfold BattleGround.update
  rw [hclock]
  rw [if_neg hrunning]
  split
  · split <;> rfl
  · have hconcludes := (BattleGround.concludes_timeLimit orderly_methods t bg).trans
      (BattleGround.concludes_prematureFinish orderly_methods t _)
    have hjoin : (BattleGround.prematureFinish methods t (bg.timeLimit methods t)).status ≠ .WAIT_JOIN := by
      rcases hconcludes with hgoes | ⟨_, _, hends⟩
      · rw [hgoes.status.resolve_right (by rw [hprogress]; nofun), hprogress]
        nofun
      · rw [hends.after]
        nofun
    rw [starting_of_not_join hjoin]
    have hown : (BattleGround.prematureFinish methods t (bg.timeLimit methods t)).own = bg.own :=
      (own_prematureFinish t).trans (own_timeLimit t)
    exact (own_passTime t).trans hown

theorem nearer_step (h : bg.Sound) {op : Op} (hmeets : Meets bg op) (hwaits : op.Waits) (hdeleted : bg.deleted = false)
    (hprogress : bg.status = .IN_PROGRESS) (hafter : (step bg op).status = .IN_PROGRESS)
    (haway : (bg.own.flags flag).Away) : Nearer op.diff (bg.own.flags flag) ((step bg op).own.flags flag) := by
  have hfree := keeper_of_away h hprogress haway
  have hstep : step bg op = perform bg op := if_neg (by simp [hdeleted])
  rw [hstep] at hafter ⊢
  cases op with
  | added player => exact nearer_of_same (.of_eq rfl) haway
  | removed guid plr summoned =>
    have herased : (bg.erasePlayer guid).own = bg.own := by
      unfold BattleGround.erasePlayer
      split <;> rfl
    have hremoved : ((bg.erasePlayer guid).own.flags flag).keeper = none := by rw [herased]; exact hfree
    refine nearer_of_same (.of_eq ?_) haway
    exact (flags_removePlayer hremoved guid plr summoned).trans (by rw [herased])
  | clicked w source target => exact hwaits.elim
  | dropped source summoned => exact nearer_of_same (.of_eq (flags_eventPlayerDroppedFlag hfree source summoned)) haway
  | killed victim summoned =>
    have heq : perform bg (.killed victim summoned) = eventPlayerDroppedFlag victim summoned bg :=
      if_neg (by simp [hprogress])
    rw [heq]
    exact nearer_of_same (.of_eq (flags_eventPlayerDroppedFlag hfree victim summoned)) haway
  | areaTrigger v source trigger => exact nearer_of_same (.of_eq (flags_handleAreaTrigger hfree v source trigger)) haway
  | vanished other guid =>
    refine nearer_of_same ?_ haway
    show Flag.Same _ ((deleteGrounded bg other guid).own.flags flag)
    rcases eq_or_eq_getOtherTeam flag other with rfl | rfl
    · rw [deleteGrounded, flags_modifyFlag]
      exact ⟨rfl, rfl, rfl⟩
    · exact .of_eq (by simp [deleteGrounded, modifyFlag])
  | ticked w t =>
    have heq : perform bg (.ticked w t) =
        BattleGround.update methods t (updateFlag w .HORDE t.diff (updateFlag w .ALLIANCE t.diff bg)) := by
      show update w t bg = _
      unfold update
      rw [if_pos hprogress]
    rw [heq] at hafter ⊢
    have hflags := (concludes_updateFlag w .ALLIANCE t.diff bg).trans (concludes_updateFlag w .HORDE t.diff _)
    have hmid := hflags.between (BattleGround.concludes_update orderly_methods t _) hprogress hafter
    rw [own_updateBase hmid]
    exact nearer_updateFlags h hprogress haway w hwaits hmid
  | commenced => exact nearer_of_same (.of_eq rfl) haway
  | stopped => exact nearer_of_same (.of_eq rfl) haway

theorem left_nonneg (h : bg.Sound) (hprogress : bg.status = .IN_PROGRESS) (haway : (bg.own.flags flag).Away) :
    0 ≤ (bg.own.flags flag).left := by
  have hsound := (h.good.inPlay hprogress).sound flag
  unfold Flag.left
  rcases haway with hwait | hground
  · rw [if_pos hwait]
    exact (hsound.respawning hwait).1
  · rw [if_neg (by rw [hground]; nofun)]
    exact (hsound.lying hground).1

theorem concludes_run (later : List Op) (bg : BattleGroundWS) : BattleGround.Concludes bg (run step bg later) := by
  induction later generalizing bg with
  | nil => exact .refl bg
  | cons op rest ih => exact (concludes_step bg op).trans (ih _)

theorem run_of_deleted (hdeleted : bg.deleted = true) (later : List Op) : run step bg later = bg := by
  induction later with
  | nil => rfl
  | cons op rest ih =>
    rw [run_cons, show step bg op = bg from if_pos hdeleted]
    exact ih

-- A flag that is away comes back while the match lasts, once the ticks without a
-- click are longer than its timer.
theorem flag_returns {later : List Op} (h : bg.Sound) (hg : Guarded step Meets bg later)
    (hwaits : ∀ op ∈ later, op.Waits) (hprogress : bg.status = .IN_PROGRESS)
    (hlast : (run step bg later).status = .IN_PROGRESS) (hexists : (run step bg later).deleted = false)
    (haway : (bg.own.flags flag).Away) (htime : (bg.own.flags flag).left < (later.map Op.diff).sum) :
    ∃ first rest, later = first ++ rest ∧ ((run step bg first).own.flags flag).state = .ON_BASE := by
  induction later generalizing bg with
  | nil =>
    have hleft := left_nonneg h hprogress haway
    simp only [List.map_nil, List.sum_nil] at htime
    omega
  | cons op rest ih =>
    obtain ⟨hop, hrest⟩ := List.forall_mem_cons.mp hwaits
    have hdeleted : bg.deleted = false := by
      by_contra hgone
      rw [run_of_deleted (by simpa using hgone)] at hexists
      exact hgone hexists
    have hmid := (concludes_step bg op).between (concludes_run rest _) hprogress hlast
    rcases nearer_step h hg.1 hop hdeleted hprogress hmid haway with hbase | ⟨hstill, hleft⟩
    · exact ⟨[op], rest, rfl, hbase⟩
    · simp only [List.map_cons, List.sum_cons] at htime
      obtain ⟨first, after, heq, hback⟩ := ih (sound_step h hg.1) hg.2 hrest hmid hlast hexists hstill (by omega)
      exact ⟨op :: first, after, by rw [heq]; rfl, hback⟩

end

-- What a match in progress shows.
structure Rules (bg : BattleGroundWS) : Prop where
  carried : ∀ flag, (bg.own.flags flag).keeper ≠ none ↔ (bg.own.flags flag).state = .ON_PLAYER
  carrier : ∀ flag guid, (bg.own.flags flag).keeper = some guid → bg.players.find guid = some (getOtherTeam flag)
  based : ∀ flag, bg.activeEvents (flagEvent flag) = 0 → (bg.own.flags flag).state = .ON_BASE
  lying : ∀ flag, ∀ guid ∈ (bg.own.flags flag).grounded,
    (bg.own.flags flag).droppedGuid = some guid ∧ (bg.own.flags flag).state = .ON_GROUND
  below : ∀ team, bg.teamScores team < 3

theorem Sound.rules {bg : BattleGroundWS} (h : bg.Sound) (hprogress : bg.status = .IN_PROGRESS) : bg.Rules := by
  have hplay := h.good.inPlay hprogress
  refine ⟨fun flag => ?_, h.good.held.keepers, fun flag => (hplay.sound flag).spawned, fun flag guid hguid => ?_, hplay.below⟩
  · rw [Ne, (hplay.sound flag).carried, not_not]
  · exact ((hplay.sound flag).grounded guid hguid).resolve_left id

-- Every run of a match: what holds while it is in progress, how the points were
-- made, how it ends, and how a flag that is away comes back.
theorem warsong_flags (bracketId : Bracket) {ops : List Op} (hg : Guarded step Meets (opening bracketId) ops) :
    let bg := run step (opening bracketId) ops
    (bg.status = .IN_PROGRESS → bg.Rules) ∧
    (∀ team, bg.teamScores team = bg.own.captures.countP fun c => decide (c.source.team = team)) ∧
    (∀ c ∈ bg.own.captures, c.Proper) ∧
    (∀ op, Meets bg op → bg.status = .IN_PROGRESS → (step bg op).status ≠ .IN_PROGRESS →
      (∃ team, (step bg op).teamScores team = 3) ∨ ∃ w t, op = .ticked w t ∧ Due bg t) ∧
    ∀ flag later, Guarded step Meets bg later → (∀ op ∈ later, op.Waits) → bg.status = .IN_PROGRESS →
      (run step bg later).status = .IN_PROGRESS → (run step bg later).deleted = false →
      (bg.own.flags flag).Away → (bg.own.flags flag).left < (later.map Op.diff).sum →
      ∃ first rest, later = first ++ rest ∧ ((run step bg first).own.flags flag).state = .ON_BASE := by
  have hsound := sound_run bracketId hg
  exact ⟨hsound.rules, hsound.good.held.scores, hsound.good.held.captures,
    fun op hmeets hprogress hends => ends_at_three hsound hmeets hprogress hends,
    fun flag later hlater hwaits hprogress hlast hexists haway htime =>
      flag_returns hsound hlater hwaits hprogress hlast hexists haway htime⟩

def quietView : View := ⟨fun _ => true, fun _ => 60, fun _ => false, false⟩

def quietTick (diff : Nat) : Op :=
  .ticked ⟨quietView, true, fun _ _ => false⟩ ⟨quietView, diff, false, 0, 0, 10, false, true⟩

-- The doors open at the fourth tick.
def started : List Op :=
  [.added ⟨1, .ALLIANCE⟩, quietTick 1, .commenced, quietTick 1, quietTick 1, quietTick 1]

def hordeFlag : GameObject := ⟨7, 179831, flagEvent .HORDE, fun flag h => by cases flag <;> exact absurd h (by decide)⟩

def taken : List Op := started ++ [.clicked ⟨quietView, true, fun _ _ => false⟩ ⟨1, .ALLIANCE⟩ hordeFlag]

def dropped : List Op := taken ++ [.dropped ⟨1, .ALLIANCE⟩ (some 9)]

theorem guarded_dropped : Guarded step Meets (opening 0) dropped := by
  refine ⟨rfl, trivial, trivial, trivial, trivial, trivial, ⟨?_, fun flag hevent => ?_, fun flag hentry => ?_⟩, ?_, trivial⟩
  · decide +kernel
  · cases flag with
    | ALLIANCE => exact absurd hevent (by decide)
    | HORDE => decide +kernel
  · cases flag <;> exact absurd hentry (by decide)
  · have hfind : (run step (opening 0) taken).players.find 1 = some .ALLIANCE := by decide +kernel
    intro team hteam
    exact Option.some.inj (hfind.symm.trans hteam)

-- A match that the clock has ended at 0 to 0; a flag that is carried past any
-- timer; and a tick that wraps the timer of a flag on the ground.
theorem warsong_flags_limits :
    (Guarded step Meets (opening 0) (started ++ [quietTick 1200001, quietTick 1]) ∧
      (run step (opening 0) (started ++ [quietTick 1200001])).status = .IN_PROGRESS ∧
      (run step (opening 0) (started ++ [quietTick 1200001, quietTick 1])).status = .WAIT_LEAVE ∧
      ∀ team, (run step (opening 0) (started ++ [quietTick 1200001, quietTick 1])).teamScores team = 0) ∧
    (Guarded step Meets (opening 0) dropped ∧
      ((run step (opening 0) (taken ++ [quietTick 1200000])).own.flags .HORDE).state = .ON_PLAYER ∧
      (run step (opening 0) (taken ++ [quietTick 1200000])).status = .IN_PROGRESS ∧
      ((run step (opening 0) dropped).own.flags .HORDE).left = 10000 ∧
      ((run step (opening 0) (dropped ++ [quietTick 4294967295, quietTick 1])).own.flags .HORDE).state = .ON_GROUND ∧
      (run step (opening 0) (dropped ++ [quietTick 4294967295, quietTick 1])).status = .IN_PROGRESS) := by
  refine ⟨⟨⟨rfl, trivial, trivial, trivial, trivial, trivial, trivial, trivial, trivial⟩, ?_, ?_, ?_⟩,
    guarded_dropped, ?_, ?_, ?_, ?_, ?_⟩
  · decide +kernel
  · decide +kernel
  · rw [forall_team]
    decide +kernel
  all_goals decide +kernel

theorem warsong_flags_dropped :
    (run step (opening 0) dropped).Rules ∧
    ∃ first rest, [quietTick 10000, quietTick 1] = first ++ rest ∧
      ((run step (run step (opening 0) dropped) first).own.flags .HORDE).state = .ON_BASE := by
  have hall := warsong_flags 0 guarded_dropped
  have hshort : (10000 : Nat) < 2147483648 ∧ (1 : Nat) < 2147483648 := by decide
  refine ⟨hall.1 (by decide +kernel), hall.2.2.2.2 .HORDE _ ⟨trivial, trivial, trivial⟩ ?_ ?_ ?_ ?_ ?_ ?_⟩
  · exact List.forall_mem_cons.mpr ⟨hshort.1, List.forall_mem_cons.mpr ⟨hshort.2, nofun⟩⟩
  · decide +kernel
  · decide +kernel
  · decide +kernel
  · exact .inr (by decide +kernel)
  · decide +kernel

end BattleGroundWS

end TurtleWow.Matches
