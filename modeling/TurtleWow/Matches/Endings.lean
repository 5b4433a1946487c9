import Mathlib.Logic.Basic
import TurtleWow.Matches.Warsong

namespace TurtleWow.Matches

open Word

namespace BattleGround

variable {δ : Type}

-- The end of a match: BattleGround::EndBattleGround has been called once, on a
-- match that was not over.
structure Ends (bg bg' : BattleGround δ) (winner : Option Battlegrounds.Team) (rewards : List Reward) : Prop where
  before : bg.status ≠ .WAIT_LEAVE
  after : bg'.status = .WAIT_LEAVE
  endings : bg'.endings = bg.endings ++ [⟨winner, rewards⟩]
  winner : bg'.winner = winnerOf winner

-- Nothing has ended; the match may have started or have been called off.
structure GoesOn (bg bg' : BattleGround δ) : Prop where
  status : bg'.status = bg.status ∨ bg.status = .WAIT_JOIN
  endings : bg'.endings = bg.endings
  winner : bg'.winner = bg.winner

def Concludes (bg bg' : BattleGround δ) : Prop := bg.GoesOn bg' ∨ ∃ winner rewards, bg.Ends bg' winner rewards

theorem GoesOn.refl (bg : BattleGround δ) : bg.GoesOn bg := ⟨.inl rfl, rfl, rfl⟩

theorem Concludes.refl (bg : BattleGround δ) : bg.Concludes bg := .inl (.refl bg)

variable {bg bg' : BattleGround δ}

theorem concludes_of_eq (hstatus : bg'.status = bg.status) (hendings : bg'.endings = bg.endings)
    (hwinner : bg'.winner = bg.winner) : bg.Concludes bg' := .inl ⟨.inl hstatus, hendings, hwinner⟩

theorem GoesOn.trans {bg'' : BattleGround δ} (h : bg.GoesOn bg') (h' : bg'.GoesOn bg'') : bg.GoesOn bg'' := by
  refine ⟨?_, h'.endings.trans h.endings, h'.winner.trans h.winner⟩
  rcases h.status with hstatus | hstatus
  · rw [← hstatus]
    exact h'.status
  · exact .inr hstatus

theorem Concludes.trans {bg'' : BattleGround δ} (h : bg.Concludes bg') (h' : bg'.Concludes bg'') :
    bg.Concludes bg'' := by
  rcases h with h | ⟨winner, rewards, h⟩ <;> rcases h' with h' | ⟨winner', rewards', h'⟩
  · exact .inl (h.trans h')
  · refine .inr ⟨winner', rewards', ?_, h'.after, h.endings ▸ h'.endings, h'.winner⟩
    intro hleave
    have hstatus := h.status.resolve_right (by rw [hleave]; nofun)
    exact h'.before (hstatus.trans hleave)
  · refine .inr ⟨winner, rewards, h.before, ?_, h'.endings.trans h.endings, h'.winner.trans h.winner⟩
    have hleave := h'.status.resolve_right (by rw [h.after]; nofun)
    exact hleave.trans h.after
  · exact absurd h.after h'.before

theorem concludes_finish (hstatus : bg.status = .IN_PROGRESS) (typeId : TypeId) (v : View)
    (winner : Option Battlegrounds.Team) (given : List Reward) : bg.Concludes (bg.finish typeId v winner given) :=
  .inr ⟨winner, _, hstatus ▸ nofun, rfl, rfl, rfl⟩

structure Orderly (m : Methods δ) : Prop where
  endBattleGround : ∀ v winner (bg : BattleGround δ), bg.status = .IN_PROGRESS →
    bg.Concludes (m.endBattleGround v winner bg)
  startingEventOpenDoors : ∀ bg : BattleGround δ, (m.startingEventOpenDoors bg).endings = bg.endings ∧
    (m.startingEventOpenDoors bg).winner = bg.winner
  removePlayer : ∀ guid plr summoned (bg : BattleGround δ), bg.GoesOn (m.removePlayer guid plr summoned bg)

section

variable {m : Methods δ} (hm : Orderly m)

include hm

theorem goesOn_removePlayerAtLeave (guid : Nat) (plr : Option Battlegrounds.Team) (summoned : Option Nat)
    (bg : BattleGround δ) : bg.GoesOn (removePlayerAtLeave m guid plr summoned bg) := by
  refine @GoesOn.trans _ _ (bg.erasePlayer guid) _ ?_ (hm.removePlayer _ _ _ _)
  unfold erasePlayer
  split <;> exact ⟨.inl rfl, rfl, rfl⟩

theorem goesOn_removeAll (t : Tick) (bg : BattleGround δ) : bg.GoesOn (removeAll m t bg) := by
  have h : ∀ (entries : List (Nat × Battlegrounds.Team)) (start : BattleGround δ), start.GoesOn
      (entries.foldl (fun bg entry => bg.removePlayerAtLeave m entry.1
        (if t.view.found entry.1 then some entry.2 else none) none) start) := by
    intro entries
    induction entries with
    | nil => exact GoesOn.refl
    | cons entry rest ih => exact fun start => (goesOn_removePlayerAtLeave hm _ _ _ start).trans (ih _)
  have hall := h bg.players.entries bg
  exact ⟨hall.status, hall.endings, hall.winner⟩

theorem concludes_timeLimit (t : Tick) (bg : BattleGround δ) : bg.Concludes (timeLimit m t bg) := by
  unfold timeLimit
  split
  · rename_i hup
    simp only [timeIsUp, Bool.and_eq_true, decide_eq_true_eq] at hup
    exact hm.endBattleGround _ _ bg hup.1.1
  · exact .refl bg

theorem concludes_prematureFinish (t : Tick) (bg : BattleGround δ) : bg.Concludes (prematureFinish m t bg) := by
  unfold prematureFinish
  by_cases hfew : bg.tooFew m.typeId t = true
  · rw [if_pos hfew]
    simp only [tooFew, Bool.and_eq_true, decide_eq_true_eq] at hfew
    split
    · exact concludes_of_eq rfl rfl rfl
    split
    · rcases hm.endBattleGround t.view (m.getWinningTeam bg) bg hfew.1.1.2 with h | ⟨winner, rewards, h⟩
      · exact .inl ⟨h.status, h.endings, h.winner⟩
      · exact .inr ⟨winner, rewards, h.before, h.after, h.endings, h.winner⟩
    split
    · exact concludes_of_eq rfl rfl rfl
    · exact .refl bg
  · rw [if_neg hfew]
    split
    · exact concludes_of_eq rfl rfl rfl
    · exact .refl bg

theorem goesOn_starting (t : Tick) (bg : BattleGround δ) : bg.GoesOn (starting m t bg).1 := by
  have hopen := hm.startingEventOpenDoors
  unfold starting
  by_cases hjoin : bg.status = .WAIT_JOIN
  · rw [if_pos hjoin]
    refine ⟨.inr hjoin, ?_, ?_⟩ <;> dsimp only <;> (repeat' split) <;> first | rfl | simp [hopen]
  · rw [if_neg hjoin]
    exact .refl bg

theorem concludes_update (t : Tick) (bg : BattleGround δ) : bg.Concludes (update m t bg) := by
  unfold update
  have hclock : bg.GoesOn
      (if bg.status = .WAIT_LEAVE then { bg with endTime := i32 (bg.endTime - t.diff) } else bg) := by
    split <;> exact ⟨.inl rfl, rfl, rfl⟩
  revert hclock
  generalize (if bg.status = .WAIT_LEAVE then { bg with endTime := i32 (bg.endTime - t.diff) } else bg) = clocked
  intro hclock
  refine .trans (.inl hclock) ?_
  dsimp only
  split
  · have hall := goesOn_removeAll hm t { clocked with endTime := 0 }
    exact .inl ⟨hall.status, hall.endings, hall.winner⟩
  split
  · split
    · exact .refl _
    · exact concludes_of_eq rfl rfl rfl
  · have hended := (concludes_timeLimit hm t clocked).trans (concludes_prematureFinish hm t (timeLimit m t clocked))
    have hstarted := hended.trans (.inl (goesOn_starting hm t (prematureFinish m t (timeLimit m t clocked))))
    split
    · exact hstarted
    · refine hstarted.trans ?_
      unfold passTime
      split <;> exact concludes_of_eq rfl rfl rfl

end

theorem Once.kept (hstep : bg.Concludes bg') (hover : bg.status = .WAIT_LEAVE) :
    bg'.winner = bg.winner ∧ bg'.endings = bg.endings ∧ bg'.status = .WAIT_LEAVE := by
  rcases hstep with hstep | ⟨_, _, hstep⟩
  · exact ⟨hstep.winner, hstep.endings, (hstep.status.resolve_right (by rw [hover]; nofun)).trans hover⟩
  · exact absurd hover hstep.before

theorem Concludes.between {mid : BattleGround δ} (h : bg.Concludes mid) (h' : mid.Concludes bg')
    (hbefore : bg.status = .IN_PROGRESS) (hafter : bg'.status = .IN_PROGRESS) : mid.status = .IN_PROGRESS := by
  rcases h with h | ⟨_, _, h⟩
  · exact (h.status.resolve_right (by rw [hbefore]; nofun)).trans hbefore
  · have hkept := Once.kept h' h.after
    rw [hkept.2.2] at hafter
    cases hafter

end BattleGround

open Battlegrounds (Team)
open Word BattleGround

namespace BattleGroundWS

theorem goesOn_eventPlayerDroppedFlag (source : Player) (summoned : Option Nat) (bg : BattleGroundWS) :
    GoesOn bg (eventPlayerDroppedFlag source summoned bg) := by
  unfold eventPlayerDroppedFlag
  dsimp only
  split
  · split
    · refine ⟨.inl ?_, ?_, ?_⟩ <;> simp only [setFlagPicker, modifyFlag]
    · refine ⟨.inl ?_, ?_, ?_⟩ <;> cases summoned <;>
        simp only [setFlagPicker, setFlagState, setFlagsDropTimer, summonDroppedFlag, modifyFlag, updateFlagState,
          BattleGround.updateWorldState]
  · exact .refl bg

theorem goesOn_removeKeeper (flag : Team) (guid : Nat) (plr : Option Team) (summoned : Option Nat) (bg : BattleGroundWS) :
    GoesOn bg (removeKeeper flag guid plr summoned bg) := by
  unfold removeKeeper
  split
  · cases plr with
    | none =>
      simp only [respawnFlag, BattleGround.spawnEvent_zero]
      exact ⟨.inl rfl, rfl, rfl⟩
    | some team => exact goesOn_eventPlayerDroppedFlag _ summoned bg
  · exact .refl bg

theorem orderly_methods : Orderly methods where
  endBattleGround := fun v winner bg hstatus => BattleGround.concludes_finish hstatus .WS v winner _
  startingEventOpenDoors := fun bg => by simp [methods, startingEventOpenDoors, BattleGround.setActive]
  removePlayer := fun guid plr summoned bg =>
    (goesOn_removeKeeper .ALLIANCE guid plr summoned bg).trans (goesOn_removeKeeper .HORDE guid plr summoned _)

theorem goesOn_takePoint (source : Player) (bg : BattleGroundWS) : GoesOn bg (takePoint source bg) := by
  unfold takePoint
  dsimp only
  split <;> refine ⟨.inl ?_, ?_, ?_⟩ <;>
    simp [logCapture, setFlagPicker, setFlagState, addPoint, modifyFlag, updateTeamScore, updateFlagState,
      updateWorldState, setActive]

theorem concludes_eventPlayerCapturedFlag (v : View) (source : Player) (bg : BattleGroundWS) :
    Concludes bg (eventPlayerCapturedFlag v source bg) := by
  have htakes := goesOn_takePoint source bg
  unfold eventPlayerCapturedFlag
  dsimp only
  by_cases hstops : bg.status ≠ .IN_PROGRESS ∨ (bg.own.flags (getOtherTeam source.team)).keeper = none
  · rw [if_pos hstops]
    exact .refl bg
  · rw [if_neg hstops]
    have hprogress : bg.status = .IN_PROGRESS := not_not.mp (not_or.mp hstops).1
    split
    · rename_i winner _
      have hcleared : GoesOn bg (clearWorldStates (takePoint source bg)) :=
        htakes.trans (by refine ⟨.inl ?_, ?_, ?_⟩ <;> simp only [clearWorldStates, updateWorldState])
      refine .trans (.inl hcleared) (concludes_finish ?_ .WS v (some winner) _)
      exact (hcleared.status.resolve_right (by rw [hprogress]; nofun)).trans hprogress
    · refine .inl (htakes.trans ?_)
      refine ⟨.inl ?_, ?_, ?_⟩ <;> simp only [setFlagsTimer, modifyFlag]

theorem concludes_handleAreaTrigger (v : View) (source : Player) (trigger : Nat) (bg : BattleGroundWS) :
    Concludes bg (handleAreaTrigger v source trigger bg) := by
  have hcaptures := concludes_eventPlayerCapturedFlag v source bg
  unfold handleAreaTrigger
  dsimp only
  split
  · exact .refl bg
  split
  · split
    · exact hcaptures
    · exact .refl bg
  split
  · split
    · exact hcaptures
    · exact .refl bg
  · exact .refl bg

section

variable (w : Surroundings)

theorem concludes_forceFlagAreaTrigger (flag : Team) (bg : BattleGroundWS) :
    Concludes bg (forceFlagAreaTrigger w flag bg) := by
  unfold forceFlagAreaTrigger
  split
  · split
    · split
      · exact concludes_handleAreaTrigger _ _ _ bg
      · exact .refl bg
    · exact .refl bg
  · exact .refl bg

theorem goesOn_respawnFlag (flag : Team) (captured : Bool) (bg : BattleGroundWS) : GoesOn bg (respawnFlag bg flag captured) := by
  unfold respawnFlag
  split <;> refine ⟨.inl ?_, ?_, ?_⟩ <;> simp [setFlagState, modifyFlag, setActive]

theorem goesOn_pickUpFlag (flag : Team) (source : Player) (bg : BattleGroundWS) : GoesOn bg (pickUpFlag flag source bg) := by
  refine ⟨.inl ?_, ?_, ?_⟩ <;>
    simp [pickUpFlag, setFlagPicker, setFlagState, modifyFlag, updateFlagState, updateWorldState, setActive]

theorem goesOn_modifyFlag (flag : Team) (change : Flag → Flag) (bg : BattleGroundWS) :
    GoesOn bg (modifyFlag bg flag change) := ⟨.inl rfl, rfl, rfl⟩

theorem concludes_touchOnGround (flag : Team) (source : Player) (target : GameObject) (bg : BattleGroundWS) :
    Concludes bg (touchOnGround w flag source target bg) := by
  unfold touchOnGround
  split
  · split
    · refine .trans (.inl ?_) (concludes_forceFlagAreaTrigger w flag _)
      exact @GoesOn.trans _ _ (updateFlagState bg (getOtherTeam flag) 1) _ ⟨.inl rfl, rfl, rfl⟩ (goesOn_respawnFlag flag false _)
    · exact .inl (goesOn_pickUpFlag flag source bg)
  · exact .refl bg

theorem goesOn_pickUpFromBase (flag : Team) (source : Player) (target : GameObject) (bg : BattleGroundWS) :
    GoesOn bg (pickUpFromBase flag source target bg) := by
  unfold pickUpFromBase
  split
  · exact goesOn_pickUpFlag flag source bg
  · exact .refl bg

theorem concludes_useFlag (source : Player) (target : GameObject) (bg : BattleGroundWS) :
    Concludes bg (useFlag w source target bg) := by
  have hclicked : Concludes bg (eventPlayerClickedOnFlag w source target bg) := by
    unfold eventPlayerClickedOnFlag
    split
    · exact .refl bg
    · have hbase := (goesOn_pickUpFromBase .ALLIANCE source target bg).trans (goesOn_pickUpFromBase .HORDE source target _)
      exact (Concludes.trans (.inl hbase) (concludes_touchOnGround w .ALLIANCE source target _)).trans
        (concludes_touchOnGround w .HORDE source target _)
  unfold useFlag
  split
  · exact hclicked.trans (.inl (goesOn_modifyFlag _ _ _))
  split
  · exact hclicked.trans (.inl (goesOn_modifyFlag _ _ _))
  · exact hclicked

theorem concludes_updateFlag (flag : Team) (diff : Nat) (bg : BattleGroundWS) :
    Concludes bg (updateFlag w flag diff bg) := by
  have hwaiting : GoesOn bg (updateWaiting flag diff bg) := by
    unfold updateWaiting
    dsimp only
    split
    · split
      · exact (goesOn_modifyFlag flag _ bg).trans (goesOn_respawnFlag flag true _)
      · exact goesOn_modifyFlag flag _ bg
    · exact .refl bg
  refine .trans (.inl hwaiting) ?_
  show Concludes _ (updateDropped w flag diff (updateWaiting flag diff bg))
  unfold updateDropped
  dsimp only
  split
  · split
    · refine .trans (.inl (show GoesOn (updateWaiting flag diff bg)
        (setFlagsDropTimer (updateWaiting flag diff bg) flag 0) from goesOn_modifyFlag flag _ _)) ?_
      unfold respawnFlagAfterDrop
      split
      · exact .refl _
      · refine .trans (.inl ?_) (concludes_forceFlagAreaTrigger w flag _)
        refine (goesOn_respawnFlag flag false _).trans ?_
        split
        · exact (goesOn_modifyFlag flag _ _).trans (goesOn_modifyFlag flag _ _)
        · exact goesOn_modifyFlag flag _ _
    · exact .inl (goesOn_modifyFlag flag _ _)
  · exact .refl _

end

theorem concludes_step (bg : BattleGroundWS) (op : Op) : Concludes bg (step bg op) := by
  unfold step
  split
  · exact .refl bg
  cases op with
  | added player => exact .inl ⟨.inl rfl, rfl, rfl⟩
  | removed guid plr summoned => exact .inl (goesOn_removePlayerAtLeave orderly_methods guid plr summoned bg)
  | clicked w source target => exact concludes_useFlag w source target bg
  | dropped source summoned => exact .inl (goesOn_eventPlayerDroppedFlag source summoned bg)
  | killed victim summoned =>
    show Concludes bg (handleKillPlayer victim summoned bg)
    unfold handleKillPlayer
    split
    · exact .refl bg
    · exact .inl (goesOn_eventPlayerDroppedFlag victim summoned bg)
  | areaTrigger v source trigger => exact concludes_handleAreaTrigger v source trigger bg
  | vanished flag guid =>
    show Concludes bg (deleteGrounded bg flag guid)
    exact .inl (goesOn_modifyFlag flag _ bg)
  | ticked w t =>
    show Concludes bg (update w t bg)
    unfold update
    refine .trans ?_ (concludes_update orderly_methods t _)
    split
    · exact (concludes_updateFlag w .ALLIANCE t.diff bg).trans (concludes_updateFlag w .HORDE t.diff _)
    · exact .refl bg
  | commenced => exact .inl ⟨.inl rfl, rfl, rfl⟩
  | stopped => exact .inl ⟨.inl rfl, rfl, rfl⟩

end BattleGroundWS

end TurtleWow.Matches
