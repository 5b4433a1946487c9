import TurtleWow.Battlegrounds.Admission

namespace TurtleWow.Battlegrounds

open Run OrderedMap

-- The invited counts in every run whose steps meet a condition.

namespace World

variable {w : World} {guid instanceId : Nat} {team : Team} {bg : BattleGround}

structure Kept (w : World) : Prop where
  sound : w.state.queue.Sound
  balanced : w.state.Balanced w.counted w.inside
  numbered : w.state.Numbered w.inside w.nextInstanceId
  positive : 0 < w.nextInstanceId
  invited : ∀ guid ∈ w.counted, w.state.queue.invitation guid ≠ none

theorem kept_empty : empty.Kept := by
  refine ⟨BattleGroundQueue.empty_sound, ⟨?_, ?_, ?_, ?_⟩, ⟨?_, ?_, ?_⟩, Nat.one_pos, ?_⟩
  · exact fun _ _ h => absurd h.symm (Option.some_ne_none _)
  · exact fun _ _ h => absurd h.symm (Option.some_ne_none _)
  · exact fun _ _ h => absurd h.symm (Option.some_ne_none _)
  · exact fun _ _ h => absurd h.symm (Option.some_ne_none _)
  · exact fun _ _ h => absurd h.symm (Option.some_ne_none _)
  · exact fun _ _ _ h => absurd h.symm (Option.some_ne_none _)
  · exact fun _ _ _ h => absurd h.symm (Option.some_ne_none _)
  · exact fun _ h => absurd h (Finset.notMem_empty _)

def Outside (w : World) (guid : Nat) : Prop := ∀ sent ∈ w.inside.find guid, (w.state.bgs.find sent.1).isNone

instance (w : World) (guid : Nat) : Decidable (w.Outside guid) :=
  inferInstanceAs (Decidable (∀ sent ∈ w.inside.find guid, (w.state.bgs.find sent.1).isNone))

def Arrived (w : World) (guid : Nat) : Prop :=
  ∀ sent ∈ w.inside.find guid, ∀ bg ∈ w.state.bgs.find sent.1, (bg.players.find guid).isSome

instance (w : World) (guid : Nat) : Decidable (w.Arrived guid) :=
  inferInstanceAs (Decidable (∀ sent ∈ w.inside.find guid, ∀ bg ∈ w.state.bgs.find sent.1, (bg.players.find guid).isSome))

theorem Outside.ne (h : w.Outside guid) (hbg : w.state.bgs.find instanceId = some bg) :
    w.inside.find guid ≠ some (instanceId, team) := by
  intro hinside
  have hnone := Option.isNone_iff_eq_none.mp (h (instanceId, team) hinside)
  exact Option.some_ne_none bg (hbg.symm.trans hnone)

section

variable (h : w.Kept)

include h

theorem Kept.sent (hbg : w.state.bgs.find instanceId = some bg) (hplayer : bg.players.find guid = some team) :
    w.inside.find guid = some (instanceId, team) := h.balanced.present instanceId bg hbg guid team hplayer

theorem Kept.replace (hbg : w.state.bgs.find instanceId = some bg) {after : BattleGround}
    (hinvited : after.invited = bg.invited) (hmax : after.maxPlayersPerTeam = bg.maxPlayersPerTeam)
    (hplayers : ∀ guid team, after.players.find guid = some team → w.inside.find guid = some (instanceId, team)) :
    Kept { w with state := { w.state with bgs := w.state.bgs.insert instanceId after } } := by
  refine ⟨h.sound, ⟨fun id found hfound team => ?_, fun id found hfound team => ?_, fun id found hfound => ?_,
    fun id found hfound => ?_⟩, ⟨fun id found hfound => ?_, h.numbered.invited, h.numbered.inside⟩, h.positive, h.invited⟩
  · rcases of_find_insert hfound with ⟨rfl, rfl⟩ | ⟨-, hold⟩
    · rw [hinvited]
      exact h.balanced.counts id bg hbg team
    · exact h.balanced.counts id found hold team
  · rcases of_find_insert hfound with ⟨rfl, rfl⟩ | ⟨-, hold⟩
    · rw [hinvited, hmax]
      exact h.balanced.room id bg hbg team
    · exact h.balanced.room id found hold team
  · rcases of_find_insert hfound with ⟨rfl, rfl⟩ | ⟨-, hold⟩
    · exact hmax ▸ h.balanced.word id bg hbg
    · exact h.balanced.word id found hold
  · rcases of_find_insert hfound with ⟨rfl, rfl⟩ | ⟨-, hold⟩
    · exact hplayers
    · exact h.balanced.present id found hold
  · rcases of_find_insert hfound with ⟨rfl, rfl⟩ | ⟨-, hold⟩
    · exact h.numbered.bgs id bg hbg
    · exact h.numbered.bgs id found hold

theorem Kept.requeue {queue : BattleGroundQueue} (hsound : queue.Sound)
    (hinvitation : ∀ guid, queue.invitation guid = w.state.queue.invitation guid) :
    Kept { w with state := { w.state with queue := queue } } :=
  ⟨hsound, h.balanced.congr hinvitation rfl, h.numbered.congr hinvitation rfl, h.positive, fun guid hguid =>
    (hinvitation guid).symm ▸ h.invited guid hguid⟩

theorem Kept.slots (slots : OrderedMap Nat Nat) : Kept { w with invitedTo := slots } :=
  ⟨h.sound, h.balanced, h.numbered, h.positive, h.invited⟩

theorem Kept.leaveQueue (hcountable : w.state.Countable w.counted guid) : (w.leaveQueue guid).Kept := by
  have hleaves := h.sound.leaves guid true
  have hqueue := State.queue_removePlayer (s := w.state) guid true
  have hgone : (w.state.removePlayer guid true).queue.invitation guid = none := by
    rw [hqueue, hleaves.invitation, if_pos rfl]
  refine ⟨State.sound_removePlayer h.sound guid true, (h.balanced.removePlayer h.sound hcountable).recount fun other hother => ?_,
    h.numbered.removePlayer h.sound, h.positive, fun other hother => ?_⟩
  · have hne : other ≠ guid := by
      rintro rfl
      exact hother hgone
    exact Finset.mem_erase.trans (and_iff_right hne)
  · obtain ⟨hne, hcounted⟩ := Finset.mem_erase.mp hother
    show (w.state.removePlayer guid true).queue.invitation other ≠ none
    rw [hqueue, hleaves.invitation, if_neg hne]
    exact h.invited other hcounted

theorem Kept.removePlayerAtLeave (hbg : w.state.bgs.find instanceId = some bg)
    (hplayer : bg.players.find guid = some team) : (removePlayerAtLeave instanceId w guid).Kept := by
  have hsent := h.sent hbg hplayer
  have hcounts := h.balanced.counts instanceId bg hbg team
  have hroom := h.balanced.room instanceId bg hbg team
  have hword := h.balanced.word instanceId bg hbg
  have hfiber := card_fiber_erase (b := (instanceId, team)) hsent
  rw [if_pos rfl] at hfiber
  have hless : Word.sub32 (bg.invited team) 1 = bg.invited team - 1 := Word.sub32_of_le (by omega) (by omega)
  have hinvited (team' : Team) : (bg.erasePlayer guid team).invited team' =
      if team' = team then bg.invited team - 1 else bg.invited team' := by
    unfold BattleGround.erasePlayer BattleGround.decreaseInvitedCount
    rw [hless]
    exact Function.update_apply _ _ _ _
  have helsewhere (id : Nat) (team' : Team) (hne : (instanceId, team) ≠ (id, team')) :
      (w.inside.fiber (id, team')).card = ((w.inside.erase guid).fiber (id, team')).card := by
    have hcard := card_fiber_erase (b := (id, team')) hsent
    rw [if_neg hne] at hcard
    exact hcard
  unfold World.removePlayerAtLeave
  rw [hbg]
  dsimp only
  rw [hplayer]
  refine ⟨h.sound, ⟨fun id found hfound team' => ?_, fun id found hfound team' => ?_, fun id found hfound => ?_,
    fun id found hfound other team' hother => ?_⟩,
    ⟨fun id found hfound => ?_, h.numbered.invited, fun other id team' hother => ?_⟩, h.positive, h.invited⟩
  · rcases of_find_insert hfound with ⟨rfl, rfl⟩ | ⟨hne, hold⟩
    · rw [hinvited]
      by_cases hteam : team' = team
      · subst hteam
        rw [if_pos rfl]
        dsimp only
        omega
      · rw [if_neg hteam, h.balanced.counts id bg hbg team', helsewhere id team' fun heq => hteam (Prod.mk.inj heq).2.symm]
    · rw [h.balanced.counts id found hold team', helsewhere id team' fun heq => hne (Prod.mk.inj heq).1.symm]
  · rcases of_find_insert hfound with ⟨rfl, rfl⟩ | ⟨-, hold⟩
    · rw [hinvited]
      have hroom' := h.balanced.room id bg hbg team'
      show _ ≤ bg.maxPlayersPerTeam
      split <;> omega
    · exact h.balanced.room id found hold team'
  · rcases of_find_insert hfound with ⟨rfl, rfl⟩ | ⟨-, hold⟩
    · exact hword
    · exact h.balanced.word id found hold
  · dsimp only
    rw [find_erase]
    rcases of_find_insert hfound with ⟨rfl, rfl⟩ | ⟨hne, hold⟩
    · have hother' : (bg.players.erase guid).find other = some team' := hother
      rw [find_erase] at hother'
      by_cases hsame : other = guid
      · rw [if_pos hsame] at hother'
        cases hother'
      · rw [if_neg hsame] at hother' ⊢
        exact h.sent hbg hother'
    · have hinside := h.balanced.present id found hold other team' hother
      have hsame : other ≠ guid := by
        rintro rfl
        exact hne (Prod.mk.inj (Option.some.inj (hinside.symm.trans hsent))).1
      rw [if_neg hsame]
      exact hinside
  · rcases of_find_insert hfound with ⟨rfl, rfl⟩ | ⟨-, hold⟩
    · exact h.numbered.bgs id bg hbg
    · exact h.numbered.bgs id found hold
  · rw [find_erase] at hother
    by_cases hsame : other = guid
    · rw [if_pos hsame] at hother
      cases hother
    · rw [if_neg hsame] at hother
      exact h.numbered.inside other id team' hother

theorem Kept.leave (harrived : w.Arrived guid) : (w.leave guid).Kept ∧ (w.leave guid).Outside guid := by
  unfold World.leave
  cases hinside : w.inside.find guid with
  | none => exact ⟨h, by simp [Outside, hinside]⟩
  | some sent =>
    obtain ⟨instanceId, team⟩ := sent
    dsimp only
    cases hbg : w.state.bgs.find instanceId with
    | none =>
      unfold World.removePlayerAtLeave
      rw [hbg]
      exact ⟨h, by simp [Outside, hinside, hbg]⟩
    | some bg =>
      obtain ⟨team', hplayer⟩ := Option.isSome_iff_exists.mp (harrived (instanceId, team) hinside bg hbg)
      refine ⟨h.removePlayerAtLeave hbg hplayer, ?_⟩
      unfold World.removePlayerAtLeave
      rw [hbg]
      dsimp only
      rw [hplayer]
      simp [Outside, find_erase]

end

theorem frame_leave (w : World) (guid : Nat) : (w.leave guid).state.queue = w.state.queue ∧ (w.leave guid).counted = w.counted := by
  unfold World.leave
  split
  · exact ⟨rfl, rfl⟩
  · unfold World.removePlayerAtLeave
    split
    · exact ⟨rfl, rfl⟩
    · split <;> exact ⟨rfl, rfl⟩

theorem leave_removeFromQueue (hsound : w.state.queue.Sound) (guid : Nat) : (w.removeFromQueue guid false).leave guid =
    { w.leave guid with
      state := { (w.leave guid).state with queue := ((w.leave guid).state.queue.removePlayer guid false).1 }
      counted := (w.leave guid).counted.erase guid } := by
  have hstate : w.state.removePlayer guid false =
      { w.state with queue := (w.state.queue.removePlayer guid false).1 } := by
    unfold State.removePlayer
    dsimp only
    rw [hsound.decreased]
    rfl
  unfold World.removeFromQueue World.leave
  rw [hstate]
  dsimp only
  split
  · rfl
  · unfold World.removePlayerAtLeave
    dsimp only
    split
    · rfl
    · split <;> rfl

section

variable (h : w.Kept)

include h

theorem Kept.move (houtside : w.Outside guid) (hcounted : guid ∈ w.counted)
    (hinvited : w.state.queue.invitation guid = some (instanceId, team)) :
    Kept { w with
      state := { w.state with queue := (w.state.queue.removePlayer guid false).1 }
      counted := w.counted.erase guid
      inside := w.inside.insert guid (instanceId, team) } := by
  have hleaves := h.sound.leaves guid false
  have hgone : (w.state.queue.removePlayer guid false).1.invitation guid = none := by
    rw [hleaves.invitation, if_pos rfl]
  have hmoved : State.Balanced { w.state with queue := (w.state.queue.removePlayer guid false).1 } w.counted
      (w.inside.insert guid (instanceId, team)) := by
    refine ⟨fun id bg hbg team' => ?_, h.balanced.room, h.balanced.word, fun id bg hbg other team' hother => ?_⟩
    · have hqueued := hleaves.card_queuedFor w.counted id team'
      have hmem : guid ∈ w.state.queue.queuedFor w.counted id team' ↔ (instanceId, team) = (id, team') := by
        rw [BattleGroundQueue.mem_queuedFor, hinvited, Option.some_inj]
        exact and_iff_right hcounted
      rw [if_congr hmem rfl rfl] at hqueued
      have hinside : ((w.inside.insert guid (instanceId, team)).fiber (id, team')).card = _ :=
        card_fiber_insert (houtside.ne hbg)
      have hcounts := h.balanced.counts id bg hbg team'
      dsimp only
      omega
    · have hbefore := h.balanced.present id bg hbg other team' hother
      have hne : other ≠ guid := by
        rintro rfl
        exact houtside.ne hbg hbefore
      rw [find_insert, if_neg hne]
      exact hbefore
  refine ⟨h.sound.removePlayer guid false, hmoved.recount fun other hother => ?_,
    ⟨h.numbered.bgs, fun other id team' hother => ?_, fun other id team' hother => ?_⟩, h.positive, fun other hother => ?_⟩
  · have hne : other ≠ guid := by
      rintro rfl
      exact hother hgone
    exact Finset.mem_erase.trans (and_iff_right hne)
  · dsimp only at hother
    rw [hleaves.invitation] at hother
    split at hother
    · cases hother
    · exact h.numbered.invited other id team' hother
  · rcases of_find_insert hother with ⟨-, hsame⟩ | ⟨-, hold⟩
    · obtain ⟨rfl, -⟩ := Prod.mk.inj hsame
      exact h.numbered.invited guid id team hinvited
    · exact h.numbered.inside other id team' hold
  · obtain ⟨hne, hbefore⟩ := Finset.mem_erase.mp hother
    rw [hleaves.invitation, if_neg hne]
    exact h.invited other hbefore

theorem Kept.enter (harrived : w.Arrived guid) (hcounted : guid ∈ w.counted)
    (hinvited : w.state.queue.invitation guid = some (instanceId, team)) : (w.enter guid instanceId team).Kept := by
  obtain ⟨hleft, houtside⟩ := h.leave harrived
  obtain ⟨hqueue, hsame⟩ := frame_leave w guid
  unfold World.enter
  rw [leave_removeFromQueue h.sound]
  exact hleft.move houtside (hsame.symm ▸ hcounted) (hqueue.symm ▸ hinvited)

theorem Kept.removeAll {guids : List Nat} (hnodup : guids.Nodup)
    (hplayers : ∀ bg, w.state.bgs.find instanceId = some bg → ∀ guid ∈ guids, bg.players.find guid ≠ none) :
    (guids.foldl (World.removePlayerAtLeave instanceId) w).Kept := by
  induction guids generalizing w with
  | nil => exact h
  | cons guid rest ih =>
    obtain ⟨hnotin, hnodup⟩ := List.nodup_cons.mp hnodup
    cases hbg : w.state.bgs.find instanceId with
    | none =>
      have hsame : World.removePlayerAtLeave instanceId w guid = w := by
        unfold World.removePlayerAtLeave
        rw [hbg]
      rw [List.foldl_cons, hsame]
      exact ih h hnodup fun bg hfound => absurd (hfound.symm.trans hbg) (Option.some_ne_none bg)
    | some bg =>
      obtain ⟨team, hplayer⟩ := Option.ne_none_iff_exists'.mp (hplayers bg hbg guid List.mem_cons_self)
      refine ih (h.removePlayerAtLeave hbg hplayer) hnodup fun after hafter other hother => ?_
      have herased : after.players = bg.players.erase guid := by
        unfold World.removePlayerAtLeave at hafter
        rw [hbg] at hafter
        dsimp only at hafter
        rw [hplayer] at hafter
        rcases of_find_insert hafter with ⟨-, rfl⟩ | ⟨hne, -⟩
        · rfl
        · exact absurd rfl hne
      have hne : other ≠ guid := by
        rintro rfl
        exact hnotin hother
      rw [herased, find_erase, if_neg hne]
      exact hplayers bg hbg other (List.mem_cons_of_mem _ hother)

theorem Kept.delete (instanceId : Nat) : (w.delete instanceId).Kept := by
  have hfind : ∀ id bg, (w.state.bgs.erase instanceId).find id = some bg → w.state.bgs.find id = some bg := by
    intro id bg hbg
    rw [find_erase] at hbg
    split at hbg
    · cases hbg
    · exact hbg
  exact ⟨h.sound, ⟨fun id bg hbg => h.balanced.counts id bg (hfind id bg hbg),
    fun id bg hbg => h.balanced.room id bg (hfind id bg hbg), fun id bg hbg => h.balanced.word id bg (hfind id bg hbg),
    fun id bg hbg => h.balanced.present id bg (hfind id bg hbg)⟩,
    ⟨fun id bg hbg => h.numbered.bgs id bg (hfind id bg hbg), h.numbered.invited, h.numbered.inside⟩, h.positive, h.invited⟩

theorem Kept.updateBattleGround (instanceId : Nat) (timeIsUp : Bool) :
    (w.updateBattleGround instanceId timeIsUp).Kept := by
  unfold World.updateBattleGround
  cases hbg : w.state.bgs.find instanceId with
  | none => exact h
  | some bg =>
    dsimp only
    split
    · refine (h.removeAll bg.players.nodup_keys fun found hfound guid hguid => ?_).delete instanceId
      obtain rfl := Option.some.inj (hbg.symm.trans hfound)
      exact mem_keys.mp hguid
    · split
      · exact h.delete instanceId
      · exact h

theorem Kept.updating (view : View) : w.state.Updating (w.countable view) w.inside view.reached w.nextInstanceId := by
  refine ⟨h.sound, h.balanced.recount fun guid hguid => ?_, h.numbered, fun guid hguid hnone => ?_⟩
  · unfold countable
    simp [hguid]
  · have hkeys : guid ∈ w.state.queue.queuedPlayers.keys := by
      rw [mem_keys]
      intro hfind
      rw [BattleGroundQueue.groupOf, hfind] at hguid
      exact hguid rfl
    have hnew : guid ∉ w.counted := fun hcounted => h.invited guid hcounted hnone
    unfold countable
    simp [hkeys, hnew, hnone]

end

theorem countable_mono {s : State} {counted counted' : Finset Nat} (h : counted ⊆ counted') (hguid : s.Countable counted guid) :
    s.Countable counted' guid := fun invited hinvited hexists => h (hguid invited hinvited hexists)

theorem Kept.update (h : w.Kept) {settings : Settings} {view : View} (bracket : Bracket)
    (hguarded : Guarded (State.removeStale view) (State.Removes view w.counted) w.state w.state.queue.queuedPlayers.keys)
    (hconfigured : ∀ template ∈ view.template, State.Configured settings template) :
    (w.update settings view bracket).Kept := by
  unfold World.update
  cases hupdate : w.state.update settings (w.numbered view) bracket with
  | none => exact h
  | some result =>
    have hmono : ∀ state guid, State.Removes view w.counted state guid → State.Removes view (w.countable view) state guid :=
      fun state guid hremoves hstale => countable_mono Finset.subset_union_left (hremoves hstale)
    have hremoves := Guarded.mono _ hmono hguarded
    have hinstance : ∀ attempt created, (w.numbered view).newBattleGround attempt = some created →
        created.1 = w.nextInstanceId + attempt := by
      intro attempt created hcreated
      obtain ⟨before, -, rfl⟩ := Option.map_eq_some_iff.mp hcreated
      rfl
    have hbefore : w.state.Updating (w.countable view) w.inside (w.numbered view).reached w.nextInstanceId := h.updating view
    have hupdated := hbefore.update h.positive hremoves hconfigured hinstance hupdate
    refine ⟨hupdated.sound, hupdated.balanced.recount fun guid hguid => ?_, hupdated.numbered, Nat.succ_pos _,
      fun guid hguid => (Finset.mem_filter.mp hguid).2⟩
    rw [Finset.mem_filter]
    exact and_iff_left hguid

def Allows (w : World) (guid : Nat) : Answer → Prop
  | .nothing => True
  | .leaveQueue => w.state.Countable w.counted guid
  | .enter _ _ => guid ∈ w.counted ∧ w.Arrived guid

instance (w : World) (guid : Nat) : ∀ answer, Decidable (w.Allows guid answer)
  | .nothing => isTrue trivial
  | .leaveQueue => inferInstanceAs (Decidable (w.state.Countable w.counted guid))
  | .enter _ _ => inferInstanceAs (Decidable (guid ∈ w.counted ∧ w.Arrived guid))

-- The condition on a step: whoever leaves the queue was counted if he was invited
-- to an instance that exists, and so was whoever accepts; whoever leaves a
-- battleground or is sent to another has arrived there.
def Meets (w : World) : Op → Prop
  | .join _ _ leader grp excludedMembers _ =>
    ∀ player ∈ BattleGroundQueue.added leader grp excludedMembers, (w.state.queue.queuedPlayers.find player.guid).isNone
  | .update settings view bracket =>
    Guarded (State.removeStale view) (State.Removes view w.counted) w.state w.state.queue.queuedPlayers.keys ∧
      (∀ template ∈ view.template, State.Configured settings template) ∧
      (w.state.update settings (w.numbered view) bracket).isSome
  | .port guid action fighting refused => w.Allows guid (w.answer guid action fighting refused)
  | .timeOut guid instanceId removeTime =>
    ∀ ginfo ∈ w.state.queue.infoOf guid,
      ginfo.isInvitedToBGInstanceGUID = instanceId ∧ ginfo.removeInviteTime = removeTime →
        w.state.Countable w.counted guid
  | .levelUp guid => w.state.Countable w.counted guid
  | .loggedOut _ _ => True
  | .loggedIn _ => True
  | .arrive guid isBattleGround => isBattleGround = false → w.Outside guid
  | .leave guid => w.Arrived guid
  | .setStatus _ _ => True
  | .updateBattleGround _ _ => True

instance (settings : Settings) (template : Template) : Decidable (State.Configured settings template) :=
  decidable_of_iff
    (template.maxPlayersPerTeam < 4294967296 ∧
      (settings.isAlterac = true ∧ settings.avInitialMaxPlayers ≠ 0 ∧ settings.testing = false →
        max settings.avInitialMaxPlayers template.minPlayersPerTeam ≤ template.maxPlayersPerTeam))
    ⟨fun h => ⟨h.1, h.2⟩, fun h => ⟨h.word, h.initial⟩⟩

instance (w : World) : ∀ op, Decidable (w.Meets op)
  | .join _ _ leader grp excludedMembers _ =>
    inferInstanceAs (Decidable (∀ player ∈ BattleGroundQueue.added leader grp excludedMembers,
      (w.state.queue.queuedPlayers.find player.guid).isNone))
  | .update settings view bracket =>
    inferInstanceAs (Decidable (Guarded (State.removeStale view) (State.Removes view w.counted) w.state
        w.state.queue.queuedPlayers.keys ∧
      (∀ template ∈ view.template, State.Configured settings template) ∧
      (w.state.update settings (w.numbered view) bracket).isSome))
  | .port guid action fighting refused => inferInstanceAs (Decidable (w.Allows guid (w.answer guid action fighting refused)))
  | .timeOut guid instanceId removeTime =>
    inferInstanceAs (Decidable (∀ ginfo ∈ w.state.queue.infoOf guid,
      ginfo.isInvitedToBGInstanceGUID = instanceId ∧ ginfo.removeInviteTime = removeTime →
        w.state.Countable w.counted guid))
  | .levelUp guid => inferInstanceAs (Decidable (w.state.Countable w.counted guid))
  | .loggedOut _ _ => isTrue trivial
  | .loggedIn _ => isTrue trivial
  | .arrive guid isBattleGround => inferInstanceAs (Decidable (isBattleGround = false → w.Outside guid))
  | .leave guid => inferInstanceAs (Decidable (w.Arrived guid))
  | .setStatus _ _ => isTrue trivial
  | .updateBattleGround _ _ => isTrue trivial

theorem answer_enter {action fighting refused : Bool} (h : w.answer guid action fighting refused = .enter instanceId team) :
    w.state.queue.invitation guid = some (instanceId, team) := by
  unfold answer at h
  cases hinfo : w.state.queue.infoOf guid with
  | none => rw [hinfo] at h; exact Answer.noConfusion h
  | some ginfo =>
    rw [hinfo] at h
    dsimp only at h
    rw [BattleGroundQueue.invitation, hinfo, Option.bind_some]
    split at h
    · split at h <;> exact Answer.noConfusion h
    · rename_i hinvited
      rw [GroupQueueInfo.invitation, if_neg hinvited]
      split at h
      · split at h <;> exact Answer.noConfusion h
      · split at h
        · exact Answer.noConfusion h
        · split at h
          · split at h
            · exact Answer.noConfusion h
            · obtain ⟨rfl, rfl⟩ := Answer.enter.inj h
              rfl
          · exact Answer.noConfusion h

theorem Kept.port (h : w.Kept) {action fighting refused : Bool}
    (hallows : w.Allows guid (w.answer guid action fighting refused)) : (w.port guid action fighting refused).Kept := by
  unfold World.port
  cases hanswer : w.answer guid action fighting refused with
  | nothing => exact h
  | leaveQueue =>
    rw [hanswer] at hallows
    exact h.leaveQueue hallows
  | enter instanceId team =>
    rw [hanswer] at hallows
    exact h.enter hallows.2 hallows.1 (answer_enter hanswer)

theorem Kept.timeOut (h : w.Kept) {removeTime : Nat} (hmeets : w.Meets (.timeOut guid instanceId removeTime)) :
    (w.timeOut guid instanceId removeTime).Kept := by
  unfold World.timeOut
  cases hinfo : w.state.queue.infoOf guid with
  | none => exact h
  | some ginfo =>
    dsimp only
    split
    · rename_i hdue
      exact h.leaveQueue (hmeets ginfo hinfo hdue)
    · exact h

theorem Kept.arrive (h : w.Kept) {isBattleGround : Bool} (hmeets : w.Meets (.arrive guid isBattleGround)) :
    (w.arrive guid isBattleGround).Kept := by
  unfold World.arrive
  cases hinside : w.inside.find guid with
  | none => exact h
  | some sent =>
    obtain ⟨instanceId, team⟩ := sent
    dsimp only
    cases isBattleGround with
    | true =>
      rw [if_pos rfl]
      cases hbg : w.state.bgs.find instanceId with
      | none => exact h
      | some bg =>
        dsimp only
        split
        · refine h.replace hbg rfl rfl fun other team' hother => ?_
          rcases of_find_insert hother with ⟨rfl, rfl⟩ | ⟨-, hold⟩
          · exact hinside
          · exact h.sent hbg hold
        · exact h
    | false =>
      rw [if_neg Bool.false_ne_true]
      have houtside : w.Outside guid := hmeets rfl
      refine ⟨h.sound, ⟨fun id bg hbg team' => ?_, h.balanced.room, h.balanced.word,
        fun id bg hbg other team' hother => ?_⟩, ⟨h.numbered.bgs, h.numbered.invited, fun other id team' hother => ?_⟩,
        h.positive, h.invited⟩
      · have hfiber := card_fiber_erase (b := (id, team')) hinside
        have hne : (instanceId, team) ≠ (id, team') := fun heq => houtside.ne hbg (hinside.trans (congrArg some heq))
        rw [if_neg hne, Nat.add_zero] at hfiber
        rw [h.balanced.counts id bg hbg team', hfiber]
      · have hbefore := h.sent hbg hother
        have hne : other ≠ guid := by
          rintro rfl
          exact houtside.ne hbg hbefore
        rw [find_erase, if_neg hne]
        exact hbefore
      · rw [find_erase] at hother
        split at hother
        · cases hother
        · exact h.numbered.inside other id team' hother

theorem Kept.step (h : w.Kept) {op : Op} (hmeets : w.Meets op) : (w.step op).Kept := by
  cases op with
  | join request isPremade leader grp excludedMembers groupLimit =>
    have hfree : ∀ player ∈ BattleGroundQueue.added leader grp excludedMembers,
        w.state.queue.groupOf player.guid = none := by
      intro player hplayer
      rw [BattleGroundQueue.groupOf, Option.isNone_iff_eq_none.mp (hmeets player hplayer)]
      rfl
    have hadds := BattleGroundQueue.adds_addGroup request isPremade groupLimit hfree
    exact (h.requeue (h.sound.adds hadds) (h.sound.invitation_adds hadds)).slots _
  | update settings view bracket => exact h.update bracket hmeets.1 hmeets.2.1
  | port guid action fighting refused => exact h.port hmeets
  | timeOut guid instanceId removeTime => exact h.timeOut hmeets
  | levelUp guid =>
    show (w.levelUp guid).Kept
    unfold levelUp
    split
    · exact h
    · exact h.leaveQueue hmeets
  | loggedOut guid time =>
    have halike := BattleGroundQueue.alike_playerLoggedOut (q := w.state.queue) guid time
    exact (h.requeue (h.sound.playerLoggedOut guid time) halike.invitation).slots _
  | loggedIn guid =>
    have halike := BattleGroundQueue.alike_playerLoggedIn (q := w.state.queue) guid
    have hrequeued := h.requeue (h.sound.playerLoggedIn guid) halike.invitation
    show (w.loggedIn guid).Kept
    unfold loggedIn
    split
    · exact hrequeued
    · dsimp only
      split
      · exact hrequeued.slots _
      · exact hrequeued.slots _
  | arrive guid isBattleGround => exact h.arrive hmeets
  | leave guid => exact (h.leave hmeets).1
  | setStatus instanceId status =>
    show (w.setStatus instanceId status).Kept
    unfold setStatus
    split
    · exact h
    · rename_i bg hbg
      exact h.replace hbg rfl rfl fun guid team hplayer => h.sent hbg hplayer
  | updateBattleGround instanceId timeIsUp => exact h.updateBattleGround instanceId timeIsUp

structure Accounted (w : World) : Prop where
  counts : ∀ instanceId bg, w.state.bgs.find instanceId = some bg → ∀ team, bg.invited team =
    (w.state.queue.queuedFor w.counted instanceId team).card + (w.inside.fiber (instanceId, team)).card
  room : ∀ instanceId bg, w.state.bgs.find instanceId = some bg → ∀ team, bg.invited team ≤ bg.maxPlayersPerTeam
  players : ∀ instanceId bg, w.state.bgs.find instanceId = some bg → ∀ team,
    (bg.players.fiber team).card ≤ bg.maxPlayersPerTeam

theorem Kept.accounted (h : w.Kept) : w.Accounted := by
  refine ⟨h.balanced.counts, h.balanced.room, fun instanceId bg hbg team => ?_⟩
  have hsubset : bg.players.fiber team ⊆ w.inside.fiber (instanceId, team) := fun guid hguid =>
    mem_fiber.mpr (h.sent hbg (mem_fiber.mp hguid))
  calc (bg.players.fiber team).card ≤ (w.inside.fiber (instanceId, team)).card := Finset.card_le_card hsubset
    _ ≤ bg.invited team := by
      rw [h.balanced.counts instanceId bg hbg team]
      exact Nat.le_add_left _ _
    _ ≤ bg.maxPlayersPerTeam := h.balanced.room instanceId bg hbg team

theorem counters_run (ops : List Op) (h : Guarded step Meets empty ops) : (run step empty ops).Accounted :=
  (run_invariant step Meets Kept (fun _ _ hkept hmeets => hkept.step hmeets) kept_empty h).accounted

-- One of a pair logs out, and the other one is invited. When the first has been
-- offline for a minute he is removed, and the count of the second is taken back;
-- the second declines.

def pair : Group := ⟨[⟨1, .ALLIANCE⟩, ⟨2, .ALLIANCE⟩], by decide, 2⟩

def joins : List Op :=
  [.join ⟨2, 1, 0, 5⟩ false ⟨1, .ALLIANCE⟩ (some pair) [] 10, .join ⟨2, 1, 0, 6⟩ false ⟨3, .HORDE⟩ none [] 10]

def seen (time : Nat) (reached : Nat → Bool) : View where
  time := time
  busy := fun _ => false
  reached := reached
  beyondEmpty := true
  randomize := none
  alterac := fun _ => default
  template := some ⟨1, 10, 20, false⟩
  newBattleGround := fun attempt => some (attempt, 1)

def usual : Settings := ⟨false, false, 6, 0, 0, 0, 0⟩

def bothReached : List Op :=
  joins ++ [.update usual (seen 200 fun _ => true) 1, .port 1 true false false, .arrive 1 true, .port 2 false false false,
    .port 3 true false false, .arrive 3 true, .leave 1]

def oneReached : List Op :=
  joins ++ [.loggedOut 2 100, .update usual (seen 200 fun guid => guid ≠ 2) 1,
    .update usual (seen 60200 fun guid => guid ≠ 2) 1, .port 1 false false false]

theorem counters_run_both : (run step empty bothReached).Accounted := counters_run bothReached (by decide +kernel)

theorem not_counters_run : ¬∀ ops, (run step empty ops).Accounted := by
  intro h
  have hinvited : ((run step empty oneReached).state.bgs.find 2).map
      (fun bg => (bg.invited .ALLIANCE, bg.maxPlayersPerTeam)) = some (4294967295, 10) := by
    decide +kernel
  obtain ⟨bg, hbg, hsame⟩ := Option.map_eq_some_iff.mp hinvited
  obtain ⟨hcount, hmax⟩ := Prod.mk.inj hsame
  have hroom := (h oneReached).room 2 bg hbg .ALLIANCE
  omega

end World

end TurtleWow.Battlegrounds
