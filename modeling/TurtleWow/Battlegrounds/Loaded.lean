import TurtleWow.Battlegrounds.Match
import Mathlib.Data.List.GetD

namespace TurtleWow.Battlegrounds

open List

namespace BattleGroundQueue

-- However its groups come and go, a selection pool counts their players and
-- stays within what it may hold. A group may be in it twice.
structure Loaded (q : BattleGroundQueue) (bracket : Bracket) (limit : Nat) (team : Team) (pool : SelectionPool) : Prop where
  queued : ∀ ginfo ∈ pool.selectedGroups, ∃ isPremade, ginfo ∈ q.teamList bracket isPremade team
  counted : pool.playerCount = (pool.selectedGroups.map (SelectionPool.sizeOf q)).sum
  fits : pool.playerCount ≤ limit

variable {q q' : BattleGroundQueue} {settings : Settings} {view : View} {bracket : Bracket} {limit : Nat} {team : Team}
  {pool : SelectionPool} {ginfo : Nat} {list : List Nat}

theorem loaded_init : Loaded q bracket limit team .init := ⟨fun _ h => absurd h not_mem_nil, rfl, Nat.zero_le _⟩

variable {desiredCount : Nat} {sides : Team → SelectionPool × List Nat}

theorem Loaded.addGroup (busy : Nat → Bool) (bgInstanceId : Nat) (h : Loaded q bracket limit team pool)
    (hqueued : ∃ isPremade, ginfo ∈ q.teamList bracket isPremade team) (hdesired : desiredCount ≤ limit) :
    Loaded q bracket limit team (SelectionPool.addGroup q busy desiredCount bgInstanceId pool ginfo).1 := by
  rcases addGroup_cases busy desiredCount bgInstanceId pool ginfo with heq | ⟨-, hfits, heq⟩
  · rw [heq]
    exact h
  · rw [heq]
    refine ⟨fun other hother => ?_, ?_, Nat.le_trans hfits hdesired⟩
    · rcases mem_append.mp hother with hother | hother
      · exact h.queued other hother
      · exact mem_singleton.mp hother ▸ hqueued
    · rw [map_append, sum_append, ← h.counted]
      simp

variable (view) in
theorem Loaded.fill (test : Nat → Bool) (enough : Nat) (hdesired : desiredCount ≤ limit)
    (h : Loaded q bracket limit team pool) (hqueued : ∀ ginfo ∈ list, ∃ isPremade, ginfo ∈ q.teamList bracket isPremade team) :
    Loaded q bracket limit team (q.fill view test desiredCount enough pool list).1 ∧
      ∀ ginfo ∈ (q.fill view test desiredCount enough pool list).2, ginfo ∈ list := by
  induction list generalizing pool with
  | nil => exact ⟨h, fun ginfo hginfo => hginfo⟩
  | cons first rest ih =>
    have hrest : ∀ ginfo ∈ rest, ∃ isPremade, ginfo ∈ q.teamList bracket isPremade team :=
      fun ginfo hginfo => hqueued ginfo (mem_cons_of_mem _ hginfo)
    unfold BattleGroundQueue.fill
    split
    · have hadded := h.addGroup view.busy 0 (hqueued first mem_cons_self) hdesired
      dsimp only
      split
      · exact ⟨hadded, fun ginfo hginfo => hginfo⟩
      · obtain ⟨hloaded, hleft⟩ := ih hadded hrest
        exact ⟨hloaded, fun ginfo hginfo => mem_cons_of_mem _ (hleft ginfo hginfo)⟩
    · obtain ⟨hloaded, hleft⟩ := ih h hrest
      exact ⟨hloaded, fun ginfo hginfo => mem_cons_of_mem _ (hleft ginfo hginfo)⟩

variable (view) in
theorem Loaded.balance (hdesired : desiredCount ≤ limit) (h : Loaded q bracket limit team pool)
    (hqueued : ∀ ginfo ∈ list, ∃ isPremade, ginfo ∈ q.teamList bracket isPremade team) :
    Loaded q bracket limit team (q.balance view desiredCount pool list) := by
  induction list generalizing pool with
  | nil => exact h
  | cons first rest ih =>
    have hrest : ∀ ginfo ∈ rest, ∃ isPremade, ginfo ∈ q.teamList bracket isPremade team :=
      fun ginfo hginfo => hqueued ginfo (mem_cons_of_mem _ hginfo)
    unfold BattleGroundQueue.balance
    split
    · exact ih h hrest
    · have hadded := h.addGroup view.busy 0 (hqueued first mem_cons_self) hdesired
      dsimp only
      split
      · exact ih hadded hrest
      · exact hadded

-- A check of premade groups, and of any groups

theorem loaded_premadePool {minPlayers : Nat} (h : Loaded q bracket limit team pool) {pools : Pools} (hpools : pools team = pool) :
    Loaded q bracket limit team (q.premadePool settings view bracket minPlayers limit pools team) := by
  unfold premadePool
  rw [hpools]
  have hfirst : Loaded q bracket limit team
      (q.fill view (q.isPremadeGroup settings) limit minPlayers pool (q.teamList bracket true team)).1 :=
    (h.fill view _ minPlayers (Nat.le_refl limit) fun _ hin => ⟨true, hin⟩).1
  exact (hfirst.fill view _ minPlayers (Nat.le_refl limit) fun _ hin => ⟨false, hin⟩).1

theorem Loaded.congr (h : Loaded q bracket limit team pool) (hinfos : q'.infos = q.infos)
    (hlists : ∀ ginfo, (∃ isPremade, ginfo ∈ q.teamList bracket isPremade team) →
      ∃ isPremade, ginfo ∈ q'.teamList bracket isPremade team) : Loaded q' bracket limit team pool := by
  have hsize : SelectionPool.sizeOf q' = SelectionPool.sizeOf q := by
    funext ginfo
    unfold SelectionPool.sizeOf
    rw [hinfos]
  exact ⟨fun ginfo hginfo => hlists ginfo (h.queued ginfo hginfo), hsize ▸ h.counted, h.fits⟩

theorem Loaded.movePremade {timeBefore minPlayers : Nat} {other : Team} (h : Loaded q bracket limit team pool) :
    Loaded (q.movePremade bracket timeBefore minPlayers other) bracket limit team pool :=
  h.congr infos_movePremade fun _ hin => teamList_movePremade hin

variable (settings view) in
theorem loaded_checkPremadeMatch (minPlayers : Nat) {pools : Pools} (h : ∀ team, Loaded q bracket limit team (pools team))
    (team : Team) : Loaded (q.checkPremadeMatch settings view bracket minPlayers limit pools).1 bracket limit team
      ((q.checkPremadeMatch settings view bracket minPlayers limit pools).2.1 team) := by
  have hpool : ∀ team, Loaded q bracket limit team (q.premadePool settings view bracket minPlayers limit pools team) :=
    fun team => loaded_premadePool (h team) rfl
  unfold checkPremadeMatch
  dsimp only
  split
  · exact hpool team
  · exact (hpool team).movePremade.movePremade

theorem loaded_checkNormalMatch {minPlayers : Nat} {pools pools' : Pools} {found : Bool}
    (h : ∀ team, Loaded q bracket limit team (pools team))
    (hcheck : q.checkNormalMatch settings view bracket minPlayers limit pools = some (pools', found)) (team : Team) :
    Loaded q bracket limit team (pools' team) := by
  have hwalked (team : Team) : Loaded q bracket limit team (q.normalWalk view bracket minPlayers limit pools team).1 ∧
      ∀ ginfo ∈ (q.normalWalk view bracket minPlayers limit pools team).2, ginfo ∈ q.teamList bracket false team :=
    (h team).fill view _ minPlayers (Nat.le_refl limit) fun _ hin => ⟨false, hin⟩
  exact (checkNormalMatch_rule (fun team => (hwalked team).1) (fun desired j first rest hrest hdesired =>
    (hwalked j).1.balance view (hdesired ▸ (hwalked (otherTeam j)).1.fits) fun ginfo hginfo =>
      ⟨false, (hwalked j).2 ginfo (hrest ▸ mem_cons_of_mem first hginfo)⟩) hcheck).1 team

variable (view) in
theorem Loaded.addWhile (bgInstanceId : Nat) (hdesired : desiredCount ≤ limit)
    (h : Loaded q bracket limit team pool) (hqueued : ∀ ginfo ∈ list, ginfo ∈ q.teamList bracket false team) :
    Loaded q bracket limit team (q.addWhile view desiredCount bgInstanceId pool list).1 ∧
      ∀ ginfo ∈ (q.addWhile view desiredCount bgInstanceId pool list).2, ginfo ∈ q.teamList bracket false team := by
  induction list generalizing pool with
  | nil => exact ⟨h, hqueued⟩
  | cons first rest ih =>
    have hadded := h.addGroup view.busy bgInstanceId ⟨false, hqueued first mem_cons_self⟩ hdesired
    unfold BattleGroundQueue.addWhile
    dsimp only
    split
    · exact ih hadded fun ginfo hginfo => hqueued ginfo (mem_cons_of_mem _ hginfo)
    · exact ⟨hadded, hqueued⟩

theorem kickIndex_lt (size bound : Nat) {index : Nat} {kick : Nat × Nat} {found : Bool} (hkick : kick.1 < bound)
    (hindex : index + list.length ≤ bound) : SelectionPool.kickIndex q size list index kick found < bound := by
  induction list generalizing index kick found with
  | nil => exact hkick
  | cons first rest ih =>
    rw [length_cons] at hindex
    have hrest : index + 1 + rest.length ≤ bound := by omega
    have hhere : index < bound := by omega
    unfold SelectionPool.kickIndex
    dsimp only
    split
    · exact ih hhere hrest
    · split
      · exact ih hhere hrest
      · exact ih hkick hrest

theorem Loaded.kickGroup (h : Loaded q bracket limit team pool) (size : Nat) :
    Loaded q bracket limit team (SelectionPool.kickGroup q size pool).1 := by
  unfold SelectionPool.kickGroup
  cases hgroups : pool.selectedGroups with
  | nil => exact h
  | cons first rest =>
    dsimp only
    split
    · exact h
    · generalize hindex : SelectionPool.kickIndex q size (first :: rest) 0 (0, SelectionPool.sizeOf q first) false = index
      have hlt : index < (first :: rest).length := by
        rw [← hindex]
        exact kickIndex_lt size _ (Nat.succ_pos _) (Nat.le_of_eq (Nat.zero_add _))
      have hsplit : ((first :: rest).map (SelectionPool.sizeOf q)).sum =
          SelectionPool.sizeOf q ((first :: rest).getD index first) +
            (((first :: rest).eraseIdx index).map (SelectionPool.sizeOf q)).sum := by
        have hperm := getElem_cons_eraseIdx_perm hlt
        rw [getD_eq_getElem _ _ hlt, ← (hperm.map (SelectionPool.sizeOf q)).sum_eq, map_cons, sum_cons]
      have hcounted := h.counted
      rw [hgroups, hsplit] at hcounted
      refine ⟨fun ginfo hginfo => h.queued ginfo (hgroups ▸ mem_of_mem_eraseIdx hginfo), ?_,
        Nat.le_trans (Nat.sub_le _ _) h.fits⟩
      dsimp only
      omega

def Sided (q : BattleGroundQueue) (bracket : Bracket) (free : Team → Nat) (sides : Team → SelectionPool × List Nat) : Prop :=
  ∀ team, Loaded q bracket (free team) team (sides team).1 ∧ ∀ ginfo ∈ (sides team).2, ginfo ∈ q.teamList bracket false team

theorem Sided.update {free : Team → Nat} (h : Sided q bracket free sides)
    {side : SelectionPool × List Nat} (hside : Loaded q bracket (free team) team side.1 ∧
      ∀ ginfo ∈ side.2, ginfo ∈ q.teamList bracket false team) : Sided q bracket free (Function.update sides team side) := by
  intro other
  by_cases hsame : other = team
  · subst hsame
    rw [Function.update_self]
    exact hside
  · rw [Function.update_of_ne hsame]
    exact h other

variable (view) in
theorem Sided.kickAndRefill {free : Team → Nat} (h : Sided q bracket free sides)
    (team : Team) {diffOther : Int} (hdiff : 0 ≤ diffOther) (diff bgInstanceId : Nat) :
    Loaded q bracket (free team) team (q.kickAndRefill view (free team) diffOther diff bgInstanceId (sides team)).1 ∧
      ∀ ginfo ∈ (q.kickAndRefill view (free team) diffOther diff bgInstanceId (sides team)).2,
        ginfo ∈ q.teamList bracket false team := by
  have hkicked := (h team).1.kickGroup diff
  unfold BattleGroundQueue.kickAndRefill
  dsimp only
  split
  · refine hkicked.addWhile view bgInstanceId ?_ (h team).2
    split <;> omega
  · exact ⟨hkicked, (h team).2⟩

theorem Sided.equalize {free : Team → Nat} (differential bgInstanceId rounds : Nat)
    (h : Sided q bracket free sides) : Sided q bracket free (q.equalize view free differential bgInstanceId rounds sides) := by
  induction rounds generalizing sides with
  | zero => exact h
  | succ rounds ih =>
    have hdiff (team : Team) : 0 ≤ (free team : Int) - (sides team).1.playerCount := by
      have hfits := (h team).1.fits
      omega
    unfold BattleGroundQueue.equalize
    dsimp only
    split
    · generalize (if (free .ALLIANCE : Int) - (sides .ALLIANCE).1.playerCount <
        (free .HORDE : Int) - (sides .HORDE).1.playerCount then Team.ALLIANCE else Team.HORDE) = team
      generalize ((free (otherTeam team) : Int) - (sides (otherTeam team)).1.playerCount -
        ((free team : Int) - (sides team).1.playerCount)).toNat = size
      have hrefilled := h.update (h.kickAndRefill view team (hdiff (otherTeam team)) size bgInstanceId)
      split
      · split
        · exact hrefilled
        · refine ih (hrefilled.update ?_)
          exact ⟨(hrefilled (otherTeam team)).1.kickGroup size, (hrefilled (otherTeam team)).2⟩
      · exact ih hrefilled
    · exact h

theorem loaded_fillPlayersToBG (bg : BattleGround) (team : Team) :
    Loaded q bracket (bg.getFreeSlotsForTeam team) team (q.fillPlayersToBG settings view bg bracket team) := by
  have hsides : Sided q bracket bg.getFreeSlotsForTeam fun team =>
      q.addWhile view (bg.getFreeSlotsForTeam team) bg.clientInstanceId .init (q.teamList bracket false team) :=
    fun team => loaded_init.addWhile view bg.clientInstanceId (Nat.le_refl _) fun _ hin => hin
  unfold fillPlayersToBG
  split
  · exact loaded_init
  · dsimp only
    split
    · exact (hsides team).1
    · exact (hsides.equalize _ _ _ team).1

end BattleGroundQueue

end TurtleWow.Battlegrounds
