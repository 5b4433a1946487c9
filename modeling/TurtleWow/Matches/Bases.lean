import TurtleWow.Matches.EventSpawns
import TurtleWow.Matches.Generals

namespace TurtleWow.Matches.Bases

open List Function

open Battlegrounds (Team getTeamIndexByTeamId)
open Run Word

-- The bases of Arathi Basin and of Sunnyglade Valley. A contested base is taken
-- when its timer runs out, or back again by a click of its former owner.

def NODE_TYPE_NEUTRAL : Nat := 0

def NODE_TYPE_CONTESTED : Nat := 1

def NODE_STATUS_ALLY_CONTESTED : Nat := 1

def NODE_STATUS_HORDE_CONTESTED : Nat := 2

def NODE_TYPE_OCCUPIED : Nat := 3

def FLAG_CAPTURING_TIME : Nat := 60000

-- m_Nodes, m_prevNodes and m_NodeTimers of one node
structure Node where
  status : Nat
  prev : Nat
  timer : Nat

namespace Node

def neutral : Node := ⟨NODE_TYPE_NEUTRAL, 0, 0⟩

variable (n : Node) (team : Team)

-- Check if player really could use this banner, not cheated
def mayUse : Bool := n.status = 0 ∨ getTeamIndexByTeamId team = n.status % 2

def become (type timer : Nat) : Node := ⟨getTeamIndexByTeamId team + type, n.status, timer⟩

def clickedType : Nat :=
  if n.status = NODE_TYPE_NEUTRAL then NODE_TYPE_CONTESTED
  else if n.status = NODE_STATUS_ALLY_CONTESTED ∨ n.status = NODE_STATUS_HORDE_CONTESTED then
    -- If last state is NOT occupied, change node to enemy-contested
    if n.prev < NODE_TYPE_OCCUPIED then NODE_TYPE_CONTESTED
    -- If contested, change back to occupied
    else NODE_TYPE_OCCUPIED
  else NODE_TYPE_CONTESTED

def click : Node :=
  n.become team n.clickedType (if n.clickedType = NODE_TYPE_OCCUPIED then 0 else FLAG_CAPTURING_TIME)

def expires (diff : Nat) : Bool := n.timer ≠ 0 ∧ ¬diff < n.timer

def tick (diff : Nat) : Node :=
  if n.timer ≠ 0 then
    if diff < n.timer then { n with timer := n.timer - diff }
    -- Change from contested to occupied !
    else ⟨n.status + 2, n.status, 0⟩
  else n

end Node

inductive Move where
  | none
  | click (team : Team)
  | tick (diff : Nat)

def Move.elapsed : Move → Nat
  | .tick diff => diff
  | _ => 0

def Node.step (n : Node) : Move → Node
  | .none => n
  | .click team => if n.mayUse team then n.click team else n
  | .tick diff => n.tick diff

def contested (team : Team) : Nat := getTeamIndexByTeamId team + NODE_TYPE_CONTESTED

def occupied (team : Team) : Nat := getTeamIndexByTeamId team + NODE_TYPE_OCCUPIED

-- What has been of a node: who occupied it last, and for how long its status has stood
structure Story where
  occupier : Option Team
  stood : Nat

def Story.next (story : Story) (n n' : Node) (elapsed : Nat) : Story where
  occupier :=
    if n'.status = occupied .ALLIANCE then some .ALLIANCE
    else if n'.status = occupied .HORDE then some .HORDE
    else story.occupier
  stood := if n'.status = n.status then story.stood + elapsed else 0

structure Captures (n n' : Node) (story story' : Story) (move : Move) : Prop where
  timer : n'.timer ≠ 0 ↔ n'.status = 1 ∨ n'.status = 2
  taken : ∀ team, n'.status = occupied team → n.status ≠ occupied team →
    (n.status = contested team ∧ FLAG_CAPTURING_TIME ≤ story.stood + move.elapsed) ∨
    (move = .click team ∧ n.status = contested (getOtherTeam team) ∧ story.occupier = some team)
  previous : ∀ team, n'.status = contested team →
    (NODE_TYPE_OCCUPIED ≤ n'.prev ↔ story'.occupier = some (getOtherTeam team))

inductive Stands : Node → Story → Prop where
  | neutral (prev stood : Nat) : Stands ⟨0, prev, 0⟩ ⟨none, stood⟩
  | first (team : Team) (prev timer stood : Nat) (hprev : prev < NODE_TYPE_OCCUPIED) (htimer : timer ≠ 0)
      (htime : FLAG_CAPTURING_TIME ≤ timer + stood) : Stands ⟨contested team, prev, timer⟩ ⟨none, stood⟩
  | again (team : Team) (prev timer stood : Nat) (hprev : NODE_TYPE_OCCUPIED ≤ prev) (htimer : timer ≠ 0)
      (htime : FLAG_CAPTURING_TIME ≤ timer + stood) :
      Stands ⟨contested team, prev, timer⟩ ⟨some (getOtherTeam team), stood⟩
  | held (team : Team) (prev stood : Nat) : Stands ⟨occupied team, prev, 0⟩ ⟨some team, stood⟩

section

variable {n n' : Node} {story : Story} {team other : Team}

theorem contested_inj : contested team = contested other ↔ team = other := by
  cases team <;> cases other <;> decide

theorem occupied_inj : occupied team = occupied other ↔ team = other := by
  cases team <;> cases other <;> decide

theorem contested_ne_occupied : contested team ≠ occupied other := by
  cases team <;> cases other <;> decide

theorem contested_cases (team : Team) : contested team = 1 ∨ contested team = 2 := by cases team <;> decide

theorem occupied_cases (team : Team) : occupied team = 3 ∨ occupied team = 4 := by cases team <;> decide

theorem mayUse_contested (hstatus : n.status = contested team) : n.mayUse other = true ↔ other = getOtherTeam team := by
  unfold Node.mayUse
  rw [hstatus]
  cases team <;> cases other <;> decide

theorem mayUse_occupied (hstatus : n.status = occupied team) : n.mayUse other = true ↔ other = getOtherTeam team := by
  unfold Node.mayUse
  rw [hstatus]
  cases team <;> cases other <;> decide

theorem Stands.timer (h : Stands n story) : n.timer ≠ 0 ↔ n.status = 1 ∨ n.status = 2 := by
  cases h with
  | neutral => simp
  | first team _ _ _ _ htimer => exact iff_of_true htimer (contested_cases team)
  | again team _ _ _ _ htimer => exact iff_of_true htimer (contested_cases team)
  | held team => cases team <;> simp [occupied, getTeamIndexByTeamId, NODE_TYPE_OCCUPIED]

theorem Stands.previous (h : Stands n story) (hstatus : n.status = contested team) :
    NODE_TYPE_OCCUPIED ≤ n.prev ↔ story.occupier = some (getOtherTeam team) := by
  cases h with
  | neutral => cases team <;> cases hstatus
  | first _ _ _ _ hprev => exact iff_of_false (Nat.not_le.mpr hprev) (by simp)
  | again held _ _ _ hprev =>
    obtain rfl := contested_inj.mp hstatus
    exact iff_of_true hprev rfl
  | held => exact absurd hstatus.symm contested_ne_occupied

theorem Stands.status (h : Stands n story) : n.status ≤ 4 := by
  cases h with
  | neutral => exact Nat.zero_le 4
  | first team | again team =>
    have hcases := contested_cases team
    dsimp only
    omega
  | held team =>
    have hcases := occupied_cases team
    dsimp only
    omega

theorem Stands.next_same (h : Stands n story) (elapsed : Nat) (hsame : n'.status = n.status) :
    story.next n n' elapsed = ⟨story.occupier, story.stood + elapsed⟩ := by
  cases h with
  | neutral =>
    simp only [Story.next, hsame, if_pos]
    rfl
  | first team | again team => simp [Story.next, hsame, contested_ne_occupied]
  | held team => cases team <;> simp [Story.next, hsame, occupied_inj]

theorem next_contested (elapsed : Nat) (hstatus : n'.status = contested team) (hne : n'.status ≠ n.status) :
    story.next n n' elapsed = ⟨story.occupier, 0⟩ := by
  rw [Story.next, if_neg hne, hstatus, if_neg contested_ne_occupied, if_neg contested_ne_occupied]

theorem next_occupied (elapsed : Nat) (hstatus : n'.status = occupied team) (hne : n'.status ≠ n.status) :
    story.next n n' elapsed = ⟨some team, 0⟩ := by
  rw [Story.next, if_neg hne, hstatus]
  cases team <;> simp [occupied_inj]

-- What a click makes of a node, by the type of its new banner

theorem click_contested (h : n.clickedType = NODE_TYPE_CONTESTED) :
    n.click team = ⟨contested team, n.status, FLAG_CAPTURING_TIME⟩ := by
  rw [Node.click, h, if_neg (by decide)]
  rfl

theorem click_occupied (h : n.clickedType = NODE_TYPE_OCCUPIED) : n.click team = ⟨occupied team, n.status, 0⟩ := by
  rw [Node.click, h, if_pos rfl]
  rfl

theorem clickedType_contested (hstatus : n.status = contested team) :
    n.clickedType = if n.prev < NODE_TYPE_OCCUPIED then NODE_TYPE_CONTESTED else NODE_TYPE_OCCUPIED := by
  have hcases := contested_cases team
  rw [← hstatus] at hcases
  rw [Node.clickedType, if_neg (by unfold NODE_TYPE_NEUTRAL; omega)]
  exact if_pos hcases

theorem clickedType_occupied (hstatus : n.status = occupied team) : n.clickedType = NODE_TYPE_CONTESTED := by
  have hcases := occupied_cases team
  rw [← hstatus] at hcases
  unfold Node.clickedType NODE_TYPE_NEUTRAL NODE_STATUS_ALLY_CONTESTED NODE_STATUS_HORDE_CONTESTED
  rw [if_neg (by omega), if_neg (by omega)]

theorem Stands.click (h : Stands n story) (hmay : n.mayUse team = true) :
    Stands (n.click team) (story.next n (n.click team) 0) ∧
      ∀ taker, (n.click team).status = occupied taker → n.status ≠ occupied taker →
        team = taker ∧ n.status = contested (getOtherTeam taker) ∧ story.occupier = some taker := by
  cases h with
  | neutral prev stood =>
    have hne : contested team ≠ 0 := by cases team <;> decide
    rw [click_contested rfl, next_contested 0 rfl hne]
    exact ⟨.first team _ _ _ (Nat.zero_lt_succ 2) (by decide) (by decide), fun _ h => absurd h contested_ne_occupied⟩
  | first holder prev timer stood hprev =>
    obtain rfl := (mayUse_contested rfl).mp hmay
    have hne : contested (getOtherTeam holder) ≠ contested holder := by simp [contested_inj]
    have hlt : contested holder < NODE_TYPE_OCCUPIED := by cases holder <;> decide
    rw [click_contested ((clickedType_contested rfl).trans (if_pos hprev)), next_contested 0 rfl hne]
    exact ⟨.first _ _ _ _ hlt (by decide) (by decide), fun _ h => absurd h contested_ne_occupied⟩
  | again holder prev timer stood hprev =>
    obtain rfl := (mayUse_contested rfl).mp hmay
    rw [click_occupied ((clickedType_contested rfl).trans (if_neg (Nat.not_lt.mpr hprev))),
      next_occupied 0 rfl contested_ne_occupied.symm]
    refine ⟨.held _ _ _, fun taker htaker _ => ?_⟩
    obtain rfl := occupied_inj.mp htaker
    exact ⟨rfl, by rw [getOtherTeam_getOtherTeam], rfl⟩
  | held holder prev stood =>
    obtain rfl := (mayUse_occupied rfl).mp hmay
    have hle : NODE_TYPE_OCCUPIED ≤ occupied holder := by cases holder <;> decide
    rw [click_contested (clickedType_occupied rfl), next_contested 0 rfl contested_ne_occupied]
    have hagain := Stands.again (getOtherTeam holder) (occupied holder) FLAG_CAPTURING_TIME 0 hle (by decide) (by decide)
    rw [getOtherTeam_getOtherTeam] at hagain
    exact ⟨hagain, fun _ h => absurd h contested_ne_occupied⟩

theorem tick_contested {diff timer stood prev : Nat} {occupier : Option Team} (htimer : timer ≠ 0)
    (htime : FLAG_CAPTURING_TIME ≤ timer + stood)
    (hstands : ∀ timer' stood', timer' ≠ 0 → FLAG_CAPTURING_TIME ≤ timer' + stood' →
      Stands ⟨contested team, prev, timer'⟩ ⟨occupier, stood'⟩) :
    Stands (Node.tick ⟨contested team, prev, timer⟩ diff)
        (Story.next ⟨occupier, stood⟩ ⟨contested team, prev, timer⟩ (Node.tick ⟨contested team, prev, timer⟩ diff) diff) ∧
      ∀ taker, (Node.tick ⟨contested team, prev, timer⟩ diff).status = occupied taker →
        contested team = contested taker ∧ FLAG_CAPTURING_TIME ≤ stood + diff := by
  have hkept : Story.next ⟨occupier, stood⟩ ⟨contested team, prev, timer⟩ ⟨contested team, prev, timer - diff⟩ diff =
      ⟨occupier, stood + diff⟩ := (hstands timer stood htimer htime).next_same diff rfl
  unfold Node.tick
  rw [if_pos htimer]
  split_ifs with hlt <;> dsimp only at hlt ⊢
  · rw [hkept]
    exact ⟨hstands _ _ (by omega) (by omega), fun _ h => absurd h contested_ne_occupied⟩
  · have htaken : contested team + 2 = occupied team := by cases team <;> rfl
    rw [htaken, next_occupied diff rfl contested_ne_occupied.symm]
    refine ⟨.held _ _ _, fun taker htaker => ?_⟩
    obtain rfl := occupied_inj.mp htaker
    exact ⟨rfl, by omega⟩

theorem Stands.tick (h : Stands n story) (diff : Nat) :
    Stands (n.tick diff) (story.next n (n.tick diff) diff) ∧
      ∀ taker, (n.tick diff).status = occupied taker → n.status ≠ occupied taker →
        n.status = contested taker ∧ FLAG_CAPTURING_TIME ≤ story.stood + diff := by
  cases h with
  | neutral prev stood =>
    have hsame : (Node.tick ⟨0, prev, 0⟩ diff) = ⟨0, prev, 0⟩ := rfl
    rw [hsame, (Stands.neutral prev stood).next_same diff rfl]
    exact ⟨.neutral _ _, fun _ h hne => absurd h hne⟩
  | first holder prev timer stood hprev htimer htime =>
    obtain ⟨hstands, htaken⟩ := tick_contested htimer htime fun timer' stood' =>
      Stands.first holder prev timer' stood' hprev
    exact ⟨hstands, fun taker htaker _ => htaken taker htaker⟩
  | again holder prev timer stood hprev htimer htime =>
    obtain ⟨hstands, htaken⟩ := tick_contested htimer htime fun timer' stood' =>
      Stands.again holder prev timer' stood' hprev
    exact ⟨hstands, fun taker htaker _ => htaken taker htaker⟩
  | held holder prev stood =>
    have hsame : (Node.tick ⟨occupied holder, prev, 0⟩ diff) = ⟨occupied holder, prev, 0⟩ := rfl
    rw [hsame, (Stands.held holder prev stood).next_same diff rfl]
    exact ⟨.held _ _ _, fun _ h hne => absurd h hne⟩

theorem Stands.same (h : Stands n story) (elapsed : Nat) : Stands n (story.next n n elapsed) := by
  rw [h.next_same elapsed rfl]
  cases h with
  | neutral => exact .neutral _ _
  | first _ _ _ _ hprev htimer htime => exact .first _ _ _ _ hprev htimer (by dsimp only; omega)
  | again _ _ _ _ hprev htimer htime => exact .again _ _ _ _ hprev htimer (by dsimp only; omega)
  | held => exact .held _ _ _

theorem Node.status_tick {diff : Nat} (h : ¬n.expires diff = true) : (n.tick diff).status = n.status := by
  have hcases : n.timer = 0 ∨ diff < n.timer := by
    by_contra hnot
    obtain ⟨htimer, hdue⟩ := not_or.mp hnot
    exact h (by simpa [Node.expires] using ⟨htimer, Nat.not_lt.mp hdue⟩)
  unfold Node.tick
  rcases hcases with hzero | hlt
  · rw [if_neg (not_not.mpr hzero)]
  · split_ifs
    · rfl
    · rfl

theorem Stands.step (h : Stands n story) {move : Move} (hmove : n' = n.step move ∨ n' = n) :
    Stands n' (story.next n n' move.elapsed) ∧ Captures n n' story (story.next n n' move.elapsed) move := by
  have htaken : Stands n' (story.next n n' move.elapsed) ∧ ∀ taker, n'.status = occupied taker → n.status ≠ occupied taker →
      (n.status = contested taker ∧ FLAG_CAPTURING_TIME ≤ story.stood + move.elapsed) ∨
      (move = .click taker ∧ n.status = contested (getOtherTeam taker) ∧ story.occupier = some taker) := by
    by_cases hsame : n' = n
    · rw [hsame]
      exact ⟨h.same _, fun _ h hne => absurd h hne⟩
    obtain rfl := hmove.resolve_right hsame
    cases move with
    | none => exact absurd rfl hsame
    | click team =>
      have hmay : n.mayUse team = true := by
        by_contra hnot
        exact hsame (if_neg hnot)
      rw [show n.step (.click team) = n.click team from if_pos hmay]
      obtain ⟨hstands, hclick⟩ := h.click hmay
      refine ⟨hstands, fun taker htaker hne => .inr ?_⟩
      obtain ⟨rfl, hbefore⟩ := hclick taker htaker hne
      exact ⟨rfl, hbefore⟩
    | tick diff =>
      obtain ⟨hstands, htick⟩ := h.tick diff
      exact ⟨hstands, fun taker htaker hne => .inl (htick taker htaker hne)⟩
  exact ⟨htaken.1, htaken.1.timer, htaken.2, fun _ => htaken.1.previous⟩

end

-- Arathi Basin. What is only shown to players or given to them is left out.

def BG_AB_NODES_MAX : Nat := 5

def BG_AB_MAX_TEAM_SCORE : Int := 2000

def BG_AB_TickIntervals : List Nat := [0, 12000, 9000, 6000, 3000, 1000]

def BG_AB_TickPoints : List Int := [0, 10, 10, 10, 10, 30]

structure Arathi where
  status : Status
  nodes : Fin BG_AB_NODES_MAX → Node
  ground : Spawns.Ground
  teamScores : Team → Int
  lastTick : Team → Nat

def nodeEvent (node : Fin BG_AB_NODES_MAX) : UInt8 := UInt8.ofNat node

namespace Arathi

variable (data : Spawns.SpawnData)

-- Reset: all nodes owned by neutral team at beginning
def start (activeEvents : UInt8 → Option UInt8) : Arathi where
  status := .WAIT_JOIN
  nodes _ := .neutral
  ground := Spawns.start fun event => if event.toNat < BG_AB_NODES_MAX then some 0 else activeEvents event
  teamScores _ := 0
  lastTick _ := 0

def setNode (s : Arathi) (node : Fin BG_AB_NODES_MAX) (n : Node) : Arathi :=
  { s with nodes := Function.update s.nodes node n }

def bannerDelay (type : Nat) : Nat := if type = NODE_TYPE_CONTESTED then 1 else if type = NODE_TYPE_OCCUPIED then 5 else 0

def createBanner (s : Arathi) (now : Nat) (node : Fin BG_AB_NODES_MAX) (type teamIndex : Nat) : Arathi :=
  let event2 := if type ≠ NODE_TYPE_NEUTRAL then type + teamIndex else type
  -- will automaticly despawn other events
  { s with ground := s.ground.spawnEvent data now (nodeEvent node) (UInt8.ofNat event2) true true (bannerDelay type) }

def eventPlayerClickedOnFlag (s : Arathi) (now : Nat) (event : UInt8) (team : Team) : Arathi :=
  if s.status ≠ .IN_PROGRESS then s
  else if h : event.toNat < BG_AB_NODES_MAX then
    let node : Fin BG_AB_NODES_MAX := ⟨event.toNat, h⟩
    let n := s.nodes node
    if !n.mayUse team then s
    else (s.setNode node (n.click team)).createBanner data now node n.clickedType (getTeamIndexByTeamId team)
  -- not a node
  else s

def updateNode (now diff : Nat) (s : Arathi) (node : Fin BG_AB_NODES_MAX) : Arathi :=
  let n := s.nodes node
  if n.expires diff then (s.setNode node (n.tick diff)).createBanner data now node NODE_TYPE_OCCUPIED (n.status - 1)
  else s.setNode node (n.tick diff)

def points (s : Arathi) (team : Team) : Nat :=
  (List.finRange BG_AB_NODES_MAX).countP fun node => (s.nodes node).status = occupied team

def accumulate (diff : Nat) (s : Arathi) (team : Team) : Arathi :=
  if s.points team = 0 then s
  else
    let lastTick := add32 (s.lastTick team) diff
    let interval := BG_AB_TickIntervals.getD (s.points team) 0
    if interval < lastTick then
      let score := s.teamScores team + BG_AB_TickPoints.getD (s.points team) 0
      { s with
        lastTick := Function.update s.lastTick team (lastTick - interval)
        teamScores := Function.update s.teamScores team (min score BG_AB_MAX_TEAM_SCORE) }
    else { s with lastTick := Function.update s.lastTick team lastTick }

def testWin (s : Arathi) : Arathi :=
  if BG_AB_MAX_TEAM_SCORE ≤ s.teamScores .ALLIANCE ∨ BG_AB_MAX_TEAM_SCORE ≤ s.teamScores .HORDE then
    { s with status := .WAIT_LEAVE }
  else s

def update (s : Arathi) (now diff : Nat) : Arathi :=
  if s.status ≠ .IN_PROGRESS then s
  else
    let s := (List.finRange BG_AB_NODES_MAX).foldl (updateNode data now diff) s
    ((s.accumulate diff .ALLIANCE).accumulate diff .HORDE).testWin

end Arathi

-- The doors open, the match ends for another reason, a banner is clicked, time
-- passes, or the map loads a game object.
inductive Event where
  | opens (now : Nat)
  | ends
  | click (now : Nat) (event : UInt8) (team : Team)
  | update (now diff : Nat)
  | load (now guid : Nat)

def Event.move (node : Nat) : Event → Move
  | .click _ event team => if event.toNat = node then .click team else .none
  | .update _ diff => .tick diff
  | _ => .none

namespace Arathi

variable (data : Spawns.SpawnData)

def step (s : Arathi) : Event → Arathi
  | .opens _ => if s.status = .WAIT_JOIN then { s with status := .IN_PROGRESS } else s
  | .ends => { s with status := .WAIT_LEAVE }
  | .click now event team => s.eventPlayerClickedOnFlag data now event team
  | .update now diff => s.update data now diff
  | .load now guid =>
    { s with ground := s.ground.loadGameObject data now (s.status = .IN_PROGRESS ∨ s.status = .WAIT_LEAVE) guid }

def after (activeEvents : UInt8 → Option UInt8) (events : List Event) : Arathi :=
  run (step data) (start activeEvents) events

end Arathi

-- Sunnyglade Valley. Guards, auras and what is only shown are left out.

def BG_SV_DYNAMIC_NODES_COUNT : Nat := 3

def BG_SV_HERALD_POINT : Nat := 2

def BG_SV_CaptureNodesSparkTicks : List UInt32 := [0, 1, 2]

-- m_BannerTimers of one node
structure BannerTimer where
  timer : Nat
  type : Nat
  teamIndex : Nat

-- `objects` are those of m_BgObjects, which are not of the database.
structure Sunny where
  status : Status
  nodes : Fin BG_SV_DYNAMIC_NODES_COUNT → Node
  bannerTimers : Fin BG_SV_DYNAMIC_NODES_COUNT → BannerTimer
  objects : Nat → Spawns.GameObject
  lastTick : Team → Nat
  sparks : Sunnyglade.Sparks

-- What Sunnyglade Valley reads of the world: the objects' templates, the maximum of
-- sparks, and what AddCreature makes of the generals
structure World where
  info : Nat → Spawns.GameObjectInfo
  maxSparks : UInt32
  created : Team → Option UInt32

-- SpawnObject with RESPAWN_NEVER, for an object that is not of the database
def vanish (info : Spawns.GameObjectInfo) (now : Nat) (obj : Spawns.GameObject) : Spawns.GameObject :=
  { obj.setRespawnTime now Spawns.RESPAWN_NEVER with
    goState := if info.flagStand then obj.goState else .ACTIVE_ALTERNATIVE
    lootState := .JUST_DEACTIVATED }

def isSpawned (obj : Spawns.GameObject) : Bool := obj.respawnDelay = 0 ∨ obj.respawnTime = 0

namespace Sunny

variable (w : World)

def bannerIndex (node : Fin BG_SV_DYNAMIC_NODES_COUNT) (banner : Nat) : Nat := banner + node * 5

section

variable (s : Sunny)

def spawnObject (now obj : Nat) : Sunny :=
  { s with objects := Function.update s.objects obj ((s.objects obj).appear now (w.info obj) 0) }

def despawnObject (now obj : Nat) : Sunny :=
  { s with objects := Function.update s.objects obj (vanish (w.info obj) now (s.objects obj)) }

-- Reset and StartingEventCloseDoors: all banners are despawned.
def start (now : Nat) (objects : Nat → Spawns.GameObject) : Sunny where
  status := .WAIT_JOIN
  nodes _ := .neutral
  bannerTimers _ := ⟨0, 0, 0⟩
  objects obj := if obj < 15 then vanish (w.info obj) now (objects obj) else objects obj
  lastTick _ := 0
  sparks := .start

-- StartingEventOpenDoors: spawn neutral banners
def startingEventOpenDoors (now : Nat) : Sunny :=
  (List.finRange BG_SV_DYNAMIC_NODES_COUNT).foldl (fun s node => s.spawnObject w now (bannerIndex node 0)) s

def setNode (node : Fin BG_SV_DYNAMIC_NODES_COUNT) (n : Node) : Sunny :=
  { s with nodes := Function.update s.nodes node n }

def setBannerTimer (node : Fin BG_SV_DYNAMIC_NODES_COUNT) (b : BannerTimer) : Sunny :=
  { s with bannerTimers := Function.update s.bannerTimers node b }

def createBanner (now : Nat) (node : Fin BG_SV_DYNAMIC_NODES_COUNT) (type teamIndex : Nat) (delay : Bool) : Sunny :=
  -- Just put it into the queue
  if delay then s.setBannerTimer node ⟨2000, type, teamIndex⟩
  else s.spawnObject w now (bannerIndex node (type + teamIndex))

def delBanner (now : Nat) (node : Fin BG_SV_DYNAMIC_NODES_COUNT) (type teamIndex : Nat) : Sunny :=
  s.despawnObject w now (bannerIndex node (type + teamIndex))

def burntBanner (n : Node) (team : Team) : Nat × Nat :=
  if n.status = NODE_TYPE_NEUTRAL then (NODE_TYPE_NEUTRAL, 0)
  else if n.status = NODE_STATUS_ALLY_CONTESTED ∨ n.status = NODE_STATUS_HORDE_CONTESTED then
    (NODE_TYPE_CONTESTED, getTeamIndexByTeamId (getOtherTeam team))
  else (NODE_TYPE_OCCUPIED, getTeamIndexByTeamId (getOtherTeam team))

-- `near` is the first node within reach of the player.
def eventPlayerClickedOnFlag (now : Nat) (near : Nat) (team : Team) : Sunny :=
  if s.status ≠ .IN_PROGRESS then s
  else if h : near < BG_SV_DYNAMIC_NODES_COUNT then
    let node : Fin BG_SV_DYNAMIC_NODES_COUNT := ⟨near, h⟩
    let n := s.nodes node
    if !n.mayUse team then s
    else
      let s := (s.setNode node (n.click team)).delBanner w now node (burntBanner n team).1 (burntBanner n team).2
      s.createBanner w now node n.clickedType (getTeamIndexByTeamId team) true
  -- this means our player isn't close to any of banners
  else s

end

-- 2 sec delay to spawn new banner instead previous despawned one
def updateBanner (now diff : Nat) (s : Sunny) (node : Fin BG_SV_DYNAMIC_NODES_COUNT) : Sunny :=
  let b := s.bannerTimers node
  if b.timer ≠ 0 then
    if diff < b.timer then s.setBannerTimer node { b with timer := b.timer - diff }
    else (s.setBannerTimer node { b with timer := 0 }).createBanner w now node b.type b.teamIndex false
  else s

-- 1-minute to occupy a tower from contested state
def updateTimer (now diff : Nat) (s : Sunny) (node : Fin BG_SV_DYNAMIC_NODES_COUNT) : Sunny :=
  let n := s.nodes node
  if n.expires diff then
    let s := (s.setNode node (n.tick diff)).delBanner w now node NODE_TYPE_CONTESTED (n.status - 1)
    s.createBanner w now node NODE_TYPE_OCCUPIED (n.status - 1) true
  else s.setNode node (n.tick diff)

def controlledNodesCount (s : Sunny) (team : Team) : Nat :=
  (List.finRange BG_SV_DYNAMIC_NODES_COUNT).countP fun node =>
    node.val < BG_SV_HERALD_POINT ∧ (s.nodes node).status = occupied team

def accumulate (diff : Nat) (s : Sunny) (team : Team) : Sunny :=
  if s.controlledNodesCount team = 0 then s
  else
    let lastTick := add32 (s.lastTick team) diff
    if 60000 < lastTick then
      { s with
        lastTick := Function.update s.lastTick team (lastTick - 60000)
        sparks := s.sparks.addTeamSparks w.maxSparks w.created team
          (BG_SV_CaptureNodesSparkTicks.getD (s.controlledNodesCount team) 0) }
    else { s with lastTick := Function.update s.lastTick team lastTick }

def update (s : Sunny) (now diff : Nat) : Sunny :=
  if s.status ≠ .IN_PROGRESS then s
  else
    let s := (List.finRange BG_SV_DYNAMIC_NODES_COUNT).foldl
      (fun s node => (s.updateBanner w now diff node).updateTimer w now diff node) s
    (s.accumulate w diff .ALLIANCE).accumulate w diff .HORDE

def step (s : Sunny) : Event → Sunny
  | .opens now => if s.status = .WAIT_JOIN then { s.startingEventOpenDoors w now with status := .IN_PROGRESS } else s
  | .ends => { s with status := .WAIT_LEAVE }
  | .click now near team => s.eventPlayerClickedOnFlag w now near.toNat team
  | .update now diff => s.update w now diff
  | .load _ _ => s

def after (now : Nat) (objects : Nat → Spawns.GameObject) (events : List Event) : Sunny :=
  run (step w) (start w now objects) events

def pending (s : Sunny) (node : Fin BG_SV_DYNAMIC_NODES_COUNT) (banner : Nat) : Prop :=
  (s.bannerTimers node).timer ≠ 0 ∧ (s.bannerTimers node).type + (s.bannerTimers node).teamIndex = banner

end Sunny

-- The story of a node of either battleground

def tell {σ : Type} (step : σ → Event → σ) (node : σ → Node) (index : Nat) (told : σ × Story) (event : Event) : σ × Story :=
  (step told.1 event, told.2.next (node told.1) (node (step told.1 event)) (event.move index).elapsed)

def story {σ : Type} (step : σ → Event → σ) (start : σ) (node : σ → Node) (index : Nat) (events : List Event) : Story :=
  (run (tell step node index) (start, ⟨none, 0⟩) events).2

structure Arathi.Correct (data : Spawns.SpawnData) (activeEvents : UInt8 → Option UInt8) (before : List Event)
    (event : Event) : Prop where
  captures : ∀ node : Fin BG_AB_NODES_MAX, Captures ((after data activeEvents before).nodes node)
    ((after data activeEvents (before ++ [event])).nodes node)
    (story (step data) (start activeEvents) (fun s => s.nodes node) node before)
    (story (step data) (start activeEvents) (fun s => s.nodes node) node (before ++ [event])) (event.move node)
  -- The banners of a node are the objects of its events alone.
  banner : ∀ guid node banner, data.gameobjectEvents.events guid = [(nodeEvent node, banner)] →
    ((after data activeEvents (before ++ [event])).ground.gameobjects guid).isSome = true →
    banner = UInt8.ofNat ((after data activeEvents (before ++ [event])).nodes node).status
  standing : ∀ guid node banner, data.gameobjectEvents.events guid = [(nodeEvent node, banner)] →
    guid ∈ ((after data activeEvents (before ++ [event])).ground.eventObjects (nodeEvent node, banner)).gameobjects →
    banner = UInt8.ofNat ((after data activeEvents (before ++ [event])).nodes node).status →
    ((after data activeEvents (before ++ [event])).ground.gameobjects guid).isSome = true
  grows : ∀ team, (after data activeEvents before).teamScores team <
      (after data activeEvents (before ++ [event])).teamScores team →
    ∃ node, ((after data activeEvents (before ++ [event])).nodes node).status = occupied team
  limit : ∀ team, (after data activeEvents (before ++ [event])).teamScores team ≤ 2000

structure Sunny.Correct (w : World) (now : Nat) (objects : Nat → Spawns.GameObject) (before : List Event)
    (event : Event) : Prop where
  captures : ∀ node : Fin BG_SV_DYNAMIC_NODES_COUNT, Captures ((after w now objects before).nodes node)
    ((after w now objects (before ++ [event])).nodes node)
    (story (step w) (start w now objects) (fun s => s.nodes node) node before)
    (story (step w) (start w now objects) (fun s => s.nodes node) node (before ++ [event])) (event.move node)
  banner : ∀ node, ∀ banner < 5,
    isSpawned ((after w now objects (before ++ [event])).objects (bannerIndex node banner)) = true ∨
      (after w now objects (before ++ [event])).pending node banner →
    banner = ((after w now objects (before ++ [event])).nodes node).status
  -- The match has begun.
  standing : (after w now objects (before ++ [event])).status = .IN_PROGRESS → ∀ node,
    isSpawned ((after w now objects (before ++ [event])).objects
        (bannerIndex node ((after w now objects (before ++ [event])).nodes node).status)) = true ∨
      (after w now objects (before ++ [event])).pending node ((after w now objects (before ++ [event])).nodes node).status

section

variable {σ : Type} (step : σ → Event → σ) (start : σ) (node : σ → Node) (index : Nat)

theorem tell_state (events : List Event) :
    (run (tell step node index) (start, ⟨none, 0⟩) events).1 = run step start events := by
  induction events using List.reverseRecOn with
  | nil => rfl
  | append_singleton before event ih =>
    rw [run_append, run_append, run_cons, run_cons, run_nil, run_nil, ← ih]
    rfl

theorem story_concat (before : List Event) (event : Event) :
    story step start node index (before ++ [event]) =
      (story step start node index before).next (node (run step start before)) (node (run step start (before ++ [event])))
        (event.move index).elapsed := by
  unfold story
  rw [run_append, run_append, run_cons, run_cons, run_nil, run_nil, ← tell_state step start node index before]
  rfl

-- Along a run whose steps move the node, the node stands as its story has it.
theorem stands_run (hstart : node start = .neutral)
    (hmove : ∀ s event, node (step s event) = (node s).step (event.move index) ∨ node (step s event) = node s)
    (events : List Event) : Stands (node (run step start events)) (story step start node index events) := by
  induction events using List.reverseRecOn with
  | nil =>
    rw [run_nil, hstart]
    exact .neutral 0 0
  | append_singleton before event ih =>
    rw [story_concat, run_append, run_cons, run_nil]
    exact (ih.step (hmove _ event)).1

theorem captures_run (hstart : node start = .neutral)
    (hmove : ∀ s event, node (step s event) = (node s).step (event.move index) ∨ node (step s event) = node s)
    (before : List Event) (event : Event) :
    Captures (node (run step start before)) (node (run step start (before ++ [event])))
      (story step start node index before) (story step start node index (before ++ [event])) (event.move index) := by
  rw [story_concat, run_append, run_cons, run_nil]
  exact ((stands_run step start node index hstart hmove before).step (hmove _ event)).2

end

namespace Arathi

open Spawns Spawns.Ground

section

variable {data : SpawnData} {s : Arathi} {now diff : Nat} {node : Fin BG_AB_NODES_MAX} {n : Node}

theorem nodeEvent_inj {other : Fin BG_AB_NODES_MAX} : nodeEvent node = nodeEvent other ↔ node = other := by
  revert node other
  decide

theorem toNat_ofNat_le {status : Nat} (h : status ≤ 4) : (UInt8.ofNat status).toNat = status :=
  UInt8.toNat_ofNat_of_lt' (Nat.lt_of_le_of_lt h (by decide))

theorem ofNat_ne_none {status : Nat} (h : status ≤ 4) : UInt8.ofNat status ≠ Spawns.BG_EVENT_NONE := by
  intro heq
  have hnat := congrArg UInt8.toNat heq
  rw [toNat_ofNat_le h] at hnat
  have hnone : Spawns.BG_EVENT_NONE.toNat = 255 := by decide
  omega

structure Keeps (data : SpawnData) (s : Arathi) : Prop where
  tied : Tied data s.ground
  active : ∀ node, s.ground.activeEvents (nodeEvent node) = some (UInt8.ofNat (s.nodes node).status)
  standing : ∀ node, ∃ story, Stands (s.nodes node) story

theorem Keeps.of_same (h : Keeps data s) {s' : Arathi} (hnodes : s'.nodes = s.nodes) (hground : s'.ground = s.ground) :
    Keeps data s' :=
  ⟨hground ▸ h.tied, by rw [hnodes, hground]; exact h.active, by rw [hnodes]; exact h.standing⟩

theorem activeEvents_spawnEvent {bg : Ground} {event1 event2 : UInt8} {delay : Nat} (hnone : event2 ≠ Spawns.BG_EVENT_NONE) :
    (bg.spawnEvent data now event1 event2 true true delay).activeEvents = (bg.activate event1 event2).activeEvents := by
  rw [Spawns.Ground.spawnEvent_eq hnone]
  split_ifs with hsame
  · rw [hsame]
  · exact activate_cleared event1 event2 true

theorem standing_setNode (h : Keeps data s) {story : Story} (hstands : Stands n story) (other : Fin BG_AB_NODES_MAX) :
    ∃ story, Stands ((s.setNode node n).nodes other) story := by
  unfold setNode
  dsimp only
  by_cases hother : other = node
  · rw [hother, update_self]
    exact ⟨story, hstands⟩
  · rw [update_of_ne hother]
    exact h.standing other

theorem Keeps.setNode (h : Keeps data s) {story : Story} (hstands : Stands n story)
    (hsame : n.status = (s.nodes node).status) : Keeps data (s.setNode node n) := by
  refine ⟨h.tied, fun other => ?_, standing_setNode h hstands⟩
  unfold Arathi.setNode
  dsimp only
  by_cases hother : other = node
  · rw [hother, update_self, hsame, h.active]
  · rw [update_of_ne hother, h.active]

theorem Keeps.banner (h : Keeps data s) {story : Story} (hstands : Stands n story) {type teamIndex : Nat}
    (htype : type ≠ NODE_TYPE_NEUTRAL) (hstatus : type + teamIndex = n.status) :
    Keeps data ((s.setNode node n).createBanner data now node type teamIndex) := by
  have hnone := ofNat_ne_none hstands.status
  have hdelay : bannerDelay type ≠ RESPAWN_NEVER := by
    unfold bannerDelay
    split_ifs <;> decide
  have hevent : (if type ≠ NODE_TYPE_NEUTRAL then type + teamIndex else type) = n.status := by rw [if_pos htype, hstatus]
  have hground : ((s.setNode node n).createBanner data now node type teamIndex).ground =
      s.ground.spawnEvent data now (nodeEvent node) (UInt8.ofNat n.status) true true (bannerDelay type) := by
    rw [← hevent]
    rfl
  refine ⟨?_, fun other => ?_, standing_setNode h hstands⟩
  · rw [hground]
    exact h.tied.spawnEvent now (by rw [h.active]; simp) hnone hdelay
  · rw [hground, activeEvents_spawnEvent hnone]
    change Function.update s.ground.activeEvents (nodeEvent node) (some (UInt8.ofNat n.status)) (nodeEvent other) =
      some (UInt8.ofNat (Function.update s.nodes node n other).status)
    by_cases hother : other = node
    · rw [hother, update_self, update_self]
    · rw [update_of_ne (nodeEvent_inj.not.mpr hother), update_of_ne hother, h.active]

theorem nodes_updateNode (data : SpawnData) (now diff : Nat) (s : Arathi) (node : Fin BG_AB_NODES_MAX) :
    (updateNode data now diff s node).nodes = Function.update s.nodes node ((s.nodes node).tick diff) := by
  unfold updateNode
  dsimp only
  split_ifs <;> rfl

theorem teamScores_updateNode (data : SpawnData) (now diff : Nat) (s : Arathi) (node : Fin BG_AB_NODES_MAX) :
    (updateNode data now diff s node).teamScores = s.teamScores := by
  unfold updateNode
  dsimp only
  split_ifs <;> rfl

theorem Keeps.updateNode (h : Keeps data s) (now diff : Nat) (node : Fin BG_AB_NODES_MAX) :
    Keeps data (updateNode data now diff s node) := by
  obtain ⟨story, hstands⟩ := h.standing node
  have htick := (hstands.tick diff).1
  unfold Arathi.updateNode
  dsimp only
  split_ifs with hexpires
  · obtain ⟨htimer, hdue⟩ : (s.nodes node).timer ≠ 0 ∧ ¬diff < (s.nodes node).timer := by simpa [Node.expires] using hexpires
    have hstatus : ((s.nodes node).tick diff).status = (s.nodes node).status + 2 := by
      rw [Node.tick, if_pos htimer, if_neg hdue]
    have hcontested := hstands.timer.mp htimer
    refine h.banner htick (by decide) ?_
    rw [hstatus, NODE_TYPE_OCCUPIED]
    omega
  · exact h.setNode htick (Node.status_tick hexpires)

def afterNodes (data : SpawnData) (now diff : Nat) (s : Arathi) : Arathi :=
  (List.finRange BG_AB_NODES_MAX).foldl (updateNode data now diff) s

theorem nodes_fold (list : List (Fin BG_AB_NODES_MAX)) (s : Arathi) : (list.foldl (updateNode data now diff) s).nodes =
    list.foldl (fun nodes node => Function.update nodes node ((nodes node).tick diff)) s.nodes := by
  induction list generalizing s with
  | nil => rfl
  | cons node rest ih => rw [foldl_cons, foldl_cons, ih, nodes_updateNode]

theorem nodes_afterNodes (s : Arathi) (node : Fin BG_AB_NODES_MAX) :
    (afterNodes data now diff s).nodes node = (s.nodes node).tick diff := by
  rw [afterNodes, nodes_fold, Lists.foldl_update (fun _ n => Node.tick n diff),
    count_eq_one_of_mem (nodup_finRange _) (mem_finRange node), iterate_one]

theorem teamScores_afterNodes (s : Arathi) : (afterNodes data now diff s).teamScores = s.teamScores := by
  unfold afterNodes
  generalize List.finRange BG_AB_NODES_MAX = list
  induction list generalizing s with
  | nil => rfl
  | cons node rest ih => rw [foldl_cons, ih, teamScores_updateNode]

theorem Keeps.afterNodes (h : Keeps data s) (now diff : Nat) : Keeps data (afterNodes data now diff s) := by
  unfold Arathi.afterNodes
  generalize List.finRange BG_AB_NODES_MAX = list
  induction list generalizing s with
  | nil => exact h
  | cons node rest ih => exact ih (h.updateNode now diff node)

-- A score grows for the nodes of its team, and not past the maximum.

section

variable (s : Arathi)

theorem nodes_accumulate (team : Team) : (s.accumulate diff team).nodes = s.nodes := by
  unfold accumulate
  dsimp only
  split_ifs <;> rfl

theorem ground_accumulate (team : Team) : (s.accumulate diff team).ground = s.ground := by
  unfold accumulate
  dsimp only
  split_ifs <;> rfl

theorem accumulate_other {team other : Team} (h : other ≠ team) :
    (s.accumulate diff team).teamScores other = s.teamScores other := by
  unfold accumulate
  dsimp only
  split_ifs
  · rfl
  · exact update_of_ne h ..
  · rfl

theorem accumulate_grows (team : Team) (h : s.teamScores team < (s.accumulate diff team).teamScores team) :
    ∃ node, (s.nodes node).status = occupied team := by
  have hpoints : 0 < s.points team := by
    by_contra hzero
    rw [accumulate, if_pos (by omega)] at h
    exact Int.lt_irrefl _ h
  obtain ⟨node, -, hnode⟩ := countP_pos_iff.mp hpoints
  exact ⟨node, of_decide_eq_true hnode⟩

theorem accumulate_le (team other : Team) (h : s.teamScores other ≤ BG_AB_MAX_TEAM_SCORE) :
    (s.accumulate diff team).teamScores other ≤ BG_AB_MAX_TEAM_SCORE := by
  by_cases hother : other = team
  · subst hother
    unfold accumulate
    dsimp only
    split_ifs
    · exact h
    · dsimp only
      rw [update_self]
      exact Int.min_le_right _ _
    · exact h
  · rw [accumulate_other s hother]
    exact h

theorem testWin_same : s.testWin.nodes = s.nodes ∧ s.testWin.ground = s.ground ∧
    s.testWin.teamScores = s.teamScores := by
  unfold testWin
  split_ifs <;> exact ⟨rfl, rfl, rfl⟩

theorem update_eq : s.update data now diff = if s.status ≠ .IN_PROGRESS then s
    else (((afterNodes data now diff s).accumulate diff .ALLIANCE).accumulate diff .HORDE).testWin := rfl

end

theorem clickedType_ne (n : Node) : n.clickedType ≠ NODE_TYPE_NEUTRAL := by
  unfold Node.clickedType
  split_ifs <;> decide

theorem Keeps.step (h : Keeps data s) (event : Event) : Keeps data (step data s event) := by
  cases event with
  | opens now =>
    unfold Arathi.step
    split_ifs
    · exact h.of_same rfl rfl
    · exact h
  | ends => exact h.of_same rfl rfl
  | click now event team =>
    change Keeps data (s.eventPlayerClickedOnFlag data now event team)
    unfold eventPlayerClickedOnFlag
    dsimp only
    split_ifs with hstatus hnode hmay
    · exact h
    · exact h
    · obtain ⟨story, hstands⟩ := h.standing ⟨event.toNat, hnode⟩
      have hclick := (hstands.click (by simpa using hmay)).1
      exact h.banner hclick (clickedType_ne _) (Nat.add_comm ..)
    · exact h
  | update now diff =>
    change Keeps data (s.update data now diff)
    rw [update_eq]
    split_ifs
    · exact h
    · obtain ⟨hnodes, hground, -⟩ := testWin_same
        (((Arathi.afterNodes data now diff s).accumulate diff .ALLIANCE).accumulate diff .HORDE)
      refine (h.afterNodes now diff).of_same ?_ ?_
      · rw [hnodes, nodes_accumulate, nodes_accumulate]
      · rw [hground, ground_accumulate, ground_accumulate]
  | load now guid =>
    unfold Arathi.step
    generalize decide (s.status = .IN_PROGRESS ∨ s.status = .WAIT_LEAVE) = inProgress
    have hload := loadsGameObject data s.ground now inProgress guid
    exact ⟨h.tied.loadGameObject now _ guid, fun node => by rw [hload.activeEvents]; exact h.active node, h.standing⟩

theorem nodes_click (s : Arathi) (now : Nat) (event : UInt8) (team : Team) :
    (s.eventPlayerClickedOnFlag data now event team).nodes = s.nodes ∨
      ∃ node : Fin BG_AB_NODES_MAX, event.toNat = node ∧ (s.nodes node).mayUse team = true ∧
        (s.eventPlayerClickedOnFlag data now event team).nodes = Function.update s.nodes node ((s.nodes node).click team) := by
  unfold eventPlayerClickedOnFlag
  dsimp only
  split_ifs with hstatus hnode hmay
  · exact .inl rfl
  · exact .inl rfl
  · exact .inr ⟨⟨event.toNat, hnode⟩, rfl, by simpa using hmay, rfl⟩
  · exact .inl rfl

theorem nodes_step (s : Arathi) (event : Event) (node : Fin BG_AB_NODES_MAX) :
    (step data s event).nodes node = (s.nodes node).step (event.move node) ∨ (step data s event).nodes node = s.nodes node := by
  cases event with
  | opens now =>
    right
    unfold step
    split_ifs <;> rfl
  | ends => exact .inr rfl
  | click now event team =>
    change (s.eventPlayerClickedOnFlag data now event team).nodes node = (s.nodes node).step
      (if event.toNat = node then .click team else .none) ∨
      (s.eventPlayerClickedOnFlag data now event team).nodes node = s.nodes node
    rcases @nodes_click data s now event team with hsame | ⟨clicked, hevent, hmay, hnodes⟩
    · exact .inr (by rw [hsame])
    · rw [hnodes, hevent]
      by_cases hnode : node = clicked
      · left
        rw [hnode, update_self, if_pos rfl, Node.step, if_pos hmay]
      · right
        exact update_of_ne hnode ..
  | update now diff =>
    change (s.update data now diff).nodes node = (s.nodes node).tick diff ∨
      (s.update data now diff).nodes node = s.nodes node
    rw [update_eq]
    split_ifs
    · exact .inr rfl
    · left
      rw [(testWin_same _).1, nodes_accumulate, nodes_accumulate, nodes_afterNodes]
  | load now guid => exact .inr rfl

theorem teamScores_step (s : Arathi) (event : Event) (team : Team) :
    (s.teamScores team ≤ BG_AB_MAX_TEAM_SCORE → (step data s event).teamScores team ≤ BG_AB_MAX_TEAM_SCORE) ∧
      (s.teamScores team < (step data s event).teamScores team →
        ∃ node, ((step data s event).nodes node).status = occupied team) := by
  have hsame : ∀ s' : Arathi, s'.teamScores = s.teamScores →
      (s.teamScores team ≤ BG_AB_MAX_TEAM_SCORE → s'.teamScores team ≤ BG_AB_MAX_TEAM_SCORE) ∧
        (s.teamScores team < s'.teamScores team → ∃ node, (s'.nodes node).status = occupied team) := by
    intro s' hscores
    rw [hscores]
    exact ⟨id, fun h => absurd h (Int.lt_irrefl _)⟩
  cases event with
  | opens now =>
    apply hsame
    unfold step
    split_ifs <;> rfl
  | ends => exact hsame _ rfl
  | click now event team =>
    apply hsame
    change (s.eventPlayerClickedOnFlag data now event team).teamScores = _
    unfold eventPlayerClickedOnFlag
    dsimp only
    split_ifs <;> rfl
  | load now guid => exact hsame _ rfl
  | update now diff =>
    change (_ → (s.update data now diff).teamScores team ≤ _) ∧ (_ < (s.update data now diff).teamScores team → _)
    change _ ∧ (_ → ∃ node, ((s.update data now diff).nodes node).status = occupied team)
    rw [update_eq]
    split_ifs
    · exact hsame s rfl
    obtain ⟨hnodes, -, hscores⟩ := testWin_same (((afterNodes data now diff s).accumulate diff .ALLIANCE).accumulate diff .HORDE)
    rw [hscores, hnodes, nodes_accumulate, nodes_accumulate]
    refine ⟨fun h => accumulate_le _ _ _ (accumulate_le _ _ _ (by rwa [teamScores_afterNodes])), fun h => ?_⟩
    have hkept : (afterNodes data now diff s).teamScores = s.teamScores := teamScores_afterNodes s
    rw [← hkept] at h
    cases team with
    | ALLIANCE =>
      rw [accumulate_other (((afterNodes data now diff s).accumulate diff .ALLIANCE)) (by decide)] at h
      exact accumulate_grows _ _ h
    | HORDE =>
      have hother : ((afterNodes data now diff s).accumulate diff .ALLIANCE).teamScores .HORDE =
          (afterNodes data now diff s).teamScores .HORDE := accumulate_other _ (by decide)
      rw [← hother] at h
      obtain ⟨node, hnode⟩ := accumulate_grows _ _ h
      rw [nodes_accumulate] at hnode
      exact ⟨node, hnode⟩

end

variable (data : SpawnData) (activeEvents : UInt8 → Option UInt8)

theorem keeps_start : Keeps data (start activeEvents) := by
  refine ⟨tied_start _, fun node => ?_, fun _ => ⟨⟨none, 0⟩, .neutral 0 0⟩⟩
  have hlt : (nodeEvent node).toNat < BG_AB_NODES_MAX := by
    revert node
    decide
  exact if_pos hlt

theorem after_concat (before : List Event) (event : Event) :
    after data activeEvents (before ++ [event]) = step data (after data activeEvents before) event := run_append ..

theorem keeps_after (events : List Event) : Keeps data (after data activeEvents events) ∧
    ∀ team, (after data activeEvents events).teamScores team ≤ BG_AB_MAX_TEAM_SCORE := by
  induction events using List.reverseRecOn with
  | nil => exact ⟨keeps_start data activeEvents, fun _ => show (0 : Int) ≤ BG_AB_MAX_TEAM_SCORE by decide⟩
  | append_singleton before event ih =>
    rw [after_concat]
    exact ⟨ih.1.step event, fun team => (teamScores_step _ event team).1 (ih.2 team)⟩

theorem correct (before : List Event) (event : Event) : Correct data activeEvents before event := by
  obtain ⟨hkeeps, hscore⟩ := keeps_after data activeEvents (before ++ [event])
  refine ⟨fun node => ?_, fun guid node banner hevents hfound => ?_, fun guid node banner hevents hmem hstatus => ?_,
    fun team hgrows => ?_, hscore⟩
  · exact captures_run (step data) (start activeEvents) (fun s => s.nodes node) node rfl
      (fun s event => nodes_step s event node) before event
  · have hactive := hkeeps.tied.isActiveEvent hevents hfound
    simp only [Ground.isActiveEvent, hkeeps.active node, decide_eq_true_eq, Option.some.injEq] at hactive
    exact hactive.symm
  · rw [hkeeps.tied.single guid _ hevents hmem]
    simp only [Ground.isActiveEvent, hkeeps.active node, decide_eq_true_eq, hstatus]
  · rw [after_concat] at hgrows ⊢
    exact (teamScores_step _ event team).2 hgrows

end Arathi

namespace Sunny

section

variable {w : World} {s s' : Sunny} {node : Fin BG_SV_DYNAMIC_NODES_COUNT} {n : Node} {status now diff : Nat}

theorem isSpawned_appear (info : Spawns.GameObjectInfo) (now : Nat) (obj : Spawns.GameObject) :
    isSpawned (obj.appear now info 0) = true := by
  have htime : (obj.appear now info 0).respawnTime = 0 := by
    unfold Spawns.GameObject.appear Spawns.GameObject.setRespawnTime
    simp only [Nat.lt_irrefl, if_false]
    split_ifs <;> rfl
  simp [isSpawned, htime]

theorem isSpawned_vanish (info : Spawns.GameObjectInfo) (now : Nat) (obj : Spawns.GameObject) :
    isSpawned (vanish info now obj) = false := by
  simp [isSpawned, vanish, Spawns.GameObject.setRespawnTime, Spawns.RESPAWN_NEVER]

theorem bannerIndex_inj {other : Fin BG_SV_DYNAMIC_NODES_COUNT} {banner banner' : Nat} (h : banner < 5) (h' : banner' < 5) :
    bannerIndex node banner = bannerIndex other banner' ↔ node = other ∧ banner = banner' := by
  unfold bannerIndex
  rw [Fin.ext_iff]
  omega

-- The banner of a node is that of its status, in the map or on its way.
structure Shows (s : Sunny) (node : Fin BG_SV_DYNAMIC_NODES_COUNT) (status : Nat) : Prop where
  spawned : ∀ banner < 5, isSpawned (s.objects (bannerIndex node banner)) = true → banner = status
  pending : (s.bannerTimers node).timer ≠ 0 → (s.bannerTimers node).type + (s.bannerTimers node).teamIndex = status
  standing : isSpawned (s.objects (bannerIndex node status)) = true ∨ (s.bannerTimers node).timer ≠ 0

-- Before the match there is none.
structure Hides (s : Sunny) (node : Fin BG_SV_DYNAMIC_NODES_COUNT) : Prop where
  spawned : ∀ banner < 5, isSpawned (s.objects (bannerIndex node banner)) = false
  pending : (s.bannerTimers node).timer = 0
  neutral : s.nodes node = .neutral

-- A step at one node leaves the others as they are.
structure Touches (s s' : Sunny) (node : Fin BG_SV_DYNAMIC_NODES_COUNT) : Prop where
  nodes : ∀ other ≠ node, s'.nodes other = s.nodes other
  timers : ∀ other ≠ node, s'.bannerTimers other = s.bannerTimers other
  objects : ∀ other ≠ node, ∀ banner < 5, s'.objects (bannerIndex other banner) = s.objects (bannerIndex other banner)

theorem Shows.of_touches (h : Shows s node status) {other : Fin BG_SV_DYNAMIC_NODES_COUNT} (ht : Touches s s' other)
    (hother : node ≠ other) (hlt : status < 5) : Shows s' node status := by
  refine ⟨fun banner hbanner => ?_, ?_, ?_⟩
  · rw [ht.objects node hother banner hbanner]
    exact h.spawned banner hbanner
  · rw [ht.timers node hother]
    exact h.pending
  · rw [ht.objects node hother status hlt, ht.timers node hother]
    exact h.standing

def Shown (s : Sunny) (node : Fin BG_SV_DYNAMIC_NODES_COUNT) : Prop :=
  (∃ story, Stands (s.nodes node) story) ∧ Shows s node (s.nodes node).status

theorem shown_of_touches (h : ∀ node, Shown s node) (ht : Touches s s' node) (hnode : Shown s' node) :
    ∀ other, Shown s' other := by
  intro other
  by_cases hother : other = node
  · rw [hother]
    exact hnode
  · obtain ⟨⟨story, hstands⟩, hshows⟩ := h other
    unfold Shown
    rw [ht.nodes other hother]
    exact ⟨⟨story, hstands⟩, hshows.of_touches ht hother (Nat.lt_succ_of_le hstands.status)⟩

def exchange (w : World) (s : Sunny) (now : Nat) (node : Fin BG_SV_DYNAMIC_NODES_COUNT) (n : Node) (burnt created : Nat × Nat) :
    Sunny :=
  ((s.setNode node n).delBanner w now node burnt.1 burnt.2).createBanner w now node created.1 created.2 true

theorem touches_exchange {burnt created : Nat × Nat} (hlt : burnt.1 + burnt.2 < 5) :
    Touches s (exchange w s now node n burnt created) node where
  nodes _ hother := update_of_ne hother ..
  timers _ hother := update_of_ne hother ..
  objects _ hother _ hbanner :=
    update_of_ne (fun heq => hother ((bannerIndex_inj hbanner hlt).mp heq).1) ..

theorem shows_exchange (h : Shows s node status) {burnt created : Nat × Nat} (hburnt : burnt.1 + burnt.2 = status)
    (hlt : status < 5) : Shows (exchange w s now node n burnt created) node (created.1 + created.2) := by
  have htimer : (exchange w s now node n burnt created).bannerTimers node = ⟨2000, created.1, created.2⟩ :=
    update_self ..
  refine ⟨fun banner hbanner hspawned => ?_, fun _ => by rw [htimer], .inr (by rw [htimer]; exact Nat.succ_ne_zero 1999)⟩
  change isSpawned (Function.update s.objects (bannerIndex node (burnt.1 + burnt.2)) _ (bannerIndex node banner)) = true at hspawned
  rw [hburnt] at hspawned
  by_cases hsame : banner = status
  · rw [hsame, update_self, isSpawned_vanish] at hspawned
    cases hspawned
  · rw [update_of_ne fun heq => hsame ((bannerIndex_inj hbanner hlt).mp heq).2] at hspawned
    exact absurd (h.spawned banner hbanner hspawned) hsame

theorem touches_updateBanner (hpending : (s.bannerTimers node).type + (s.bannerTimers node).teamIndex < 5 ∨
    (s.bannerTimers node).timer = 0) : Touches s (updateBanner w now diff s node) node := by
  unfold updateBanner
  dsimp only
  split_ifs with htimer hdiff
  · exact ⟨fun _ _ => rfl, fun _ hother => update_of_ne hother .., fun _ _ _ _ => rfl⟩
  · refine ⟨fun _ _ => rfl, fun _ hother => update_of_ne hother .., fun other hother banner hbanner => ?_⟩
    have hlt := hpending.resolve_right htimer
    exact update_of_ne (fun heq => hother ((bannerIndex_inj hbanner hlt).mp heq).1) ..
  · exact ⟨fun _ _ => rfl, fun _ _ => rfl, fun _ _ _ _ => rfl⟩

theorem shows_updateBanner (h : Shows s node status) (hlt : status < 5) :
    Shows (updateBanner w now diff s node) node status := by
  unfold updateBanner
  dsimp only
  split_ifs with htimer hdiff
  · have hset : (s.setBannerTimer node { s.bannerTimers node with timer := (s.bannerTimers node).timer - diff }).bannerTimers node =
        { s.bannerTimers node with timer := (s.bannerTimers node).timer - diff } := update_self ..
    refine ⟨h.spawned, fun _ => ?_, .inr ?_⟩
    · rw [hset]
      exact h.pending htimer
    · rw [hset]
      dsimp only
      omega
  · have hpending := h.pending htimer
    unfold createBanner
    rw [if_neg (by simp), hpending]
    have hzero : (((s.setBannerTimer node { s.bannerTimers node with timer := 0 }).spawnObject w now
        (bannerIndex node status)).bannerTimers node).timer = 0 := by
      change (Function.update s.bannerTimers node _ node).timer = 0
      rw [update_self]
    refine ⟨fun banner hbanner hspawned => ?_, fun hnot => absurd hzero hnot, .inl ?_⟩
    · change isSpawned (Function.update s.objects (bannerIndex node status) _ (bannerIndex node banner)) = true at hspawned
      by_cases hsame : banner = status
      · exact hsame
      · rw [update_of_ne fun heq => hsame ((bannerIndex_inj hbanner hlt).mp heq).2] at hspawned
        exact h.spawned banner hbanner hspawned
    · change isSpawned (Function.update s.objects (bannerIndex node status) _ (bannerIndex node status)) = true
      rw [update_self]
      exact isSpawned_appear ..
  · exact h

theorem updateTimer_eq (w : World) (now diff : Nat) (s : Sunny) (node : Fin BG_SV_DYNAMIC_NODES_COUNT) :
    updateTimer w now diff s node = if (s.nodes node).expires diff then
      exchange w s now node ((s.nodes node).tick diff) (NODE_TYPE_CONTESTED, (s.nodes node).status - 1)
        (NODE_TYPE_OCCUPIED, (s.nodes node).status - 1)
    else s.setNode node ((s.nodes node).tick diff) := rfl

theorem nodes_updateTimer (w : World) (now diff : Nat) (s : Sunny) (node : Fin BG_SV_DYNAMIC_NODES_COUNT) :
    (updateTimer w now diff s node).nodes = Function.update s.nodes node ((s.nodes node).tick diff) := by
  rw [updateTimer_eq]
  split_ifs <;> rfl

theorem nodes_updateBanner (w : World) (now diff : Nat) (s : Sunny) (node : Fin BG_SV_DYNAMIC_NODES_COUNT) :
    (updateBanner w now diff s node).nodes = s.nodes := by
  unfold updateBanner
  dsimp only
  split_ifs <;> rfl

theorem shown_updateTimer (h : ∀ node, Shown s node) (now diff : Nat) (node other : Fin BG_SV_DYNAMIC_NODES_COUNT) :
    Shown (updateTimer w now diff s node) other := by
  obtain ⟨⟨story, hstands⟩, hshows⟩ := h node
  have htick := (hstands.tick diff).1
  have hlt := Nat.lt_succ_of_le hstands.status
  have hnodes : (updateTimer w now diff s node).nodes node = (s.nodes node).tick diff := by
    rw [nodes_updateTimer, update_self]
  rw [updateTimer_eq] at hnodes ⊢
  split_ifs at hnodes ⊢ with hexpires
  · obtain ⟨htimer, hdue⟩ : (s.nodes node).timer ≠ 0 ∧ ¬diff < (s.nodes node).timer := by simpa [Node.expires] using hexpires
    have hcontested := hstands.timer.mp htimer
    have hburnt : NODE_TYPE_CONTESTED + ((s.nodes node).status - 1) = (s.nodes node).status := by
      unfold NODE_TYPE_CONTESTED
      omega
    have hcreated : NODE_TYPE_OCCUPIED + ((s.nodes node).status - 1) = ((s.nodes node).tick diff).status := by
      rw [Node.tick, if_pos htimer, if_neg hdue, NODE_TYPE_OCCUPIED]
      dsimp only
      omega
    have hshown := @shows_exchange w s node ((s.nodes node).tick diff) _ now hshows
      (NODE_TYPE_CONTESTED, (s.nodes node).status - 1) (NODE_TYPE_OCCUPIED, (s.nodes node).status - 1) hburnt hlt
    refine shown_of_touches h (touches_exchange ?_) ⟨⟨_, hnodes ▸ htick⟩, ?_⟩ other
    · dsimp only
      rwa [hburnt]
    · rw [hnodes, ← hcreated]
      exact hshown
  · have hsame := Node.status_tick hexpires
    have ht : Touches s (s.setNode node ((s.nodes node).tick diff)) node :=
      ⟨fun _ hother => update_of_ne hother .., fun _ _ => rfl, fun _ _ _ _ => rfl⟩
    refine shown_of_touches h ht ⟨⟨_, hnodes ▸ htick⟩, ?_⟩ other
    rw [hnodes, hsame]
    exact ⟨hshows.spawned, hshows.pending, hshows.standing⟩

theorem shown_updateBanner (h : ∀ node, Shown s node) (now diff : Nat) (node other : Fin BG_SV_DYNAMIC_NODES_COUNT) :
    Shown (updateBanner w now diff s node) other := by
  obtain ⟨⟨story, hstands⟩, hshows⟩ := h node
  have hlt := Nat.lt_succ_of_le hstands.status
  have hpending : (s.bannerTimers node).type + (s.bannerTimers node).teamIndex < 5 ∨ (s.bannerTimers node).timer = 0 := by
    by_cases hzero : (s.bannerTimers node).timer = 0
    · exact .inr hzero
    · rw [hshows.pending hzero]
      exact .inl hlt
  refine shown_of_touches h (touches_updateBanner hpending) ?_ other
  unfold Shown
  rw [nodes_updateBanner]
  exact ⟨⟨story, hstands⟩, shows_updateBanner hshows hlt⟩

def afterNodes (w : World) (now diff : Nat) (s : Sunny) : Sunny :=
  (List.finRange BG_SV_DYNAMIC_NODES_COUNT).foldl (fun s node => (s.updateBanner w now diff node).updateTimer w now diff node) s

theorem shown_afterNodes (h : ∀ node, Shown s node) : ∀ node, Shown (afterNodes w now diff s) node := by
  unfold afterNodes
  generalize List.finRange BG_SV_DYNAMIC_NODES_COUNT = list
  induction list generalizing s with
  | nil => exact h
  | cons node rest ih => exact ih (shown_updateTimer (shown_updateBanner h now diff node) now diff node)

section

variable (list : List (Fin BG_SV_DYNAMIC_NODES_COUNT))

theorem nodes_fold (s : Sunny) :
    (list.foldl (fun s node => (updateBanner w now diff s node).updateTimer w now diff node) s).nodes =
      list.foldl (fun nodes node => Function.update nodes node ((nodes node).tick diff)) s.nodes := by
  induction list generalizing s with
  | nil => rfl
  | cons node rest ih => rw [foldl_cons, foldl_cons, ih, nodes_updateTimer, nodes_updateBanner]

theorem nodes_afterNodes (s : Sunny) (node : Fin BG_SV_DYNAMIC_NODES_COUNT) :
    (afterNodes w now diff s).nodes node = (s.nodes node).tick diff := by
  rw [afterNodes, nodes_fold, Lists.foldl_update (fun _ n => Node.tick n diff),
    count_eq_one_of_mem (nodup_finRange _) (mem_finRange node), iterate_one]

theorem burntBanner_eq {story : Story} {team : Team} (h : Stands n story) (hmay : n.mayUse team = true) :
    (burntBanner n team).1 + (burntBanner n team).2 = n.status := by
  cases h with
  | neutral => rfl
  | first holder | again holder =>
    obtain rfl := (mayUse_contested rfl).mp hmay
    cases holder <;> rfl
  | held holder =>
    obtain rfl := (mayUse_occupied rfl).mp hmay
    cases holder <;> rfl

theorem click_cases (w : World) (s : Sunny) (now near : Nat) (team : Team) :
    s.eventPlayerClickedOnFlag w now near team = s ∨
      ∃ node : Fin BG_SV_DYNAMIC_NODES_COUNT, near = node ∧ (s.nodes node).mayUse team = true ∧ s.status = .IN_PROGRESS ∧
        s.eventPlayerClickedOnFlag w now near team = exchange w s now node ((s.nodes node).click team)
          (burntBanner (s.nodes node) team) ((s.nodes node).clickedType, getTeamIndexByTeamId team) := by
  unfold eventPlayerClickedOnFlag
  dsimp only
  split_ifs with hstatus hnode hmay
  · exact .inl rfl
  · exact .inl rfl
  · exact .inr ⟨⟨near, hnode⟩, rfl, by simpa using hmay, by simpa using hstatus, rfl⟩
  · exact .inl rfl

theorem shown_click (h : ∀ node, Shown s node) {team : Team} (hmay : (s.nodes node).mayUse team = true) (now : Nat)
    (other : Fin BG_SV_DYNAMIC_NODES_COUNT) : Shown (exchange w s now node ((s.nodes node).click team)
      (burntBanner (s.nodes node) team) ((s.nodes node).clickedType, getTeamIndexByTeamId team)) other := by
  obtain ⟨⟨story, hstands⟩, hshows⟩ := h node
  have hlt := Nat.lt_succ_of_le hstands.status
  have hburnt := burntBanner_eq hstands hmay
  have hnodes : (exchange w s now node ((s.nodes node).click team) (burntBanner (s.nodes node) team)
      ((s.nodes node).clickedType, getTeamIndexByTeamId team)).nodes node = (s.nodes node).click team := update_self ..
  refine shown_of_touches h (touches_exchange (by rwa [hburnt])) ⟨⟨_, hnodes ▸ (hstands.click hmay).1⟩, ?_⟩ other
  rw [hnodes, show ((s.nodes node).click team).status = (s.nodes node).clickedType + getTeamIndexByTeamId team from
    Nat.add_comm ..]
  exact shows_exchange hshows hburnt hlt

-- The doors open: every node shows its neutral banner.

theorem open_same (s : Sunny) :
    (list.foldl (fun s node => s.spawnObject w now (bannerIndex node 0)) s).nodes = s.nodes ∧
      (list.foldl (fun s node => s.spawnObject w now (bannerIndex node 0)) s).bannerTimers = s.bannerTimers := by
  induction list generalizing s with
  | nil => exact ⟨rfl, rfl⟩
  | cons node rest ih => exact ih (s.spawnObject w now (bannerIndex node 0))

theorem spawned_open (s : Sunny) {banner : Nat} (hbanner : banner < 5) :
    isSpawned ((list.foldl (fun s node => s.spawnObject w now (bannerIndex node 0)) s).objects (bannerIndex node banner)) =
      (decide (node ∈ list ∧ banner = 0) || isSpawned (s.objects (bannerIndex node banner))) := by
  induction list generalizing s with
  | nil => simp
  | cons first rest ih =>
    have hfirst : isSpawned ((s.spawnObject w now (bannerIndex first 0)).objects (bannerIndex node banner)) =
        (decide (node = first ∧ banner = 0) || isSpawned (s.objects (bannerIndex node banner))) := by
      unfold spawnObject
      dsimp only
      by_cases hsame : node = first ∧ banner = 0
      · obtain ⟨rfl, rfl⟩ := hsame
        rw [update_self, isSpawned_appear]
        simp
      · rw [update_of_ne ((bannerIndex_inj hbanner (by omega)).not.mpr hsame), decide_eq_false hsame, Bool.false_or]
    rw [foldl_cons, ih, hfirst, ← Bool.or_assoc, ← Bool.decide_or]
    simp only [mem_cons, or_and_right, or_comm]

end

theorem shown_open (h : ∀ node, Hides s node) (now : Nat) (node : Fin BG_SV_DYNAMIC_NODES_COUNT) :
    Shown (s.startingEventOpenDoors w now) node := by
  obtain ⟨hspawned, hpending, hneutral⟩ := h node
  have hsame := @open_same w now (List.finRange BG_SV_DYNAMIC_NODES_COUNT) s
  have hopen := fun banner hbanner =>
    @spawned_open w node now (List.finRange BG_SV_DYNAMIC_NODES_COUNT) s banner hbanner
  unfold Shown startingEventOpenDoors
  rw [hsame.1, hneutral]
  refine ⟨⟨⟨none, 0⟩, .neutral 0 0⟩, fun banner hbanner hfound => ?_, fun hnot => ?_, .inl ?_⟩
  · rw [hopen banner hbanner, hspawned banner hbanner, Bool.or_false] at hfound
    exact (of_decide_eq_true hfound).2
  · rw [hsame.2] at hnot
    exact absurd hpending hnot
  · rw [show Node.neutral.status = 0 from rfl, hopen 0 (by omega)]
    simp [mem_finRange]

structure SameNodes (s s' : Sunny) : Prop where
  status : s'.status = s.status
  nodes : s'.nodes = s.nodes
  timers : s'.bannerTimers = s.bannerTimers
  objects : s'.objects = s.objects

theorem same_accumulate (w : World) (diff : Nat) (s : Sunny) (team : Team) : SameNodes s (s.accumulate w diff team) := by
  unfold accumulate
  dsimp only
  split_ifs <;> exact ⟨rfl, rfl, rfl, rfl⟩

theorem Shown.of_same (h : SameNodes s s') (hshown : Shown s node) : Shown s' node := by
  obtain ⟨hstands, hshows⟩ := hshown
  unfold Shown
  rw [h.nodes]
  refine ⟨hstands, ?_, ?_, ?_⟩
  · rw [h.objects]
    exact hshows.spawned
  · rw [h.timers]
    exact hshows.pending
  · rw [h.objects, h.timers]
    exact hshows.standing

theorem status_updateNode (s : Sunny) (node : Fin BG_SV_DYNAMIC_NODES_COUNT) :
    ((updateBanner w now diff s node).updateTimer w now diff node).status = s.status := by
  rw [updateTimer_eq]
  unfold updateBanner
  dsimp only
  split_ifs <;> rfl

theorem status_afterNodes (s : Sunny) : (afterNodes w now diff s).status = s.status := by
  unfold afterNodes
  generalize List.finRange BG_SV_DYNAMIC_NODES_COUNT = list
  induction list generalizing s with
  | nil => rfl
  | cons node rest ih => rw [foldl_cons, ih, status_updateNode]

theorem update_cases (w : World) (s : Sunny) (now diff : Nat) :
    s.status ≠ .IN_PROGRESS ∧ s.update w now diff = s ∨
      s.status = .IN_PROGRESS ∧ SameNodes (afterNodes w now diff s) (s.update w now diff) := by
  by_cases hstatus : s.status = .IN_PROGRESS
  · refine .inr ⟨hstatus, ?_⟩
    have heq : s.update w now diff = ((afterNodes w now diff s).accumulate w diff .ALLIANCE).accumulate w diff .HORDE := by
      unfold update
      rw [if_neg (not_not.mpr hstatus)]
      rfl
    have hfirst := same_accumulate w diff (afterNodes w now diff s) .ALLIANCE
    have hsecond := same_accumulate w diff ((afterNodes w now diff s).accumulate w diff .ALLIANCE) .HORDE
    rw [heq]
    exact ⟨hsecond.status.trans hfirst.status, hsecond.nodes.trans hfirst.nodes, hsecond.timers.trans hfirst.timers,
      hsecond.objects.trans hfirst.objects⟩
  · exact .inl ⟨hstatus, if_pos hstatus⟩

-- No banner before the match, and from its start on those of the nodes' status
def Keeps (s : Sunny) : Prop :=
  (s.status ≠ .WAIT_JOIN ∧ ∀ node, Shown s node) ∨ (s.status ≠ .IN_PROGRESS ∧ ∀ node, Hides s node)

theorem Keeps.step (h : Keeps s) (event : Event) : Keeps (step w s event) := by
  cases event with
  | opens now =>
    unfold Sunny.step
    split_ifs with hjoin
    · obtain ⟨-, hhides⟩ := h.resolve_left fun hshown => hshown.1 hjoin
      left
      refine ⟨by simp, fun node => ?_⟩
      have hopen := shown_open (w := w) hhides now node
      exact ⟨hopen.1, hopen.2.spawned, hopen.2.pending, hopen.2.standing⟩
    · exact h
  | ends =>
    rcases h with ⟨-, hshown⟩ | ⟨-, hhides⟩
    · exact .inl ⟨by simp [Sunny.step], fun node => ⟨(hshown node).1, (hshown node).2.spawned, (hshown node).2.pending,
        (hshown node).2.standing⟩⟩
    · exact .inr ⟨by simp [Sunny.step], fun node => ⟨(hhides node).spawned, (hhides node).pending, (hhides node).neutral⟩⟩
  | click now near team =>
    change Keeps (s.eventPlayerClickedOnFlag w now near.toNat team)
    rcases click_cases w s now near.toNat team with hsame | ⟨node, -, hmay, hstatus, heq⟩
    · rw [hsame]
      exact h
    · obtain ⟨hjoin, hshown⟩ := h.resolve_right fun hhides => hhides.1 hstatus
      rw [heq]
      exact .inl ⟨hjoin, shown_click hshown hmay now⟩
  | update now diff =>
    change Keeps (s.update w now diff)
    rcases update_cases w s now diff with ⟨-, hsame⟩ | ⟨hstatus, hsame⟩
    · rw [hsame]
      exact h
    · obtain ⟨hjoin, hshown⟩ := h.resolve_right fun hhides => hhides.1 hstatus
      refine .inl ⟨by rwa [hsame.status, status_afterNodes], fun node => ?_⟩
      exact Shown.of_same hsame (shown_afterNodes hshown node)
  | load now guid => exact h

theorem nodes_step (s : Sunny) (event : Event) (node : Fin BG_SV_DYNAMIC_NODES_COUNT) :
    (step w s event).nodes node = (s.nodes node).step (event.move node) ∨ (step w s event).nodes node = s.nodes node := by
  cases event with
  | opens now =>
    right
    unfold step
    split_ifs
    · exact congrFun (@open_same w now (List.finRange BG_SV_DYNAMIC_NODES_COUNT) s).1 node
    · rfl
  | ends => exact .inr rfl
  | click now near team =>
    change (s.eventPlayerClickedOnFlag w now near.toNat team).nodes node = (s.nodes node).step
      (if near.toNat = node then .click team else .none) ∨
      (s.eventPlayerClickedOnFlag w now near.toNat team).nodes node = s.nodes node
    rcases click_cases w s now near.toNat team with hsame | ⟨clicked, hnear, hmay, -, heq⟩
    · exact .inr (by rw [hsame])
    · rw [heq, hnear]
      change Function.update s.nodes clicked _ node = _ ∨ Function.update s.nodes clicked _ node = _
      by_cases hnode : node = clicked
      · left
        rw [hnode, update_self, if_pos rfl, Node.step, if_pos hmay]
      · right
        exact update_of_ne hnode ..
  | update now diff =>
    change (s.update w now diff).nodes node = (s.nodes node).tick diff ∨ (s.update w now diff).nodes node = s.nodes node
    rcases update_cases w s now diff with ⟨-, hsame⟩ | ⟨-, hsame⟩
    · exact .inr (by rw [hsame])
    · exact .inl (by rw [hsame.nodes, nodes_afterNodes])
  | load now guid => exact .inr rfl

end

variable (w : World) (now : Nat) (objects : Nat → Spawns.GameObject)

theorem keeps_start : Keeps (start w now objects) := by
  refine .inr ⟨by simp [start], fun node => ⟨fun banner hbanner => ?_, rfl, rfl⟩⟩
  have hlt : bannerIndex node banner < 15 := by
    have hnode : node.val < 3 := node.isLt
    unfold bannerIndex
    omega
  simp only [start, if_pos hlt, isSpawned_vanish]

theorem after_concat (before : List Event) (event : Event) :
    after w now objects (before ++ [event]) = step w (after w now objects before) event := run_append ..

theorem keeps_after (events : List Event) : Keeps (after w now objects events) := by
  induction events using List.reverseRecOn with
  | nil => exact keeps_start w now objects
  | append_singleton before event ih =>
    rw [after_concat]
    exact ih.step event

theorem correct (before : List Event) (event : Event) : Correct w now objects before event := by
  have hkeeps := keeps_after w now objects (before ++ [event])
  refine ⟨fun node => ?_, fun node banner hbanner hfound => ?_, fun hstatus node => ?_⟩
  · exact captures_run (step w) (start w now objects) (fun s => s.nodes node) node rfl
      (fun s event => nodes_step s event node) before event
  · rcases hkeeps with ⟨-, hshown⟩ | ⟨-, hhides⟩
    · rcases hfound with hspawned | ⟨htimer, hpending⟩
      · exact (hshown node).2.spawned banner hbanner hspawned
      · rw [← hpending]
        exact (hshown node).2.pending htimer
    · rcases hfound with hspawned | ⟨htimer, -⟩
      · rw [(hhides node).spawned banner hbanner] at hspawned
        cases hspawned
      · exact absurd (hhides node).pending htimer
  · obtain ⟨-, hshown⟩ := hkeeps.resolve_right fun hhides => hhides.1 hstatus
    rcases (hshown node).2.standing with hspawned | htimer
    · exact .inl hspawned
    · exact .inr ⟨htimer, (hshown node).2.pending htimer⟩

end Sunny

theorem bases_captured (before : List Event) (event : Event) :
    (∀ data activeEvents, Arathi.Correct data activeEvents before event) ∧
      ∀ w now objects, Sunny.Correct w now objects before event :=
  ⟨fun data activeEvents => Arathi.correct data activeEvents before event,
    fun w now objects => Sunny.correct w now objects before event⟩

end TurtleWow.Matches.Bases
