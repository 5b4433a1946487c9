import Mathlib.Algebra.Order.Ring.Rat
import Mathlib.Data.List.Nodup
import Mathlib.Logic.Function.Basic

namespace TurtleWow.Pools

-- The pools of spawns: which creatures, gameobjects and sub-pools of a pool
-- are spawned at a map, and how the pool manager replaces one by another.

inductive Kind where
  | creature
  | gameobject
  | pool
deriving DecidableEq

structure PoolObject where
  guid : Nat
  chance : ℚ
  enableIfWorldPop : Bool
deriving DecidableEq

-- What the tables load: a spawn belongs to one pool, pools have at most one
-- mother, no pool is its own ancestor (`height` grows towards the mothers), and
-- 0 is no pool and no spawn. A limit is a uint32, and a group's lists are indexed
-- by an int.
structure Config where
  explicitlyChanced : Kind → Nat → List PoolObject
  equalChanced : Kind → Nat → List PoolObject
  spawnCount : Nat → Nat
  autoSpawn : Nat → Bool
  maxPoolId : Nat
  isPartOfAPool : Nat → Nat
  height : Nat → Nat
  spawnCount_lt : ∀ p, spawnCount p < 2 ^ 32
  explicit_lt : ∀ kind p, (explicitlyChanced kind p).length < 2 ^ 31
  equal_lt : ∀ kind p, (equalChanced kind p).length < 2 ^ 31
  guid_ne : ∀ kind p, ∀ obj ∈ explicitlyChanced kind p ++ equalChanced kind p, p ≠ 0 ∧ obj.guid ≠ 0
  nodup : ∀ kind p, ((explicitlyChanced kind p ++ equalChanced kind p).map PoolObject.guid).Nodup
  once : ∀ kind p q guid, guid ∈ (explicitlyChanced kind p ++ equalChanced kind p).map PoolObject.guid →
    guid ∈ (explicitlyChanced kind q ++ equalChanced kind q).map PoolObject.guid → p = q
  mother : ∀ p q, p ≠ 0 → (isPartOfAPool q = p ↔
    q ∈ (explicitlyChanced .pool p ++ equalChanced .pool p).map PoolObject.guid)
  height_lt : ∀ p q, q ∈ (explicitlyChanced .pool p ++ equalChanced .pool p).map PoolObject.guid →
    height q < height p
  autoSpawn_mother : ∀ p, autoSpawn p = true → isPartOfAPool p = 0

def Config.members (c : Config) (kind : Kind) (p : Nat) : List PoolObject :=
  c.explicitlyChanced kind p ++ c.equalChanced kind p

def Config.guids (c : Config) (kind : Kind) (p : Nat) : List Nat := (c.members kind p).map PoolObject.guid

structure SpawnedPoolData where
  spawnedCreatures : Nat → Bool
  spawnedGameobjects : Nat → Bool
  spawnedPools : Nat → Option Nat

namespace SpawnedPoolData

def empty : SpawnedPoolData := ⟨fun _ => false, fun _ => false, fun _ => none⟩

section

variable (s : SpawnedPoolData)

def getSpawnedObjects (p : Nat) : Nat := (s.spawnedPools p).getD 0

def isSpawnedObject : Kind → Nat → Bool
  | .creature, guid => s.spawnedCreatures guid
  | .gameobject, guid => s.spawnedGameobjects guid
  | .pool, guid => (s.spawnedPools guid).isSome

def count (p value : Nat) : SpawnedPoolData :=
  { s with spawnedPools := Function.update s.spawnedPools p (some value) }

def mark : Kind → Nat → SpawnedPoolData
  | .creature, guid => { s with spawnedCreatures := Function.update s.spawnedCreatures guid true }
  | .gameobject, guid => { s with spawnedGameobjects := Function.update s.spawnedGameobjects guid true }
  | .pool, guid => s.count guid 0

def unmark : Kind → Nat → SpawnedPoolData
  | .creature, guid => { s with spawnedCreatures := Function.update s.spawnedCreatures guid false }
  | .gameobject, guid => { s with spawnedGameobjects := Function.update s.spawnedGameobjects guid false }
  | .pool, guid => { s with spawnedPools := Function.update s.spawnedPools guid none }

def addSpawn (kind : Kind) (guid p : Nat) : SpawnedPoolData :=
  (s.mark kind guid).count p ((s.mark kind guid).getSpawnedObjects p + 1)

-- The decrement stops at 0, and the access makes the entry of the pool.
def removeSpawn (kind : Kind) (guid p : Nat) : SpawnedPoolData :=
  (s.unmark kind guid).count p ((s.unmark kind guid).getSpawnedObjects p - 1)

end

end SpawnedPoolData

-- The state of a map, with the exclusions of game events and the number of
-- dice thrown so far.
structure MapState where
  spawns : SpawnedPoolData
  exclude : Kind → Nat → Nat → Bool
  draws : Nat

namespace MapState

def new : MapState := ⟨.empty, fun _ _ _ => false, 0⟩

def draw (s : MapState) : MapState := { s with draws := s.draws + 1 }

def addSpawn (s : MapState) (kind : Kind) (guid p : Nat) : MapState :=
  { s with spawns := s.spawns.addSpawn kind guid p }

def removeSpawn (s : MapState) (kind : Kind) (guid p : Nat) : MapState :=
  { s with spawns := s.spawns.removeSpawn kind guid p }

end MapState

-- What an operation sees outside the pools: the dice, the stored respawn timers,
-- whether the realm's population enables the extra spawns, and which pools are
-- of this map.
structure View where
  randChance : Nat → ℚ
  urand : Nat → Nat
  respawnTime : Kind → Nat → Nat
  worldPop : Bool
  canBeSpawnedAtMap : Nat → Bool

section

variable (c : Config) (view : View)

def canBeSpawned (s : MapState) (kind : Kind) (p : Nat) (obj : PoolObject) : Bool :=
  !s.exclude kind p obj.guid && !(obj.enableIfWorldPop && !view.worldPop)

def getPoolObjectRespawnTime : Kind → Nat → Nat
  | .creature, guid => view.respawnTime .creature guid
  | .gameobject, guid => view.respawnTime .gameobject guid
  | .pool, _ => 0

-- The triggering object is marked as spawned at this time and can be also rolled.
def canBeRolled (s : MapState) (kind : Kind) (p triggerFrom : Nat) (obj : PoolObject) : Bool :=
  canBeSpawned view s kind p obj && (obj.guid == triggerFrom || !s.spawns.isSpawnedObject kind obj.guid)

def rollExplicit (possible : PoolObject → Bool) : ℚ → List PoolObject → Option PoolObject
  | _, [] => none
  | roll, obj :: rest =>
    if roll - obj.chance < 0 ∧ possible obj = true then some obj
    else rollExplicit possible (roll - obj.chance) rest

def rollEqual (s : MapState) (kind : Kind) (p triggerFrom : Nat) : Option PoolObject × MapState :=
  let possible := (c.equalChanced kind p).filter (canBeRolled view s kind p triggerFrom)
  if possible.isEmpty then (none, s)
  else (possible[view.urand s.draws % possible.length]?, s.draw)

def rollOne (s : MapState) (kind : Kind) (p triggerFrom : Nat) : Option PoolObject × MapState :=
  if (c.explicitlyChanced kind p).isEmpty then rollEqual c view s kind p triggerFrom
  else
    match rollExplicit (canBeRolled view s kind p triggerFrom) (view.randChance s.draws)
      (c.explicitlyChanced kind p) with
    | some obj => (some obj, s.draw)
    | none => rollEqual c view s.draw kind p triggerFrom

section

variable (child : MapState → Nat → MapState)

-- A creature or gameobject is put into the grid; a sub-pool is handed to `child`.
def spawn1Object (s : MapState) : Kind → Nat → MapState
  | .creature, _ => s
  | .gameobject, _ => s
  | .pool, guid => child s guid

section

variable (kind : Kind)

def addAndSpawn (p : Nat) (s : MapState) (guid : Nat) :
    MapState := spawn1Object child (s.addSpawn kind guid p) kind guid

-- `guid` 0 stands for every object of the list.
def despawnOne (p guid : Nat) (s : MapState) (obj : PoolObject) : MapState :=
  if s.spawns.isSpawnedObject kind obj.guid = true ∧ (guid = 0 ∨ obj.guid = guid) then
    (spawn1Object child s kind obj.guid).removeSpawn kind obj.guid p
  else s

def despawnObject (p guid : Nat) (s : MapState) : MapState :=
  (c.explicitlyChanced kind p).foldl (despawnOne child kind p guid)
    ((c.equalChanced kind p).foldl (despawnOne child kind p guid) s)

def despawnPool : Nat → MapState → Nat → MapState
  | 0, s, _ => s
  | fuel + 1, s, p =>
    let s := despawnObject c (despawnPool fuel) .creature p 0 s
    let s := despawnObject c (despawnPool fuel) .gameobject p 0 s
    despawnObject c (despawnPool fuel) .pool p 0 s

-- Instance loading: the objects with a stored respawn timer come first.
def loadOne (p : Nat) (acc : MapState × Int) (obj : PoolObject) : MapState × Int :=
  if acc.2 ≠ 0 ∧ getPoolObjectRespawnTime view kind obj.guid ≠ 0 then
    (addAndSpawn child kind p acc.1 obj.guid, acc.2 - 1)
  else acc

def loadTimers (p : Nat) (s : MapState) (count : Int) : MapState × Int :=
  if (c.explicitlyChanced kind p).isEmpty then
    (c.equalChanced kind p).foldl (loadOne view child kind p) (s, count)
  else (c.explicitlyChanced kind p).foldl (loadOne view child kind p) (s, count)

end

end

structure Loop where
  state : MapState
  triggerFrom : Nat
  lastDespawned : Nat

-- One spawn one despawn: the trigger goes when another object has come, a
-- trigger in a sub-pool with the sub-pool.
def replace (despawn : MapState → Nat → MapState) (kind : Kind) (p motherPool subPool : Nat)
    (isTriggerSpawned : Bool) (loop : Loop) : Loop :=
  if loop.triggerFrom ≠ 0 ∧ isTriggerSpawned = true then
    let triggerFrom := if motherPool ≠ 0 then subPool else loop.triggerFrom
    ⟨despawnObject c despawn kind p triggerFrom loop.state, 0, triggerFrom⟩
  else loop

def spawnRolled (spawn despawn : MapState → Nat → MapState) (kind : Kind) (p motherPool subPool : Nat)
    (isTriggerSpawned : Bool) (loop : Loop) (obj : PoolObject) : Loop :=
  if obj.guid = loop.lastDespawned then loop
  else if obj.guid = loop.triggerFrom ∧ isTriggerSpawned = true then { loop with triggerFrom := 0 }
  else
    let loop := replace c despawn kind p motherPool subPool isTriggerSpawned
      { loop with state := addAndSpawn spawn kind p loop.state obj.guid }
    if loop.triggerFrom = obj.guid then { loop with triggerFrom := 0 } else loop

def spawnOnce (spawn despawn : MapState → Nat → MapState) (kind : Kind) (p motherPool subPool : Nat)
    (isTriggerSpawned : Bool) (loop : Loop) : Loop :=
  let triggerFrom := if motherPool ≠ 0 then motherPool else loop.triggerFrom
  let rolled := rollOne c view loop.state kind p triggerFrom
  let loop := ⟨rolled.2, triggerFrom, loop.lastDespawned⟩
  match rolled.1 with
  | none => loop
  | some obj => spawnRolled c spawn despawn kind p motherPool subPool isTriggerSpawned loop obj

def spawnRest (spawn despawn : MapState → Nat → MapState) (kind : Kind) (p motherPool subPool : Nat)
    (isTriggerSpawned : Bool) : Nat → Loop → Loop
  | 0, loop => loop
  | n + 1, loop => spawnRest spawn despawn kind p motherPool subPool isTriggerSpawned n
      (spawnOnce c view spawn despawn kind p motherPool subPool isTriggerSpawned loop)

-- The count is the uint32 difference read as an int; a negative one spawns
-- nothing more.
def spawnObject (spawn despawn : MapState → Nat → MapState) (kind : Kind) (p limit triggerFrom motherPool : Nat)
    (s : MapState) : MapState :=
  let isTriggerSpawned := s.spawns.isSpawnedObject kind triggerFrom
  let count := Int.bmod ((limit : Int) - s.spawns.getSpawnedObjects p) (2 ^ 32)
  let start :=
    if triggerFrom ≠ 0 then (s, if isTriggerSpawned then count + 1 else count)
    else if count ≠ 0 ∧ count % 2 ^ 32 = limit then loadTimers c view spawn kind p s count
    else (s, count)
  (spawnRest c view spawn despawn kind p motherPool triggerFrom isTriggerSpawned start.2.toNat
    ⟨start.1, triggerFrom, 0⟩).state

def spawnPoolGroup (spawn despawn : MapState → Nat → MapState) (kind : Kind) (s : MapState) (p guid : Nat) :
    MapState :=
  if (c.members kind p).isEmpty then s
  else spawnObject c view spawn despawn kind p (c.spawnCount p) guid (if kind = .pool then p else 0) s

def spawnPool : Nat → MapState → Nat → MapState
  | 0, s, _ => s
  | fuel + 1, s, p =>
    let s := spawnPoolGroup c view (spawnPool fuel) (despawnPool c fuel) .pool s p 0
    let s := spawnPoolGroup c view (spawnPool fuel) (despawnPool c fuel) .gameobject s p 0
    spawnPoolGroup c view (spawnPool fuel) (despawnPool c fuel) .creature s p 0

def initSpawnPool (s : MapState) (p : Nat) : MapState :=
  if view.canBeSpawnedAtMap p then spawnPool c view (c.height p + 1) s p else s

def initializePools (s : MapState) : MapState :=
  (List.range (c.maxPoolId + 1)).foldl (fun s p => if c.autoSpawn p then initSpawnPool c view s p else s) s

def updatePool (s : MapState) (kind : Kind) (p guid : Nat) : MapState :=
  let motherPool := c.isPartOfAPool p
  if motherPool ≠ 0 then
    spawnPoolGroup c view (spawnPool c view (c.height motherPool)) (despawnPool c (c.height motherPool)) .pool s
      motherPool p
  else spawnPoolGroup c view (spawnPool c view (c.height p)) (despawnPool c (c.height p)) kind s p guid

def setExcludeObject (s : MapState) (kind : Kind) (p guid : Nat) (state : Bool) : MapState :=
  if guid ∈ c.guids kind p then
    { s with exclude := fun k q g => if k = kind ∧ q = p ∧ g = guid then state else s.exclude k q g }
  else s

end

inductive Input where
  | init
  | update (kind : Kind) (p guid : Nat)
  | spawn (p : Nat)
  | despawn (p : Nat)
  | exclude (kind : Kind) (p guid : Nat) (state : Bool)

def step (c : Config) (s : MapState) (input : View × Input) : MapState :=
  match input.2 with
  | .init => initializePools c input.1 s
  | .update kind p guid => updatePool c input.1 s kind p guid
  | .spawn p => spawnPool c input.1 (c.height p + 1) s p
  | .despawn p => despawnPool c (c.height p + 1) s p
  | .exclude kind p guid state => setExcludeObject c s kind p guid state

end TurtleWow.Pools
