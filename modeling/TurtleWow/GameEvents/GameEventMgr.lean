import Mathlib.Data.Finset.Basic
import TurtleWow.Lib.Run

namespace TurtleWow.GameEvents

open Run

-- The game events of the world. `end` of the source is `finish`.
structure GameEventData where
  start : Int
  finish : Int
  occurence : Nat
  length : Nat
  hardcoded : Bool
  disabled : Bool
  leapDays : Nat

structure GameEventCreatureData where
  entryId : Nat
  displayId : Nat
  equipmentId : Nat
  spellIdStart : Nat
  spellIdEnd : Nat
deriving DecidableEq

inductive SpawnKind
  | creature
  | gameobject
deriving DecidableEq

-- The tables, with the spawns that have data and those that belong to a pool. Event 0
-- is reserved, and a spawn is listed by one event, with one sign.
structure Database where
  size : Nat
  event : Nat → GameEventData
  hardcodedList : List Nat
  gameEventSpawn : SpawnKind → List (Nat × Int)
  gameEventCreatureData : List (Nat × Nat × GameEventCreatureData)
  gameEventQuest : List (Nat × Nat)
  hasData : SpawnKind → Nat → Bool
  isPartOfAPool : SpawnKind → Nat → Bool
  reserved : (event 0).length = 0
  once : ∀ kind, ((gameEventSpawn kind).map Prod.fst).Nodup

namespace Database

variable (db : Database)

def isValidEvent (event : Nat) : Bool := event < db.size && 0 < (db.event event).length

-- LoadFromDB. Spawns of an event that belong to a pool are left to the pool.
def guids (kind : SpawnKind) (event : Int) : List Nat :=
  ((db.gameEventSpawn kind).filter fun row =>
    row.2 = event && row.2 ≠ 0 && db.isValidEvent row.2.natAbs && !(0 < row.2 && db.isPartOfAPool kind row.1)).map Prod.fst

def creatureData (event : Nat) : List (Nat × GameEventCreatureData) :=
  (db.gameEventCreatureData.filter fun row => row.2.1 = event && row.2.1 ≠ 0 && db.isValidEvent row.2.1).map
    fun row => (row.1, row.2.2)

def creatureDataPerGuid (guid : Nat) : List Nat :=
  (db.gameEventCreatureData.filter fun row => row.1 = guid && row.2.1 ≠ 0 && db.isValidEvent row.2.1).map fun row => row.2.1

def quests (event : Nat) : List Nat :=
  (db.gameEventQuest.filter fun row => row.2 = event && row.2 ≠ 0 && db.isValidEvent row.2).map Prod.fst

def listedQuests : List Nat :=
  (db.gameEventQuest.filter fun row => row.2 ≠ 0 && db.isValidEvent row.2).map Prod.fst

-- What the loops of GameEventSpawn and GameEventUnspawn put in and take out: a spawn of
-- a pool is excluded from the pool instead.
def spawnGuids (kind : SpawnKind) (event : Int) : List Nat :=
  (db.guids kind event).filter fun guid => db.hasData kind guid && !(event < 0 && db.isPartOfAPool kind guid)

def inRange (event : Int) : Bool := 0 ≤ db.size + event - 1 && db.size + event - 1 < 2 * db.size - 1

end Database

-- `creatures` leads from a map and a guid to the event data last applied there.
structure World where
  event : Nat → GameEventData
  activeEvents : Finset Nat
  grid : SpawnKind → Nat → Bool
  questActive : Nat → Bool
  creatures : Nat → Nat → Option (Option GameEventCreatureData)
  isGameEventsInit : Bool

-- The calls of StartEvent, StopEvent and EnableEvent that hardcoded events, scripts and
-- commands make, as the changes they consist of. `created` are the creatures that come
-- to maps meanwhile.
inductive Action
  | apply (event : Nat) (created : Nat → Nat → Bool)
  | unapply (event : Nat) (created : Nat → Nat → Bool)
  | setDisabled (event : Nat) (disabled : Bool)
  | setPeriod (event : Nat) (start finish : Int)

-- What happens in a call of Update: the calls of each hardcoded event, and the creatures
-- that come to maps in the turn of each event
structure View where
  now : Int
  hardcoded : Nat → List Action
  created : Nat → Nat → Nat → Bool

inductive Step
  | act (action : Action)
  | update (view : View)
  | create (created : Nat → Nat → Bool)
  | remove (map guid : Nat)
  | respawn (map guid : Nat)

namespace World

variable (db : Database)

def loaded : World where
  event := db.event
  activeEvents := ∅
  grid := fun kind guid =>
    db.hasData kind guid && !db.isPartOfAPool kind guid && (db.gameEventSpawn kind).all fun row => row.1 ≠ guid || row.2 = 0
  questActive := fun quest => quest ∉ db.listedQuests
  creatures := fun _ _ => none
  isGameEventsInit := false

def i16 (n : Int) : Int := n.bmod (2 ^ 16)

def isValidEvent (w : World) (event : Nat) : Bool := event < db.size && 0 < (w.event event).length

def checkOneGameEvent (w : World) (event : Nat) (now : Int) : Bool :=
  (w.event event).start ≤ now && now < (w.event event).finish &&
    (now - (w.event event).start - (w.event event).leapDays * 86400).tmod
      ((w.event event).occurence * 60 % 2 ^ 32 : Nat) < ((w.event event).length * 60 % 2 ^ 32 : Nat)

def getCreatureUpdateDataForActiveEvent (w : World) (guid : Nat) : Option GameEventCreatureData :=
  match (db.creatureDataPerGuid guid).find? fun event => event ∈ w.activeEvents with
  | none => none
  | some event => ((db.creatureData event).find? fun entry => entry.1 = guid).map Prod.snd

def create (w : World) (created : Nat → Nat → Bool) : World :=
  { w with
    creatures := fun map guid =>
      if created map guid && (w.creatures map guid).isNone && db.hasData .creature guid then
        some (w.getCreatureUpdateDataForActiveEvent db guid)
      else w.creatures map guid }

def remove (w : World) (map guid : Nat) : World :=
  { w with creatures := Function.update w.creatures map (Function.update (w.creatures map) guid none) }

-- A creature that takes another entry when it respawns
def respawn (w : World) (map guid : Nat) : World :=
  match w.creatures map guid with
  | none => w
  | some _ =>
    { w with
      creatures := Function.update w.creatures map
        (Function.update (w.creatures map) guid (some (w.getCreatureUpdateDataForActiveEvent db guid))) }

def setGrid (w : World) (event : Int) (present : Bool) : World :=
  { w with grid := fun kind guid => if guid ∈ db.spawnGuids kind event then present else w.grid kind guid }

def gameEventSpawn (w : World) (event : Int) (created : Nat → Nat → Bool) : World :=
  if db.inRange event then (w.setGrid db event true).create db created else w

def gameEventUnspawn (w : World) (event : Int) : World :=
  if db.inRange event then w.setGrid db event false else w

def updateCreature (activate : Bool) (w : World) (entry : Nat × GameEventCreatureData) : World :=
  if db.hasData .creature entry.1 then
    { w with
      creatures := fun map guid =>
        if guid = entry.1 then (w.creatures map guid).map fun _ => if activate then some entry.2 else none
        else w.creatures map guid }
  else w

section

variable (w : World)

def updateCreatureData (event : Nat) (activate : Bool) : World :=
  (db.creatureData event).foldl (updateCreature db activate) w

def updateEventQuests (event : Nat) (activate : Bool) : World :=
  { w with questActive := fun quest => if quest ∈ db.quests event then activate else w.questActive quest }

def applyNewEvent (event : Nat) (created : Nat → Nat → Bool) : World :=
  let w := { w with activeEvents := insert event w.activeEvents }
  let w := (w.gameEventSpawn db (i16 event) created).gameEventUnspawn db (i16 (-event))
  (w.updateCreatureData db event true).updateEventQuests db event true

def unApplyEvent (event : Nat) (created : Nat → Nat → Bool) : World :=
  let w := { w with activeEvents := w.activeEvents.erase event }
  let w := (w.gameEventUnspawn db (i16 event)).gameEventSpawn db (i16 (-event)) created
  (w.updateCreatureData db event false).updateEventQuests db event false

def setEvent (event : Nat) (data : GameEventData) : World :=
  { w with event := Function.update w.event event data }

def act : Action → World
  | .apply event created => if w.isValidEvent db event then w.applyNewEvent db event created else w
  | .unapply event created => if w.isValidEvent db event then w.unApplyEvent db event created else w
  | .setDisabled event disabled => w.setEvent event { w.event event with disabled := disabled }
  | .setPeriod event start finish => w.setEvent event { w.event event with start := start, finish := finish }

end

def updateHardcoded (view : View) (w : World) (event : Nat) : World :=
  if (w.event event).disabled then w else run (act db) w (view.hardcoded event)

def updateEvent (view : View) (w : World) (event : Nat) : World :=
  if (w.event event).hardcoded || (w.event event).disabled then w
  else if w.checkOneGameEvent event view.now then
    if event ∈ w.activeEvents then w else w.act db (.apply event (view.created event))
  else if event ∈ w.activeEvents then w.act db (.unapply event (view.created event))
  else if w.isGameEventsInit then w
  else w.gameEventSpawn db (i16 (-event)) (view.created event)

def events : List Nat := List.range' 1 (db.size - 1)

def update (w : World) (view : View) : World :=
  run (updateEvent db view) (run (updateHardcoded db view) w db.hardcodedList) (events db)

def initialUpdate (view : View) : World := { (loaded db).update db view with isGameEventsInit := true }

def step (w : World) : Step → World
  | .act action => w.act db action
  | .update view => w.update db view
  | .create created => w.create db created
  | .remove map guid => w.remove map guid
  | .respawn map guid => w.respawn db map guid

end World

end TurtleWow.GameEvents
