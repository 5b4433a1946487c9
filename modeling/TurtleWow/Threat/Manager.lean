import TurtleWow.Lib.Run
import Mathlib.Algebra.Order.Field.Rat
import Mathlib.Data.List.Sort
import Mathlib.Logic.Function.Basic

namespace TurtleWow.Threat

-- A reference from a creature to a unit it hates. `valid` is the link to the
-- unit, `online` says in which of the two lists the reference belongs.
structure HostileReference where
  unitGuid : Nat
  threat : ℚ
  tempThreatModifyer : ℚ
  online : Bool
  accessible : Bool
  valid : Bool

namespace HostileReference

variable (reference : HostileReference)

def gain (mod : ℚ) : HostileReference := { reference with threat := reference.threat + mod }

def keepTemp (threat : ℚ) : HostileReference := { reference with tempThreatModifyer := threat }

def setOnline (online : Bool) : HostileReference := { reference with online := online }

def setAccessible (accessible : Bool) : HostileReference := { reference with accessible := accessible }

def setValid (valid : Bool) : HostileReference := { reference with valid := valid }

end HostileReference

-- What the world answers about units, by guid: `present` is what
-- ObjectAccessor finds from the creature, `lowPriority` puts immunity, second
-- choice and being out of an immobilized creature's reach together. Nobody is
-- among the owners of his owner, so owners have a depth.
structure View where
  ownerAlive : Bool
  ownerControlled : Bool
  alive : Nat → Bool
  inMap : Nat → Bool
  present : Nat → Bool
  gameMaster : Nat → Bool
  taxiFlying : Nat → Bool
  unitOwner : Nat → Option Nat
  depth : Nat → Nat
  depth_lt : ∀ unit owner, unitOwner unit = some owner → depth owner < depth unit
  totemTransfer : Nat → Option ℚ
  calcThreat : Nat → ℚ → ℚ
  outOfThreatArea : Nat → Bool
  validAttackTarget : Nat → Bool
  lowPriority : Nat → Bool
  reachesInMelee : Nat → Bool

-- The references live at addresses; `fresh` is the next one.
structure ThreatManager where
  owner : Nat
  refs : Nat → Option HostileReference
  fresh : Nat
  onlineList : List Nat
  offlineList : List Nat
  dirty : Bool
  currentVictim : Option Nat

inductive ThreatRefStatusChange where
  | threatChange (ref : Nat) (value : ℚ)
  | onlineStatus (ref : Nat)
  | accessibleStatus (ref : Nat)
  | removeFromList (ref : Nat)

namespace ThreatManager

variable (m : ThreatManager)

def new (owner : Nat) : ThreatManager :=
  { owner := owner, refs := fun _ => none, fresh := 0, onlineList := [], offlineList := [], dirty := false,
    currentVictim := none }

section

variable (ref : Nat)

def threatOf : ℚ :=
  match m.refs ref with
  | none => 0
  | some reference => reference.threat

def guidOf : Option Nat := (m.refs ref).map fun reference => reference.unitGuid

def update (f : HostileReference → HostileReference) : ThreatManager :=
  { m with refs := Function.update m.refs ref ((m.refs ref).map f) }

def setDirty : ThreatManager := { m with dirty := true }

def removeOnline : ThreatManager := { m with onlineList := m.onlineList.filter fun other => other ≠ ref }

def removeOffline : ThreatManager := { m with offlineList := m.offlineList.filter fun other => other ≠ ref }

def addOnline : ThreatManager := { m with onlineList := m.onlineList ++ [ref] }

def addOffline : ThreatManager := { m with offlineList := m.offlineList ++ [ref] }

def dropVictim : ThreatManager :=
  if m.currentVictim = some ref then { m with currentVictim := none, dirty := true } else m

def isOnline : Bool :=
  match m.refs ref with
  | none => false
  | some reference => reference.online

end

def processThreatEvent : ThreatRefStatusChange → ThreatManager
  | .threatChange ref value =>
    if (m.currentVictim = some ref ∧ value < 0) ∨ (m.currentVictim ≠ some ref ∧ 0 < value) then m.setDirty else m
  | .onlineStatus ref =>
    if m.isOnline ref then
      let marked :=
        match m.currentVictim with
        | none => m
        | some victim => if 11 / 10 * m.threatOf victim < m.threatOf ref then m.setDirty else m
      (marked.addOnline ref).removeOffline ref
    else ((m.dropVictim ref).removeOnline ref).addOffline ref
  | .accessibleStatus _ => m
  | .removeFromList ref =>
    if m.isOnline ref then (m.dropVictim ref).removeOnline ref else (m.dropVictim ref).removeOffline ref

def setAccessibleState (ref : Nat) (accessible : Bool) : ThreatManager :=
  match m.refs ref with
  | none => m
  | some reference =>
    if reference.accessible = accessible then m
    else (m.update ref fun reference => reference.setAccessible accessible).processThreatEvent
      (.accessibleStatus ref)

def setOnlineOfflineState (ref : Nat) (online : Bool) : ThreatManager :=
  match m.refs ref with
  | none => m
  | some reference =>
    if reference.online = online then m
    else
      let m := m.update ref fun reference => reference.setOnline online
      let m := if online then m else m.setAccessibleState ref false
      m.processThreatEvent (.onlineStatus ref)

def updateOnlineStatus (view : View) (ref : Nat) : ThreatManager :=
  match m.refs ref with
  | none => m
  | some reference =>
    let valid := reference.valid || view.present reference.unitGuid
    let m := m.update ref fun reference => reference.setValid valid
    let online := valid && (!view.gameMaster reference.unitGuid || !view.taxiFlying reference.unitGuid)
    (m.setAccessibleState ref false).setOnlineOfflineState ref online

-- HostileReference::addThreat but for the threat to the victim's owner.
def raise (view : View) (ref : Nat) (mod : ℚ) : ThreatManager :=
  let m := m.update ref fun reference => reference.gain mod
  let m := if m.isOnline ref then m else m.updateOnlineStatus view ref
  if mod ≠ 0 then m.processThreatEvent (.threatChange ref mod) else m

def getReferenceByTarget (list : List Nat) (guid : Nat) : Option Nat := list.find? fun ref => m.guidOf ref = some guid

def newReference (guid : Nat) : ThreatManager :=
  { m with
    refs := Function.update m.refs m.fresh
      (some { unitGuid := guid, threat := 0, tempThreatModifyer := 0, online := true, accessible := true, valid := true }),
    fresh := m.fresh + 1, onlineList := m.onlineList ++ [m.fresh] }

section

variable (toOwner : Nat → ThreatManager → ThreatManager)

-- `toOwner` adds the threat to the owner of a victim.
def addThreatTo (view : View) (ref : Nat) (mod : ℚ) : ThreatManager :=
  let m := m.raise view ref mod
  match m.refs ref with
  | none => m
  | some reference => if reference.valid ∧ 0 ≤ mod then toOwner reference.unitGuid m else m

def addThreatDirectlyWith (view : View) (victim : Nat) (threat : ℚ) : ThreatManager :=
  if victim = m.owner ∨ !view.alive victim ∨ !view.inMap victim then m
  else
    match m.getReferenceByTarget m.onlineList victim with
    | some ref => m.addThreatTo toOwner view ref threat
    | none =>
      match m.getReferenceByTarget m.offlineList victim with
      | some ref => m.addThreatTo toOwner view ref threat
      | none =>
        let added := m.newReference victim |>.addThreatTo toOwner view m.fresh threat
        if view.gameMaster victim then added.setOnlineOfflineState m.fresh false else added

-- ThreatManager::addThreat; a totem passes some of its threat to its owner.
def addThreatWith (view : View) (victim : Nat) (threat : ℚ) : ThreatManager :=
  if victim = m.owner ∨ view.gameMaster victim ∨ !view.alive victim ∨ !view.ownerAlive then m
  else
    let total := if threat = 0 then 0 else view.calcThreat victim threat
    match view.totemTransfer victim, view.unitOwner victim with
    | some percent, some owner =>
      if 0 < percent then
        let transferred := total * percent / 100
        (m.addThreatDirectlyWith toOwner view owner transferred).addThreatDirectlyWith toOwner view victim
          (total - transferred)
      else m.addThreatDirectlyWith toOwner view victim total
    | _, _ => m.addThreatDirectlyWith toOwner view victim total

end

-- A victim's owner is hated too, and so is his.
def addOwnerThreat (view : View) : Nat → Nat → ThreatManager → ThreatManager
  | 0, _, m => m
  | fuel + 1, victim, m =>
    match view.unitOwner victim with
    | none => m
    | some owner => if view.alive owner then m.addThreatWith (addOwnerThreat view fuel) view owner 0 else m

def toOwner (view : View) (victim : Nat) (m : ThreatManager) : ThreatManager :=
  addOwnerThreat view (view.depth victim + 1) victim m

def refAddThreat (view : View) (ref : Nat) (mod : ℚ) : ThreatManager := m.addThreatTo (toOwner view) view ref mod

def addThreatDirectly (view : View) (victim : Nat) (threat : ℚ) : ThreatManager :=
  m.addThreatDirectlyWith (toOwner view) view victim threat

-- `noThreat` is for a spell without threat, `assist` for a helpful one.
def addThreat (view : View) (victim : Nat) (threat : ℚ) (noThreat assist : Bool) : ThreatManager :=
  if noThreat ∧ (0 ≤ threat ∨ m.getReferenceByTarget m.onlineList victim = none) then m
  else m.addThreatWith (toOwner view) view victim (if assist ∧ view.ownerControlled then 0 else threat)

def refAddThreatPercent (view : View) (ref : Nat) (percent : Int) : ThreatManager :=
  m.refAddThreat view ref (if percent = -100 then -m.threatOf ref else m.threatOf ref * percent / 100)

-- removeReference and the delete that goes with it
def deleteReference (ref : Nat) : ThreatManager :=
  match m.refs ref with
  | none => m
  | some _ =>
    let m := (m.setOnlineOfflineState ref false).update ref fun reference => reference.setValid false
    let m := m.processThreatEvent (.removeFromList ref)
    { m with refs := Function.update m.refs ref none }

def modifyThreatPercent (view : View) (victim : Nat) (percent : Int) : ThreatManager :=
  match m.getReferenceByTarget m.onlineList victim with
  | none => m
  | some ref => if percent < -100 then m.deleteReference ref else m.refAddThreatPercent view ref percent

def tempThreatOf (ref : Nat) : ℚ :=
  match m.refs ref with
  | none => 0
  | some reference => reference.tempThreatModifyer

def setTempThreatModifier (view : View) (ref : Nat) (threat : ℚ) : ThreatManager :=
  (m.update ref fun reference => reference.keepTemp threat).refAddThreat view ref threat

def resetTempThreat (view : View) (ref : Nat) : ThreatManager :=
  if m.tempThreatOf ref = 0 then m
  else (m.refAddThreat view ref (-m.tempThreatOf ref)).update ref fun reference => reference.keepTemp 0

def tauntApply (view : View) (taunter : Nat) : ThreatManager :=
  match m.getReferenceByTarget m.onlineList taunter, m.currentVictim with
  | some ref, some victim =>
    if m.threatOf ref < m.threatOf victim ∧ m.tempThreatOf ref = 0 then
      m.setTempThreatModifier view ref (m.threatOf victim - m.threatOf ref)
    else m
  | _, _ => m

def tauntFadeOut (view : View) (taunter : Nat) : ThreatManager :=
  match m.getReferenceByTarget m.onlineList taunter with
  | none => m
  | some ref => m.resetTempThreat view ref

def clearReferences : ThreatManager :=
  { m with refs := fun _ => none, onlineList := [], offlineList := [], currentVictim := none }

def setCurrentVictimIfCan (victim : Nat) : ThreatManager :=
  match m.getReferenceByTarget m.onlineList victim with
  | none => m
  | some ref => { m with currentVictim := some ref }

-- ThreatContainer::update of the online container

def moreThreat (ref other : Nat) : Prop := m.threatOf other ≤ m.threatOf ref

instance : DecidableRel m.moreThreat := fun ref other => inferInstanceAs (Decidable (m.threatOf other ≤ m.threatOf ref))

def sort : ThreatManager :=
  if m.dirty ∧ 1 < m.onlineList.length then
    { m with onlineList := m.onlineList.insertionSort m.moreThreat, dirty := false }
  else { m with dirty := false }

end ThreatManager

-- How one attempt to select ends: a target left the threat area, a reference
-- is found, or there is none, with what is left of the current victim.
inductive Attempt where
  | lost
  | found (ref : Nat)
  | next (currentVictim : Option Nat)
deriving DecidableEq

namespace ThreatManager

variable (m : ThreatManager)

-- A reference in the online container has a target.
def targetOf (ref : Nat) : Nat := (m.guidOf ref).getD m.owner

def passesOver (view : View) (allowLowPriorityTargets : Bool) (ref : Nat) : Bool :=
  !view.validAttackTarget (m.targetOf ref) || (!allowLowPriorityTargets && view.lowPriority (m.targetOf ref))

def outweighs (view : View) (ref victim : Nat) : Bool :=
  13 / 10 * m.threatOf victim < m.threatOf ref ||
    (11 / 10 * m.threatOf victim < m.threatOf ref && view.reachesInMelee (m.targetOf ref))

def attempt (view : View) (allowLowPriorityTargets : Bool) : List Nat → Option Nat → Attempt
  | [], currentVictim => .next currentVictim
  | ref :: rest, currentVictim =>
    if view.outOfThreatArea (m.targetOf ref) then .lost
    else if m.passesOver view allowLowPriorityTargets ref then
      attempt view allowLowPriorityTargets rest (if currentVictim = some ref then none else currentVictim)
    else
      match currentVictim with
      | none => .found ref
      | some victim =>
        if victim = ref ∨ m.threatOf ref ≤ 11 / 10 * m.threatOf victim then .found victim
        else if m.outweighs view ref victim then .found ref
        else attempt view allowLowPriorityTargets rest (some victim)

def selectNextVictim (view : View) : Option Nat :=
  match m.attempt view false m.onlineList m.currentVictim with
  | .lost => none
  | .found ref => some ref
  | .next currentVictim =>
    match m.attempt view true m.onlineList currentVictim with
    | .found ref => some ref
    | _ => none

def getHostileTarget (view : View) : ThreatManager :=
  { m.sort with currentVictim := m.sort.selectNextVictim view }

-- HostileRefManager: the references to a unit, of which one creature has at
-- most one.

def references (guid : Nat) : List Nat := (m.onlineList ++ m.offlineList).filter fun ref => m.guidOf ref = some guid

def forReferences (guid : Nat) (f : Nat → ThreatManager → ThreatManager) : ThreatManager :=
  (m.references guid).foldl (fun m ref => f ref m) m

def addThreatPercent (view : View) (unit : Nat) (percent : Int) : ThreatManager :=
  m.forReferences unit fun ref m => m.refAddThreatPercent view ref percent

def addTempThreat (view : View) (unit : Nat) (threat : ℚ) (apply : Bool) : ThreatManager :=
  m.forReferences unit fun ref m =>
    if apply then (if m.tempThreatOf ref = 0 then m.setTempThreatModifier view ref threat else m)
    else m.resetTempThreat view ref

def setUnitOnlineOfflineState (unit : Nat) (online : Bool) : ThreatManager :=
  m.forReferences unit fun ref m => m.setOnlineOfflineState ref online

def updateThreatTables (view : View) (unit : Nat) : ThreatManager :=
  m.forReferences unit fun ref m => m.updateOnlineStatus view ref

def deleteReferences (unit : Nat) : ThreatManager := m.forReferences unit fun ref m => m.deleteReference ref

end ThreatManager

-- `deleteReferences` is also what the destruction of a target does.
inductive Op where
  | addThreat (victim : Nat) (threat : ℚ) (noThreat assist : Bool)
  | addThreatDirectly (victim : Nat) (threat : ℚ)
  | addThreatPercent (unit : Nat) (percent : Int)
  | modifyThreatPercent (victim : Nat) (percent : Int)
  | addTempThreat (unit : Nat) (threat : ℚ) (apply : Bool)
  | tauntApply (taunter : Nat)
  | tauntFadeOut (taunter : Nat)
  | setOnlineOfflineState (unit : Nat) (online : Bool)
  | updateThreatTables (unit : Nat)
  | deleteReferences (unit : Nat)
  | clearReferences
  | setCurrentVictimIfCan (victim : Nat)
  | getHostileTarget

structure Message where
  view : View
  op : Op

def ThreatManager.receive (m : ThreatManager) (message : Message) : ThreatManager :=
  match message.op with
  | .addThreat victim threat noThreat assist => m.addThreat message.view victim threat noThreat assist
  | .addThreatDirectly victim threat => m.addThreatDirectly message.view victim threat
  | .addThreatPercent unit percent => m.addThreatPercent message.view unit percent
  | .modifyThreatPercent victim percent => m.modifyThreatPercent message.view victim percent
  | .addTempThreat unit threat apply => m.addTempThreat message.view unit threat apply
  | .tauntApply taunter => m.tauntApply message.view taunter
  | .tauntFadeOut taunter => m.tauntFadeOut message.view taunter
  | .setOnlineOfflineState unit online => m.setUnitOnlineOfflineState unit online
  | .updateThreatTables unit => m.updateThreatTables message.view unit
  | .deleteReferences unit => m.deleteReferences unit
  | .clearReferences => m.clearReferences
  | .setCurrentVictimIfCan victim => m.setCurrentVictimIfCan victim
  | .getHostileTarget => m.getHostileTarget message.view

end TurtleWow.Threat
