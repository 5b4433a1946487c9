import Mathlib.Logic.Function.Basic
import Mathlib.Order.Nat
import TurtleWow.Lib.Multimap

namespace TurtleWow.Chat

def SEC_PLAYER : Nat := 0

def SEC_OBSERVER : Nat := 1

structure PlayerInfo where
  player : Nat
  owner : Bool
  moderator : Bool
  muted : Bool
deriving DecidableEq

namespace PlayerInfo

-- What operator[] makes of a key that is not there.
def default : PlayerInfo := ⟨0, false, false, false⟩

def setOwner (info : PlayerInfo) (state : Bool) : PlayerInfo := { info with owner := state }

def setModerator (info : PlayerInfo) (state : Bool) : PlayerInfo := { info with moderator := state }

def setMuted (info : PlayerInfo) (state : Bool) : PlayerInfo := { info with muted := state }

end PlayerInfo

-- A channel that is not built in. `joined` is no field of the code: it records
-- who has joined and has since neither left nor been kicked or banned.
structure Channel where
  custom : Bool
  general : Bool
  securityLevel : Nat
  ownerGuid : Nat
  players : OrderedMap Nat PlayerInfo
  banned : Nat → Bool
  joined : Nat → Bool

-- What a message sees outside the channel: who is found under a guid, with what
-- security; who is found under the name it carries; whether the password is
-- right; and whether the two players may meet in a channel.
structure View where
  security : Nat → Option Nat
  named : Option Nat
  namedSecurity : Nat
  rightPassword : Bool
  sameTeam : Bool

def View.getPlayer (view : View) (guid : Nat) : Option Nat := if guid = 0 then none else view.security guid

namespace Channel

def new (custom general : Bool) (securityLevel : Nat) : Channel :=
  ⟨custom, general, securityLevel, 0, .empty, fun _ => false, fun _ => false⟩

variable (c : Channel) (view : View)

section

variable (guid : Nat)

def isOn : Bool := (c.players.find guid).isSome

def info : PlayerInfo := (c.players.find guid).getD .default

def setInfo (f : PlayerInfo → PlayerInfo) : Channel :=
  { c with players := c.players.insert guid (f (c.info guid)) }

def erase : Channel :=
  { c with players := c.players.erase guid, joined := Function.update c.joined guid false }

-- The old owner may have been removed.
def dropOwner : Channel :=
  if c.ownerGuid ≠ 0 ∧ c.isOn c.ownerGuid = true then c.setInfo c.ownerGuid fun info => info.setOwner false else c

def setOwner : Channel :=
  match view.getPlayer guid with
  | none => c
  | some sec =>
    if c.general = true ∧ sec < SEC_OBSERVER then c
    else
      let c := { c.dropOwner with ownerGuid := guid }
      if guid ≠ 0 then c.setInfo guid fun info => info.setOwner true else c

def add : Channel :=
  { c with players := c.players.insert guid ⟨guid, false, false, false⟩, joined := Function.update c.joined guid true }

def join : Channel :=
  if c.isOn guid then c
  else if c.banned guid then c
  else if !view.rightPassword then c
  else if c.securityLevel ≠ 0 ∧ ((view.getPlayer guid).all fun sec => sec < c.securityLevel) = true then c
  else
    let c := c.add guid
    -- if no owner first logged will become
    if c.custom = true ∧ c.ownerGuid = 0 then (c.setOwner view guid).setInfo guid fun info => info.setModerator true
    else c

def firstPlayer : Nat :=
  match c.players.entries with
  | [] => 0
  | entry :: _ => entry.2.player

def leave : Channel :=
  if c.isOn guid then
    if (c.info guid).owner then (c.erase guid).setOwner view (c.erase guid).firstPlayer else c.erase guid
  else c

-- The manager deletes an empty channel; the next to join makes it anew.
def leftChannel : Channel :=
  if c.players.entries.isEmpty ∧ c.securityLevel = 0 then { new c.custom c.general 0 with joined := c.joined } else c

def canModerate : Bool :=
  (c.info guid).moderator || decide (SEC_OBSERVER ≤ (view.getPlayer guid).getD SEC_PLAYER)

def kickOrBan (ban : Bool) : Channel :=
  let sec := (view.getPlayer guid).getD SEC_PLAYER
  if !c.isOn guid then c
  else if !c.canModerate view guid then c
  else
    match view.named with
    | none => c
    | some target =>
      if !c.isOn target then c
      else if sec < SEC_OBSERVER ∧ c.ownerGuid = target ∧ guid ≠ c.ownerGuid then c
      else
        let changeowner := c.ownerGuid = target
        let c := if ban then { c with banned := Function.update c.banned target true } else c
        let c := c.erase target
        if changeowner then c.setOwner view (if c.players.entries.isEmpty then 0 else guid) else c

def unBan : Channel :=
  if !c.isOn guid then c
  else if !c.canModerate view guid then c
  else
    match view.named with
    | none => c
    | some target => { c with banned := Function.update c.banned target false }

def setMode (moderator set : Bool) : Channel :=
  match view.getPlayer guid with
  | none => c
  | some sec =>
    if !c.isOn guid then c
    else if !c.canModerate view guid then c
    else
      match view.named with
      | none => c
      | some target =>
        if moderator = true ∧ guid = c.ownerGuid ∧ target = c.ownerGuid then c
        else if !c.isOn target then c
        else if (sec < SEC_OBSERVER ∨ view.namedSecurity < SEC_OBSERVER) ∧ view.sameTeam = false then c
        else if c.ownerGuid = target ∧ c.ownerGuid ≠ guid then c
        else if moderator then
          if c.general = true ∧ view.namedSecurity < SEC_OBSERVER then c
          else c.setInfo target fun info => info.setModerator set
        else c.setInfo target fun info => info.setMuted set

def setOwnerBy : Channel :=
  match view.getPlayer guid with
  | none => c
  | some sec =>
    if !c.isOn guid then c
    else if sec < SEC_OBSERVER ∧ guid ≠ c.ownerGuid then c
    else
      match view.named with
      | none => c
      | some target =>
        if !c.isOn target then c
        else if view.sameTeam = false then c
        else if c.general = true ∧ view.namedSecurity < SEC_OBSERVER then c
        else (c.setInfo target fun info => info.setModerator true).setOwner view target

end

end Channel

inductive Message where
  | join (guid : Nat)
  | leave (guid : Nat)
  | kickOrBan (guid : Nat) (ban : Bool)
  | unBan (guid : Nat)
  | setMode (guid : Nat) (moderator set : Bool)
  | setOwner (guid : Nat)

def Channel.receive (c : Channel) (input : View × Message) : Channel :=
  match input.2 with
  | .join guid => c.join input.1 guid
  | .leave guid => (c.leave input.1 guid).leftChannel
  | .kickOrBan guid ban => c.kickOrBan input.1 guid ban
  | .unBan guid => c.unBan input.1 guid
  | .setMode guid moderator set => c.setMode input.1 guid moderator set
  | .setOwner guid => c.setOwnerBy input.1 guid

end TurtleWow.Chat
