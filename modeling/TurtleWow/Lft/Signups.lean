import TurtleWow.Lft.Queue
import TurtleWow.Lib.Escape
import TurtleWow.Lib.Lists
import TurtleWow.Shared.Util

namespace TurtleWow.Lft

open Util List

-- How the signups of a listing are written to its row, and read back from it.

structure ListingSignup where
  name : Text
  className : Text
  level : UInt32
  confirmed : Bool
deriving DecidableEq

def escapeListingField (value : Text) : Text :=
  Escape.escape '\\' (fun c => c = '\\' || c = '|' || c = ';') value

def splitEscaped (value : Text) (delimiter : Char) : List Text := Escape.split '\\' delimiter value

def serializeSignup (signup : ListingSignup) : Text :=
  escapeListingField signup.name ++ '|' :: (escapeListingField signup.className ++ '|' ::
    (showNat signup.level.toNat ++ '|' :: [if signup.confirmed then '1' else '0']))

section

variable (signups : List ListingSignup)

def serializeSignups : Text :=
  signups.foldl (fun serialized signup =>
    (if serialized = [] then serialized else serialized ++ [';']) ++ serializeSignup signup) []

-- A row that is empty or too short is passed over.
def deserializeSignup (row : Text) : Option ListingSignup :=
  if row = [] then none
  else
    match splitEscaped row '|' with
    | name :: className :: level :: confirmed :: _ =>
      some { name, className, level := UInt32.ofNat ((strtoul level).getD 0), confirmed := confirmed = ['1'] }
    | _ => none

def deserializeSignups (value : Text) : List ListingSignup :=
  if value = [] then [] else (splitEscaped value ';').filterMap deserializeSignup

section

variable (signup : ListingSignup)

def ListingSignup.row : Text :=
  signup.name ++ '|' :: (signup.className ++ '|' ::
    (showNat signup.level.toNat ++ '|' :: [if signup.confirmed then '1' else '0']))

theorem plain_of_isDigit {text : Text} (h : ∀ c ∈ text, c.isDigit) : Escape.Plain '\\' '|' text ∧ Escape.Plain '\\' ';' text := by
  have hne : ∀ special : Char, ¬special.isDigit → ∀ c ∈ text, c ≠ special := by
    rintro special hspecial c hc rfl
    exact hspecial (h c hc)
  constructor <;> intro c hc <;> exact ⟨hne _ (by decide) c hc, hne _ (by decide) c hc⟩

theorem isDigit_flag (flag : Bool) : ∀ c ∈ [if flag then '1' else '0'], c.isDigit := by
  intro c hc
  rw [mem_singleton.mp hc]
  cases flag <;> rfl

theorem isDigit_showNat (n : Nat) : ∀ c ∈ showNat n, c.isDigit := fun _ hc => isDigit_of_mem_showNat hc

theorem splitFrom_serializeSignup (current rest : Text) :
    Escape.splitFrom '\\' ';' current false (serializeSignup signup ++ rest) =
      Escape.splitFrom '\\' ';' (current ++ signup.row) false rest := by
  have hname := fun current text rest => @Escape.splitFrom_escape Char _ '\\' ';'
    (fun c => c = '\\' || c = '|' || c = ';') current (by decide) (by decide) text rest
  have hbar := fun current rest => @Escape.splitFrom_plain Char _ '\\' ';' current '|' (by decide) (by decide) rest
  have hlevel := (plain_of_isDigit (isDigit_showNat signup.level.toNat)).2
  have hflag := (plain_of_isDigit (isDigit_flag signup.confirmed)).2
  simp only [serializeSignup, escapeListingField, append_assoc, cons_append, hname, hbar]
  have hdigit := hflag _ (mem_singleton_self _)
  rw [Escape.splitFrom_plains hlevel, hbar, Escape.splitFrom_plain hdigit.1 hdigit.2]
  simp [ListingSignup.row, append_assoc]

theorem serializeSignup_ne_nil : serializeSignup signup ≠ [] := by
  simp [serializeSignup]

theorem serializeSignups_cons (rest : List ListingSignup) :
    serializeSignups (signup :: rest) = serializeSignup signup ++ rest.flatMap fun next => ';' :: serializeSignup next := by
  have hfold : ∀ (rest : List ListingSignup) (serialized : Text), serialized ≠ [] →
      rest.foldl (fun serialized signup =>
        (if serialized = [] then serialized else serialized ++ [';']) ++ serializeSignup signup) serialized =
      serialized ++ rest.flatMap fun next => ';' :: serializeSignup next := by
    intro rest
    induction rest with
    | nil => simp
    | cons next rest ih =>
      intro serialized hsome
      rw [foldl_cons, if_neg hsome, ih _ (by simp), flatMap_cons]
      simp [append_assoc]
  rw [serializeSignups, foldl_cons, if_pos rfl, nil_append]
  exact hfold rest _ (serializeSignup_ne_nil signup)

end

theorem split_rows (current : Text) :
    Escape.splitFrom '\\' ';' current false (signups.flatMap fun next => ';' :: serializeSignup next) =
      current :: signups.map ListingSignup.row := by
  induction signups generalizing current with
  | nil => simp [Escape.splitFrom]
  | cons signup rest ih =>
    rw [flatMap_cons, cons_append, Escape.splitFrom_delimiter (by decide), Escape.split,
      splitFrom_serializeSignup, nil_append, ih, map_cons]

theorem deserialize_serialize :
    deserializeSignups (serializeSignups signups) = signups.filterMap fun signup => deserializeSignup signup.row := by
  cases signups with
  | nil => rfl
  | cons signup rest =>
    have hsome : serializeSignups (signup :: rest) ≠ [] := by
      rw [serializeSignups_cons]
      simp [serializeSignup_ne_nil]
    rw [deserializeSignups, if_neg hsome, serializeSignups_cons, splitEscaped, Escape.split,
      splitFrom_serializeSignup, nil_append, split_rows, ← map_cons, filterMap_map]
    rfl

-- The row has lost the escapes that its own split needs.
theorem deserializeSignup_row_iff (signup : ListingSignup) : deserializeSignup signup.row = some signup ↔
    Escape.Plain '\\' '|' signup.name ∧ Escape.Plain '\\' '|' signup.className := by
  have hsome : signup.row ≠ [] := by simp [ListingSignup.row]
  rw [deserializeSignup, if_neg hsome, splitEscaped]
  constructor
  · intro h
    split at h
    · rename_i name className level confirmed fields hsplit
      have hsame := Option.some.inj h
      have hname : name = signup.name := congrArg ListingSignup.name hsame
      have hclass : className = signup.className := congrArg ListingSignup.className hsame
      rw [hname, hclass] at hsplit
      have hplain := (Escape.head_split_iff (by decide) signup.name _).mp (congrArg List.head? hsplit)
      rw [ListingSignup.row, Escape.split_plain (by decide) hplain] at hsplit
      have hrest := (List.cons.inj hsplit).2
      exact ⟨hplain, (Escape.head_split_iff (by decide) signup.className _).mp (congrArg List.head? hrest)⟩
    · cases h
  · rintro ⟨hname, hclass⟩
    have hlevel := (plain_of_isDigit (isDigit_showNat signup.level.toNat)).1
    have hflag := (plain_of_isDigit (isDigit_flag signup.confirmed)).1
    have hnumber : strtoul (showNat signup.level.toNat) = some signup.level.toNat :=
      strtoul_showNat (Nat.lt_trans signup.level.toNat_lt (by decide))
    rw [ListingSignup.row, Escape.split_plain (by decide) hname, Escape.split_plain (by decide) hclass,
      Escape.split_plain (by decide) hlevel, Escape.split_last hflag]
    simp only [hnumber, Option.getD_some, UInt32.ofNat_toNat]
    cases hconfirmed : signup.confirmed <;> simp [← hconfirmed]

-- A list of signups comes back exactly when no name and no class of it has a
-- backslash or a bar.
theorem signups_round_trip_iff : deserializeSignups (serializeSignups signups) = signups ↔
      ∀ signup ∈ signups, Escape.Plain '\\' '|' signup.name ∧ Escape.Plain '\\' '|' signup.className := by
  rw [deserialize_serialize, Lists.filterMap_eq_self_iff]
  constructor
  · exact fun h signup hmem => (deserializeSignup_row_iff signup).mp (h signup hmem)
  · exact fun h signup hmem => (deserializeSignup_row_iff signup).mpr (h signup hmem)

end

-- A bar in a name ends it.
theorem not_signups_round_trip : ¬∀ signups, deserializeSignups (serializeSignups signups) = signups := by
  intro h
  have hbar := h [{ name := "A|B".toList, className := "Mage".toList, level := 60, confirmed := true }]
  revert hbar
  decide

namespace LFTManager

variable (m : LFTManager) (view : View)

-- What becomes of a player when the offer he is in ends: back into the queue,
-- or out of it.
def release (offer : Offer) (requeueAccepted : Bool) (removeGuid : Nat) (requeueOthers : Bool) (m : LFTManager)
    (guid : Nat) : LFTManager :=
  let keepQueued := requeueAccepted && guid != removeGuid && (requeueOthers || (offer.accepted.find guid).isSome)
  let queue :=
    match m.queue.find guid with
    | none => m.queue.erase guid
    | some queued =>
      if keepQueued then m.queue.insert guid (queued.assign (pickRole queued.roleMask Seats.free))
      else m.queue.erase guid
  { m with queue := queue, playerOffers := m.playerOffers.erase guid }

def dropOffer (id : Nat) : LFTManager := { m with offers := m.offers.erase id }

def cancelOffer (id : Nat) (requeueAccepted : Bool) (removeGuid : Nat) (requeueOthers : Bool) : LFTManager :=
  match m.offers.find id with
  | none => m
  | some offer => (offer.roles.keys.foldl (release offer requeueAccepted removeGuid requeueOthers) m).dropOffer id

def eraseQueued (m : LFTManager) (guid : Nat) : LFTManager := { m with queue := m.queue.erase guid }

def eraseRolecheck (m : LFTManager) (leader : Nat) : LFTManager := { m with rolechecks := m.rolechecks.erase leader }

def setRolecheck (leader : Nat) (rolecheck : PendingRolecheck) : LFTManager :=
  { m with rolechecks := m.rolechecks.insert leader rolecheck }

def setOffer (id : Nat) (offer : Offer) : LFTManager := { m with offers := m.offers.insert id offer }

def finish (m : LFTManager) (guid : Nat) : LFTManager :=
  { m with
    queue := m.queue.erase guid, playerOffers := m.playerOffers.erase guid, fillBots := m.fillBots.erase guid }

def offerLeader (offer : Offer) : Nat :=
  let queuedLeader := offer.roles.keys.findSome? fun guid =>
    match m.queue.find guid with
    | none => none
    | some queued => if queued.queueLeaderGuid = 0 then none else some queued.queueLeaderGuid
  match queuedLeader with
  | some leader => leader
  | none =>
    match offer.roles.entries.find? fun entry => entry.2 = .tank with
    | some entry => entry.1
    | none => offer.roles.keys.headD 0

def groupForms (offer : Offer) : Bool :=
  (offer.roles.keys.all fun guid => view.inWorld guid && view.addsToGroup (m.offerLeader offer) guid) &&
    view.teleports offer.roles.keys offer.instanceName

def completeOffer (id : Nat) : LFTManager :=
  match m.offers.find id with
  | none => m
  | some offer =>
    if offer.roles.size ≠ 5 ∨ offer.accepted.size ≠ offer.roles.size then m
    else if m.groupForms view offer then (offer.roles.keys.foldl finish m).dropOffer id
    else m.cancelOffer id false 0 false

section

variable (player : Nat)

def handleOfferAccept : LFTManager :=
  match m.playerOffers.find player with
  | none => m
  | some id =>
    match m.offers.find id with
    | none => m
    | some offer =>
      let accepted := m.setOffer id (offer.accept player)
      if (offer.accept player).accepted.size = offer.roles.size then accepted.completeOffer view id else accepted

def rolecheckOf : Option (Nat × PendingRolecheck) :=
  m.rolechecks.entries.find? fun entry => entry.2.members.contains player

def enqueueRolecheck (leaderGuid : Nat) (rolecheck : PendingRolecheck) : LFTManager :=
  let enqueue := fun (m : LFTManager) guid =>
    if view.inWorld guid then
      match rolecheck.responses.find guid with
      | none => m
      | some roleMask => m.enqueuePlayer view guid leaderGuid rolecheck.instances roleMask
    else m
  (rolecheck.members.foldl enqueue m).tryMakeOffers view

def handleRolecheckResponse (roles : List Char) : LFTManager :=
  let roleMask := (parseRoleMask roles).both (view.allowedRoleMask player)
  if roleMask = RoleMask.none then m
  else
    match m.rolecheckOf player with
    | none => m
    | some (leader, rolecheck) =>
      let rolecheck := rolecheck.respond player roleMask
      if rolecheck.responses.size = rolecheck.members.length then
        (m.eraseRolecheck leader).enqueueRolecheck view leader rolecheck
      else m.setRolecheck leader rolecheck

def botResponse (m : LFTManager) (guid : Nat) : LFTManager :=
  if view.inWorld guid && view.machineDriven guid then
    let roles := (view.scriptRoles guid).both (view.allowedRoleMask guid)
    let response := (if roles.tank then ['t'] else []) ++ (if roles.healer then ['h'] else []) ++
      if roles.damage then ['d'] else []
    if response = [] then m else m.handleRolecheckResponse view guid response
  else m

def startRolecheck (leader : Nat) (instances : List String) : LFTManager :=
  let members := view.getPartyMembers leader
  let started := m.setRolecheck leader
    { members := members, instances := instances, responses := .empty, timer := rolecheckTimeout }
  if view.botFill then members.foldl (botResponse view) started else started

def cleanupRolechecks (guid : Nat) : LFTManager :=
  m.rolechecks.entries.foldl (fun m entry => if entry.2.members.contains guid then m.eraseRolecheck entry.1 else m) m

def cleanupPlayer (guid : Nat) : LFTManager :=
  let left := m.eraseQueued guid
  let left :=
    match left.playerOffers.find guid with
    | none => left
    | some id => left.cancelOffer id true guid true
  left.cleanupRolechecks guid

def getSharedInstances (requested : List String) : List String :=
  requested.foldl (fun instances name => if name ≠ "" ∧ name ∉ instances then instances ++ [name] else instances) []

def handleQueueJoin (requested : List String) (roles : List Char) : LFTManager :=
  let refused : Bool :=
    match view.group player with
    | none => false
    | some party => party.isRaidGroup || party.leader != player
  let instances := getSharedInstances requested
  if refused ∨ instances = [] ∨ (parseRoleMask roles).both (view.allowedRoleMask player) = RoleMask.none ∨
      view.validDestinations player instances = false then m
  else (m.cleanupPlayer player).startRolecheck view player instances

def underLeader (leader : Nat) : List Nat :=
  (m.queue.entries.filter fun entry => entry.2.leader entry.1 = leader).map fun entry => entry.1

def handleQueueLeave : LFTManager :=
  match m.rolecheckOf player with
  | some (leader, _) => m.eraseRolecheck leader
  | none =>
    match m.playerOffers.find player with
    | some id => (m.cancelOffer id true player true).tryMakeOffers view
    | none =>
      match m.queue.find player with
      | none => m
      | some queued => (m.underLeader (queued.leader player)).foldl eraseQueued m

end

-- Bot fill: bots accept, bots nobody waits for go, new ones are enlisted.

def acceptOffersForFillBots : LFTManager :=
  m.offers.entries.foldl (fun m entry =>
    entry.2.roles.keys.foldl (fun m guid =>
      match m.offers.find entry.1 with
      | none => m
      | some offer =>
        if (offer.accepted.find guid).isNone && view.inWorld guid && view.machineDriven guid then
          m.handleOfferAccept view guid
        else m) m) m

def realPlayerWaitsFor (name : String) : Bool :=
  m.queue.entries.any fun entry => (m.fillBots.find entry.1).isNone && entry.2.instances.contains name

def dropUnneededFillBots : LFTManager :=
  m.fillBots.keys.foldl (fun m guid =>
    if (m.playerOffers.find guid).isSome then m
    else
      let needed :=
        match m.queue.find guid with
        | none => false
        | some queued => view.botFill && queued.instances.any m.realPlayerWaitsFor
      if needed then m else { m.eraseQueued guid with fillBots := m.fillBots.erase guid }) m

def enlist (m : LFTManager) (bot : Nat × String × Role) : LFTManager :=
  if (m.queue.find bot.1).isSome then m
  else
    let enqueued := m.enqueuePlayer view bot.1 0 [bot.2.1] (RoleMask.only bot.2.2)
    { enqueued with fillBots := enqueued.fillBots.insert bot.1 () }

def seedBotOnlyQueue : LFTManager :=
  match view.seed with
  | none => m
  | some (bot, name) =>
    if m.queue.size = 0 then m.enqueuePlayer view bot bot [name] (view.allowedRoleMask bot) else m

def updateBotFill (diff : Nat) : LFTManager :=
  if view.botFill then
    let accepted := m.acceptOffersForFillBots view
    if diff < accepted.botFillTimer then { accepted with botFillTimer := accepted.botFillTimer - diff }
    else
      let dropped := ({ accepted with botFillTimer := 5000 } : LFTManager).dropUnneededFillBots view
      view.fill.foldl (enlist view) (dropped.seedBotOnlyQueue view)
  else m.dropUnneededFillBots view

def pruneQueue : LFTManager :=
  m.queue.keys.foldl (fun m guid => if view.inWorld guid then m else m.eraseQueued guid) m

def updateRolechecks (diff : Nat) : LFTManager :=
  m.rolechecks.entries.foldl (fun m entry =>
    if entry.2.timer ≤ diff then m.eraseRolecheck entry.1
    else m.setRolecheck entry.1 (entry.2.wait diff)) m

def updateOffers (diff : Nat) : LFTManager :=
  m.offers.entries.foldl (fun m entry =>
    if entry.2.timer ≤ diff then m.cancelOffer entry.1 true 0 false
    else m.setOffer entry.1 (entry.2.wait diff)) m

def update (diff : Nat) : LFTManager :=
  let updated := (((m.updateBotFill view diff).pruneQueue view).updateRolechecks diff).updateOffers diff
  updated.tryMakeOffers view

end LFTManager

inductive Op where
  | queueJoin (player : Nat) (requested : List String) (roles : List Char)
  | queueLeave (player : Nat)
  | rolecheckResponse (player : Nat) (roles : List Char)
  | offerAccept (player : Nat)
  | update (diff : Nat)
  | playerLogout (guid : Nat)

structure Message where
  view : View
  op : Op

def LFTManager.receive (m : LFTManager) (message : Message) : LFTManager :=
  match message.op with
  | .queueJoin player requested roles => m.handleQueueJoin message.view player requested roles
  | .queueLeave player => m.handleQueueLeave message.view player
  | .rolecheckResponse player roles => m.handleRolecheckResponse message.view player roles
  | .offerAccept player => m.handleOfferAccept message.view player
  | .update diff => m.update message.view diff
  | .playerLogout guid => m.cleanupPlayer guid

end TurtleWow.Lft
