import TurtleWow.Lib.Ledger
import TurtleWow.Lib.Run
import TurtleWow.Lib.Table

namespace TurtleWow.Chat

inductive SocialFlag
  | friend | ignored
deriving DecidableEq, Repr

def SOCIALMGR_FRIEND_LIMIT : Nat := 50

def SOCIALMGR_IGNORE_LIMIT : Nat := 25

namespace SocialFlag

def mask : SocialFlag → BitVec 32
  | friend => 1
  | ignored => 2

def limit : SocialFlag → Nat
  | friend => SOCIALMGR_FRIEND_LIMIT
  | ignored => SOCIALMGR_IGNORE_LIMIT

end SocialFlag

def hasFlag (flag : SocialFlag) (flags : BitVec 32) : Bool := flags &&& flag.mask != 0

-- A player guid is its counter.
structure PlayerSocial where
  playerGuid : Nat
  playerSocialMap : AList fun _ : Nat => BitVec 32

-- A row of `character_social`. All three columns are the primary key.
structure Row where
  guid : Nat
  friend : Nat
  flags : BitVec 32
deriving DecidableEq, Repr

inductive Statement
  | insert (row : Row)
  | update (guid friend : Nat) (flags : BitVec 32)
  | delete (guid friend : Nat)
deriving DecidableEq, Repr

-- An INSERT of a row that is there fails, and an UPDATE stops at a duplicate.
def Statement.execute (table : List Row) : Statement → List Row
  | insert row => if row ∈ table then table else table ++ [row]
  | update guid friend flags =>
    (Table.updateRows id (fun row => { row with flags := flags })
      (table.filter fun row => row.guid = guid ∧ row.friend = friend) table).1
  | delete guid friend => table.filter fun row => ¬ (row.guid = guid ∧ row.friend = friend)

namespace PlayerSocial

section

variable (social : PlayerSocial)

def getNumberOfSocialsWithFlag (flag : SocialFlag) : Nat :=
  social.playerSocialMap.entries.countP fun entry => hasFlag flag entry.2

def addToSocialList (friendGuid : Nat) (flag : SocialFlag) : PlayerSocial × Bool × List Statement :=
  if social.getNumberOfSocialsWithFlag flag ≥ flag.limit then (social, false, [])
  else
    match social.playerSocialMap.lookup friendGuid with
    | some flags =>
      ({ social with playerSocialMap := social.playerSocialMap.insert friendGuid (flags ||| flag.mask) }, true,
        [.update social.playerGuid friendGuid flag.mask])
    | none =>
      ({ social with playerSocialMap := social.playerSocialMap.insert friendGuid flag.mask }, true,
        [.insert ⟨social.playerGuid, friendGuid, flag.mask⟩])

def removeFromSocialList (friendGuid : Nat) (flag : SocialFlag) : PlayerSocial × List Statement :=
  match social.playerSocialMap.lookup friendGuid with
  | none => (social, [])
  | some flags =>
    if flags &&& ~~~flag.mask = 0 then
      ({ social with playerSocialMap := social.playerSocialMap.erase friendGuid },
        [.delete social.playerGuid friendGuid])
    else
      ({ social with playerSocialMap := social.playerSocialMap.insert friendGuid (flags &&& ~~~flag.mask) },
        [.update social.playerGuid friendGuid flag.mask])

def hasFriend (friendGuid : Nat) : Bool :=
  (social.playerSocialMap.lookup friendGuid).any (hasFlag .friend)

def hasIgnore (ignoreGuid : Nat) : Bool :=
  (social.playerSocialMap.lookup ignoreGuid).any (hasFlag .ignored)

end

end PlayerSocial

structure Loading where
  playerSocialMap : AList fun _ : Nat => BitVec 32
  friendCounter : Nat
  ignoreCounter : Nat

-- One row of the answer. `FriendInfo` keeps the low byte of the flags.
def Loading.row (existing : Nat → Bool) (loading : Loading) (row : Row) : Loading :=
  if hasFlag .ignored row.flags && decide (loading.ignoreCounter ≥ SOCIALMGR_IGNORE_LIMIT) then loading
  else if hasFlag .friend row.flags && decide (loading.friendCounter ≥ SOCIALMGR_FRIEND_LIMIT) then loading
  else if !existing row.friend then loading
  else
    let playerSocialMap := loading.playerSocialMap.insert row.friend ((row.flags.setWidth 8).setWidth 32)
    if hasFlag .ignored row.flags then { loading with playerSocialMap, ignoreCounter := loading.ignoreCounter + 1 }
    else { loading with playerSocialMap, friendCounter := loading.friendCounter + 1 }

-- `existing`: the account of the character is known
def loadFromDB (existing : Nat → Bool) (guid : Nat) (answer : List Row) : PlayerSocial :=
  ⟨guid, (answer.foldl (Loading.row existing) ⟨∅, 0, 0⟩).playerSocialMap⟩

-- SELECT friend,flags FROM character_social WHERE guid = '%u' LIMIT 255
def Answers (guid : Nat) (table answer : List Row) : Prop :=
  ∃ rows : List Row, rows.Perm (table.filter (·.guid = guid)) ∧ answer = rows.take 255

inductive Call
  | addToSocialList (friendGuid : Nat) (flag : SocialFlag)
  | removeFromSocialList (friendGuid : Nat) (flag : SocialFlag)
deriving DecidableEq, Repr

def Call.friendGuid : Call → Nat
  | addToSocialList friendGuid _ => friendGuid
  | removeFromSocialList friendGuid _ => friendGuid

def Call.apply (social : PlayerSocial) : Call → PlayerSocial × List Statement
  | addToSocialList friendGuid flag =>
    ((social.addToSocialList friendGuid flag).1, (social.addToSocialList friendGuid flag).2.2)
  | removeFromSocialList friendGuid flag => social.removeFromSocialList friendGuid flag

-- The list in memory, and the table after the statements issued so far
structure Lists where
  social : PlayerSocial
  table : List Row

def step (lists : Lists) (call : Call) : Lists :=
  ⟨(call.apply lists.social).1, (call.apply lists.social).2.foldl Statement.execute lists.table⟩

-- The rows of one friend
def rowsOf (guid friend : Nat) (table : List Row) : List Row :=
  table.filter fun row => row.guid = guid ∧ row.friend = friend

-- One row for each entry of the list, with its flags, and no other
def Mirrors (lists : Lists) : Prop :=
  ∀ friend, rowsOf lists.social.playerGuid friend lists.table =
    ((lists.social.playerSocialMap.lookup friend).map fun flags => ⟨lists.social.playerGuid, friend, flags⟩).toList

structure Persists (existing : Nat → Bool) (lists : Lists) : Prop where
  mirrors : Mirrors lists
  reloads : ∀ answer, Answers lists.social.playerGuid lists.table answer →
    ∀ friend, (loadFromDB existing lists.social.playerGuid answer).hasFriend friend = lists.social.hasFriend friend ∧
      (loadFromDB existing lists.social.playerGuid answer).hasIgnore friend = lists.social.hasIgnore friend
  within : ∀ flag, lists.social.getNumberOfSocialsWithFlag flag ≤ flag.limit

-- A table with one row for each friend, an existing character that is a friend,
-- ignored or both, within the limits
structure Loadable (existing : Nat → Bool) (guid : Nat) (table : List Row) : Prop where
  once : ((table.filter (·.guid = guid)).map Row.friend).Nodup
  known : ∀ row ∈ table, row.guid = guid → existing row.friend = true ∧
    (row.flags = 1 ∨ row.flags = 2 ∨ row.flags = 3)
  within : ∀ flag, (table.filter (·.guid = guid)).countP (fun row => hasFlag flag row.flags) ≤ flag.limit

-- A call that leaves each guid with one flag: the list is full for an addition,
-- or the guid is not in it, or has just the flag of the call.
def Single (lists : Lists) (call : Call) : Prop :=
  match call with
  | .addToSocialList friendGuid flag =>
    flag.limit ≤ lists.social.getNumberOfSocialsWithFlag flag ∨
      ∀ flags ∈ lists.social.playerSocialMap.lookup friendGuid, flags = flag.mask
  | .removeFromSocialList friendGuid flag =>
    ∀ flags ∈ lists.social.playerSocialMap.lookup friendGuid, flags = flag.mask

instance instDecidableEachFlags (found : Option (BitVec 32)) (mask : BitVec 32) : Decidable (∀ flags ∈ found, flags = mask) :=
  decidable_of_iff (found.all (· == mask) = true) (by cases found <;> simp)

instance (lists : Lists) (call : Call) : Decidable (Single lists call) :=
  match call with
  | .addToSocialList friendGuid flag =>
    inferInstanceAs (Decidable (_ ∨ ∀ flags ∈ lists.social.playerSocialMap.lookup friendGuid, flags = flag.mask))
  | .removeFromSocialList friendGuid flag =>
    inferInstanceAs (Decidable (∀ flags ∈ lists.social.playerSocialMap.lookup friendGuid, flags = flag.mask))

end TurtleWow.Chat
