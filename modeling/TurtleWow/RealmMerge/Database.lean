import Mathlib.Data.Int.Order.Basic
import Mathlib.Data.List.Dedup
import Mathlib.Data.List.Forall2
import Mathlib.Data.List.Sort
import TurtleWow.RealmMerge.UniqueKeyData

namespace TurtleWow.RealmMerge

open List

inductive Table
  | auction | characters | characterAction | characterArmoryStats | characterAura
  | characterAuraSuspended | characterBattlegroundData | characterBgqueue | characterDeletedItems
  | characterDestroyedItems | characterEggLoot | characterForgottenSkills | characterGifts
  | characterHomebind | characterHonorCp | characterInstance | characterInventory
  | characterItemLogs | characterPet | characterQueststatus | characterReputation | characterSkills
  | characterSocial | characterSpell | characterSpellCooldown | characterSpellDualSpec
  | characterStats | characterTicket | characterTitles | characterTransmogs | characterVariables
  | characterXpFromLog | corpse | gmTickets | groups | groupInstance | groupMember | guild
  | guildBank | guildBankLog | guildBankMoney | guildBankTabs | guildEventlog | guildHouse
  | guildMember | guildRank | hardcoreDeaths | itemInstance | itemLoot | logsMovement | logsWarden
  | mail | mailItems | petition | petitionSign | petAura | storeRacechange | whisperTargets
  deriving DecidableEq

inductive Column
  | itemowner | buyguid | guid | casterGuid | playerGUID | playerGuid | playerLowGuid | owner
  | friend | lowGuid | player | closedBy | assignedTo | leaderGuid | mainTank | mainAssistant
  | looterGuid | memberGuid | leaderguid | creatorGuid | giftCreatorGuid | playerGuid1
  | playerGuid2 | ownerGuid | sender | receiver | ownerguid | playerguid | targetGuid | itemguid
  | itemGuid | item | bag | itemLowGuid | charterguid | guildid | guildId | atLogin
  | messageType | mailTemplateId
  deriving DecidableEq

-- The columns of the schema that the statements read or write
def columns : Table → List Column
  | .auction => [.itemowner, .buyguid, .itemguid]
  | .characters => [.guid, .atLogin]
  | .characterAction | .characterArmoryStats | .characterBattlegroundData
  | .characterForgottenSkills | .characterHomebind | .characterHonorCp | .characterInstance
  | .characterQueststatus | .characterReputation | .characterSkills | .characterSpell
  | .characterSpellCooldown | .characterSpellDualSpec | .characterStats | .characterTicket
  | .characterTitles | .characterTransmogs | .characterXpFromLog | .logsMovement | .logsWarden
  | .storeRacechange => [.guid]
  | .characterAura | .characterAuraSuspended => [.guid, .casterGuid, .itemGuid]
  | .characterBgqueue => [.playerGUID]
  | .characterDeletedItems | .characterDestroyedItems => [.playerGuid]
  | .characterEggLoot => [.playerGuid, .itemGuid]
  | .characterGifts => [.guid, .itemGuid]
  | .characterInventory => [.guid, .item, .bag]
  | .characterItemLogs => [.playerLowGuid, .itemLowGuid]
  | .characterPet => [.owner]
  | .characterSocial => [.guid, .friend]
  | .characterVariables | .hardcoreDeaths => [.lowGuid]
  | .corpse => [.player]
  | .gmTickets => [.guid, .closedBy, .assignedTo]
  | .groups => [.leaderGuid, .mainTank, .mainAssistant, .looterGuid]
  | .groupInstance => [.leaderGuid]
  | .groupMember => [.memberGuid]
  | .guild => [.leaderguid, .guildid]
  | .guildBank => [.creatorGuid, .giftCreatorGuid, .guildid]
  | .guildBankLog => [.player, .guildid]
  | .guildEventlog => [.playerGuid1, .playerGuid2, .guildid]
  | .guildMember => [.guid, .guildid]
  | .itemInstance => [.ownerGuid, .creatorGuid, .giftCreatorGuid, .guid]
  | .itemLoot => [.ownerGuid, .guid]
  | .mail => [.messageType, .mailTemplateId, .sender, .receiver]
  | .mailItems => [.receiver, .itemGuid]
  | .petition => [.ownerguid, .charterguid]
  | .petitionSign => [.ownerguid, .playerguid]
  | .petAura => [.casterGuid, .itemGuid]
  | .whisperTargets => [.targetGuid]
  | .guildBankMoney | .guildBankTabs | .guildRank => [.guildid]
  | .guildHouse => [.guildId]

structure Row where
  number : Column → ℤ
  name : String

abbrev Database := Table → List Row

inductive Assignment
  | plus (n : ℕ)
  | value (n : ℕ)

inductive Condition
  | always
  | nonzero
  | atMost (n : ℕ)
  | equals (n : ℕ)
  | noTemplate

-- UPDATE `table` SET `column` = assignment WHERE condition
structure Update where
  table : Table
  column : Column
  assignment : Assignment
  condition : Condition

def Assignment.eval : Assignment → ℤ → ℤ
  | .plus n, old => old + n
  | .value n, _ => n

def Condition.holds (row : Row) (column : Column) : Condition → Bool
  | .always => true
  | .nonzero => row.number column ≠ 0
  | .atMost n => row.number column ≤ n
  | .equals n => row.number column = n
  | .noTemplate => row.number .mailTemplateId = 0

namespace Update

variable (u : Update)

def place : Table × Column := (u.table, u.column)

-- A statement that names a column its table does not have fails.
def known : Bool := u.column ∈ columns u.table

def result (row : Row) : ℤ :=
  if u.condition.holds row u.column then u.assignment.eval (row.number u.column) else row.number u.column

def apply (row : Row) : Row :=
  { row with number := fun column => if column = u.column then u.result row else row.number column }

end Update

def execute (db : Database) (u : Update) : Database :=
  if u.known then fun table => if table = u.table then (db table).map u.apply else db table else db

def executeAll (db : Database) (updates : List Update) : Database := updates.foldl execute db

-- What the statements do to one row of a table
def rowAfter (table : Table) (updates : List Update) (row : Row) : Row :=
  updates.foldl (fun row u => if u.known ∧ table = u.table then u.apply row else row) row

theorem executeAll_rows (db : Database) (updates : List Update) (table : Table) :
    executeAll db updates table = (db table).map (rowAfter table updates) := by
  induction updates generalizing db with
  | nil => exact (map_id' _).symm
  | cons u rest ih =>
    rw [executeAll, foldl_cons, ← executeAll, ih]
    unfold execute
    by_cases hknown : u.known
    · rw [if_pos hknown]
      by_cases htable : table = u.table
      · rw [if_pos htable, map_map]
        refine map_congr_left fun row _ => ?_
        simp only [rowAfter, foldl_cons, hknown, htable, and_self, if_true, Function.comp_apply]
      · rw [if_neg htable]
        refine map_congr_left fun row _ => ?_
        simp only [rowAfter, foldl_cons, htable, and_false, if_false]
    · rw [if_neg hknown]
      refine map_congr_left fun row _ => ?_
      simp only [rowAfter, foldl_cons, hknown, false_and, if_false, Bool.false_eq_true]

variable {table : Table} {column : Column} {updates : List Update} {row : Row}

theorem apply_number_ne (u : Update) (row : Row) (h : column ≠ u.column) : (u.apply row).number column = row.number column :=
  if_neg h

theorem rowAfter_cons (u : Update) :
    rowAfter table (u :: updates) row
      = rowAfter table updates (if u.known ∧ table = u.table then u.apply row else row) := rfl

theorem rowAfter_append (first second : List Update) :
    rowAfter table (first ++ second) row = rowAfter table second (rowAfter table first row) :=
  foldl_append

theorem rowAfter_number (h : ∀ u ∈ updates, u.place ≠ (table, column)) :
    (rowAfter table updates row).number column = row.number column := by
  induction updates generalizing row with
  | nil => rfl
  | cons u rest ih =>
    rw [rowAfter_cons, ih fun v hv => h v (mem_cons_of_mem _ hv)]
    by_cases happlied : u.known ∧ table = u.table
    · rw [if_pos happlied]
      refine apply_number_ne u row fun hcolumn => h u mem_cons_self ?_
      rw [Update.place, ← happlied.2, ← hcolumn]
    · rw [if_neg happlied]

theorem holds_congr {row other : Row} (condition : Condition) (hcolumn : row.number column = other.number column)
    (htemplate : row.number .mailTemplateId = other.number .mailTemplateId) :
    condition.holds row column = condition.holds other column := by
  cases condition <;> simp only [Condition.holds, hcolumn, htemplate]

theorem result_congr {row other : Row} (u : Update) (hcolumn : row.number u.column = other.number u.column)
    (htemplate : row.number .mailTemplateId = other.number .mailTemplateId) : u.result row = u.result other := by
  rw [Update.result, Update.result, holds_congr u.condition hcolumn htemplate, hcolumn]

variable (row) in
-- The statement that names a column decides it when no other does and none
-- writes what its condition reads.
theorem rowAfter_of_mem {u : Update} (hnodup : (updates.map Update.place).Nodup) (hmem : u ∈ updates)
    (hknown : u.known) (htemplate : ∀ v ∈ updates, v.column ≠ .mailTemplateId) :
    (rowAfter u.table updates row).number u.column = u.result row := by
  obtain ⟨before, after, rfl⟩ := append_of_mem hmem
  rw [map_append, map_cons, nodup_append, nodup_cons] at hnodup
  obtain ⟨-, ⟨hafter, -⟩, hbefore⟩ := hnodup
  rw [rowAfter_append, rowAfter_cons, if_pos ⟨hknown, rfl⟩,
    rowAfter_number fun v hv hplace => hafter (mem_map.mpr ⟨v, hv, hplace⟩)]
  have hcolumn : (rowAfter u.table before row).number u.column = row.number u.column :=
    rowAfter_number fun v hv hplace =>
      hbefore _ (mem_map_of_mem hv) _ mem_cons_self hplace
  have hmail : (rowAfter u.table before row).number .mailTemplateId = row.number .mailTemplateId :=
    rowAfter_number fun v hv hplace =>
      htemplate v (mem_append_left _ hv) (congrArg Prod.snd hplace)
  exact (if_pos rfl).trans (result_congr u hcolumn hmail)

theorem rowAfter_unknown (hcolumn : column ∉ columns table) :
    (rowAfter table updates row).number column = row.number column := by
  induction updates generalizing row with
  | nil => rfl
  | cons u rest ih =>
    rw [rowAfter_cons, ih]
    by_cases happlied : u.known ∧ table = u.table
    · rw [if_pos happlied]
      refine apply_number_ne u row fun hsame => hcolumn ?_
      rw [hsame, happlied.2]
      exact of_decide_eq_true happlied.1
    · rw [if_neg happlied]

def int32Max : ℕ := 2147483647

-- std::set, walked in the order of the keys
def keysOf (db : Database) (table : Table) (column : Column) : List ℕ :=
  ((db table).map fun row => (row.number column).toNat).dedup.insertionSort (· ≤ ·)

-- UPDATE `table` SET `column` = (`column` + %u) WHERE condition
structure Shift where
  table : Table
  column : Column
  condition : Condition

def Shift.update (shift : Shift) (maxKey : ℕ) : Update := ⟨shift.table, shift.column, .plus maxKey, shift.condition⟩

-- UPDATE `table` SET `column` = %u WHERE `column` = %u
def replaceUpdate (newKey key : ℕ) (place : Table × Column) : Update :=
  ⟨place.1, place.2, .value newKey, .equals key⟩

def slowMethod (places : List (Table × Column)) : UniqueKeyData → List ℕ → Database → Database
  | _, [], db => db
  | data, key :: rest, db =>
    let ((newKey, replaced), data') := data.replaceKeyIfNeeded key
    slowMethod places data' rest (if replaced then executeAll db (places.map (replaceUpdate newKey key)) else db)

-- The part that the three functions share
def updateKeys (fast : ℕ → List Shift) (slow : List (Table × Column)) (existingKeys1 existingKeys2 : List ℕ)
    (db2 : Database) : Database :=
  let maxKey1 := existingKeys1.getLastD 0
  let maxKey2 := existingKeys2.getLastD 0
  let maxKey := max maxKey1 maxKey2
  if maxKey + maxKey2 < int32Max then executeAll db2 ((fast maxKey2).map fun shift => shift.update maxKey)
  else slowMethod slow { existingKeys1, existingKeys2 } existingKeys2 db2

def fastCharacters (maxCharGuid2 : ℕ) : List Shift := [
  ⟨.auction, .itemowner, .always⟩, ⟨.auction, .buyguid, .nonzero⟩, ⟨.characters, .guid, .always⟩,
  ⟨.characterAction, .guid, .always⟩, ⟨.characterArmoryStats, .guid, .always⟩,
  ⟨.characterAura, .guid, .always⟩, ⟨.characterAura, .casterGuid, .atMost maxCharGuid2⟩,
  ⟨.characterAuraSuspended, .guid, .always⟩,
  ⟨.characterAuraSuspended, .casterGuid, .atMost maxCharGuid2⟩,
  ⟨.characterBattlegroundData, .guid, .always⟩, ⟨.characterBgqueue, .playerGUID, .always⟩,
  ⟨.characterDeletedItems, .playerGuid, .always⟩, ⟨.characterDestroyedItems, .playerGuid, .always⟩,
  ⟨.characterEggLoot, .playerGuid, .always⟩, ⟨.characterForgottenSkills, .guid, .always⟩,
  ⟨.characterGifts, .guid, .always⟩, ⟨.characterHomebind, .guid, .always⟩,
  ⟨.characterHonorCp, .guid, .always⟩, ⟨.characterInstance, .guid, .always⟩,
  ⟨.characterInventory, .guid, .always⟩, ⟨.characterItemLogs, .playerLowGuid, .always⟩,
  ⟨.characterPet, .owner, .always⟩, ⟨.characterQueststatus, .guid, .always⟩,
  ⟨.characterReputation, .guid, .always⟩, ⟨.characterSkills, .guid, .always⟩,
  ⟨.characterSocial, .guid, .always⟩, ⟨.characterSocial, .friend, .always⟩,
  ⟨.characterSpell, .guid, .always⟩, ⟨.characterSpellCooldown, .guid, .always⟩,
  ⟨.characterSpellDualSpec, .guid, .always⟩, ⟨.characterStats, .guid, .always⟩,
  ⟨.characterTicket, .guid, .always⟩, ⟨.characterTitles, .guid, .always⟩,
  ⟨.characterTransmogs, .guid, .always⟩, ⟨.characterVariables, .lowGuid, .always⟩,
  ⟨.characterXpFromLog, .guid, .always⟩, ⟨.corpse, .player, .always⟩, ⟨.gmTickets, .guid, .always⟩,
  ⟨.gmTickets, .closedBy, .nonzero⟩, ⟨.gmTickets, .assignedTo, .nonzero⟩,
  ⟨.groups, .leaderGuid, .always⟩, ⟨.groups, .mainTank, .nonzero⟩,
  ⟨.groups, .mainAssistant, .nonzero⟩, ⟨.groups, .looterGuid, .nonzero⟩,
  ⟨.groupInstance, .leaderGuid, .always⟩, ⟨.groupMember, .memberGuid, .always⟩,
  ⟨.guild, .leaderguid, .always⟩, ⟨.guildBank, .creatorGuid, .nonzero⟩,
  ⟨.guildBank, .giftCreatorGuid, .nonzero⟩, ⟨.guildBankLog, .player, .nonzero⟩,
  ⟨.guildEventlog, .playerGuid1, .nonzero⟩, ⟨.guildEventlog, .playerGuid2, .nonzero⟩,
  ⟨.guildMember, .guid, .always⟩, ⟨.hardcoreDeaths, .lowGuid, .always⟩,
  ⟨.itemInstance, .ownerGuid, .always⟩, ⟨.itemInstance, .creatorGuid, .nonzero⟩,
  ⟨.itemInstance, .giftCreatorGuid, .nonzero⟩, ⟨.itemLoot, .ownerGuid, .always⟩,
  ⟨.logsMovement, .guid, .always⟩, ⟨.logsWarden, .guid, .nonzero⟩, ⟨.mail, .sender, .noTemplate⟩,
  ⟨.mail, .receiver, .always⟩, ⟨.mailItems, .receiver, .always⟩, ⟨.petition, .ownerguid, .always⟩,
  ⟨.petitionSign, .ownerguid, .always⟩, ⟨.petitionSign, .playerguid, .always⟩,
  ⟨.petAura, .casterGuid, .atMost maxCharGuid2⟩, ⟨.storeRacechange, .guid, .always⟩,
  ⟨.whisperTargets, .targetGuid, .always⟩]

def slowCharacters : List (Table × Column) := [
  (.auction, .itemowner), (.auction, .buyguid), (.characters, .guid), (.characterAction, .guid),
  (.characterArmoryStats, .guid), (.characterAura, .guid), (.characterAura, .casterGuid),
  (.characterAuraSuspended, .guid), (.characterAuraSuspended, .casterGuid),
  (.characterBattlegroundData, .guid), (.characterBgqueue, .playerGUID),
  (.characterDeletedItems, .playerGuid), (.characterDestroyedItems, .playerGuid),
  (.characterEggLoot, .playerGuid), (.characterForgottenSkills, .guid), (.characterGifts, .guid),
  (.characterHomebind, .guid), (.characterHonorCp, .guid), (.characterInstance, .guid),
  (.characterInventory, .guid), (.characterItemLogs, .playerLowGuid), (.characterPet, .owner),
  (.characterQueststatus, .guid), (.characterReputation, .guid), (.characterSkills, .guid),
  (.characterSocial, .guid), (.characterSocial, .friend), (.characterSpell, .guid),
  (.characterSpellCooldown, .guid), (.characterSpellDualSpec, .guid), (.characterStats, .guid),
  (.characterTicket, .guid), (.characterTitles, .guid), (.characterTransmogs, .guid),
  (.characterVariables, .lowGuid), (.characterXpFromLog, .guid), (.corpse, .player),
  (.gmTickets, .guid), (.gmTickets, .closedBy), (.gmTickets, .assignedTo), (.groups, .leaderGuid),
  (.groups, .mainTank), (.groups, .mainAssistant), (.groups, .looterGuid),
  (.groupInstance, .leaderGuid), (.groupMember, .memberGuid), (.guild, .leaderguid),
  (.guildBank, .creatorGuid), (.guildBank, .giftCreatorGuid), (.guildBankLog, .player),
  (.guildEventlog, .playerGuid1), (.guildEventlog, .playerGuid2), (.guildMember, .guid),
  (.hardcoreDeaths, .lowGuid), (.itemInstance, .ownerGuid), (.itemInstance, .creatorGuid),
  (.itemInstance, .giftCreatorGuid), (.itemLoot, .ownerGuid), (.logsMovement, .guid),
  (.logsWarden, .guid), (.mail, .sender), (.mail, .receiver), (.mailItems, .receiver),
  (.petition, .ownerguid), (.petitionSign, .ownerguid), (.petitionSign, .playerguid),
  (.petAura, .casterGuid), (.storeRacechange, .guid), (.whisperTargets, .targetGuid)]

def fastItems : List Shift := [
  ⟨.auction, .itemguid, .always⟩, ⟨.characterAura, .itemGuid, .nonzero⟩,
  ⟨.characterAuraSuspended, .itemGuid, .nonzero⟩, ⟨.characterEggLoot, .itemGuid, .always⟩,
  ⟨.characterGifts, .itemGuid, .always⟩, ⟨.characterInventory, .item, .always⟩,
  ⟨.characterInventory, .bag, .nonzero⟩, ⟨.characterItemLogs, .itemLowGuid, .always⟩,
  ⟨.itemInstance, .guid, .always⟩, ⟨.itemLoot, .guid, .always⟩, ⟨.mailItems, .itemGuid, .always⟩,
  ⟨.petition, .charterguid, .always⟩, ⟨.petAura, .itemGuid, .nonzero⟩]

def slowItems : List (Table × Column) := [
  (.auction, .itemguid), (.characterAura, .itemGuid), (.characterAuraSuspended, .itemGuid),
  (.characterEggLoot, .itemGuid), (.characterGifts, .itemGuid), (.characterInventory, .item),
  (.characterInventory, .bag), (.characterItemLogs, .itemLowGuid), (.itemInstance, .guid),
  (.itemLoot, .guid), (.mailItems, .itemGuid), (.petition, .charterguid), (.petAura, .itemGuid)]

def fastGuilds : List Shift := [
  ⟨.guild, .guildid, .always⟩, ⟨.guildBank, .guildid, .always⟩, ⟨.guildBankLog, .guildid, .always⟩,
  ⟨.guildBankMoney, .guildid, .always⟩, ⟨.guildBankTabs, .guildid, .always⟩,
  ⟨.guildEventlog, .guildid, .always⟩, ⟨.guildHouse, .guildId, .always⟩,
  ⟨.guildMember, .guildid, .always⟩, ⟨.guildRank, .guildid, .always⟩]

def slowGuilds : List (Table × Column) := [
  (.guild, .guildid), (.guildBank, .guildid), (.guildBankLog, .guildid),
  (.guildBankMoney, .guildid), (.guildBankTabs, .guildid), (.guildEventlog, .guildid),
  (.guildHouse, .guildid), (.guildMember, .guildid), (.guildRank, .guildid)]

def atLoginRename : ℕ := 1

def nameOf (db : Database) (table : Table) (column : Column) (key : ℕ) : String :=
  (((db table).find? fun row => row.number column = (key : ℤ)).map Row.name).getD ""

def namesOf (db : Database) (table : Table) : List String := (db table).map Row.name

-- UPDATE `characters` SET `name` = guid, `at_login` = (`at_login` | %u) WHERE `guid` = %u
def markForRename (guid : ℕ) (row : Row) : Row :=
  if row.number .guid = guid then
    { number := fun column =>
        if column = .atLogin then (((row.number .atLogin).toNat ||| atLoginRename : ℕ) : ℤ) else row.number column
      name := toString guid }
  else row

def updateCharacterNames (characterNames1 : List String) (characterGuids2 : List ℕ) (db2 : Database) : Database :=
  characterGuids2.foldl (fun db guid =>
    let name := nameOf db2 .characters .guid guid
    if name ≠ "" ∧ name ∈ characterNames1 then
      fun table => if table = .characters then (db table).map (markForRename guid) else db table
    else db) db2

-- chr < 'z': the last letter is not used
def nameLetters : List Char := (List.range 25).map fun offset => Char.ofNat (97 + offset)

def generateGuildName (guildNames1 : List String) : String × List String :=
  let names := nameLetters.flatMap fun chr1 => nameLetters.flatMap fun chr2 => nameLetters.flatMap fun chr3 =>
    nameLetters.map fun chr4 => String.ofList ['P', 'H', ' ', chr1, chr2, chr3, chr4]
  match names.find? fun name => name ∉ guildNames1 with
  | some name => (name, name :: guildNames1)
  | none => ("DUPLICATE", guildNames1)

-- UPDATE `guild` SET `name` = '%s' WHERE `guildid` = %u
def setGuildName (name : String) (guildId : ℕ) (row : Row) : Row :=
  if row.number .guildid = guildId then { row with name } else row

def updateGuildNames (guildNames1 : List String) (guildIds2 : List ℕ) (db2 : Database) : Database :=
  (guildIds2.foldl (fun (names, db) guildId =>
    let name := nameOf db2 .guild .guildid guildId
    if name ≠ "" ∧ name ∈ names then
      let (newName, names) := generateGuildName names
      (names, fun table => if table = .guild then (db table).map (setGuildName newName guildId) else db table)
    else (names, db)) (guildNames1, db2)).2

def updateCharacterGuids (db1 db2 : Database) : Bool × Database :=
  let existingKeys1 := keysOf db1 .characters .guid
  let existingKeys2 := keysOf db2 .characters .guid
  if existingKeys1 = [] then (false, db2)
  else if existingKeys2 = [] then (false, db2)
  else if int32Max < existingKeys1.length + existingKeys2.length then (false, db2)
  else
    let db2 := updateCharacterNames (namesOf db1 .characters) existingKeys2 db2
    (true, updateKeys fastCharacters slowCharacters existingKeys1 existingKeys2 db2)

def updateItemGuids (db1 db2 : Database) : Bool × Database :=
  let existingKeys1 := keysOf db1 .itemInstance .guid
  let existingKeys2 := keysOf db2 .itemInstance .guid
  if int32Max < existingKeys1.length + existingKeys2.length then (false, db2)
  else if existingKeys1 ≠ [] ∧ existingKeys2 ≠ [] then
    (true, updateKeys (fun _ => fastItems) slowItems existingKeys1 existingKeys2 db2)
  else (true, db2)

def updateGuildIds (db1 db2 : Database) : Bool × Database :=
  let existingKeys1 := keysOf db1 .guild .guildid
  let existingKeys2 := keysOf db2 .guild .guildid
  if int32Max < existingKeys1.length + existingKeys2.length then (false, db2)
  else
    let db2 := updateGuildNames (namesOf db1 .guild) existingKeys2 db2
    if existingKeys1 ≠ [] ∧ existingKeys2 ≠ [] then
      (true, updateKeys (fun _ => fastGuilds) slowGuilds existingKeys1 existingKeys2 db2)
    else (true, db2)

end TurtleWow.RealmMerge
