import Mathlib.Data.Nat.Basic
import Mathlib.Logic.Function.Basic
import Mathlib.Order.Basic
import TurtleWow.Lib.Multimap
import TurtleWow.Lib.Run

namespace TurtleWow.Skills

open Run

-- The skills of a player: the status map, the update fields and the stored rows

inductive SkillUpdateState
  | unchanged
  | changed
  | new
  | deleted
deriving DecidableEq

structure SkillStatusData where
  pos : Nat
  uState : SkillUpdateState
deriving DecidableEq

inductive SkillRangeType
  | language
  | level
  | mono
  | rank
deriving DecidableEq

structure SkillRaceClassInfo where
  flags : Nat
  skillTier : Bool

structure SkillLineAbility where
  skillId : Nat
  spellId : Nat
  racemask : Nat
  classmask : Nat
  reqSkillValue : Nat
  learnOnGetSkill : Nat
  maxValue : Nat

structure SpellLearnSkillNode where
  skill : Nat
  step : Nat
  value : Nat
  maxvalue : Nat

-- The tables for the race and class of the player. `skillLine` is the category of a
-- skill line.
structure Tables where
  skillLine : Nat → Option Nat
  skillRaceClassInfo : Nat → Option SkillRaceClassInfo
  skillLineAbilitiesBySkill : Nat → List SkillLineAbility
  skillLineAbilitiesBySpell : Nat → List SkillLineAbility
  spellLearnSkill : Nat → Option SpellLearnSkillNode
  spellSkillBonuses : Nat → List (Nat × Int)
  prevSpellInChain : Nat → Nat
  firstSpellInChain : Nat → Nat
  raceMask : Nat
  classMask : Nat
  alwaysMaxSkillForLevel : Bool
  configMaxSkillValue : Nat

abbrev Level := { level : Nat // 0 < level ∧ level ≤ 255 }

structure Trained where
  spellId : Nat
  apply : Bool
  hardReset : Bool

-- A field of two 16-bit halves is a pair. `modSkill` are the auras that modify a skill,
-- with their amount and whether they are permanent; `spellCalls` are, for the calls of
-- LearnSpell, AddSpell and RemoveSpell still to come, the spells whose skills each
-- updates. `characterSkills` are the rows of the player.
structure Player where
  skillStatus : OrderedMap Nat SkillStatusData
  skillIndex : Nat → Nat × Nat
  skillValue : Nat → Nat × Nat
  skillBonus : Nat → Int × Int
  forgottenSkills : OrderedMap Nat Nat
  modSkill : List (Nat × Int × Bool)
  level : Level
  spellCalls : List (List Trained)
  characterSkills : OrderedMap Nat (Nat × Nat)
  characterForgottenSkills : OrderedMap Nat Nat

def playerMaxSkills : Nat := 127

def skillPoisons : Nat := 40
def skillFirstAid : Nat := 129
def skillSurvival2 : Nat := 142
def skillCooking : Nat := 185
def skillFishing : Nat := 356
def skillLockpicking : Nat := 633
def skillRiding : Nat := 762

def skillCategoryWeapon : Nat := 6
def skillCategoryClass : Nat := 7
def skillCategoryArmor : Nat := 8
def skillCategorySecondary : Nat := 9
def skillCategoryLanguages : Nat := 10
def skillCategoryProfession : Nat := 11

def skillFlagAlwaysMaxValue : Nat := 0x10
def skillFlagMonoValue : Nat := 0x400

def abilityLearnedOnGetRaceOrClassSkill : Nat := 2

def u16 (n : Nat) : Nat := n % 2 ^ 16

def i16 (n : Int) : Int := n.bmod (2 ^ 16)

def getSkillRangeType (category : Nat) (rcInfo : SkillRaceClassInfo) : SkillRangeType :=
  if rcInfo.skillTier then .rank
  else if category = skillCategoryArmor then .mono
  else if category = skillCategoryLanguages then .language
  else .level

namespace Tables

variable (t : Tables)

def isProfessionSkill (skill : Nat) : Bool :=
  t.skillLine skill = some skillCategoryProfession || skill = skillFishing || skill = skillCooking ||
    skill = skillFirstAid || skill = skillSurvival2

def isProfessionOrRidingSkill (skill : Nat) : Bool := t.isProfessionSkill skill || skill = skillRiding

end Tables

namespace Player

def initial : Player where
  skillStatus := OrderedMap.empty
  skillIndex := fun _ => (0, 0)
  skillValue := fun _ => (0, 0)
  skillBonus := fun _ => (0, 0)
  forgottenSkills := OrderedMap.empty
  modSkill := []
  level := ⟨1, by omega⟩
  spellCalls := []
  characterSkills := OrderedMap.empty
  characterForgottenSkills := OrderedMap.empty

section

variable (p : Player)

def getSkillMaxForLevel : Nat := u16 (p.level * 5)

section

variable (id : Nat)

def live : Option SkillStatusData :=
  (p.skillStatus.find id).filter fun status => status.uState ≠ .deleted

def hasSkill : Bool := id ≠ 0 && (p.live id).isSome

def getSkillValuePure : Nat :=
  if id = 0 then 0
  else match p.live id with
    | none => 0
    | some status => (p.skillValue status.pos).1

def getSkillMaxPure : Nat :=
  if id = 0 then 0
  else match p.live id with
    | none => 0
    | some status => (p.skillValue status.pos).2

def modifySkillBonus (diff : Int) (permanent : Bool) : Player :=
  if id = 0 ∨ diff = 0 then p
  else match p.live id with
    | none => p
    | some status =>
      let bonus := p.skillBonus status.pos
      { p with
        skillBonus := Function.update p.skillBonus status.pos
          (if permanent then (bonus.1, i16 (bonus.2 + diff)) else (i16 (bonus.1 + diff), bonus.2)) }

def applyModSkill (apply : Bool) : Player :=
  p.modSkill.foldl
    (fun p aura => if aura.1 = id then p.modifySkillBonus id (if apply then aura.2.1 else -aura.2.1) aura.2.2 else p) p

def markChanged (status : SkillStatusData) : SkillStatusData :=
  if status.uState ≠ .new then { status with uState := .changed } else status

def setValue (status : SkillStatusData) (value max : Nat) : Player :=
  { p with
    skillValue := Function.update p.skillValue status.pos (u16 value, max)
    skillStatus := p.skillStatus.insert id (markChanged status) }

def clearFields (pos : Nat) : Player :=
  { p with
    skillIndex := Function.update p.skillIndex pos (0, 0)
    skillValue := Function.update p.skillValue pos (0, 0)
    skillBonus := Function.update p.skillBonus pos (0, 0) }

def removeStatus (status : SkillStatusData) : Player :=
  { p with
    skillStatus :=
      if status.uState ≠ .new then p.skillStatus.insert id { status with uState := .deleted } else p.skillStatus.erase id }

end

def addFields (id pos currVal maxVal step : Nat) : Player :=
  { p with
    skillIndex := Function.update p.skillIndex pos (id, step)
    skillValue := Function.update p.skillValue pos (currVal, maxVal)
    skillStatus := p.skillStatus.insert id ⟨pos, if (p.skillStatus.find id).isSome then .changed else .new⟩
    skillBonus := Function.update p.skillBonus pos (0, 0) }

end

-- SetSkill up to its calls of UpdateSkillTrainedSpells, with the value given to these
def setSkillFields (t : Tables) (p : Player) (id currVal maxVal step : Nat) : Player × Option Nat :=
  if id = 0 then (p, none)
  else match p.live id with
    | some status =>
      if currVal ≠ 0 then
        let p := if step ≠ 0 then { p with skillIndex := Function.update p.skillIndex status.pos (id, step) } else p
        (p.setValue id status currVal maxVal, some currVal)
      else (((p.applyModSkill id false).clearFields status.pos).removeStatus id status, some 0)
    | none =>
      if currVal ≠ 0 then
        match (List.range playerMaxSkills).find? fun i => p.skillIndex i = (0, 0) with
        | none => (p, none)
        | some i =>
          if t.skillLine id = none then (p, none)
          else ((p.addFields id i currVal maxVal step).applyModSkill id true, some currVal)
      else (p, none)

section

-- `set` is SetSkill as the nested calls find it, with 16-bit arguments.
variable (t : Tables) (set : Player → Nat → Nat → Nat → Nat → Player)

def searchPrevSkill : Nat → Nat → Option SpellLearnSkillNode
  | 0, _ => none
  | n + 1, prevSpell =>
    if prevSpell = 0 then none
    else
      let prevSpell := t.prevSpellInChain prevSpell
      match t.spellLearnSkill (t.firstSpellInChain prevSpell) with
      | some node => some node
      | none => searchPrevSkill n prevSpell

def applyBonuses (p : Player) (spellId : Nat) (apply : Bool) : Player :=
  (t.spellSkillBonuses spellId).foldl
    (fun p bonus =>
      if p.hasSkill bonus.1 then p.modifySkillBonus bonus.1 (if apply then bonus.2 else -bonus.2) true else p) p

-- A spell that teaches a skill. `chain` bounds the length of its chain.
def updateLearnedSkill (chain : Nat) (p : Player) (spellId : Nat) (apply : Bool) (node : SpellLearnSkillNode) : Player :=
  if apply then
    set p node.skill (max node.value (p.getSkillValuePure node.skill))
      (max (if node.maxvalue = 0 then p.getSkillMaxForLevel else node.maxvalue) (p.getSkillMaxPure node.skill)) node.step
  else
    let prevSpell := t.prevSpellInChain spellId
    if prevSpell = 0 then set p node.skill 0 0 0
    else
      match (t.spellLearnSkill prevSpell).or (searchPrevSkill t chain prevSpell) with
      | none => set p node.skill 0 0 0
      | some prev =>
        set p prev.skill (min prev.value (p.getSkillValuePure prev.skill))
          (min (if prev.maxvalue = 0 then p.getSkillMaxForLevel else prev.maxvalue) (p.getSkillMaxPure prev.skill))
          prev.step

def learnsOnGetSkill (skill : Nat) (ability : SkillLineAbility) (rcInfo : SkillRaceClassInfo) : Bool :=
  ability.learnOnGetSkill = abilityLearnedOnGetRaceOrClassSkill ||
    rcInfo.flags = skillFlagAlwaysMaxValue ||| skillFlagMonoValue ||
    skill = skillPoisons && ability.maxValue = 0 || skill = skillLockpicking && ability.maxValue = 0

def newSkillValue (p : Player) (skill category : Nat) (rcInfo : SkillRaceClassInfo) : Nat :=
  let value :=
    if t.alwaysMaxSkillForLevel || rcInfo.flags &&& skillFlagAlwaysMaxValue ≠ 0 then p.getSkillMaxForLevel else 1
  if category = skillCategoryWeapon then
    match p.forgottenSkills.find skill with
    | none => value
    | some saved => if saved ≤ p.getSkillMaxForLevel then saved else value
  else value

def learnAbilitySkill (p : Player) (ability : SkillLineAbility) (category : Nat) : Player :=
  let skill := u16 ability.skillId
  if p.hasSkill skill then p
  else match t.skillRaceClassInfo ability.skillId with
    | none => p
    | some rcInfo =>
      if learnsOnGetSkill ability.skillId ability rcInfo then
        match getSkillRangeType category rcInfo with
        | .language => set p skill 300 300 0
        | .level => set p skill (newSkillValue t p skill category rcInfo) p.getSkillMaxForLevel 0
        | .mono => set p skill 1 1 0
        | .rank => p
      else p

def rememberSkill (p : Player) (skill category : Nat) : Player :=
  if category = skillCategoryWeapon then
    { p with
      forgottenSkills := p.forgottenSkills.insert skill
        (max (p.getSkillValuePure skill) ((p.forgottenSkills.find skill).getD 0)) }
  else p

def forgetAbilitySkill (p : Player) (ability : SkillLineAbility) (category : Nat) (hardReset : Bool) : Player :=
  let skill := u16 ability.skillId
  if (ability.learnOnGetSkill = abilityLearnedOnGetRaceOrClassSkill && category ≠ skillCategoryClass) ||
      (ability.skillId = skillPoisons || ability.skillId = skillLockpicking) && ability.maxValue = 0 then
    if !hardReset && (category = skillCategorySecondary || category = skillCategoryProfession) &&
        (t.isProfessionSkill ability.skillId || ability.racemask ≠ 0) then p
    else set (p.rememberSkill skill category) skill 0 0 0
  else p

def updateSpellTrainedSkills (chain : Nat) (p : Player) (trained : Trained) : Player :=
  let p := applyBonuses t p trained.spellId trained.apply
  match t.spellLearnSkill trained.spellId with
  | some node => updateLearnedSkill t set chain p trained.spellId trained.apply node
  | none =>
    (t.skillLineAbilitiesBySpell trained.spellId).foldl
      (fun p ability =>
        match t.skillLine ability.skillId with
        | none => p
        | some category =>
          if trained.apply then learnAbilitySkill t set p ability category
          else forgetAbilitySkill t set p ability category trained.hardReset) p

def spellCall (chain : Nat) (p : Player) : Player :=
  match p.spellCalls with
  | [] => p
  | trained :: rest => trained.foldl (updateSpellTrainedSkills t set chain) { p with spellCalls := rest }

def updateSkillTrainedSpells (chain : Nat) (p : Player) (id currVal : Nat) : Player :=
  (t.skillLineAbilitiesBySkill id).foldl
    (fun p ability =>
      if currVal = 0 then spellCall t set chain p
      else if ability.learnOnGetSkill = 0 then p
      else if ability.racemask ≠ 0 ∧ ability.racemask &&& t.raceMask = 0 then p
      else if ability.classmask ≠ 0 ∧ ability.classmask &&& t.classMask = 0 then p
      else spellCall t set chain p) p

end

-- `depth` bounds the nesting of the calls.
def setSkill (t : Tables) : Nat → Player → Nat → Nat → Nat → Nat → Player
  | 0, p, _, _, _, _ => p
  | depth + 1, p, id, currVal, maxVal, step =>
    match setSkillFields t p (u16 id) (u16 currVal) (u16 maxVal) (u16 step) with
    | (p, none) => p
    | (p, some value) => updateSkillTrainedSpells t (setSkill t depth) depth p (u16 id) value

-- UpdateSkill; UpdateSkillPro is the same after a roll.
def updateSkill (p : Player) (id step : Nat) : Player :=
  if id = 0 then p
  else match p.live id with
    | none => p
    | some status =>
      let value := p.skillValue status.pos
      if value.2 = 0 ∨ value.1 = 0 ∨ value.2 ≤ value.1 then p
      else p.setValue id status (min ((value.1 + step) % 2 ^ 32) value.2) value.2

def updateSkillForLevel (t : Tables) (p : Player) (id : Nat) : Player :=
  match p.live id, t.skillLine id, t.skillRaceClassInfo id with
  | some status, some category, some rcInfo =>
    let value := p.skillValue status.pos
    if getSkillRangeType category rcInfo ≠ .level ∨ value.2 = 1 then p
    else if t.alwaysMaxSkillForLevel || rcInfo.flags &&& skillFlagAlwaysMaxValue ≠ 0 then
      p.setValue id status p.getSkillMaxForLevel p.getSkillMaxForLevel
    else if value.2 ≠ t.configMaxSkillValue then p.setValue id status value.1 p.getSkillMaxForLevel
    else p
  | _, _, _ => p

def updateSkillsForLevel (t : Tables) (p : Player) : Player := p.skillStatus.keys.foldl (updateSkillForLevel t) p

def updateSkillToMax (t : Tables) (p : Player) (id : Nat) : Player :=
  match p.live id with
  | none => p
  | some status =>
    if t.isProfessionOrRidingSkill id then p
    else if 1 < (p.skillValue status.pos).2 then
      p.setValue id status (p.skillValue status.pos).2 (p.skillValue status.pos).2
    else p

def updateSkillsToMaxSkillsForLevel (t : Tables) (p : Player) : Player := p.skillStatus.keys.foldl (updateSkillToMax t) p

-- INSERT of a present row fails, and UPDATE of an absent one finds none.
def saveSkill (p : Player) (id : Nat) : Player :=
  match p.skillStatus.find id with
  | none => p
  | some status =>
    let unchanged := p.skillStatus.insert id { status with uState := .unchanged }
    let row := p.characterSkills.insert id (p.skillValue status.pos)
    match status.uState with
    | .unchanged => p
    | .deleted => { p with characterSkills := p.characterSkills.erase id, skillStatus := p.skillStatus.erase id }
    | .new =>
      { p with
        characterSkills := if p.characterSkills.find id = none then row else p.characterSkills
        skillStatus := unchanged }
    | .changed =>
      { p with
        characterSkills := if p.characterSkills.find id = none then p.characterSkills else row
        skillStatus := unchanged }

def saveForgotten (p : Player) (entry : Nat × Nat) : Player :=
  if 1 < entry.2 then { p with characterForgottenSkills := p.characterForgottenSkills.insert entry.1 entry.2 } else p

def saveSkills (p : Player) : Player :=
  let p := p.skillStatus.keys.foldl saveSkill p
  p.forgottenSkills.entries.foldl saveForgotten p

inductive Step
  | setSkill (depth id currVal maxVal step : Nat) (spellCalls : List (List Trained))
  -- a spell learned or removed from outside
  | trained (depth : Nat) (trained : Trained) (spellCalls : List (List Trained))
  | updateSkill (id step : Nat)
  | updateSkillsForLevel
  | updateSkillsToMaxSkillsForLevel
  | modifySkillBonus (id : Nat) (diff : Int) (permanent : Bool)
  | modSkill (auras : List (Nat × Int × Bool))
  | level (level : Level)
  | saveSkills

def step (t : Tables) (p : Player) : Step → Player
  | .setSkill depth id currVal maxVal step spellCalls =>
    setSkill t depth { p with spellCalls := spellCalls } id currVal maxVal step
  | .trained depth trained spellCalls =>
    updateSpellTrainedSkills t (setSkill t depth) depth { p with spellCalls := spellCalls } trained
  | .updateSkill id step => p.updateSkill id step
  | .updateSkillsForLevel => p.updateSkillsForLevel t
  | .updateSkillsToMaxSkillsForLevel => p.updateSkillsToMaxSkillsForLevel t
  | .modifySkillBonus id diff permanent => p.modifySkillBonus id diff permanent
  | .modSkill auras => { p with modSkill := auras }
  | .level level => { p with level := level }
  | .saveSkills => p.saveSkills

end Player

end TurtleWow.Skills
