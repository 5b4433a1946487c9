import TurtleWow.Lib.Chain
import TurtleWow.Lib.Lists
import TurtleWow.Lib.Multimap
import TurtleWow.Pools.Spawns

namespace TurtleWow.Pools

open Chain List

-- How the pools of pools are loaded: which pool is in which, and what of that
-- the check for circles leaves.

structure MapEntry where
  id : Nat
  instanceable : Bool
deriving DecidableEq

structure PoolTemplateData where
  mapEntry : Option MapEntry
  maxLimit : Nat
  autoSpawn : Bool

structure PoolGroup where
  poolId : Nat
  explicitlyChanced : List PoolObject
  equalChanced : List PoolObject

-- The search map leads from a pool to its mother.
structure PoolTables where
  maxPoolId : Nat
  template : Nat → PoolTemplateData
  poolGroup : Nat → PoolGroup
  searchMap : OrderedMap Nat Nat

structure TemplateRow where
  entry : Nat
  maxLimit : Nat

structure PoolRow where
  poolId : Nat
  motherPool : Nat
  chance : ℚ
  flags : Nat

namespace PoolGroup

def new : PoolGroup := ⟨0, [], []⟩

def guids (group : PoolGroup) : List Nat := (group.explicitlyChanced ++ group.equalChanced).map PoolObject.guid

def addEntry (group : PoolGroup) (obj : PoolObject) (maxEntries : Nat) : PoolGroup :=
  if obj.chance ≠ 0 ∧ maxEntries = 1 then { group with explicitlyChanced := group.explicitlyChanced ++ [obj] }
  else { group with equalChanced := group.equalChanced ++ [obj] }

def removeOneRelation (group : PoolGroup) (childPoolId : Nat) : PoolGroup :=
  { group with
    explicitlyChanced := group.explicitlyChanced.eraseP fun obj => obj.guid = childPoolId,
    equalChanced := group.equalChanced.eraseP fun obj => obj.guid = childPoolId }

end PoolGroup

def PoolRow.toObject (row : PoolRow) : PoolObject := ⟨row.poolId, |row.chance|, row.flags % 2 = 1⟩

def checkPoolAndChance (maxPoolId poolId : Nat) (chance : ℚ) : Bool := !(maxPoolId < poolId) && !(chance < 0 || 100 < chance)

def PoolRow.accepted (maxPoolId : Nat) (row : PoolRow) : Bool :=
  !(maxPoolId < row.poolId) && row.motherPool != row.poolId && checkPoolAndChance maxPoolId row.motherPool row.chance

namespace PoolTables

variable (t : PoolTables)

def setTemplate (p : Nat) (template : PoolTemplateData) : PoolTables :=
  { t with template := Function.update t.template p template }

def setGroup (p : Nat) (group : PoolGroup) : PoolTables := { t with poolGroup := Function.update t.poolGroup p group }

-- `insert` of a map that has the key already does nothing.
def setMother (p mother : Nat) : PoolTables :=
  if t.searchMap.find p = none then { t with searchMap := t.searchMap.insert p mother } else t

def loadRow (row : PoolRow) : PoolTables :=
  if row.accepted t.maxPoolId then
    let group := { t.poolGroup row.motherPool with poolId := row.motherPool }
    let t := t.setGroup row.motherPool (group.addEntry row.toObject (t.template row.motherPool).maxLimit)
    let t := t.setMother row.poolId row.motherPool
    t.setTemplate row.poolId { t.template row.poolId with autoSpawn := false }
  else t

-- `PoolMapChecker::CheckAndRemember`
def checkAndRemember (entry : MapEntry) (p : Nat) : Option PoolTables :=
  match (t.template p).mapEntry with
  | none => some (t.setTemplate p { t.template p with mapEntry := some entry })
  | some other =>
    if other = entry then some t
    else if entry.instanceable then none
    else if other.instanceable then none
    else some t

-- A child without map data is empty, or its own child will be checked later.
def carry (p mother : Nat) : Option PoolTables :=
  match (t.template p).mapEntry with
  | none => some t
  | some entry => t.checkAndRemember entry mother

def removeLink (p mother : Nat) : PoolTables :=
  { t.setGroup mother ((t.poolGroup mother).removeOneRelation p) with searchMap := t.searchMap.erase p }

-- The walk up from a pool. Each pool it passes is another one, so it has ended
-- before the fuel has.
def walk : Nat → List Nat → PoolTables → Nat → PoolTables
  | 0, _, t, _ => t
  | fuel + 1, checkedPools, t, p =>
    match t.searchMap.find p with
    | none => t
    | some mother =>
      match t.carry p mother with
      | none => t.removeLink p mother
      | some next =>
        if mother ∈ p :: checkedPools then next.removeLink p mother
        else walk fuel (p :: checkedPools) next mother

def checkCircles : PoolTables :=
  (List.range t.maxPoolId).foldl (fun t p => t.walk (t.maxPoolId + 2) [] p) t

end PoolTables

-- `SELECT MAX(entry)`
def maxEntry (rows : List TemplateRow) : Nat := rows.foldl (fun most row => max most row.entry) 0

-- `maps` is what the creatures and gameobjects of the pools have left there.
def loadTemplates (rows : List TemplateRow) (maps : Nat → Option MapEntry) : PoolTables :=
  { maxPoolId := maxEntry rows,
    template := rows.foldl
      (fun template row => Function.update template row.entry ⟨maps row.entry, row.maxLimit, true⟩)
      fun p => ⟨maps p, 0, false⟩,
    poolGroup := fun _ => .new, searchMap := .empty }

def loadPools (templates : List TemplateRow) (maps : Nat → Option MapEntry) (rows : List PoolRow) : PoolTables :=
  rows.foldl PoolTables.loadRow (loadTemplates templates maps)

-- Up to the check of the chances. The source returns early from an empty template
-- table; here no row is accepted then.
def loadFromDB (templates : List TemplateRow) (maps : Nat → Option MapEntry) (rows : List PoolRow) : PoolTables :=
  (loadPools templates maps rows).checkCircles

-- What stands after the load: no pool is its own ancestor, the groups and the
-- search map agree, and which pools have lost their mother.

namespace PoolGroup

variable {group : PoolGroup} {obj : PoolObject} {p q : Nat}

theorem guids_addEntry (group : PoolGroup) (obj : PoolObject) (maxEntries : Nat) :
    (group.addEntry obj maxEntries).guids.Perm (obj.guid :: group.guids) := by
  unfold addEntry guids
  split_ifs
  · simp only [map_append, map_cons, map_nil, append_assoc]
    exact perm_middle
  · simp only [map_append, map_cons, map_nil, ← append_assoc]
    exact perm_append_singleton _ _

theorem guids_removeOneRelation (hnodup : group.guids.Nodup) (q : Nat) :
    (group.removeOneRelation q).guids = group.guids.filter fun guid => guid ≠ q := by
  have hmap : ∀ list : List PoolObject, (list.map PoolObject.guid).Nodup →
      (list.eraseP fun obj => obj.guid = q).map PoolObject.guid =
        (list.map PoolObject.guid).filter fun guid => guid ≠ q := by
    intro list hlist
    have herase := Lists.eraseP_eq_filter_key (f := PoolObject.guid) (p := fun obj => decide (obj.guid = q)) hlist
      fun obj _ => decide_eq_true_iff
    rw [herase, filter_map]
    rfl
  unfold guids at hnodup ⊢
  rw [map_append] at hnodup ⊢
  obtain ⟨hexplicit, hequal, -⟩ := nodup_append.mp hnodup
  rw [removeOneRelation, map_append, hmap _ hexplicit, hmap _ hequal, filter_append]

end PoolGroup

namespace PoolTables

variable {t next : PoolTables} {p q mother fuel : Nat} {entry : MapEntry}

def mapOf (t : PoolTables) (p : Nat) : Option MapEntry := (t.template p).mapEntry

def motherOf (t : PoolTables) (p : Nat) : Option Nat := t.searchMap.find p

structure Sound (t : PoolTables) : Prop where
  agrees : ∀ p q, t.motherOf q = some p ↔ q ∈ (t.poolGroup p).guids
  nodup : ∀ p, (t.poolGroup p).guids.Nodup
  bounded : ∀ p q, t.motherOf q = some p → q ≤ t.maxPoolId ∧ p ≤ t.maxPoolId ∧ p ≠ q

end PoolTables

def MapEntry.Fits (first second : MapEntry) : Prop :=
  first = second ∨ (first.instanceable = false ∧ second.instanceable = false)

theorem MapEntry.Fits.symm {first second : MapEntry} (h : first.Fits second) : second.Fits first :=
  h.imp Eq.symm And.symm

theorem MapEntry.Fits.trans {first second third : MapEntry} (h : first.Fits second) (h' : second.Fits third) :
    first.Fits third := by
  rcases h with rfl | h
  · exact h'
  · rcases h' with rfl | h'
    · exact .inr h
    · exact .inr ⟨h.1, h'.2⟩

-- A walk passes every pool but that of the highest number, and that if it has a
-- child. What it passes it carries up, so a pool's map arrives at its ancestors.

section

variable (most : Nat) (link : Nat → Nat → Prop)

def Walked (p : Nat) : Prop := p < most ∨ ∃ q, link q p

def Arrives (p q : Nat) : Prop := p = q ∨ (Walked most link p ∧ Relation.TransGen link p q)

def FitTogether (maps : Nat → Option MapEntry) : Prop :=
  ∀ p q r first second, Arrives most link p r → Arrives most link q r → maps p = some first →
    maps q = some second → first.Fits second

end

namespace PoolTables

variable {t next : PoolTables} {p q mother fuel : Nat} {entry : MapEntry}

-- A map that is carried up changes the mother's, and only where that had none.
structure Carries (t : PoolTables) (p mother : Nat) (next : PoolTables) : Prop where
  maxPoolId : next.maxPoolId = t.maxPoolId
  poolGroup : next.poolGroup = t.poolGroup
  searchMap : next.searchMap = t.searchMap
  autoSpawn : ∀ q, (next.template q).autoSpawn = (t.template q).autoSpawn
  others : ∀ q, q ≠ mother → next.mapOf q = t.mapOf q
  keeps : ∀ entry, t.mapOf mother = some entry → next.mapOf mother = some entry
  source : ∀ entry, next.mapOf mother = some entry → t.mapOf mother = some entry ∨ t.mapOf p = some entry
  fits : ∀ entry, t.mapOf p = some entry → ∃ other, next.mapOf mother = some other ∧ entry.Fits other

theorem Carries.same (hfits : ∀ entry, t.mapOf p = some entry →
    ∃ other, t.mapOf mother = some other ∧ entry.Fits other) : Carries t p mother t :=
  ⟨rfl, rfl, rfl, fun _ => rfl, fun _ _ => rfl, fun _ h => h, fun _ h => .inl h, hfits⟩

theorem carries_of_carry (h : t.carry p mother = some next) : Carries t p mother next := by
  unfold carry at h
  cases hmap : (t.template p).mapEntry with
  | none =>
    rw [hmap] at h
    cases h
    exact Carries.same fun entry hentry => absurd (hmap.symm.trans hentry) (Option.some_ne_none entry).symm
  | some entry =>
    simp only [hmap, checkAndRemember] at h
    have hsource : t.mapOf p = some entry := hmap
    cases hmother : (t.template mother).mapEntry with
    | none =>
      simp only [hmother] at h
      cases h
      have hnext : ∀ q, (t.setTemplate mother { t.template mother with mapEntry := some entry }).template q =
          if q = mother then { t.template mother with mapEntry := some entry } else t.template q :=
        fun q => Function.update_apply ..
      refine ⟨rfl, rfl, rfl, fun q => ?_, fun q hne => ?_, fun other hother => ?_, fun other hother => ?_,
        fun other hother => ?_⟩
      · rw [hnext]
        split_ifs with hsame
        · rw [hsame]
        · rfl
      · rw [mapOf, hnext, if_neg hne]
        rfl
      · exact absurd (hmother.symm.trans hother) (Option.some_ne_none other).symm
      · rw [mapOf, hnext, if_pos rfl] at hother
        exact .inr (hsource.trans hother)
      · rw [hsource] at hother
        cases hother
        exact ⟨entry, by rw [mapOf, hnext, if_pos rfl], .inl rfl⟩
    | some other =>
      simp only [hmother] at h
      have hfits : other.Fits entry ∧ t = next := by
        split_ifs at h with hsame hinstance hinstance'
        · exact ⟨.inl hsame, Option.some.inj h⟩
        · refine ⟨.inr ⟨?_, ?_⟩, Option.some.inj h⟩
          · simpa using hinstance'
          · simpa using hinstance
      obtain ⟨hfits, rfl⟩ := hfits
      refine Carries.same fun found hfound => ⟨other, hmother, ?_⟩
      rw [hsource] at hfound
      cases hfound
      exact hfits.symm

theorem not_fits_of_carry (h : t.carry p mother = none) :
    ∃ entry other, t.mapOf p = some entry ∧ t.mapOf mother = some other ∧ ¬entry.Fits other := by
  unfold carry at h
  cases hmap : (t.template p).mapEntry with
  | none => simp [hmap] at h
  | some entry =>
    simp only [hmap, checkAndRemember] at h
    cases hmother : (t.template mother).mapEntry with
    | none => simp [hmother] at h
    | some other =>
      simp only [hmother] at h
      refine ⟨entry, other, hmap, hmother, ?_⟩
      split_ifs at h with hsame hinstance hinstance'
      · rintro (heq | ⟨hentry, -⟩)
        · exact hsame heq.symm
        · rw [hentry] at hinstance
          cases hinstance
      · rintro (heq | ⟨-, hother⟩)
        · exact hsame heq.symm
        · rw [hother] at hinstance'
          cases hinstance'

theorem Carries.motherOf (h : Carries t p mother next) : next.motherOf = t.motherOf := by
  unfold PoolTables.motherOf
  rw [h.searchMap]

theorem Sound.carries (h : t.Sound) (hcarries : Carries t p mother next) : next.Sound := by
  refine ⟨?_, ?_, ?_⟩
  · rw [hcarries.motherOf, hcarries.poolGroup]
    exact h.agrees
  · rw [hcarries.poolGroup]
    exact h.nodup
  · rw [hcarries.motherOf, hcarries.maxPoolId]
    exact h.bounded

theorem motherOf_removeLink (q : Nat) :
    (t.removeLink p mother).motherOf q = if q = p then none else t.motherOf q := OrderedMap.find_erase

theorem cut_removeLink : Cut t.motherOf (t.removeLink p mother).motherOf := by
  intro q
  rw [motherOf_removeLink]
  split_ifs
  · exact .inr rfl
  · exact .inl rfl

theorem Sound.removeLink (h : t.Sound) (hp : t.motherOf p = some mother) : (t.removeLink p mother).Sound := by
  have hgroup : ∀ r, ((t.removeLink p mother).poolGroup r).guids =
      if r = mother then (t.poolGroup mother).guids.filter fun guid => guid ≠ p else (t.poolGroup r).guids := by
    intro r
    have hupdate : (t.removeLink p mother).poolGroup r =
        if r = mother then (t.poolGroup mother).removeOneRelation p else t.poolGroup r := Function.update_apply ..
    rw [hupdate]
    split_ifs
    · exact PoolGroup.guids_removeOneRelation (h.nodup mother) p
    · rfl
  refine ⟨fun r q => ?_, fun r => ?_, fun r q hq => ?_⟩
  · rw [motherOf_removeLink, hgroup]
    by_cases hsame : q = p
    · subst hsame
      rw [if_pos rfl]
      by_cases hr : r = mother
      · simp [hr]
      · rw [if_neg hr, ← h.agrees, hp]
        simp [Ne.symm hr]
    · rw [if_neg hsame, h.agrees]
      by_cases hr : r = mother
      · simp [hr, hsame]
      · rw [if_neg hr]
  · rw [hgroup]
    split_ifs
    · exact (h.nodup mother).filter _
    · exact h.nodup r
  · exact h.bounded r q (cut_removeLink.of_some hq)

inductive WalkStep (t : PoolTables) (fuel : Nat) (checked : List Nat) (p : Nat) : PoolTables → Prop
  | root : t.motherOf p = none → WalkStep t fuel checked p t
  | refused {mother : Nat} : t.motherOf p = some mother → t.carry p mother = none →
      WalkStep t fuel checked p (t.removeLink p mother)
  | closed {mother : Nat} {next : PoolTables} : t.motherOf p = some mother → Carries t p mother next →
      mother ∈ p :: checked → WalkStep t fuel checked p (next.removeLink p mother)
  | on {mother : Nat} {next : PoolTables} : t.motherOf p = some mother → Carries t p mother next →
      mother ∉ p :: checked → WalkStep t fuel checked p (next.walk fuel (p :: checked) mother)

variable {checked : List Nat} {result : PoolTables}

theorem walkStep (t : PoolTables) (fuel : Nat) (checked : List Nat) (p : Nat) :
    WalkStep t fuel checked p (t.walk (fuel + 1) checked p) := by
  unfold walk
  cases hmother : t.searchMap.find p with
  | none => exact .root hmother
  | some mother =>
    cases hcarry : t.carry p mother with
    | none =>
      simp only [hcarry]
      exact .refused hmother hcarry
    | some next =>
      simp only [hcarry]
      split_ifs with hclosed
      · exact .closed hmother (carries_of_carry hcarry) hclosed
      · exact .on hmother (carries_of_carry hcarry) hclosed

-- A walk passes each pool once, and there are no more than the highest number
-- and 0.
structure Walking (t : PoolTables) (fuel : Nat) (checked : List Nat) (p : Nat) : Prop where
  nodup : (p :: checked).Nodup
  bounded : ∀ q ∈ checked, q ≤ t.maxPoolId
  fuel : fuel + checked.length = t.maxPoolId + 2

theorem walking_start (t : PoolTables) (p : Nat) : Walking t (t.maxPoolId + 2) [] p :=
  ⟨nodup_singleton p, by simp, by simp⟩

theorem Walking.ne_zero (h : Walking t fuel checked p) : fuel ≠ 0 := by
  have hlength : checked.length ≤ t.maxPoolId + 1 :=
    length_le_of_lt (nodup_cons.mp h.nodup).2 fun q hq => Nat.lt_succ_of_le (h.bounded q hq)
  have hfuel := h.fuel
  omega

theorem Walking.on (h : Walking t (fuel + 1) checked p) (hs : t.Sound) (hp : t.motherOf p = some mother)
    (hcarries : Carries t p mother next) (hnew : mother ∉ p :: checked) : Walking next fuel (p :: checked) mother := by
  refine ⟨nodup_cons.mpr ⟨hnew, h.nodup⟩, fun q hq => ?_, ?_⟩
  · rw [hcarries.maxPoolId]
    rcases mem_cons.mp hq with rfl | hq
    · exact (hs.bounded mother q hp).1
    · exact h.bounded q hq
  · have hfuel := h.fuel
    rw [hcarries.maxPoolId, length_cons]
    omega

structure Climbs (t result : PoolTables) : Prop where
  maxPoolId : result.maxPoolId = t.maxPoolId
  cut : Cut t.motherOf result.motherOf
  autoSpawn : ∀ q, (result.template q).autoSpawn = (t.template q).autoSpawn
  maps : ∀ q entry, t.mapOf q = some entry → result.mapOf q = some entry

theorem Climbs.refl (t : PoolTables) : Climbs t t := ⟨rfl, Cut.refl _, fun _ => rfl, fun _ _ h => h⟩

theorem Climbs.trans (h : Climbs t next) (h' : Climbs next result) : Climbs t result :=
  ⟨h'.maxPoolId.trans h.maxPoolId, h.cut.trans h'.cut, fun q => (h'.autoSpawn q).trans (h.autoSpawn q),
    fun q entry hentry => h'.maps q entry (h.maps q entry hentry)⟩

theorem Carries.climbs (h : Carries t p mother next) : Climbs t next := by
  refine ⟨h.maxPoolId, ?_, h.autoSpawn, fun q entry hentry => ?_⟩
  · rw [h.motherOf]
    exact Cut.refl _
  · by_cases hsame : q = mother
    · subst hsame
      exact h.keeps entry hentry
    · rw [h.others q hsame]
      exact hentry

theorem climbs_removeLink (t : PoolTables) (p mother : Nat) : Climbs t (t.removeLink p mother) :=
  ⟨rfl, cut_removeLink, fun _ => rfl, fun _ _ h => h⟩

theorem climbs_walk (fuel : Nat) (checked : List Nat) (t : PoolTables) (p : Nat) : Climbs t (t.walk fuel checked p) := by
  induction fuel generalizing checked t p with
  | zero => exact Climbs.refl t
  | succ fuel ih =>
    have hstep := walkStep t fuel checked p
    generalize t.walk (fuel + 1) checked p = result at hstep ⊢
    cases hstep with
    | root => exact Climbs.refl t
    | refused _ _ => exact climbs_removeLink t _ _
    | closed _ hcarries _ => exact hcarries.climbs.trans (climbs_removeLink _ _ _)
    | on _ hcarries _ => exact hcarries.climbs.trans (ih _ _ _)

theorem Sound.walk (fuel : Nat) (checked : List Nat) (h : t.Sound) (p : Nat) : (t.walk fuel checked p).Sound := by
  induction fuel generalizing checked t p with
  | zero => exact h
  | succ fuel ih =>
    have hstep := walkStep t fuel checked p
    generalize t.walk (fuel + 1) checked p = result at hstep ⊢
    cases hstep with
    | root => exact h
    | refused hp _ => exact h.removeLink hp
    | closed hp hcarries _ => exact (h.carries hcarries).removeLink (by rwa [hcarries.motherOf])
    | on _ hcarries _ => exact ih _ (h.carries hcarries) _

-- The walk ends at a root, or where it has cut: the chain below it, which it
-- has not touched, ends there too.

theorem ends_removeLink {start : Nat} (hp : p ∉ checked) (hsame : next.motherOf = t.motherOf)
    (hbelow : ∀ up, (∀ q ∈ checked, up q = t.motherOf q) → Ends up p → Ends up start) :
    Ends (next.removeLink p mother).motherOf start := by
  refine hbelow _ (fun q hq => ?_) (.root ?_)
  · have hne : q ≠ p := fun heq => hp (heq ▸ hq)
    rw [motherOf_removeLink, if_neg hne, hsame]
  · rw [motherOf_removeLink, if_pos rfl]

theorem ends_walk {start : Nat} (hs : t.Sound) (h : Walking t fuel checked p)
    (hbelow : ∀ up, (∀ q ∈ checked, up q = t.motherOf q) → Ends up p → Ends up start) :
    Ends (t.walk fuel checked p).motherOf start := by
  induction fuel generalizing checked t p with
  | zero => exact absurd rfl h.ne_zero
  | succ fuel ih =>
    have hp := (nodup_cons.mp h.nodup).1
    have hstep := walkStep t fuel checked p
    generalize t.walk (fuel + 1) checked p = result at hstep ⊢
    cases hstep with
    | root hroot => exact hbelow _ (fun _ _ => rfl) (.root hroot)
    | refused _ _ => exact ends_removeLink hp rfl hbelow
    | closed _ hcarries _ => exact ends_removeLink hp hcarries.motherOf hbelow
    | on hmother hcarries hnew =>
      refine ih (hs.carries hcarries) (h.on hs hmother hcarries hnew) fun up hup hends => ?_
      rw [hcarries.motherOf] at hup
      refine hbelow up (fun q hq => hup q (mem_cons_of_mem _ hq)) (.step ?_ hends)
      rw [hup p mem_cons_self, hmother]

theorem climbs_checks (pools : List Nat) (t : PoolTables) :
    Climbs t (pools.foldl (fun t p => t.walk (t.maxPoolId + 2) [] p) t) := by
  induction pools generalizing t with
  | nil => exact Climbs.refl t
  | cons p rest ih => exact (climbs_walk _ _ t p).trans (ih _)

theorem Sound.checks (h : t.Sound) (pools : List Nat) :
    (pools.foldl (fun t p => t.walk (t.maxPoolId + 2) [] p) t).Sound := by
  induction pools generalizing t with
  | nil => exact h
  | cons p rest ih => exact ih (h.walk _ _ p)

theorem ends_checks (h : t.Sound) {pools : List Nat} (hp : p ∈ pools) :
    Ends (pools.foldl (fun t p => t.walk (t.maxPoolId + 2) [] p) t).motherOf p := by
  induction pools generalizing t with
  | nil => cases hp
  | cons first rest ih =>
    rcases mem_cons.mp hp with rfl | hp
    · have hends : Ends (t.walk (t.maxPoolId + 2) [] p).motherOf p :=
        ends_walk h (walking_start t p) fun _ _ hends => hends
      exact hends.of_cut (climbs_checks rest _).cut
    · exact ih (h.walk _ _ first) hp

-- The pool of the highest number is not walked from, but its mother is.
theorem ends_checkCircles (h : t.Sound) (p : Nat) : Ends t.checkCircles.motherOf p := by
  have hlow : ∀ q, q < t.maxPoolId → Ends t.checkCircles.motherOf q :=
    fun q hq => ends_checks h (mem_range.mpr hq)
  cases hmother : t.checkCircles.motherOf p with
  | none => exact .root hmother
  | some mother =>
    obtain ⟨hp, hbound, hne⟩ := (h.checks _).bounded mother p hmother
    rw [(climbs_checks _ t).maxPoolId] at hp hbound
    by_cases hlt : p < t.maxPoolId
    · exact hlow p hlt
    · exact .step hmother (hlow mother (by omega))

def Walked (t : PoolTables) (p : Nat) : Prop := Pools.Walked t.maxPoolId (Up t.motherOf) p

def Arrives (t : PoolTables) (p q : Nat) : Prop := Pools.Arrives t.maxPoolId (Up t.motherOf) p q

def FitTogether (t : PoolTables) : Prop := Pools.FitTogether t.maxPoolId (Up t.motherOf) t.mapOf

variable {current : PoolTables}

theorem Arrives.up (h : t.Arrives p q) (hq : t.Walked q) (hmother : t.motherOf q = some mother) :
    t.Arrives p mother := by
  rcases h with rfl | ⟨hp, hup⟩
  · exact .inr ⟨hq, Relation.TransGen.single hmother⟩
  · exact .inr ⟨hp, hup.tail hmother⟩

-- While no link is cut, the maps are some that have arrived.
structure Follows (t current : PoolTables) : Prop where
  motherOf : current.motherOf = t.motherOf
  maps : ∀ p entry, current.mapOf p = some entry → ∃ q, t.Arrives q p ∧ t.mapOf q = some entry

theorem Follows.refl (t : PoolTables) : Follows t t := ⟨rfl, fun p _ hentry => ⟨p, .inl rfl, hentry⟩⟩

theorem Follows.carries (h : Follows t current) (hp : t.Walked p) (hmother : t.motherOf p = some mother)
    (hcarries : Carries current p mother next) : Follows t next := by
  refine ⟨hcarries.motherOf.trans h.motherOf, fun q entry hentry => ?_⟩
  by_cases hsame : q = mother
  · subst hsame
    rcases hcarries.source entry hentry with hold | hcame
    · exact h.maps q entry hold
    · obtain ⟨source, harrives, hmap⟩ := h.maps p entry hcame
      exact ⟨source, harrives.up hp hmother, hmap⟩
  · rw [hcarries.others q hsame] at hentry
    exact h.maps q entry hentry

theorem follows_walk (hcycle : ∀ p, ¬Relation.TransGen (Up t.motherOf) p p) (hfit : t.FitTogether) (fuel : Nat)
    {checked : List Nat} (h : Follows t current) (hp : t.Walked p)
    (hchecked : ∀ q ∈ checked, Relation.TransGen (Up t.motherOf) q p) :
    Follows t (current.walk fuel checked p) := by
  induction fuel generalizing checked current p with
  | zero => exact h
  | succ fuel ih =>
    have hstep := walkStep current fuel checked p
    generalize current.walk (fuel + 1) checked p = result at hstep ⊢
    have hpassed : ∀ mother, t.motherOf p = some mother → ∀ q ∈ p :: checked,
        Relation.TransGen (Up t.motherOf) q mother := by
      intro mother hmother q hq
      rcases mem_cons.mp hq with rfl | hq
      · exact Relation.TransGen.single hmother
      · exact (hchecked q hq).tail hmother
    cases hstep with
    | root => exact h
    | @refused mother hmother hcarry =>
      rw [h.motherOf] at hmother
      obtain ⟨entry, other, hentry, hother, hnot⟩ := not_fits_of_carry hcarry
      obtain ⟨first, hfirst, hfirstMap⟩ := h.maps p entry hentry
      obtain ⟨second, hsecond, hsecondMap⟩ := h.maps mother other hother
      exact absurd (hfit first second mother entry other (hfirst.up hp hmother) hsecond hfirstMap hsecondMap) hnot
    | @closed mother next hmother _ hclosed =>
      rw [h.motherOf] at hmother
      exact absurd (hpassed mother hmother mother hclosed) (hcycle mother)
    | @on mother next hmother hcarries hnew =>
      rw [h.motherOf] at hmother
      exact ih (h.carries hp hmother hcarries) (.inr ⟨p, hmother⟩) (hpassed mother hmother)

theorem follows_checkCircles (hcycle : ∀ p, ¬Relation.TransGen (Up t.motherOf) p p) (hfit : t.FitTogether) :
    Follows t t.checkCircles := by
  have hall : ∀ (pools : List Nat) (current : PoolTables), (∀ p ∈ pools, p < t.maxPoolId) → Follows t current →
      Follows t (pools.foldl (fun t p => t.walk (t.maxPoolId + 2) [] p) current) := by
    intro pools
    induction pools with
    | nil => exact fun _ _ h => h
    | cons p rest ih =>
      intro current hpools h
      obtain ⟨hp, hrest⟩ := forall_mem_cons.mp hpools
      exact ih _ hrest (follows_walk hcycle hfit _ h (.inl hp) (by simp))
  exact hall _ t (fun p hp => mem_range.mp hp) (Follows.refl t)

-- And conversely: what the walks have passed without a cut fits.

def Stable (t : PoolTables) (p : Nat) : Prop :=
  ∀ mother entry, t.motherOf p = some mother → t.mapOf p = some entry →
    ∃ other, t.mapOf mother = some other ∧ entry.Fits other

theorem Carries.stable (h : Carries t p mother next) (hs : t.Sound) (hp : t.motherOf p = some mother) :
    next.Stable p := by
  intro mother' entry hmother hentry
  rw [h.motherOf, hp] at hmother
  cases hmother
  rw [h.others p (hs.bounded mother p hp).2.2.symm] at hentry
  exact h.fits entry hentry

theorem Carries.keeps_stable (h : Carries t p mother next) (hne : q ≠ mother) (hq : t.Stable q) : next.Stable q := by
  intro mother' entry hmother hentry
  rw [h.motherOf] at hmother
  rw [h.others q hne] at hentry
  obtain ⟨other, hother, hfits⟩ := hq mother' entry hmother hentry
  exact ⟨other, h.climbs.maps mother' other hother, hfits⟩

theorem stable_walk (hs : t.Sound) (h : Walking t fuel checked p)
    (hsame : (t.walk fuel checked p).motherOf = t.motherOf) :
    (∀ q, Relation.ReflTransGen (Up t.motherOf) p q → (t.walk fuel checked p).Stable q) ∧
      ∀ q, t.Stable q → (t.walk fuel checked p).Stable q := by
  induction fuel generalizing checked t p with
  | zero => exact absurd rfl h.ne_zero
  | succ fuel ih =>
    have hstep := walkStep t fuel checked p
    generalize t.walk (fuel + 1) checked p = result at hstep hsame ⊢
    have hcut : ∀ other mother, result = PoolTables.removeLink other p mother → t.motherOf p = none := by
      rintro other mother rfl
      rw [← hsame, motherOf_removeLink, if_pos rfl]
    cases hstep with
    | root hroot =>
      refine ⟨fun q hup => ?_, fun _ hq => hq⟩
      rcases Relation.ReflTransGen.cases_head hup with rfl | ⟨first, hfirst, -⟩
      · exact fun mother _ hmother => absurd (hroot.symm.trans hmother) (Option.some_ne_none mother).symm
      · exact absurd (hroot.symm.trans hfirst) (Option.some_ne_none first).symm
    | refused hmother _ => exact absurd ((hcut _ _ rfl).symm.trans hmother) (Option.some_ne_none _).symm
    | closed hmother _ _ => exact absurd ((hcut _ _ rfl).symm.trans hmother) (Option.some_ne_none _).symm
    | @on mother next hmother hcarries hnew =>
      have hnext := hcarries.motherOf
      obtain ⟨habove, hkeep⟩ := ih (hs.carries hcarries) (h.on hs hmother hcarries hnew) (hsame.trans hnext.symm)
      rw [hnext] at habove
      refine ⟨fun q hup => ?_, fun q hq => ?_⟩
      · rcases Relation.ReflTransGen.cases_head hup with rfl | ⟨first, hfirst, hrest⟩
        · exact hkeep p (hcarries.stable hs hmother)
        · have hfirst : first = mother := Option.some.inj (hfirst.symm.trans hmother)
          exact habove q (hfirst ▸ hrest)
      · by_cases heq : q = mother
        · exact habove q (heq ▸ Relation.ReflTransGen.refl)
        · exact hkeep q (hcarries.keeps_stable heq hq)

theorem stable_checks (hs : t.Sound) {pools : List Nat}
    (hsame : (pools.foldl (fun t p => t.walk (t.maxPoolId + 2) [] p) t).motherOf = t.motherOf) :
    (∀ p ∈ pools, ∀ q, Relation.ReflTransGen (Up t.motherOf) p q →
      (pools.foldl (fun t p => t.walk (t.maxPoolId + 2) [] p) t).Stable q) ∧
      ∀ q, t.Stable q → (pools.foldl (fun t p => t.walk (t.maxPoolId + 2) [] p) t).Stable q := by
  induction pools generalizing t with
  | nil => exact ⟨by simp, fun _ hq => hq⟩
  | cons first rest ih =>
    have hwalk := climbs_walk (t.maxPoolId + 2) [] t first
    have hrest := climbs_checks rest (t.walk (t.maxPoolId + 2) [] first)
    rw [foldl_cons] at hsame
    -- the walk cannot have cut what stands in the end
    have hfirst : (t.walk (t.maxPoolId + 2) [] first).motherOf = t.motherOf := by
      have hcut := hrest.cut
      rw [hsame] at hcut
      exact hwalk.cut.antisymm hcut
    obtain ⟨habove, hkeep⟩ := stable_walk hs (walking_start t first) hfirst
    obtain ⟨hothers, hstay⟩ := ih (hs.walk _ _ first) (hsame.trans hfirst.symm)
    rw [hfirst] at hothers
    refine ⟨fun p hp q hup => ?_, fun q hq => hstay q (hkeep q hq)⟩
    rcases mem_cons.mp hp with rfl | hp
    · exact hstay q (habove q hup)
    · exact hothers p hp q hup

theorem fits_above {low : Nat} (hstable : ∀ q, Relation.ReflTransGen (Up t.motherOf) low q → current.Stable q)
    (hsame : current.motherOf = t.motherOf) (hlow : Relation.ReflTransGen (Up t.motherOf) low p)
    (hup : Relation.TransGen (Up t.motherOf) p q) (hentry : current.mapOf p = some entry) :
    ∃ other, current.mapOf q = some other ∧ entry.Fits other := by
  induction hup with
  | single hmother => exact hstable p hlow _ entry (by rw [hsame]; exact hmother) hentry
  | @tail middle top hmiddle hmother ih =>
    obtain ⟨other, hother, hfits⟩ := ih
    obtain ⟨last, hlast, hfits'⟩ := hstable middle (hlow.trans hmiddle.to_reflTransGen) top other
      (by rw [hsame]; exact hmother) hother
    exact ⟨last, hlast, hfits.trans hfits'⟩

theorem Sound.walked_from (hs : t.Sound) (hp : t.Walked p) (hmother : t.motherOf p = some mother) :
    ∃ low < t.maxPoolId, Relation.ReflTransGen (Up t.motherOf) low p := by
  have hbound := (hs.bounded mother p hmother).1
  rcases hp with hlt | ⟨q, hq⟩
  · exact ⟨p, hlt, Relation.ReflTransGen.refl⟩
  · by_cases hlt : p < t.maxPoolId
    · exact ⟨p, hlt, Relation.ReflTransGen.refl⟩
    · obtain ⟨hchild, -, hne⟩ := hs.bounded p q hq
      exact ⟨q, by omega, Relation.ReflTransGen.single hq⟩

theorem fitTogether_of_same (hs : t.Sound) (hsame : t.checkCircles.motherOf = t.motherOf) : t.FitTogether := by
  have hclimbs : Climbs t t.checkCircles := climbs_checks _ t
  have hstable := (stable_checks hs hsame).1
  have harrives : ∀ p q entry, t.Arrives p q → t.mapOf p = some entry →
      ∃ other, t.checkCircles.mapOf q = some other ∧ entry.Fits other := by
    intro p q entry harrives hentry
    have hstill := hclimbs.maps p entry hentry
    rcases harrives with rfl | ⟨hp, hup⟩
    · exact ⟨entry, hstill, .inl rfl⟩
    · obtain ⟨mother, hmother, -⟩ := Relation.TransGen.head'_iff.mp hup
      obtain ⟨low, hlow, hreach⟩ := hs.walked_from hp hmother
      exact fits_above (hstable low (mem_range.mpr hlow)) hsame hreach hup hstill
  intro p q r first second hp hq hfirst hsecond
  obtain ⟨one, hone, hfits⟩ := harrives p r first hp hfirst
  obtain ⟨two, htwo, hfits'⟩ := harrives q r second hq hsecond
  rw [hone] at htwo
  cases htwo
  exact hfits.trans hfits'.symm

theorem checkCircles_same_iff (hs : t.Sound) : t.checkCircles.motherOf = t.motherOf ↔
    (∀ p, ¬Relation.TransGen (Up t.motherOf) p p) ∧ t.FitTogether := by
  refine ⟨fun hsame => ⟨fun p => ?_, fitTogether_of_same hs hsame⟩, fun h => (follows_checkCircles h.1 h.2).motherOf⟩
  have hends := ends_checkCircles hs p
  rw [hsame] at hends
  exact hends.irrefl

end PoolTables

end TurtleWow.Pools
