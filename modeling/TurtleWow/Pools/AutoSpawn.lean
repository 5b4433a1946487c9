import TurtleWow.Pools.Loaded

namespace TurtleWow.Pools

open Chain List Function

-- What the tables say, and what the load makes of it: the mothers, and the flag
-- of the pools that are spawned at the start.

section

variable (templates : List TemplateRow) (rows : List PoolRow)

def Link (most : Nat) (child mother : Nat) : Prop :=
  ∃ row ∈ rows, row.accepted most ∧ row.poolId = child ∧ row.motherPool = mother

def Named (p : Nat) : Prop :=
  p ∈ templates.map TemplateRow.entry ∨ (∃ mother, Link rows (maxEntry templates) p mother) ∨
    ∃ child, Link rows (maxEntry templates) child p

end

structure WellLoaded (named : Nat → Prop) (t : PoolTables) : Prop where
  acyclic : ∀ p, ¬Relation.TransGen (fun child mother => child ∈ (t.poolGroup mother).guids) p p
  finite : ∃ height : Nat → Nat, ∀ mother, ∀ child ∈ (t.poolGroup mother).guids, height child < height mother
  agrees : ∀ child mother, t.searchMap.find child = some mother ↔ child ∈ (t.poolGroup mother).guids
  flags : ∀ p, named p → ((t.template p).autoSpawn = true ↔ t.searchMap.find p = none)

namespace PoolTables

variable {t next last : PoolTables} {p q : Nat} {row : PoolRow} {rows rest : List PoolRow}

def autoSpawn (t : PoolTables) (p : Nat) : Bool := (t.template p).autoSpawn

theorem loadRow_of_accepted (h : row.accepted t.maxPoolId) (hfresh : t.motherOf row.poolId = none) :
    t.loadRow row =
      { t with
        template := Function.update t.template row.poolId { t.template row.poolId with autoSpawn := false },
        poolGroup := Function.update t.poolGroup row.motherPool
          (({ t.poolGroup row.motherPool with poolId := row.motherPool } : PoolGroup).addEntry row.toObject
            (t.template row.motherPool).maxLimit),
        searchMap := t.searchMap.insert row.poolId row.motherPool } := by
  have hfind : t.searchMap.find row.poolId = none := hfresh
  unfold loadRow
  rw [if_pos h]
  simp only [setMother, setGroup, setTemplate, hfind, ↓reduceIte]

structure Loads (t : PoolTables) (rows : List PoolRow) (next : PoolTables) : Prop where
  maxPoolId : next.maxPoolId = t.maxPoolId
  maps : ∀ p, next.mapOf p = t.mapOf p
  mothers : ∀ p q, next.motherOf q = some p ↔ t.motherOf q = some p ∨ Link rows t.maxPoolId q p
  flags : ∀ p, next.autoSpawn p = true ↔ t.autoSpawn p = true ∧ ∀ mother, ¬Link rows t.maxPoolId p mother

theorem link_cons (most : Nat) : Link (row :: rest) most q p ↔
    (row.accepted most ∧ row.poolId = q ∧ row.motherPool = p) ∨ Link rest most q p := by
  simp only [Link, mem_cons, exists_eq_or_imp]

theorem link_nil (most : Nat) : ¬Link [] most q p := by
  rintro ⟨row, hrow, -⟩
  cases hrow

theorem Loads.nil (t : PoolTables) : Loads t [] t :=
  ⟨rfl, fun _ => rfl, fun _ _ => by simp [link_nil], fun _ => by simp [link_nil]⟩

theorem loads_row (hfresh : t.motherOf row.poolId = none) : Loads t [row] (t.loadRow row) := by
  by_cases h : row.accepted t.maxPoolId
  · rw [loadRow_of_accepted h hfresh]
    refine ⟨rfl, fun p => ?_, fun p q => ?_, fun p => ?_⟩
    · simp only [mapOf, update_apply]
      split_ifs with hsame
      · rw [hsame]
      · rfl
    · simp only [motherOf, OrderedMap.find_insert, link_cons, link_nil, h, or_false, true_and]
      by_cases hsame : q = row.poolId
      · have hnone : t.searchMap.find row.poolId = none := hfresh
        simp [hsame, hnone]
      · simp [hsame, Ne.symm hsame]
    · simp only [autoSpawn, update_apply, link_cons, link_nil, h, or_false, true_and]
      by_cases hsame : p = row.poolId
      · simp [hsame]
      · simp [hsame, Ne.symm hsame]
  · have hskip : t.loadRow row = t := if_neg h
    rw [hskip]
    exact ⟨rfl, fun _ => rfl, fun _ _ => by simp [link_cons, link_nil, h], fun _ => by simp [link_cons, link_nil, h]⟩

theorem Loads.cons (h : Loads t [row] next) (hrest : Loads next rest last) : Loads t (row :: rest) last := by
  refine ⟨hrest.maxPoolId.trans h.maxPoolId, fun p => (hrest.maps p).trans (h.maps p), fun p q => ?_, fun p => ?_⟩
  · rw [hrest.mothers, h.mothers, h.maxPoolId, link_cons, link_cons, or_iff_left (link_nil _), or_assoc]
  · rw [hrest.flags, h.flags, h.maxPoolId]
    simp only [link_cons, link_nil, or_false, not_or, forall_and, and_assoc]

theorem motherOf_fresh (h : Loads t [row] next) (hfresh : t.motherOf q = none) (hne : row.poolId ≠ q) :
    next.motherOf q = none := by
  by_contra hsome
  obtain ⟨mother, hmother⟩ := Option.ne_none_iff_exists'.mp hsome
  rcases (h.mothers mother q).mp hmother with hold | hlink
  · exact absurd (hfresh.symm.trans hold) (Option.some_ne_none mother).symm
  · rcases (link_cons _).mp hlink with ⟨-, hsame, -⟩ | hnil
    · exact hne hsame
    · exact link_nil _ hnil

theorem Sound.loadRow (hs : t.Sound) (hfresh : t.motherOf row.poolId = none) : (t.loadRow row).Sound := by
  have hloads := loads_row hfresh
  by_cases h : row.accepted t.maxPoolId
  · have hgroup : ∀ r, ((t.loadRow row).poolGroup r).guids.Perm
        (if r = row.motherPool then row.poolId :: (t.poolGroup r).guids else (t.poolGroup r).guids) := by
      intro r
      rw [loadRow_of_accepted h hfresh]
      simp only [update_apply]
      split_ifs with hsame
      · subst hsame
        exact PoolGroup.guids_addEntry _ _ _
      · exact List.Perm.refl _
    have hnew : ∀ r, row.poolId ∉ (t.poolGroup r).guids := by
      intro r hmem
      exact absurd (hfresh.symm.trans ((hs.agrees r row.poolId).mpr hmem)) (Option.some_ne_none r).symm
    refine ⟨fun r q => ?_, fun r => ?_, fun r q hq => ?_⟩
    · rw [hloads.mothers, (hgroup r).mem_iff, hs.agrees, link_cons, or_iff_left (link_nil _)]
      by_cases hsame : r = row.motherPool
      · simp [hsame, h, or_comm, eq_comm]
      · simp [hsame, Ne.symm hsame]
    · rw [(hgroup r).nodup_iff]
      split_ifs
      · exact nodup_cons.mpr ⟨hnew r, hs.nodup r⟩
      · exact hs.nodup r
    · rw [hloads.maxPoolId]
      rcases (hloads.mothers r q).mp hq with hold | hlink
      · exact hs.bounded r q hold
      · rcases (link_cons _).mp hlink with ⟨-, rfl, rfl⟩ | hnil
        · simp only [PoolRow.accepted, checkPoolAndChance, Bool.and_eq_true, Bool.not_eq_true', decide_eq_false_iff_not,
            bne_iff_ne] at h
          obtain ⟨⟨hchild, hne⟩, hmother, -⟩ := h
          exact ⟨by omega, by omega, hne⟩
        · exact absurd hnil (link_nil _)
  · have hskip : t.loadRow row = t := if_neg h
    rw [hskip]
    exact hs

theorem loads_rows (hs : t.Sound) (honce : (rows.map PoolRow.poolId).Nodup)
    (hfresh : ∀ row ∈ rows, t.motherOf row.poolId = none) :
    Loads t rows (rows.foldl loadRow t) ∧ (rows.foldl loadRow t).Sound := by
  induction rows generalizing t with
  | nil => exact ⟨Loads.nil t, hs⟩
  | cons row rest ih =>
    obtain ⟨hrow, hrest⟩ := forall_mem_cons.mp hfresh
    obtain ⟨hnot, honce⟩ := nodup_cons.mp honce
    have hloads := loads_row hrow
    have hstill : ∀ other ∈ rest, (t.loadRow row).motherOf other.poolId = none := by
      intro other hother
      refine motherOf_fresh hloads (hrest other hother) fun hsame => hnot ?_
      rw [hsame]
      exact mem_map_of_mem hother
    obtain ⟨hlast, hsound⟩ := ih (hs.loadRow hrow) honce hstill
    exact ⟨hloads.cons hlast, hsound⟩

end PoolTables

section

open PoolTables

variable {templates : List TemplateRow} {maps : Nat → Option MapEntry} {rows : List PoolRow} {p q : Nat}

theorem template_fold (maps : Nat → Option MapEntry) (p : Nat) (templates : List TemplateRow)
    (base : Nat → PoolTemplateData) (hbase : (base p).mapEntry = maps p) :
    ((templates.foldl (fun template row => Function.update template row.entry ⟨maps row.entry, row.maxLimit, true⟩)
      base) p).mapEntry = maps p ∧
    (((templates.foldl (fun template row => Function.update template row.entry ⟨maps row.entry, row.maxLimit, true⟩)
      base) p).autoSpawn = true ↔ (base p).autoSpawn = true ∨ p ∈ templates.map TemplateRow.entry) := by
  induction templates generalizing base with
  | nil => simp [hbase]
  | cons row rest ih =>
    have hstep : (Function.update base row.entry ⟨maps row.entry, row.maxLimit, true⟩ p).mapEntry = maps p := by
      rw [update_apply]
      split_ifs with hsame
      · rw [hsame]
      · exact hbase
    obtain ⟨hmap, hflag⟩ := ih _ hstep
    refine ⟨hmap, ?_⟩
    rw [foldl_cons, hflag, update_apply, map_cons, mem_cons]
    by_cases hsame : p = row.entry
    · simp [hsame]
    · simp [hsame]

theorem mapOf_loadTemplates (p : Nat) : (loadTemplates templates maps).mapOf p = maps p :=
  (template_fold maps p templates _ rfl).1

theorem autoSpawn_loadTemplates (maps : Nat → Option MapEntry) (p : Nat) :
    (loadTemplates templates maps).autoSpawn p = true ↔ p ∈ templates.map TemplateRow.entry := by
  have hfold := (template_fold maps p templates (fun p => ⟨maps p, 0, false⟩) rfl).2
  exact hfold.trans (or_iff_right Bool.false_ne_true)

theorem sound_loadTemplates : (loadTemplates templates maps).Sound := by
  have hnone : ∀ p, (loadTemplates templates maps).motherOf p = none := fun _ => rfl
  refine ⟨fun p q => ?_, fun p => nodup_nil, fun p q hq => ?_⟩
  · have hguids : ((loadTemplates templates maps).poolGroup p).guids = [] := rfl
    simp [hnone, hguids]
  · exact absurd ((hnone q).symm.trans hq) (Option.some_ne_none p).symm

structure Read (templates : List TemplateRow) (maps : Nat → Option MapEntry) (rows : List PoolRow)
    (t : PoolTables) : Prop where
  sound : t.Sound
  maxPoolId : t.maxPoolId = maxEntry templates
  maps : t.mapOf = maps
  mothers : ∀ p q, t.motherOf q = some p ↔ Link rows (maxEntry templates) q p
  flags : ∀ p, t.autoSpawn p = true ↔
    p ∈ templates.map TemplateRow.entry ∧ ∀ mother, ¬Link rows (maxEntry templates) p mother

theorem read_loadPools (templates : List TemplateRow) (maps : Nat → Option MapEntry)
    (honce : (rows.map PoolRow.poolId).Nodup) : Read templates maps rows (loadPools templates maps rows) := by
  have hstart : (loadTemplates templates maps).Sound := sound_loadTemplates
  obtain ⟨hloads, hsound⟩ := loads_rows hstart honce fun _ _ => rfl
  refine ⟨hsound, hloads.maxPoolId, funext fun p => (hloads.maps p).trans (mapOf_loadTemplates p), fun p q => ?_,
    fun p => ?_⟩
  · have hnone : (loadTemplates templates maps).motherOf q ≠ some p := (Option.some_ne_none p).symm
    exact (hloads.mothers p q).trans (or_iff_right hnone)
  · rw [← autoSpawn_loadTemplates maps]
    exact hloads.flags p

namespace Read

variable {t : PoolTables}

section

variable (h : Read templates maps rows t)

include h

theorem up : Up t.motherOf = Link rows (maxEntry templates) := by
  funext q p
  exact propext (h.mothers p q)

theorem motherOf_eq_none :
    t.motherOf p = none ↔ ∀ mother, ¬Link rows (maxEntry templates) p mother := by
  rw [Option.eq_none_iff_forall_ne_some]
  exact forall_congr' fun mother => not_congr (h.mothers mother p)

theorem same_iff : t.checkCircles.motherOf = t.motherOf ↔
    (∀ p, ¬Relation.TransGen (Link rows (maxEntry templates)) p p) ∧
      Pools.FitTogether (maxEntry templates) (Link rows (maxEntry templates)) maps := by
  rw [checkCircles_same_iff h.sound, PoolTables.FitTogether, h.up, h.maxPoolId, h.maps]

-- No pool that is named is left without mother and flag.
theorem flags_iff :
    (∀ p, Named templates rows p → (t.checkCircles.autoSpawn p = true ↔ t.checkCircles.motherOf p = none)) ↔
      t.checkCircles.motherOf = t.motherOf ∧
        ∀ child mother, Link rows (maxEntry templates) child mother →
          mother ∈ templates.map TemplateRow.entry ∨ ∃ top, Link rows (maxEntry templates) mother top := by
  have hclimbs : Climbs t t.checkCircles := climbs_checks _ t
  have hflag : ∀ p, t.checkCircles.autoSpawn p = t.autoSpawn p := hclimbs.autoSpawn
  constructor
  · intro hflags
    have hsame : t.checkCircles.motherOf = t.motherOf := by
      funext p
      rcases hclimbs.cut p with heq | hnone
      · exact heq
      · by_contra hcut
        rw [hnone] at hcut
        obtain ⟨mother, hmother⟩ := Option.ne_none_iff_exists'.mp (Ne.symm hcut)
        have hlink := (h.mothers mother p).mp hmother
        have hauto := (hflags p (.inr (.inl ⟨mother, hlink⟩))).mpr hnone
        rw [hflag, h.flags] at hauto
        exact hauto.2 mother hlink
    refine ⟨hsame, fun child mother hlink => ?_⟩
    by_cases htop : ∃ top, Link rows (maxEntry templates) mother top
    · exact .inr htop
    · have hnone : t.motherOf mother = none := h.motherOf_eq_none.mpr (not_exists.mp htop)
      have hauto := (hflags mother (.inr (.inr ⟨child, hlink⟩))).mpr (by rw [hsame, hnone])
      rw [hflag, h.flags] at hauto
      exact .inl hauto.1
  · rintro ⟨hsame, hlisted⟩ p hnamed
    rw [hflag, hsame, h.flags, h.motherOf_eq_none]
    refine and_iff_right_of_imp fun htop => ?_
    rcases hnamed with hlist | ⟨mother, hlink⟩ | ⟨child, hlink⟩
    · exact hlist
    · exact absurd hlink (htop mother)
    · exact (hlisted child p hlink).resolve_right (not_exists.mpr htop)

end

end Read

theorem PoolTables.Sound.down {t : PoolTables} (h : t.Sound) :
    (fun child mother => child ∈ (t.poolGroup mother).guids) = Up t.motherOf := by
  funext q p
  exact propext (h.agrees p q).symm

end

def threePools : List TemplateRow := [⟨1, 1⟩, ⟨2, 1⟩, ⟨3, 1⟩]

def inThird : List PoolRow := [⟨1, 3, 0, 0⟩, ⟨2, 3, 0, 0⟩]

def oneMap (p : Nat) : Option MapEntry := if p < 3 then some ⟨0, false⟩ else none

-- Pools 1 and 2 within each other: 2 loses its mother and has no flag.
def inEachOther : List PoolRow := [⟨1, 2, 0, 0⟩, ⟨2, 1, 0, 0⟩]

end TurtleWow.Pools
