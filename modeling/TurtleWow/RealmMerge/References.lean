import TurtleWow.RealmMerge.Methods

namespace TurtleWow.RealmMerge

open List

-- The conditions on the rows

section
variable (zeroIsNone : Table × Column → Prop) (keys1 keys2 : List ℕ)

-- A number that is shifted is a reference, is no 0 that means none and does not
-- land on a key of the first database; a reference that stays is no key of
-- either database and no shifted one.
def FastFits (maxKey : ℕ) (shift : Shift) (row : Row) : Prop :=
  if shift.condition.holds row shift.column then
    IsReference shift.place row ∧ (zeroIsNone shift.place → row.number shift.column ≠ 0) ∧
      ¬ Among keys1 (row.number shift.column + maxKey)
  else
    IsReference shift.place row → ¬ Among keys1 (row.number shift.column) ∧
      ∀ key ∈ keys2, row.number shift.column ≠ key ∧ row.number shift.column ≠ key + maxKey

-- A number that is replaced is a reference; a reference that stays is no key of
-- the first database and no number given out.
def SlowFits (slow : List (Table × Column)) (place : Table × Column) (row : Row) : Prop :=
  if Replaced slow place.1 place.2 ∧ Among keys1 (row.number place.2) ∧ Among keys2 (row.number place.2) then
    IsReference place row
  else
    IsReference place row → ¬ Among keys1 (row.number place.2) ∧
      ∀ pair ∈ UniqueKeyData.replacements { existingKeys1 := keys1, existingKeys2 := keys2 } keys2,
        row.number place.2 ≠ pair.2

end

namespace Renumbering

variable (r : Renumbering) (zeroIsNone : Table × Column → Prop)

def keys (db : Database) : List ℕ := keysOf db r.keyPlace.1 r.keyPlace.2

-- The condition, for the method that is taken; with the keys of only one
-- database there is nothing to do.
def Fits (keys1 keys2 : List ℕ) (db2 : Database) : Prop :=
  let maxKey := max (keys1.getLastD 0) (keys2.getLastD 0)
  if keys1 = [] ∨ keys2 = [] then
    ∀ place ∈ r.places, ∀ row ∈ db2 place.1, IsReference place row → ¬ Among keys1 (row.number place.2)
  else if maxKey + keys2.getLastD 0 < int32Max then
    ∀ shift ∈ r.fast (keys2.getLastD 0), ∀ row ∈ db2 shift.table, FastFits zeroIsNone keys1 keys2 maxKey shift row
  else ∀ place ∈ r.places, ∀ row ∈ db2 place.1, SlowFits keys1 keys2 r.slow place row

def KeepsReferences (keys1 keys2 : List ℕ) (db2 db2' : Database) : Prop :=
  ∃ rename, Renumbered zeroIsNone keys1 keys2 rename r.keyPlace r.places db2 db2'

variable {r} {zeroIsNone} {keys1 keys2 : List ℕ} {maxKey maxKey2 : ℕ}

theorem fastFits_iff {shift : Shift} (hmem : shift ∈ r.fast maxKey2) (hpositive : 0 < maxKey) (row : Row) :
    (r.fastEffect maxKey maxKey2).RowFits zeroIsNone keys1 keys2 shift.place row ↔
      FastFits zeroIsNone keys1 keys2 maxKey shift row := by
  unfold Effect.RowFits FastFits
  simp only [fastEffect_changed hmem]
  by_cases hholds : shift.condition.holds row shift.column
  · rw [if_pos hholds, if_pos hholds]
    rfl
  · rw [if_neg hholds, if_neg hholds]
    refine imp_congr_right fun _ => and_congr_right fun _ => forall₂_congr fun key _ => ?_
    show (row.number shift.column = ((key + maxKey : ℕ) : ℤ) ↔ row.number shift.column = key) ↔
      row.number shift.column ≠ key ∧ row.number shift.column ≠ key + maxKey
    omega

theorem slowFits_iff (hkeys2 : keys2.Nodup) (hzero : 0 ∉ keys2) (place : Table × Column) (row : Row) :
    (r.slowEffect keys1 keys2
      (UniqueKeyData.replacements { existingKeys1 := keys1, existingKeys2 := keys2 } keys2)).RowFits
        zeroIsNone keys1 keys2 place row ↔ SlowFits keys1 keys2 r.slow place row := by
  have hfresh : UniqueKeyData.Fresh { existingKeys1 := keys1, existingKeys2 := keys2 } keys2 := ⟨hkeys2, fun _ _ => rfl⟩
  unfold Effect.RowFits SlowFits
  by_cases hchanged : Replaced r.slow place.1 place.2 ∧ Among keys1 (row.number place.2) ∧ Among keys2 (row.number place.2)
  · rw [if_pos (show (r.slowEffect keys1 keys2 _).changed place row from hchanged), if_pos hchanged]
    refine and_iff_left ⟨fun _ hnumber => ?_, ?_⟩
    · obtain ⟨-, -, key, hkey, hsame⟩ := hchanged
      exact hzero (Int.ofNat_inj.mp (hnumber.symm.trans hsame) ▸ hkey)
    · obtain ⟨pair, hpair, -, hnew⟩ := exists_replacement hfresh rfl rfl hchanged.2.1 hchanged.2.2
      rintro ⟨key, hkey, hsame⟩
      have hpairnew := Int.ofNat_inj.mp (hnew.symm.trans hsame)
      exact (replacement_free hfresh rfl rfl hpair).2.2.1 (hpairnew ▸ hkey)
  · rw [if_neg (show ¬ (r.slowEffect keys1 keys2 _).changed place row from hchanged), if_neg hchanged]
    refine imp_congr_right fun _ => and_congr_right fun hamong => ?_
    constructor
    · intro hrefers pair hpair hsame
      obtain ⟨hold1, hold2, -⟩ := replacement_free hfresh rfl rfl hpair
      refine hamong ⟨pair.1, hold1, (hrefers pair.1 hold2).mp (hsame.trans ?_)⟩
      show (pair.2 : ℤ) = ((renumberedTo _ (pair.1 : ℤ)).toNat : ℤ)
      rw [renumberedTo_replacement hfresh rfl rfl hpair, Int.toNat_natCast]
    · intro hgiven key hkey
      show row.number place.2 = ((renumberedTo _ (key : ℤ)).toNat : ℤ) ↔ row.number place.2 = key
      rcases slow_rename_cases hfresh rfl rfl hkey with ⟨hstays, -⟩ | ⟨pair, hpair, rfl, hnew⟩
      · rw [hstays]
      · rw [hnew]
        exact iff_of_false (hgiven pair hpair)
          fun hsame => hamong ⟨pair.1, (replacement_free hfresh rfl rfl hpair).1, hsame⟩

-- An update of the names leaves the numbers.
def SameNumbers (db db' : Database) : Prop :=
  ∀ table, ∃ f : Row → Row, db' table = (db table).map f ∧
    ∀ row column, column ≠ .atLogin → (f row).number column = row.number column

theorem SameNumbers.refl (db : Database) : SameNumbers db db := fun _ => ⟨id, (map_id _).symm, fun _ _ _ => rfl⟩

theorem SameNumbers.trans {db db' db'' : Database} (h : SameNumbers db db') (h' : SameNumbers db' db'') :
    SameNumbers db db'' := by
  intro table
  obtain ⟨f, hf, hnumber⟩ := h table
  obtain ⟨g, hg, hnumber'⟩ := h' table
  refine ⟨g ∘ f, by rw [hg, hf, map_map], fun row column hcolumn => ?_⟩
  exact (hnumber' (f row) column hcolumn).trans (hnumber row column hcolumn)

theorem exists_shift {place : Table × Column} (hplace : place ∈ r.places) (n : ℕ) : ∃ shift ∈ r.fast n, shift.place = place :=
  mem_map.mp ((r.places_eq n).symm ▸ hplace)

theorem keyPlace_mem : r.keyPlace ∈ r.places := mem_map.mpr ⟨_, r.key_mem 0, rfl⟩

theorem mem_keys {db : Database} {key : ℕ} (h : ∀ row ∈ db r.keyPlace.1, 0 < row.number r.keyPlace.2) :
    key ∈ r.keys db ↔ ∃ row ∈ db r.keyPlace.1, row.number r.keyPlace.2 = key := by
  refine mem_keysOf.trans (exists_congr fun row => and_congr_right fun hrow => ?_)
  have hpositive := h row hrow
  omega

variable {db1 db2 named : Database}

section
variable (hnamed : SameNumbers db2 named) (hkeys2 : ∀ row ∈ db2 r.keyPlace.1, 0 < row.number r.keyPlace.2)
include hnamed hkeys2

theorem keepsReferences_iff {e : Effect} [∀ place, DecidablePred (e.changed place)] {keys1 : List ℕ} {result : Database}
    {g : Table → Row → Row} (hsound : e.Sound keys1 (r.keys db2)) (hresult : ∀ table, result table = (named table).map (g table))
    (hnumber : ∀ place ∈ r.places, ∀ row, (g place.1 row).number place.2 = e.number place row)
    (hsame : ∀ place ∈ r.places, ∀ row other : Row, (∀ column, column ≠ .atLogin → row.number column = other.number column) →
      e.number place row = e.number place other)
    (hrename : ∀ row, ∀ key ∈ r.keys db2, row.number r.keyPlace.2 = (key : ℤ) → e.number r.keyPlace row = e.rename key) :
    r.KeepsReferences zeroIsNone keys1 (r.keys db2) db2 result ↔
      ∀ place ∈ r.places, ∀ row ∈ db2 place.1, e.RowFits zeroIsNone keys1 (r.keys db2) place row := by
  refine Effect.exists_renumbered_iff hsound keyPlace_mem r.key_ne (fun key hkey => (mem_keys hkeys2).mp hkey)
    (fun row hrow => ?_) fun place hplace => ?_
  · have hpositive := hkeys2 row hrow
    have hcast : row.number r.keyPlace.2 = ((row.number r.keyPlace.2).toNat : ℤ) := by omega
    have hkey : (row.number r.keyPlace.2).toNat ∈ r.keys db2 := (mem_keys hkeys2).mpr ⟨row, hrow, hcast⟩
    exact ⟨_, hkey, hcast, hrename row _ hkey hcast⟩
  · obtain ⟨f, hf, hkept⟩ := hnamed place.1
    refine ⟨g place.1 ∘ f, by rw [hresult, hf, map_map], fun row => ?_⟩
    exact (hnumber place hplace (f row)).trans (hsame place hplace _ _ (hkept row))

theorem fast_iff {keys1 : List ℕ} (hmax1 : ∀ key ∈ keys1, key ≤ maxKey) (hpositive : 0 < maxKey)
    (hzero : 0 ∉ r.keys db2) :
    r.KeepsReferences zeroIsNone keys1 (r.keys db2) db2
        (executeAll named ((r.fast maxKey2).map fun shift => shift.update maxKey)) ↔
      ∀ shift ∈ r.fast maxKey2, ∀ row ∈ db2 shift.table, FastFits zeroIsNone keys1 (r.keys db2) maxKey shift row := by
  rw [keepsReferences_iff hnamed hkeys2 (fastEffect_sound r maxKey2 hmax1 hpositive hzero)
    (fun table => fastMethod_rows _ maxKey named)]
  · constructor
    · intro h shift hmem row hrow
      refine (fastFits_iff hmem hpositive row).mp (h shift.place ?_ row hrow)
      have hin : shift.place ∈ (r.fast maxKey2).map Shift.place := mem_map_of_mem hmem
      rwa [r.places_eq maxKey2] at hin
    · intro h place hplace row hrow
      obtain ⟨shift, hmem, rfl⟩ := exists_shift hplace maxKey2
      exact (fastFits_iff hmem hpositive row).mpr (h shift hmem row hrow)
  · intro place hplace row
    obtain ⟨shift, hmem, rfl⟩ := exists_shift hplace maxKey2
    exact fast_number hmem row
  · intro place hplace row other hsame
    obtain ⟨shift, hmem, rfl⟩ := exists_shift hplace maxKey2
    obtain ⟨-, -, hcolumn⟩ := r.known shift.place hplace
    have hnumber := hsame shift.column hcolumn
    have hholds := holds_congr shift.condition hnumber (hsame .mailTemplateId nofun)
    unfold Effect.number
    simp only [fastEffect_changed hmem, hholds]
    rw [show row.number shift.place.2 = other.number shift.place.2 from hnumber]
  · intro row key _ hnumber
    refine (if_pos ((fastEffect_changed (r.key_mem maxKey2) row).mpr rfl)).trans ?_
    show row.number r.keyPlace.2 + (maxKey : ℤ) = ((key + maxKey : ℕ) : ℤ)
    rw [hnumber, Int.natCast_add]

theorem slow_iff {keys1 : List ℕ} (hzero : 0 ∉ r.keys db2) :
    r.KeepsReferences zeroIsNone keys1 (r.keys db2) db2
        (slowMethod r.slow { existingKeys1 := keys1, existingKeys2 := r.keys db2 } (r.keys db2) named) ↔
      ∀ place ∈ r.places, ∀ row ∈ db2 place.1, SlowFits keys1 (r.keys db2) r.slow place row := by
  have hnodup : (r.keys db2).Nodup := nodup_keysOf db2 r.keyPlace
  have hfresh : UniqueKeyData.Fresh { existingKeys1 := keys1, existingKeys2 := r.keys db2 } (r.keys db2) :=
    ⟨hnodup, fun _ _ => rfl⟩
  rw [keepsReferences_iff hnamed hkeys2 (slowEffect_sound (r := r) hfresh rfl rfl)
    (fun table => slowMethod_rows _ _ named)]
  · exact forall₂_congr fun place _ => forall₂_congr fun row _ => slowFits_iff hnodup hzero place row
  · exact fun place _ row => slow_number hfresh rfl rfl place row
  · intro place hplace row other hsame
    have hnumber := hsame place.2 (r.known place hplace).2.2
    rw [← slow_number hfresh rfl rfl, ← slow_number hfresh rfl rfl, slowRow_number r.slow_nodup r.slow_template,
      slowRow_number r.slow_nodup r.slow_template, hnumber]
  · intro row key hkey hnumber
    have hnew : renumberedTo (UniqueKeyData.replacements
        { existingKeys1 := keys1, existingKeys2 := r.keys db2 } (r.keys db2)) key
          = ((renumberedTo (UniqueKeyData.replacements
            { existingKeys1 := keys1, existingKeys2 := r.keys db2 } (r.keys db2)) (key : ℤ)).toNat : ℤ) := by
      rcases slow_rename_cases hfresh rfl rfl hkey with ⟨hstays, hmem⟩ | ⟨pair, hpair, hkeypair, hto⟩
      · rw [hstays, renumberedTo_other hfresh rfl rfl]
        rintro ⟨⟨other, hother, hsame⟩, -⟩
        exact hmem (Int.ofNat_inj.mp hsame ▸ hother)
      · rw [hto, hkeypair, renumberedTo_replacement hfresh rfl rfl hpair]
    rw [← slow_number hfresh rfl rfl, slowRow_number r.slow_nodup r.slow_template, if_pos r.key_replaced, hnumber]
    exact hnew

theorem none_iff {keys1 : List ℕ} (h : keys1 = [] ∨ r.keys db2 = []) :
    r.KeepsReferences zeroIsNone keys1 (r.keys db2) db2 named ↔
      ∀ place ∈ r.places, ∀ row ∈ db2 place.1, IsReference place row → ¬ Among keys1 (row.number place.2) := by
  let e : Effect := ⟨fun _ _ => False, id, id⟩
  have hsound : e.Sound keys1 (r.keys db2) := by
    refine ⟨fun key hkey hmem => ?_, fun _ _ _ _ hsame => hsame, fun _ _ hchanged => hchanged.elim,
      fun _ _ hchanged => hchanged.elim⟩
    rcases h with h | h
    · exact not_mem_nil (h ▸ hmem)
    · exact not_mem_nil (h ▸ hkey)
  have : ∀ place, DecidablePred (e.changed place) := fun _ _ => inferInstanceAs (Decidable False)
  rw [keepsReferences_iff hnamed hkeys2 hsound (fun table => (map_id' (named table)).symm)]
  · refine forall₂_congr fun place _ => forall₂_congr fun row _ => ?_
    refine (iff_of_eq (if_neg id)).trans (imp_congr_right fun _ => and_iff_left fun key _ => Iff.rfl)
  · exact fun place _ row => (if_neg id).symm
  · intro place hplace row other hsame
    refine (if_neg id).trans ((hsame place.2 (r.known place hplace).2.2).trans (if_neg id).symm)
  · exact fun row key _ hnumber => (if_neg id).trans hnumber

theorem updateKeys_iff :
    r.KeepsReferences zeroIsNone (r.keys db1) (r.keys db2) db2
        (if r.keys db1 ≠ [] ∧ r.keys db2 ≠ [] then updateKeys r.fast r.slow (r.keys db1) (r.keys db2) named else named) ↔
      r.Fits zeroIsNone (r.keys db1) (r.keys db2) db2 := by
  have hzero : 0 ∉ r.keys db2 := by
    intro hmem
    obtain ⟨row, hrow, hnumber⟩ := (mem_keys hkeys2).mp hmem
    have hpositive := hkeys2 row hrow
    omega
  unfold Fits
  by_cases hempty : r.keys db1 = [] ∨ r.keys db2 = []
  · rw [if_pos hempty, if_neg (by tauto)]
    exact none_iff hnamed hkeys2 hempty
  rw [if_neg hempty, if_pos (not_or.mp hempty)]
  unfold updateKeys
  have hlast : ∀ {db : Database}, ∀ key ∈ r.keys db, key ≤ (r.keys db).getLastD 0 := fun key hkey => le_max_keysOf hkey
  have hmax1 : ∀ key ∈ r.keys db1, key ≤ max ((r.keys db1).getLastD 0) ((r.keys db2).getLastD 0) :=
    fun key hkey => (hlast key hkey).trans (Nat.le_max_left _ _)
  have hpositive : 0 < max ((r.keys db1).getLastD 0) ((r.keys db2).getLastD 0) := by
    obtain ⟨key, hkey⟩ := exists_mem_of_ne_nil _ (not_or.mp hempty).2
    have hne : key ≠ 0 := fun h => hzero (h ▸ hkey)
    have hle := (hlast key hkey).trans (Nat.le_max_right ((r.keys db1).getLastD 0) _)
    omega
  dsimp only
  split
  · exact fast_iff hnamed hkeys2 hmax1 hpositive hzero
  · exact slow_iff hnamed hkeys2 hzero

end

end Renumbering

end TurtleWow.RealmMerge
