import TurtleWow.RealmMerge.Effects

namespace TurtleWow.RealmMerge

open List

theorem mem_keysOf {db : Database} {place : Table × Column} {key : ℕ} :
    key ∈ keysOf db place.1 place.2 ↔ ∃ row ∈ db place.1, (row.number place.2).toNat = key := by
  rw [keysOf, mem_insertionSort, mem_dedup, mem_map]

theorem nodup_keysOf (db : Database) (place : Table × Column) : (keysOf db place.1 place.2).Nodup :=
  (perm_insertionSort _ _).nodup_iff.mpr (nodup_dedup _)

theorem le_getLastD {keys : List ℕ} (h : keys.Pairwise (· ≤ ·)) {key : ℕ} (hmem : key ∈ keys) : key ≤ keys.getLastD 0 := by
  obtain ⟨front, last, rfl⟩ := (eq_nil_or_concat keys).resolve_left (ne_nil_of_mem hmem)
  rw [concat_eq_append] at h hmem ⊢
  rw [getLastD_concat]
  rcases mem_append.mp hmem with hfront | hlast
  · exact (pairwise_append.mp h).2.2 key hfront last mem_cons_self
  · exact (mem_singleton.mp hlast).le

theorem le_max_keysOf {db : Database} {place : Table × Column} {key : ℕ} (hmem : key ∈ keysOf db place.1 place.2) :
    key ≤ (keysOf db place.1 place.2).getLastD 0 :=
  le_getLastD (pairwise_insertionSort _ _) hmem

def Shift.place (shift : Shift) : Table × Column := (shift.table, shift.column)

-- One of the three renumberings: its key, and the statements of the two methods
structure Renumbering where
  keyPlace : Table × Column
  fast : ℕ → List Shift
  slow : List (Table × Column)
  places_eq : ∀ n, (fast n).map Shift.place = (fast 0).map Shift.place
  nodup : ((fast 0).map Shift.place).Nodup
  known : ∀ place ∈ (fast 0).map Shift.place,
    place.2 ∈ columns place.1 ∧ place.2 ≠ .mailTemplateId ∧ place.2 ≠ .atLogin
  key_mem : ∀ n, ⟨keyPlace.1, keyPlace.2, .always⟩ ∈ fast n
  key_ne : keyPlace ≠ (.mail, .sender)
  key_replaced : Replaced slow keyPlace.1 keyPlace.2
  slow_nodup : slow.Nodup
  slow_template : ∀ place ∈ slow, place.2 ≠ .mailTemplateId

namespace Renumbering

variable (r : Renumbering)

def places : List (Table × Column) := (r.fast 0).map Shift.place

def fastEffect (maxKey maxKey2 : ℕ) : Effect where
  changed place row := ∃ shift ∈ r.fast maxKey2, shift.place = place ∧ shift.condition.holds row shift.column
  target number := number + maxKey
  rename key := key + maxKey

instance (maxKey maxKey2 : ℕ) (place : Table × Column) : DecidablePred ((r.fastEffect maxKey maxKey2).changed place) :=
  fun _ => inferInstanceAs (Decidable (∃ shift ∈ r.fast maxKey2, _ = place ∧ _))

instance (keys : List ℕ) (number : ℤ) : Decidable (Among keys number) :=
  inferInstanceAs (Decidable (∃ key ∈ keys, number = key))

def slowEffect (keys1 keys2 : List ℕ) (pairs : List (ℕ × ℕ)) : Effect where
  changed place row := Replaced r.slow place.1 place.2 ∧ Among keys1 (row.number place.2) ∧ Among keys2 (row.number place.2)
  target := renumberedTo pairs
  rename key := (renumberedTo pairs key).toNat

instance (keys1 keys2 : List ℕ) (pairs : List (ℕ × ℕ)) (place : Table × Column) :
    DecidablePred ((r.slowEffect keys1 keys2 pairs).changed place) := fun _ =>
  inferInstanceAs (Decidable (Replaced r.slow place.1 place.2 ∧ Among keys1 _ ∧ Among keys2 _))

variable {r} {keys1 keys2 : List ℕ} {maxKey maxKey2 : ℕ}

theorem shift_unique {shift other : Shift} (hmem : shift ∈ r.fast maxKey2) (hother : other ∈ r.fast maxKey2)
    (hplace : other.place = shift.place) : other = shift :=
  inj_on_of_nodup_map ((r.places_eq maxKey2).symm ▸ r.nodup) hother hmem hplace

theorem fastEffect_changed {shift : Shift} (hmem : shift ∈ r.fast maxKey2) (row : Row) :
    (r.fastEffect maxKey maxKey2).changed shift.place row ↔ shift.condition.holds row shift.column := by
  constructor
  · rintro ⟨other, hother, hplace, hholds⟩
    obtain rfl := shift_unique hmem hother hplace
    exact hholds
  · exact fun hholds => ⟨shift, hmem, rfl, hholds⟩

variable (r maxKey2) in
theorem fastEffect_sound (hmax1 : ∀ key ∈ keys1, key ≤ maxKey) (hpositive : 0 < maxKey) (hkeys2 : 0 ∉ keys2) :
    (r.fastEffect maxKey maxKey2).Sound keys1 keys2 where
  disjoint key hkey hmem := by
    have hle : key + maxKey ≤ maxKey := hmax1 _ hmem
    have hzero : key = 0 := by omega
    exact hkeys2 (hzero ▸ hkey)
  injective key _ other _ hsame := Nat.add_right_cancel hsame
  moves place row _ := by
    show row.number place.2 + (maxKey : ℤ) ≠ row.number place.2
    omega
  target_iff place row _ key _ := by
    show row.number place.2 + (maxKey : ℤ) = ((key + maxKey : ℕ) : ℤ) ↔ row.number place.2 = key
    omega

theorem fast_number {shift : Shift} (hmem : shift ∈ r.fast maxKey2) (row : Row) :
    (rowAfter shift.table ((r.fast maxKey2).map fun shift => shift.update maxKey) row).number shift.column
      = (r.fastEffect maxKey maxKey2).number shift.place row := by
  have hplaces := r.places_eq maxKey2
  rw [rowAfter_shift hmem (show ((r.fast maxKey2).map Shift.place).Nodup from hplaces ▸ r.nodup) (fun other hother => ?_)]
  · unfold Effect.number
    simp only [fastEffect_changed hmem]
    rfl
  · obtain ⟨hknown, htemplate, -⟩ := r.known other.place (hplaces ▸ mem_map_of_mem hother)
    exact ⟨hknown, htemplate⟩

-- The new keys of the slow method
section
variable {data : UniqueKeyData} (hfresh : data.Fresh keys2) (h1 : data.existingKeys1 = keys1)
  (h2 : data.existingKeys2 = keys2)
include hfresh h1 h2

theorem replacement_free {pair : ℕ × ℕ} (hmem : pair ∈ data.replacements keys2) :
    pair.1 ∈ keys1 ∧ pair.1 ∈ keys2 ∧ pair.2 ∉ keys1 ∧ pair.2 ∉ keys2 ∧ 0 < pair.2 := by
  obtain ⟨hold, hexisting, hless, hfree⟩ := UniqueKeyData.of_mem_replacements hfresh hmem
  exact ⟨h1 ▸ hexisting, hold, fun h => hfree (.inl (h1.symm ▸ h)), fun h => hfree (.inr (h2.symm ▸ h)), by omega⟩

theorem renumberedTo_replacement {key newKey : ℕ} (hmem : (key, newKey) ∈ data.replacements keys2) :
    renumberedTo (data.replacements keys2) key = newKey := by
  refine renumberedTo_of_mem hmem ((UniqueKeyData.replacements_pairwise hfresh).imp And.left) ?_
  intro pair hpair other hother hsame
  exact (replacement_free hfresh h1 h2 hpair).2.2.1 (hsame ▸ (replacement_free hfresh h1 h2 hother).1)

theorem exists_replacement {number : ℤ} (hamong1 : Among keys1 number) (hamong2 : Among keys2 number) :
    ∃ pair ∈ data.replacements keys2, number = pair.1 ∧ renumberedTo (data.replacements keys2) number = pair.2 := by
  obtain ⟨key, hkey2, rfl⟩ := hamong2
  obtain ⟨other, hkey1, hsame⟩ := hamong1
  obtain rfl := Int.ofNat_inj.mp hsame
  obtain ⟨newKey, hmem⟩ := UniqueKeyData.exists_mem_replacements hfresh hkey2 (h1.symm ▸ hkey1)
  exact ⟨_, hmem, rfl, renumberedTo_replacement hfresh h1 h2 hmem⟩

theorem renumberedTo_other {number : ℤ} (h : ¬ (Among keys1 number ∧ Among keys2 number)) :
    renumberedTo (data.replacements keys2) number = number := by
  refine renumberedTo_of_forall_ne fun pair hpair hsame => h ?_
  obtain ⟨hkey1, hkey2, -⟩ := replacement_free hfresh h1 h2 hpair
  exact ⟨⟨pair.1, hkey1, hsame⟩, ⟨pair.1, hkey2, hsame⟩⟩

omit h1 h2 in
theorem replacement_injective {pair other : ℕ × ℕ} (hpair : pair ∈ data.replacements keys2)
    (hother : other ∈ data.replacements keys2) (hsame : pair.2 = other.2) : pair = other := by
  refine inj_on_of_nodup_map ?_ hpair hother hsame
  rw [nodup_iff_pairwise_ne, pairwise_map]
  exact (UniqueKeyData.replacements_pairwise hfresh).imp fun h => h.2.ne

theorem slow_rename_cases {key : ℕ} (hkey : key ∈ keys2) :
    ((renumberedTo (data.replacements keys2) key).toNat = key ∧ key ∉ keys1) ∨
      ∃ pair ∈ data.replacements keys2, key = pair.1 ∧ (renumberedTo (data.replacements keys2) key).toNat = pair.2 := by
  by_cases hmem : key ∈ keys1
  · obtain ⟨pair, hpair, hnumber, hnew⟩ := exists_replacement hfresh h1 h2 ⟨key, hmem, rfl⟩ ⟨key, hkey, rfl⟩
    exact .inr ⟨pair, hpair, Int.ofNat_inj.mp hnumber, by rw [hnew, Int.toNat_natCast]⟩
  · refine .inl ⟨?_, hmem⟩
    rw [renumberedTo_other hfresh h1 h2, Int.toNat_natCast]
    rintro ⟨⟨other, hother, hsame⟩, -⟩
    exact hmem (Int.ofNat_inj.mp hsame ▸ hother)

theorem slow_rename_injective {key other : ℕ} (hkey : key ∈ keys2) (hother : other ∈ keys2)
    (hsame : (renumberedTo (data.replacements keys2) key).toNat = (renumberedTo (data.replacements keys2) other).toNat) :
    key = other := by
  rcases slow_rename_cases hfresh h1 h2 hkey with ⟨hstays, -⟩ | ⟨pair, hpair, hpairkey, hnew⟩
  · rcases slow_rename_cases hfresh h1 h2 hother with ⟨hstays', -⟩ | ⟨pair, hpair, -, hnew⟩
    · rw [hstays, hstays'] at hsame
      exact hsame
    · rw [hstays, hnew] at hsame
      exact absurd (hsame ▸ hkey) (replacement_free hfresh h1 h2 hpair).2.2.2.1
  · rcases slow_rename_cases hfresh h1 h2 hother with ⟨hstays, -⟩ | ⟨pair', hpair', hpairkey', hnew'⟩
    · rw [hnew, hstays] at hsame
      exact absurd (hsame.symm ▸ hother) (replacement_free hfresh h1 h2 hpair).2.2.2.1
    · rw [hnew, hnew'] at hsame
      rw [hpairkey, hpairkey', replacement_injective hfresh hpair hpair' hsame]

theorem slowEffect_sound : (r.slowEffect keys1 keys2 (data.replacements keys2)).Sound keys1 keys2 where
  disjoint key hkey := by
    show (renumberedTo _ (key : ℤ)).toNat ∉ keys1
    rcases slow_rename_cases hfresh h1 h2 hkey with ⟨hstays, hmem⟩ | ⟨pair, hpair, -, hnew⟩
    · rw [hstays]
      exact hmem
    · rw [hnew]
      exact (replacement_free hfresh h1 h2 hpair).2.2.1
  injective key hkey other hother hsame := slow_rename_injective hfresh h1 h2 hkey hother hsame
  moves place row hchanged := by
    obtain ⟨-, hamong1, hamong2⟩ := hchanged
    obtain ⟨pair, hpair, hnumber, hnew⟩ := exists_replacement hfresh h1 h2 hamong1 hamong2
    obtain ⟨hold, -, hfree, -⟩ := replacement_free hfresh h1 h2 hpair
    show renumberedTo _ (row.number place.2) ≠ row.number place.2
    rw [hnew, hnumber]
    exact fun hsame => hfree (Int.ofNat_inj.mp hsame ▸ hold)
  target_iff place row hchanged key hkey := by
    obtain ⟨-, hamong1, hamong2⟩ := hchanged
    obtain ⟨pair, hpair, hnumber, hnew⟩ := exists_replacement hfresh h1 h2 hamong1 hamong2
    show renumberedTo _ (row.number place.2) = ((renumberedTo _ (key : ℤ)).toNat : ℤ) ↔ row.number place.2 = key
    constructor
    · intro hsame
      have hrename : (renumberedTo (data.replacements keys2) (pair.1 : ℤ)).toNat
          = (renumberedTo (data.replacements keys2) (key : ℤ)).toNat := by
        rw [← hnumber, hsame, Int.toNat_natCast]
      rw [hnumber, slow_rename_injective hfresh h1 h2 (replacement_free hfresh h1 h2 hpair).2.1 hkey hrename]
    · intro hsame
      rw [← hsame, hnew, Int.toNat_natCast]

theorem slow_number (place : Table × Column) (row : Row) :
    (slowRow r.slow place.1 (data.replacements keys2) row).number place.2
      = (r.slowEffect keys1 keys2 (data.replacements keys2)).number place row := by
  rw [slowRow_number r.slow_nodup r.slow_template, Effect.number]
  by_cases hreplaced : Replaced r.slow place.1 place.2
  · rw [if_pos hreplaced]
    by_cases hamong : Among keys1 (row.number place.2) ∧ Among keys2 (row.number place.2)
    · exact (if_pos ⟨hreplaced, hamong⟩).symm
    · exact (renumberedTo_other hfresh h1 h2 hamong).trans (if_neg fun h => hamong h.2).symm
  · rw [if_neg hreplaced]
    exact (if_neg fun h => hreplaced h.1).symm

end

end Renumbering

end TurtleWow.RealmMerge
