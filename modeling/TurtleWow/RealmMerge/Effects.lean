import TurtleWow.RealmMerge.Database

namespace TurtleWow.RealmMerge

open List

-- What the two methods do to one number of one row

def renumberedTo (pairs : List (ℕ × ℕ)) (number : ℤ) : ℤ :=
  pairs.foldl (fun number pair => if number = pair.1 then pair.2 else number) number

section

variable {pairs : List (ℕ × ℕ)} {number : ℤ}

theorem renumberedTo_of_forall_ne (h : ∀ pair ∈ pairs, number ≠ pair.1) : renumberedTo pairs number = number := by
  induction pairs with
  | nil => rfl
  | cons pair rest ih =>
    rw [renumberedTo, foldl_cons, if_neg (h pair mem_cons_self)]
    exact ih fun other hmem => h other (mem_cons_of_mem _ hmem)

-- A number that was given out is not replaced again: it is nobody's old key.
theorem renumberedTo_of_mem {key newKey : ℕ} (hmem : (key, newKey) ∈ pairs)
    (hkeys : pairs.Pairwise fun first second => first.1 ≠ second.1)
    (hnew : ∀ pair ∈ pairs, ∀ other ∈ pairs, pair.2 ≠ other.1) : renumberedTo pairs key = newKey := by
  induction pairs with
  | nil => cases hmem
  | cons pair rest ih =>
    obtain ⟨hfirst, hrest⟩ := pairwise_cons.mp hkeys
    rw [renumberedTo, foldl_cons]
    rcases mem_cons.mp hmem with rfl | hmem
    · rw [if_pos rfl]
      refine renumberedTo_of_forall_ne fun other hother hsame => ?_
      exact hnew _ mem_cons_self other (mem_cons_of_mem _ hother) (Int.ofNat_inj.mp hsame)
    · rw [if_neg fun hsame => hfirst _ hmem (Int.ofNat_inj.mp hsame).symm]
      exact ih hmem hrest fun pair hpair other hother =>
        hnew pair (mem_cons_of_mem _ hpair) other (mem_cons_of_mem _ hother)

variable {places : List (Table × Column)} {table : Table} {column : Column} {row : Row}

-- One row under the statements for one key after the other
def slowRow (places : List (Table × Column)) (table : Table) (pairs : List (ℕ × ℕ)) (row : Row) : Row :=
  pairs.foldl (fun row pair => rowAfter table (places.map (replaceUpdate pair.2 pair.1)) row) row

theorem slowMethod_rows (data : UniqueKeyData) (keys : List ℕ) (db : Database) :
    slowMethod places data keys db table = (db table).map (slowRow places table (data.replacements keys)) := by
  induction keys generalizing data db with
  | nil => exact (map_id' _).symm
  | cons key keys ih =>
    rw [slowMethod, UniqueKeyData.replacements]
    rcases data.replaceKeyIfNeeded key with ⟨⟨newKey, replaced⟩, data'⟩
    dsimp only
    rw [ih]
    cases replaced with
    | false => rfl
    | true =>
      rw [if_pos rfl, if_pos rfl, executeAll_rows, map_map]
      rfl

-- The columns that the slow method changes
def Replaced (places : List (Table × Column)) (table : Table) (column : Column) : Prop :=
  (table, column) ∈ places ∧ column ∈ columns table

instance : Decidable (Replaced places table column) := inferInstanceAs (Decidable (_ ∧ _))

variable (places) in
theorem map_place_replaceUpdate (newKey key : ℕ) :
    (places.map (replaceUpdate newKey key)).map Update.place = places :=
  map_map.trans (map_id' places)

theorem rowAfter_replace (hnodup : places.Nodup) (htemplate : ∀ place ∈ places, place.2 ≠ .mailTemplateId)
    (newKey key : ℕ) : (rowAfter table (places.map (replaceUpdate newKey key)) row).number column
      = if Replaced places table column ∧ row.number column = key then (newKey : ℤ) else row.number column := by
  by_cases hcolumn : column ∈ columns table
  · by_cases hplace : (table, column) ∈ places
    · have hmem := mem_map_of_mem (f := replaceUpdate newKey key) hplace
      have hnumber := rowAfter_of_mem row ((map_place_replaceUpdate places newKey key).symm ▸ hnodup) hmem
        (decide_eq_true hcolumn) fun v hv => by
          obtain ⟨place, hin, rfl⟩ := mem_map.mp hv
          exact htemplate place hin
      refine hnumber.trans ?_
      by_cases hkey : row.number column = key
      · rw [if_pos ⟨⟨hplace, hcolumn⟩, hkey⟩]
        exact if_pos (decide_eq_true hkey)
      · rw [if_neg fun h => hkey h.2]
        exact if_neg fun h => hkey (of_decide_eq_true h)
    · rw [if_neg fun h => hplace h.1.1]
      refine rowAfter_number fun v hv hsame => hplace ?_
      rw [← hsame, ← map_place_replaceUpdate places newKey key]
      exact mem_map_of_mem hv
  · rw [if_neg fun h => hcolumn h.1.2]
    exact rowAfter_unknown hcolumn

theorem slowRow_number (hnodup : places.Nodup) (htemplate : ∀ place ∈ places, place.2 ≠ .mailTemplateId) :
    (slowRow places table pairs row).number column
      = if Replaced places table column then renumberedTo pairs (row.number column) else row.number column := by
  induction pairs generalizing row with
  | nil => exact (ite_self _).symm
  | cons pair rest ih =>
    rw [slowRow, foldl_cons, ← slowRow, ih, rowAfter_replace hnodup htemplate]
    by_cases hreplaced : Replaced places table column
    · rw [if_pos hreplaced, if_pos hreplaced]
      simp only [hreplaced, true_and]
      rfl
    · rw [if_neg hreplaced, if_neg hreplaced, if_neg fun h => hreplaced h.1]

theorem fastMethod_rows (shifts : List Shift) (maxKey : ℕ) (db : Database) :
    executeAll db (shifts.map fun shift => shift.update maxKey) table
      = (db table).map (rowAfter table (shifts.map fun shift => shift.update maxKey)) :=
  executeAll_rows db _ table

theorem rowAfter_shift {shifts : List Shift} {shift : Shift} (hmem : shift ∈ shifts)
    (hnodup : (shifts.map fun shift => (shift.table, shift.column)).Nodup)
    (hcolumns : ∀ shift ∈ shifts, shift.column ∈ columns shift.table ∧ shift.column ≠ .mailTemplateId) (maxKey : ℕ) :
    (rowAfter shift.table (shifts.map fun shift => shift.update maxKey) row).number shift.column
      = if shift.condition.holds row shift.column then row.number shift.column + maxKey
        else row.number shift.column := by
  refine rowAfter_of_mem row (u := shift.update maxKey) ?_ (mem_map_of_mem hmem)
    (decide_eq_true (hcolumns shift hmem).1) fun v hv => ?_
  · rw [map_map]
    exact hnodup
  · obtain ⟨other, hother, rfl⟩ := mem_map.mp hv
    exact (hcolumns other hother).2

end

def mailNormal : ℤ := 0

-- The sender of a mail is a character in normal mail only; the other columns of
-- the statements hold references in every row.
def IsReference (place : Table × Column) (row : Row) : Prop :=
  place = (.mail, .sender) → row.number .messageType = mailNormal

def Among (keys : List ℕ) (number : ℤ) : Prop := ∃ key ∈ keys, number = key

section
variable (zeroIsNone : Table × Column → Prop) (keys1 keys2 : List ℕ) (rename : ℕ → ℕ)

-- What the merge owes one column of one row
structure Kept (place : Table × Column) (before after : Row) : Prop where
  refers : IsReference place before → ∀ key ∈ keys2, after.number place.2 = rename key ↔ before.number place.2 = key
  zero : IsReference place before → zeroIsNone place → before.number place.2 = 0 → after.number place.2 = 0
  dangling : IsReference place before → ¬ Among keys2 (before.number place.2) →
    ¬ Among keys1 (after.number place.2) ∧ ∀ key ∈ keys2, after.number place.2 ≠ rename key
  plain : ¬ IsReference place before → after.number place.2 = before.number place.2

structure Renumbered (keyPlace : Table × Column) (places : List (Table × Column)) (db db' : Database) : Prop where
  disjoint : ∀ key ∈ keys2, rename key ∉ keys1
  injective : ∀ key ∈ keys2, ∀ other ∈ keys2, rename key = rename other → key = other
  keys : (db' keyPlace.1).map (fun row => row.number keyPlace.2)
    = (db keyPlace.1).map fun row => (rename (row.number keyPlace.2).toNat : ℤ)
  rows : ∀ place ∈ places, List.Forall₂ (Kept zeroIsNone keys1 keys2 rename place) (db place.1) (db' place.1)

end

variable {zeroIsNone : Table × Column → Prop} {keys1 keys2 : List ℕ} {rename : ℕ → ℕ} {places : List (Table × Column)}
  {keyPlace : Table × Column}

-- Two results for the same rows, in which the same rows refer to the same keys
def SameReferences (keys2 : List ℕ) (rename rename' : ℕ → ℕ) (place : Table × Column) (rows first second : List Row) :
    Prop :=
  first.length = second.length ∧
  ∀ (n : ℕ) (before row row' : Row), rows[n]? = some before → first[n]? = some row → second[n]? = some row' →
    IsReference place before → ∀ key ∈ keys2, row.number place.2 = rename key ↔ row'.number place.2 = rename' key

theorem Renumbered.agree {rename' : ℕ → ℕ} {db first second : Database}
    (h : Renumbered zeroIsNone keys1 keys2 rename keyPlace places db first)
    (h' : Renumbered zeroIsNone keys1 keys2 rename' keyPlace places db second) {place : Table × Column}
    (hplace : place ∈ places) :
    SameReferences keys2 rename rename' place (db place.1) (first place.1) (second place.1) := by
  have hfirst := h.rows place hplace
  have hsecond := h'.rows place hplace
  refine ⟨hfirst.length_eq.symm.trans hsecond.length_eq, ?_⟩
  intro n before row row' hbefore hrow hrow' hreference key hkey
  have hkept := (forall₂_iff_get.mp hfirst).2
  have hkept' := (forall₂_iff_get.mp hsecond).2
  obtain ⟨hn, rfl⟩ := List.getElem?_eq_some_iff.mp hbefore
  obtain ⟨hn₁, rfl⟩ := List.getElem?_eq_some_iff.mp hrow
  obtain ⟨hn₂, rfl⟩ := List.getElem?_eq_some_iff.mp hrow'
  exact ((hkept n hn hn₁).refers hreference key hkey).trans ((hkept' n hn hn₂).refers hreference key hkey).symm

-- The effect of a method: which numbers it changes, and to what
structure Effect where
  changed : Table × Column → Row → Prop
  target : ℤ → ℤ
  rename : ℕ → ℕ

namespace Effect

variable (e : Effect) [∀ place, DecidablePred (e.changed place)]

def number (place : Table × Column) (row : Row) : ℤ :=
  if e.changed place row then e.target (row.number place.2) else row.number place.2

structure Sound (keys1 keys2 : List ℕ) : Prop where
  disjoint : ∀ key ∈ keys2, e.rename key ∉ keys1
  injective : ∀ key ∈ keys2, ∀ other ∈ keys2, e.rename key = e.rename other → key = other
  moves : ∀ place row, e.changed place row → e.target (row.number place.2) ≠ row.number place.2
  target_iff : ∀ place row, e.changed place row →
    ∀ key ∈ keys2, e.target (row.number place.2) = e.rename key ↔ row.number place.2 = key

-- The rows at which the effect is the right one
def RowFits (zeroIsNone : Table × Column → Prop) (keys1 keys2 : List ℕ) (place : Table × Column) (row : Row) : Prop :=
  if e.changed place row then
    IsReference place row ∧ (zeroIsNone place → row.number place.2 ≠ 0) ∧
      ¬ Among keys1 (e.target (row.number place.2))
  else
    IsReference place row → ¬ Among keys1 (row.number place.2) ∧
      ∀ key ∈ keys2, row.number place.2 = e.rename key ↔ row.number place.2 = key

variable {e} {place : Table × Column} {row after : Row}

theorem kept_iff (h : e.Sound keys1 keys2) (hrename : ∀ key ∈ keys2, rename key = e.rename key)
    (hafter : after.number place.2 = e.number place row) :
    Kept zeroIsNone keys1 keys2 rename place row after ↔ e.RowFits zeroIsNone keys1 keys2 place row := by
  unfold number at hafter
  unfold RowFits
  by_cases hchanged : e.changed place row
  · rw [if_pos hchanged] at hafter ⊢
    constructor
    · intro hkept
      have hreference : IsReference place row := by
        by_contra hplain
        exact h.moves place row hchanged (hafter.symm.trans (hkept.plain hplain))
      refine ⟨hreference, fun hnone hzero => ?_, fun hamong => ?_⟩
      · have hstays := hkept.zero hreference hnone hzero
        exact h.moves place row hchanged (hafter.symm.trans (hstays.trans hzero.symm))
      · by_cases hkey : Among keys2 (row.number place.2)
        · obtain ⟨key, hkey, hnumber⟩ := hkey
          obtain ⟨other, hother, htarget⟩ := hamong
          have hsame := ((h.target_iff place row hchanged key hkey).mpr hnumber).symm.trans htarget
          exact h.disjoint key hkey (Int.ofNat_inj.mp hsame ▸ hother)
        · exact (hkept.dangling hreference hkey).1 (hafter ▸ hamong)
    · rintro ⟨hreference, hzero, hfree⟩
      refine ⟨fun _ key hkey => ?_, fun _ hnone h0 => absurd h0 (hzero hnone), fun _ hdangling => ?_,
        fun hplain => absurd hreference hplain⟩
      · rw [hafter, hrename key hkey]
        exact h.target_iff place row hchanged key hkey
      · refine ⟨hafter ▸ hfree, fun key hkey hsame => hdangling ⟨key, hkey, ?_⟩⟩
        rw [hafter, hrename key hkey] at hsame
        exact (h.target_iff place row hchanged key hkey).mp hsame
  · rw [if_neg hchanged] at hafter ⊢
    constructor
    · intro hkept hreference
      have hrefers : ∀ key ∈ keys2, row.number place.2 = e.rename key ↔ row.number place.2 = key := by
        intro key hkey
        rw [← hrename key hkey, ← hkept.refers hreference key hkey, hafter]
      refine ⟨fun hamong => ?_, hrefers⟩
      by_cases hkey : Among keys2 (row.number place.2)
      · obtain ⟨key, hkey, hnumber⟩ := hkey
        obtain ⟨other, hother, hfound⟩ := hamong
        have hsame := ((hrefers key hkey).mpr hnumber).symm.trans hfound
        exact h.disjoint key hkey (Int.ofNat_inj.mp hsame ▸ hother)
      · exact (hkept.dangling hreference hkey).1 (hafter ▸ hamong)
    · intro hfits
      refine ⟨fun hreference key hkey => ?_, fun _ _ h0 => hafter.trans h0, fun hreference hdangling => ?_,
        fun _ => hafter⟩
      · rw [hafter, hrename key hkey]
        exact (hfits hreference).2 key hkey
      · refine ⟨hafter ▸ (hfits hreference).1, fun key hkey hsame => hdangling ⟨key, hkey, ?_⟩⟩
        rw [hafter, hrename key hkey] at hsame
        exact ((hfits hreference).2 key hkey).mp hsame

variable {db db' : Database}

theorem exists_renumbered_iff (h : e.Sound keys1 keys2) (hplace : keyPlace ∈ places) (hsender : keyPlace ≠ (.mail, .sender))
    (hkeys : ∀ key ∈ keys2, ∃ row ∈ db keyPlace.1, row.number keyPlace.2 = key)
    (hcolumn : ∀ row ∈ db keyPlace.1, ∃ key ∈ keys2, row.number keyPlace.2 = key ∧ e.number keyPlace row = e.rename key)
    (hrows : ∀ place ∈ places, ∃ f, db' place.1 = (db place.1).map f ∧
      ∀ row, (f row).number place.2 = e.number place row) :
    (∃ rename, Renumbered zeroIsNone keys1 keys2 rename keyPlace places db db') ↔
      ∀ place ∈ places, ∀ row ∈ db place.1, e.RowFits zeroIsNone keys1 keys2 place row := by
  have hkept : ∀ rename : ℕ → ℕ, (∀ key ∈ keys2, rename key = e.rename key) → ∀ place ∈ places,
      (List.Forall₂ (Kept zeroIsNone keys1 keys2 rename place) (db place.1) (db' place.1) ↔
        ∀ row ∈ db place.1, e.RowFits zeroIsNone keys1 keys2 place row) := by
    intro rename hrename place hmem
    obtain ⟨f, hf, hnumber⟩ := hrows place hmem
    rw [hf, forall₂_map_right_iff, forall₂_same]
    exact forall₂_congr fun row _ => kept_iff h hrename (hnumber row)
  obtain ⟨f, hf, hresult⟩ := hrows keyPlace hplace
  constructor
  · rintro ⟨rename, hrenumbered⟩ place hmem
    refine (hkept rename (fun key hkey => ?_) place hmem).mp (hrenumbered.rows place hmem)
    obtain ⟨row, hrow, hnumber⟩ := hkeys key hkey
    obtain ⟨other, -, hsame, hafter⟩ := hcolumn row hrow
    obtain rfl : key = other := Int.ofNat_inj.mp (hnumber.symm.trans hsame)
    have hall := hrenumbered.rows keyPlace hplace
    rw [hf, forall₂_map_right_iff, forall₂_same] at hall
    have hrefers := ((hall row hrow).refers (fun hsame => absurd hsame hsender) key hkey).mpr hnumber
    rw [hresult row, hafter] at hrefers
    exact (Int.ofNat_inj.mp hrefers).symm
  · intro hfits
    refine ⟨e.rename, h.disjoint, h.injective, ?_, fun place hmem => ?_⟩
    · rw [hf, map_map]
      refine map_congr_left fun row hrow => ?_
      obtain ⟨key, -, hnumber, hafter⟩ := hcolumn row hrow
      rw [Function.comp_apply, hresult row, hafter, hnumber, Int.toNat_natCast]
    · exact (hkept e.rename (fun _ _ => rfl) place hmem).mpr (hfits place hmem)

end Effect

end TurtleWow.RealmMerge
