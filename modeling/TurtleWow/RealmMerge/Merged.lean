import TurtleWow.RealmMerge.References

namespace TurtleWow.RealmMerge

namespace Renumbering

def characters : Renumbering where
  keyPlace := (.characters, .guid)
  fast := fastCharacters
  slow := slowCharacters
  places_eq _ := rfl
  nodup := by decide +kernel
  known := by decide +kernel
  key_mem _ := by simp [fastCharacters]
  key_ne := nofun
  key_replaced := by decide
  slow_nodup := by decide +kernel
  slow_template := by decide

def items : Renumbering where
  keyPlace := (.itemInstance, .guid)
  fast _ := fastItems
  slow := slowItems
  places_eq _ := rfl
  nodup := by decide
  known := by decide
  key_mem _ := by simp [fastItems]
  key_ne := nofun
  key_replaced := by decide
  slow_nodup := by decide
  slow_template := by decide

def guilds : Renumbering where
  keyPlace := (.guild, .guildid)
  fast _ := fastGuilds
  slow := slowGuilds
  places_eq _ := rfl
  nodup := by decide
  known := by decide
  key_mem _ := by simp [fastGuilds]
  key_ne := nofun
  key_replaced := by decide
  slow_nodup := by decide
  slow_template := by decide

end Renumbering

open Renumbering

theorem sameNumbers_map {table : Table} {f : Row → Row}
    (h : ∀ row column, column ≠ .atLogin → (f row).number column = row.number column) (db : Database) :
    SameNumbers db fun other => if other = table then (db other).map f else db other := by
  intro other
  by_cases htable : other = table
  · exact ⟨f, if_pos htable, h⟩
  · exact ⟨id, (if_neg htable).trans (List.map_id _).symm, fun _ _ _ => rfl⟩

theorem markForRename_number (guid : ℕ) (row : Row) (column : Column) (h : column ≠ .atLogin) :
    (markForRename guid row).number column = row.number column := by
  unfold markForRename
  split
  · exact if_neg h
  · rfl

theorem setGuildName_number (name : String) (guildId : ℕ) (row : Row) (column : Column) :
    (setGuildName name guildId row).number column = row.number column := by
  unfold setGuildName
  split
  · rfl
  · rfl

theorem updateCharacterNames_numbers (names : List String) (guids : List ℕ) (db2 : Database) :
    SameNumbers db2 (updateCharacterNames names guids db2) := by
  have hfold : ∀ (keys : List ℕ) (db : Database), SameNumbers db (keys.foldl (fun db guid =>
      let name := nameOf db2 .characters .guid guid
      if name ≠ "" ∧ name ∈ names then
        fun table => if table = .characters then (db table).map (markForRename guid) else db table
      else db) db) := by
    intro keys
    induction keys with
    | nil => exact SameNumbers.refl
    | cons guid rest ih =>
      intro db
      rw [List.foldl_cons]
      refine SameNumbers.trans ?_ (ih _)
      dsimp only
      split
      · exact sameNumbers_map (markForRename_number guid) db
      · exact SameNumbers.refl db
  exact hfold guids db2

theorem sameNumbers_foldl {α : Type*} {step : α × Database → ℕ → α × Database}
    (hstep : ∀ state key, SameNumbers state.2 (step state key).2) (keys : List ℕ) (state : α × Database) :
    SameNumbers state.2 (keys.foldl step state).2 := by
  induction keys generalizing state with
  | nil => exact SameNumbers.refl state.2
  | cons key rest ih => exact (hstep state key).trans (ih _)

theorem updateGuildNames_numbers (names : List String) (guildIds : List ℕ) (db2 : Database) :
    SameNumbers db2 (updateGuildNames names guildIds db2) := by
  refine sameNumbers_foldl (fun state guildId => ?_) guildIds (names, db2)
  dsimp only
  split
  · exact sameNumbers_map (fun row column _ => setGuildName_number _ guildId row column) state.2
  · exact SameNumbers.refl state.2

variable {zeroIsNone : Table × Column → Prop} {db1 db2 : Database}

theorem updateCharacterGuids_iff (hkeys : ∀ row ∈ db2 .characters, 0 < row.number .guid)
    (h : (updateCharacterGuids db1 db2).1 = true) :
    characters.KeepsReferences zeroIsNone (characters.keys db1) (characters.keys db2) db2 (updateCharacterGuids db1 db2).2 ↔
      characters.Fits zeroIsNone (characters.keys db1) (characters.keys db2) db2 := by
  rw [← updateKeys_iff (updateCharacterNames_numbers (namesOf db1 .characters) (characters.keys db2) db2) hkeys]
  unfold updateCharacterGuids at h ⊢
  dsimp only at h ⊢
  by_cases h1 : keysOf db1 .characters .guid = []
  · rw [if_pos h1] at h
    cases h
  rw [if_neg h1] at h ⊢
  by_cases h2 : keysOf db2 .characters .guid = []
  · rw [if_pos h2] at h
    cases h
  rw [if_neg h2] at h ⊢
  by_cases hmany : int32Max < (keysOf db1 .characters .guid).length + (keysOf db2 .characters .guid).length
  · rw [if_pos hmany] at h
    cases h
  rw [if_neg hmany, if_pos (show characters.keys db1 ≠ [] ∧ characters.keys db2 ≠ [] from ⟨h1, h2⟩)]
  rfl

theorem updateItemGuids_iff (hkeys : ∀ row ∈ db2 .itemInstance, 0 < row.number .guid)
    (h : (updateItemGuids db1 db2).1 = true) :
    items.KeepsReferences zeroIsNone (items.keys db1) (items.keys db2) db2 (updateItemGuids db1 db2).2 ↔
      items.Fits zeroIsNone (items.keys db1) (items.keys db2) db2 := by
  rw [← updateKeys_iff (SameNumbers.refl db2) hkeys]
  unfold updateItemGuids at h ⊢
  dsimp only at h ⊢
  by_cases hmany : int32Max < (keysOf db1 .itemInstance .guid).length + (keysOf db2 .itemInstance .guid).length
  · rw [if_pos hmany] at h
    cases h
  rw [if_neg hmany, apply_ite Prod.snd]
  rfl

theorem updateGuildIds_iff (hkeys : ∀ row ∈ db2 .guild, 0 < row.number .guildid)
    (h : (updateGuildIds db1 db2).1 = true) :
    guilds.KeepsReferences zeroIsNone (guilds.keys db1) (guilds.keys db2) db2 (updateGuildIds db1 db2).2 ↔
      guilds.Fits zeroIsNone (guilds.keys db1) (guilds.keys db2) db2 := by
  rw [← updateKeys_iff (updateGuildNames_numbers (namesOf db1 .guild) (guilds.keys db2) db2) hkeys]
  unfold updateGuildIds at h ⊢
  dsimp only at h ⊢
  by_cases hmany : int32Max < (keysOf db1 .guild .guildid).length + (keysOf db2 .guild .guildid).length
  · rw [if_pos hmany] at h
    cases h
  rw [if_neg hmany, apply_ite Prod.snd]
  rfl

def rowOf (entries : List (Column × ℤ)) : Row where
  number column := ((entries.find? fun entry => entry.1 = column).map Prod.snd).getD 0
  name := ""

end TurtleWow.RealmMerge
