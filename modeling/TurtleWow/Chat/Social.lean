import TurtleWow.Chat.SocialMgr
import TurtleWow.Lib.Lists

namespace TurtleWow.Chat

open List

-- The flags that the calls write

def Valid (flags : BitVec 32) : Prop := flags = 1 ∨ flags = 2 ∨ flags = 3

section

variable {flags : BitVec 32} (flag other : SocialFlag)

theorem valid_mask : Valid flag.mask := by cases flag <;> simp [Valid, SocialFlag.mask]

theorem valid_or (h : Valid flags) : Valid (flags ||| flag.mask) := by
  rcases h with rfl | rfl | rfl <;> cases flag <;> simp [Valid, SocialFlag.mask]

theorem valid_clear (h : Valid flags) (hne : flags &&& ~~~flag.mask ≠ 0) : Valid (flags &&& ~~~flag.mask) := by
  rcases h with rfl | rfl | rfl <;> cases flag <;> simp_all [Valid, SocialFlag.mask]

theorem low_byte (h : Valid flags) : (flags.setWidth 8).setWidth 32 = flags := by
  rcases h with rfl | rfl | rfl <;> rfl

theorem or_eq_mask (h : Valid flags) (hor : flags ||| flag.mask = flag.mask) : flags = flag.mask := by
  rcases h with rfl | rfl | rfl <;> cases flag <;> simp_all [SocialFlag.mask]

theorem clear_ne_mask : flags &&& ~~~flag.mask ≠ flag.mask := by
  intro heq
  have hzero : (flags &&& ~~~flag.mask) &&& flag.mask = 0 := by
    rw [BitVec.and_assoc, BitVec.and_comm (~~~flag.mask), BitVec.and_not_self]
    simp
  rw [heq, BitVec.and_self] at hzero
  cases flag <;> simp [SocialFlag.mask] at hzero

theorem clear_eq_zero (h : Valid flags) : flags &&& ~~~flag.mask = 0 ↔ flags = flag.mask := by
  rcases h with rfl | rfl | rfl <;> cases flag <;> simp [SocialFlag.mask]

theorem hasFlag_or (h : Valid flags) (hne : other ≠ flag) : hasFlag other (flags ||| flag.mask) = hasFlag other flags := by
  rcases h with rfl | rfl | rfl <;> cases flag <;> cases other <;> simp_all [hasFlag, SocialFlag.mask]

theorem hasFlag_mask (hne : other ≠ flag) : hasFlag other flag.mask = false := by
  cases flag <;> cases other <;> simp_all [hasFlag, SocialFlag.mask]

theorem hasFlag_clear (h : Valid flags) (hclear : hasFlag other (flags &&& ~~~flag.mask) = true) :
    hasFlag other flags = true := by
  rcases h with rfl | rfl | rfl <;> cases flag <;> cases other <;> simp_all [hasFlag, SocialFlag.mask]

theorem exists_flag (h : Valid flags) : hasFlag .friend flags = true ∨ hasFlag .ignored flags = true := by
  rcases h with rfl | rfl | rfl <;> simp [hasFlag, SocialFlag.mask]

end

-- How many entries carry a flag, as a total of the list

def weight (flag : SocialFlag) (_ : Nat) (flags : BitVec 32) : Nat := if hasFlag flag flags then 1 else 0

theorem weight_le (flag : SocialFlag) (friend : Nat) (flags : BitVec 32) : weight flag friend flags ≤ 1 := by
  unfold weight
  split <;> omega

theorem number_eq_total (social : PlayerSocial) (flag : SocialFlag) :
    social.getNumberOfSocialsWithFlag flag = Ledger.total (weight flag) social.playerSocialMap := by
  unfold PlayerSocial.getNumberOfSocialsWithFlag Ledger.total
  induction social.playerSocialMap.entries with
  | nil => rfl
  | cons entry rest ih =>
    rw [countP_cons, map_cons, sum_cons, ih, Nat.add_comm]
    rfl

-- What every run keeps in memory
structure Kept (existing : Nat → Bool) (social : PlayerSocial) : Prop where
  known : ∀ friend flags, social.playerSocialMap.lookup friend = some flags → existing friend = true ∧ Valid flags
  within : ∀ flag, social.getNumberOfSocialsWithFlag flag ≤ flag.limit

section

variable {existing : Nat → Bool} {social : PlayerSocial}

theorem Kept.insert (h : Kept existing social) {friend : Nat} {flags : BitVec 32} (hfriend : existing friend = true)
    (hflags : Valid flags)
    (hwithin : ∀ flag, Ledger.total (weight flag) (social.playerSocialMap.insert friend flags) ≤ flag.limit) :
    Kept existing { social with playerSocialMap := social.playerSocialMap.insert friend flags } := by
  refine ⟨fun other flags' hlookup => ?_, fun flag => ?_⟩
  · by_cases heq : other = friend
    · subst heq
      rw [AList.lookup_insert] at hlookup
      cases hlookup
      exact ⟨hfriend, hflags⟩
    · rw [AList.lookup_insert_ne heq] at hlookup
      exact h.known other flags' hlookup
  · rw [number_eq_total]
    exact hwithin flag

theorem Kept.add (h : Kept existing social) {friend : Nat} (hfriend : existing friend = true) (flag : SocialFlag) :
    Kept existing (social.addToSocialList friend flag).1 := by
  unfold PlayerSocial.addToSocialList
  split_ifs with hfull
  · exact h
  · have hroom : Ledger.total (weight flag) social.playerSocialMap < flag.limit := by
      rw [← number_eq_total]
      omega
    have hlimit : ∀ other, Ledger.total (weight other) social.playerSocialMap ≤ other.limit := by
      intro other
      rw [← number_eq_total]
      exact h.within other
    cases hlookup : social.playerSocialMap.lookup friend with
    | some flags =>
      have hflags := (h.known friend flags hlookup).2
      refine h.insert hfriend (valid_or flag hflags) fun other => ?_
      have htotal := Ledger.total_insert_of_some (weight other) hlookup (flags ||| flag.mask)
      by_cases hother : other = flag
      · subst hother
        have := weight_le other friend (flags ||| other.mask)
        omega
      · have hsame : weight other friend (flags ||| flag.mask) = weight other friend flags := by
          simp only [weight, hasFlag_or flag other hflags hother]
        have := hlimit other
        omega
    | none =>
      refine h.insert hfriend (valid_mask flag) fun other => ?_
      have htotal := Ledger.total_insert_of_none (weight other) hlookup flag.mask
      by_cases hother : other = flag
      · subst hother
        have := weight_le other friend other.mask
        omega
      · have hsame : weight other friend flag.mask = 0 := by
          simp [weight, hasFlag_mask flag other hother]
        have := hlimit other
        omega

theorem Kept.remove (h : Kept existing social) (friend : Nat) (flag : SocialFlag) :
    Kept existing (social.removeFromSocialList friend flag).1 := by
  unfold PlayerSocial.removeFromSocialList
  cases hlookup : social.playerSocialMap.lookup friend with
  | none => exact h
  | some flags =>
    obtain ⟨hfriend, hflags⟩ := h.known friend flags hlookup
    dsimp only
    split_ifs with hzero
    · refine ⟨fun other flags' hother => ?_, fun other => ?_⟩
      · by_cases heq : other = friend
        · subst heq
          rw [AList.lookup_erase] at hother
          cases hother
        · rw [AList.lookup_erase_ne heq] at hother
          exact h.known other flags' hother
      · have htotal := Ledger.total_erase_of_some (weight other) hlookup
        have hwithin := h.within other
        rw [number_eq_total] at hwithin ⊢
        dsimp only
        omega
    · refine h.insert hfriend (valid_clear flag hflags hzero) fun other => ?_
      have htotal := Ledger.total_insert_of_some (weight other) hlookup (flags &&& ~~~flag.mask)
      have hwithin := h.within other
      rw [number_eq_total] at hwithin
      have hle : weight other friend (flags &&& ~~~flag.mask) ≤ weight other friend flags := by
        unfold weight
        split_ifs with hclear hhas
        · exact Nat.le_refl 1
        · exact absurd (hasFlag_clear flag other hflags hclear) hhas
        · exact Nat.zero_le _
        · exact Nat.zero_le _
      omega

end

section

variable {table : List Row} {guid friend : Nat}

theorem mem_rowsOf {row : Row} : row ∈ rowsOf guid friend table ↔ row ∈ table ∧ row.guid = guid ∧ row.friend = friend := by
  simp [rowsOf]

theorem rowsOf_eq (guid friend : Nat) (table : List Row) :
    rowsOf guid friend table = (table.filter (·.guid = guid)).filter fun row => row.friend = friend := by
  rw [rowsOf, filter_filter]
  exact filter_congr fun row _ => by simp [Bool.and_comm]

theorem rowsOf_insert {row : Row} (h : row ∉ table) (other : Nat) :
    rowsOf row.guid other (Statement.execute table (.insert row)) =
      rowsOf row.guid other table ++ if other = row.friend then [row] else [] := by
  simp only [Statement.execute, if_neg h, rowsOf, filter_append]
  split_ifs with heq
  · simp [heq]
  · simp [Ne.symm heq]

theorem rowsOf_delete (other : Nat) :
    rowsOf guid other (Statement.execute table (.delete guid friend)) =
      if other = friend then [] else rowsOf guid other table := by
  simp only [Statement.execute, rowsOf, filter_filter]
  split_ifs with heq
  · rw [filter_eq_nil_iff]
    intro row _
    simp [heq]
  · apply filter_congr
    intro row _
    simp only [Bool.and_eq_decide, decide_eq_decide, decide_eq_true_eq]
    constructor
    · exact And.left
    · exact fun h => ⟨h, fun hsame => heq (h.2.symm.trans hsame.2)⟩

theorem execute_update {old : Row} (h : rowsOf guid friend table = [old]) (flags : BitVec 32) :
    Statement.execute table (.update guid friend flags) = Table.replace old { old with flags := flags } table := by
  have hold := mem_rowsOf.mp (h ▸ mem_singleton_self old)
  have hfree : ¬ ∃ other ∈ table, other ≠ old ∧ id other = id { old with flags := flags } := by
    rintro ⟨other, hother, hne, hsame⟩
    obtain rfl : other = { old with flags := flags } := hsame
    have hmem : { old with flags := flags } ∈ rowsOf guid friend table := mem_rowsOf.mpr ⟨hother, hold.2⟩
    rw [h, mem_singleton] at hmem
    exact hne hmem
  have haffected : (table.filter fun row => row.guid = guid ∧ row.friend = friend) = [old] := h
  rw [Statement.execute, haffected, Table.updateRows, if_neg hfree]
  rfl

theorem rowsOf_update {old : Row} (h : rowsOf guid friend table = [old]) (flags : BitVec 32) (other : Nat) :
    rowsOf guid other (Statement.execute table (.update guid friend flags)) =
      if other = friend then [⟨guid, friend, flags⟩] else rowsOf guid other table := by
  have hold := mem_rowsOf.mp (h ▸ mem_singleton_self old)
  have hkeep : ∀ row : Row, (if row = old then ({ old with flags := flags } : Row) else row).guid = row.guid ∧
      (if row = old then ({ old with flags := flags } : Row) else row).friend = row.friend := by
    intro row
    split_ifs with heq <;> simp [heq]
  have hmap : rowsOf guid other (Table.replace old { old with flags := flags } table) =
      (rowsOf guid other table).map fun row => if row = old then { old with flags := flags } else row := by
    unfold rowsOf Table.replace
    rw [filter_map]
    congr 1
    apply filter_congr
    intro row _
    simp only [Function.comp_apply, (hkeep row).1, (hkeep row).2]
  rw [execute_update h, hmap]
  split_ifs with heq
  · subst heq
    obtain ⟨-, rfl, rfl⟩ := hold
    rw [h]
    simp
  · conv_rhs => rw [← map_id (rowsOf guid other table)]
    apply map_congr_left
    intro row hrow
    have hrow := mem_rowsOf.mp hrow
    exact if_neg fun hsame => heq (by rw [← hrow.2.2, hsame, hold.2.2])

end

-- A table that mirrors the list, and the list after a call

section

variable {lists : Lists}

theorem Mirrors.single (h : Mirrors lists) {friend : Nat} {flags : BitVec 32}
    (hlookup : lists.social.playerSocialMap.lookup friend = some flags) :
    rowsOf lists.social.playerGuid friend lists.table = [⟨lists.social.playerGuid, friend, flags⟩] := by
  rw [h friend, hlookup]
  rfl

theorem mirrors_update (h : Mirrors lists) {friend : Nat} {flags : BitVec 32}
    (hlookup : lists.social.playerSocialMap.lookup friend = some flags) (memory written : BitVec 32) :
    Mirrors ⟨{ lists.social with playerSocialMap := lists.social.playerSocialMap.insert friend memory },
        Statement.execute lists.table (.update lists.social.playerGuid friend written)⟩ ↔ memory = written := by
  have hrows := rowsOf_update (h.single hlookup) written
  constructor
  · intro hafter
    have hfriend := hafter friend
    rw [hrows, if_pos rfl, AList.lookup_insert] at hfriend
    simp at hfriend
    exact hfriend.symm
  · rintro rfl other
    rw [hrows]
    split_ifs with heq
    · subst heq
      rw [AList.lookup_insert]
      rfl
    · rw [AList.lookup_insert_ne heq]
      exact h other

theorem mirrors_insert (h : Mirrors lists) {friend : Nat}
    (hlookup : lists.social.playerSocialMap.lookup friend = none) (flags : BitVec 32) :
    Mirrors ⟨{ lists.social with playerSocialMap := lists.social.playerSocialMap.insert friend flags },
      Statement.execute lists.table (.insert ⟨lists.social.playerGuid, friend, flags⟩)⟩ := by
  have hnone : rowsOf lists.social.playerGuid friend lists.table = [] := by
    rw [h friend, hlookup]
    rfl
  have hnew : (⟨lists.social.playerGuid, friend, flags⟩ : Row) ∉ lists.table := by
    intro hmem
    have := mem_rowsOf.mpr ⟨hmem, rfl, rfl⟩
    rw [hnone] at this
    cases this
  intro other
  have hrows := rowsOf_insert hnew other
  dsimp only at hrows ⊢
  rw [hrows]
  split_ifs with heq
  · subst heq
    rw [hnone, AList.lookup_insert]
    rfl
  · rw [AList.lookup_insert_ne heq, append_nil]
    exact h other

theorem mirrors_delete (h : Mirrors lists) (friend : Nat) :
    Mirrors ⟨{ lists.social with playerSocialMap := lists.social.playerSocialMap.erase friend },
      Statement.execute lists.table (.delete lists.social.playerGuid friend)⟩ := by
  intro other
  rw [rowsOf_delete]
  split_ifs with heq
  · subst heq
    rw [AList.lookup_erase]
    rfl
  · rw [AList.lookup_erase_ne heq]
    exact h other

theorem mirrors_step {existing : Nat → Bool} (hkept : Kept existing lists.social) (h : Mirrors lists) (call : Call) :
    Mirrors (step lists call) ↔ Single lists call := by
  cases call with
  | addToSocialList friend flag =>
    simp only [step, Call.apply, PlayerSocial.addToSocialList, Single]
    split_ifs with hfull
    · exact iff_of_true h (.inl hfull)
    · cases hlookup : lists.social.playerSocialMap.lookup friend with
      | none => exact iff_of_true (mirrors_insert h hlookup flag.mask) (.inr (by simp))
      | some flags =>
        have hflags := (hkept.known friend flags hlookup).2
        refine (mirrors_update h hlookup _ _).trans ?_
        simp only [Option.mem_some_iff, forall_eq']
        constructor
        · exact fun hor => .inr (or_eq_mask flag hflags hor)
        · rintro (hlimit | rfl)
          · exact absurd hlimit hfull
          · exact BitVec.or_self
  | removeFromSocialList friend flag =>
    simp only [step, Call.apply, PlayerSocial.removeFromSocialList, Single]
    cases hlookup : lists.social.playerSocialMap.lookup friend with
    | none => exact iff_of_true h (by simp)
    | some flags =>
      have hflags := (hkept.known friend flags hlookup).2
      simp only [Option.mem_some_iff, forall_eq']
      split_ifs with hzero
      · exact iff_of_true (mirrors_delete h friend) ((clear_eq_zero flag hflags).mp hzero)
      · refine (mirrors_update h hlookup _ _).trans ?_
        refine iff_of_false (clear_ne_mask flag) fun heq => hzero ?_
        exact (clear_eq_zero flag hflags).mpr heq

end

-- The loader keeps every row of a table that fits.

theorem row_kept {existing : Nat → Bool} {loading : Loading} {row : Row} (hknown : existing row.friend = true)
    (hflags : Valid row.flags) (hfriend : hasFlag .friend row.flags = true → loading.friendCounter < 50)
    (hignored : hasFlag .ignored row.flags = true → loading.ignoreCounter < 25) :
    ∃ friends ignores, loading.row existing row = ⟨loading.playerSocialMap.insert row.friend row.flags, friends, ignores⟩ ∧
      friends ≤ loading.friendCounter + (if hasFlag .friend row.flags then 1 else 0) ∧
      ignores ≤ loading.ignoreCounter + (if hasFlag .ignored row.flags then 1 else 0) := by
  have hskip : (hasFlag .ignored row.flags && decide (loading.ignoreCounter ≥ SOCIALMGR_IGNORE_LIMIT)) = false := by
    cases hhas : hasFlag .ignored row.flags with
    | false => rfl
    | true => simpa [SOCIALMGR_IGNORE_LIMIT] using hignored hhas
  have hskip' : (hasFlag .friend row.flags && decide (loading.friendCounter ≥ SOCIALMGR_FRIEND_LIMIT)) = false := by
    cases hhas : hasFlag .friend row.flags with
    | false => rfl
    | true => simpa [SOCIALMGR_FRIEND_LIMIT] using hfriend hhas
  rw [Loading.row]
  simp only [hskip, hskip', hknown, Bool.not_true, Bool.false_eq_true, if_false, low_byte hflags]
  cases hhas : hasFlag .ignored row.flags with
  | true => exact ⟨_, _, rfl, Nat.le_add_right _ _, Nat.le_refl _⟩
  | false =>
    have honly : hasFlag .friend row.flags = true := by simpa [hhas] using exists_flag hflags
    exact ⟨_, _, rfl, by simp [honly], by simp⟩

theorem lookup_foldl {existing : Nat → Bool} {rows : List Row} (hnodup : (rows.map Row.friend).Nodup)
    (hknown : ∀ row ∈ rows, existing row.friend = true ∧ Valid row.flags) (loading : Loading)
    (hfriend : loading.friendCounter + rows.countP (fun row => hasFlag .friend row.flags) ≤ 50)
    (hignored : loading.ignoreCounter + rows.countP (fun row => hasFlag .ignored row.flags) ≤ 25) (friend : Nat) :
    (rows.foldl (Loading.row existing) loading).playerSocialMap.lookup friend =
      ((rows.find? (·.friend = friend)).map Row.flags).or (loading.playerSocialMap.lookup friend) := by
  induction rows generalizing loading with
  | nil => rfl
  | cons row rest ih =>
    obtain ⟨hnot, hnodup⟩ := nodup_cons.mp hnodup
    obtain ⟨⟨hexists, hflags⟩, hrest⟩ := forall_mem_cons.mp hknown
    rw [countP_cons] at hfriend hignored
    obtain ⟨friends, ignores, hrow, hfriends, hignores⟩ :=
      @row_kept existing loading row hexists hflags
      (fun hhas => by simp only [hhas, if_true] at hfriend; omega)
      (fun hhas => by simp only [hhas, if_true] at hignored; omega)
    rw [foldl_cons, hrow, ih hnodup hrest _ (by dsimp only; omega) (by dsimp only; omega), List.find?_cons]
    by_cases heq : row.friend = friend
    · subst heq
      have hnone : rest.find? (fun other => decide (other.friend = row.friend)) = none := by
        rw [List.find?_eq_none]
        intro other hother
        simpa using fun hsame => hnot (mem_map.mpr ⟨other, hother, hsame⟩)
      simp [hnone, AList.lookup_insert]
    · simp [heq, AList.lookup_insert_ne (Ne.symm heq)]

section

variable {existing : Nat → Bool} {guid : Nat} {table answer : List Row}

theorem length_le_flags {rows : List Row} (h : ∀ row ∈ rows, Valid row.flags) :
    rows.length ≤ rows.countP (fun row => hasFlag .friend row.flags) + rows.countP (fun row => hasFlag .ignored row.flags) := by
  induction rows with
  | nil => simp
  | cons row rest ih =>
    obtain ⟨hrow, hrest⟩ := forall_mem_cons.mp h
    have hle := ih hrest
    rw [length_cons, countP_cons, countP_cons]
    rcases exists_flag hrow with hhas | hhas <;> simp only [hhas, if_true] <;> omega

theorem Loadable.lookup (h : Loadable existing guid table) (hanswer : Answers guid table answer) (friend : Nat) :
    (loadFromDB existing guid answer).playerSocialMap.lookup friend =
      (rowsOf guid friend table).head?.map Row.flags := by
  obtain ⟨rows, hperm, rfl⟩ := hanswer
  have hnodup : (rows.map Row.friend).Nodup := ((hperm.map Row.friend).nodup_iff).mpr h.once
  have hknown : ∀ row ∈ rows, existing row.friend = true ∧ Valid row.flags := by
    intro row hrow
    obtain ⟨hmem, hguid⟩ := mem_filter.mp (hperm.mem_iff.mp hrow)
    exact h.known row hmem (by simpa using hguid)
  have hfriend := (hperm.countP_eq fun row => hasFlag .friend row.flags).trans_le (h.within .friend)
  have hignored := (hperm.countP_eq fun row => hasFlag .ignored row.flags).trans_le (h.within .ignored)
  simp only [SocialFlag.limit, SOCIALMGR_FRIEND_LIMIT, SOCIALMGR_IGNORE_LIMIT] at hfriend hignored
  have hlength := length_le_flags fun row hrow => (hknown row hrow).2
  rw [loadFromDB, take_of_length_le (by omega)]
  rw [lookup_foldl hnodup hknown ⟨∅, 0, 0⟩ (by dsimp only; omega) (by dsimp only; omega) friend]
  simp only [AList.lookup_empty, Option.or_none]
  congr 1
  -- the rows of the friend: at most one, in the answer and in the table
  have hrows := hperm.filter fun row => decide (row.friend = friend)
  rw [← rowsOf_eq] at hrows
  rw [← List.head?_filter, Lists.eq_of_perm hrows (Lists.length_filter_key_le_one hnodup friend)]

theorem Loadable.mirrors (h : Loadable existing guid table) (hanswer : Answers guid table answer) :
    Mirrors ⟨loadFromDB existing guid answer, table⟩ := by
  intro friend
  have hlookup := h.lookup hanswer friend
  have hone := Lists.length_filter_key_le_one h.once friend
  rw [← rowsOf_eq] at hone
  dsimp only [loadFromDB] at hlookup ⊢
  rw [hlookup]
  match hcase : rowsOf guid friend table with
  | [] => rfl
  | [row] =>
    obtain ⟨-, hguid, hfriend⟩ := mem_rowsOf.mp (hcase ▸ mem_singleton_self row)
    subst hguid hfriend
    rfl
  | _ :: _ :: _ =>
    rw [hcase] at hone
    simp at hone

end

-- A table that mirrors a list can be loaded again.

theorem Mirrors.perm {lists : Lists} (h : Mirrors lists) :
    (lists.table.filter (·.guid = lists.social.playerGuid)).Perm
      (lists.social.playerSocialMap.entries.map fun entry => ⟨lists.social.playerGuid, entry.1, entry.2⟩) := by
  have hle : ∀ friend, (rowsOf lists.social.playerGuid friend lists.table).length ≤ 1 := by
    intro friend
    rw [h friend]
    cases lists.social.playerSocialMap.lookup friend <;> simp
  have hrows : ∀ row : Row, row ∈ lists.table.filter (·.guid = lists.social.playerGuid) ↔
      row ∈ lists.social.playerSocialMap.entries.map fun entry => ⟨lists.social.playerGuid, entry.1, entry.2⟩ := by
    intro row
    have hmem : row ∈ lists.table.filter (·.guid = lists.social.playerGuid) ↔
        row ∈ rowsOf lists.social.playerGuid row.friend lists.table ∧ row.guid = lists.social.playerGuid := by
      simp [mem_rowsOf]
    rw [hmem, h row.friend]
    simp only [Option.mem_toList, Option.map_eq_some_iff, mem_map]
    constructor
    · rintro ⟨⟨flags, hlookup, hrow⟩, -⟩
      exact ⟨⟨row.friend, flags⟩, AList.mem_lookup_iff.mp hlookup, hrow⟩
    · rintro ⟨⟨friend, flags⟩, hentry, rfl⟩
      exact ⟨⟨flags, AList.mem_lookup_iff.mpr hentry, rfl⟩, rfl⟩
  refine (perm_ext_iff_of_nodup ?_ ?_).mpr hrows
  · rw [nodup_iff_count_le_one]
    intro row
    refine Nat.le_trans ?_ (hle row.friend)
    rw [List.count, countP_filter, rowsOf, ← countP_eq_length_filter]
    refine countP_mono_left fun other _ hother => ?_
    simp only [Bool.and_eq_true, beq_iff_eq, decide_eq_true_eq] at hother ⊢
    exact ⟨hother.2, by rw [hother.1]⟩
  · refine List.Nodup.of_map Row.friend ?_
    rw [map_map]
    exact lists.social.playerSocialMap.nodupKeys

section

variable {existing : Nat → Bool}

theorem Mirrors.loadable {lists : Lists} (h : Mirrors lists)
    (hkept : Kept existing lists.social) : Loadable existing lists.social.playerGuid lists.table := by
  refine ⟨?_, fun row hrow hguid => ?_, fun flag => ?_⟩
  · refine ((h.perm.map Row.friend).nodup_iff).mpr ?_
    rw [map_map]
    exact lists.social.playerSocialMap.nodupKeys
  · have hmem := h.perm.mem_iff.mp (mem_filter.mpr ⟨hrow, by simpa using hguid⟩)
    obtain ⟨⟨friend, flags⟩, hentry, rfl⟩ := mem_map.mp hmem
    exact hkept.known friend flags (AList.mem_lookup_iff.mpr hentry)
  · rw [h.perm.countP_eq, countP_map]
    exact hkept.within flag

theorem persists_iff {lists : Lists} (hkept : Kept existing lists.social) :
    Persists existing lists ↔ Mirrors lists := by
  refine ⟨Persists.mirrors, fun h => ⟨h, fun answer hanswer friend => ?_, hkept.within⟩⟩
  have hlookup := (h.loadable hkept).lookup hanswer friend
  have hsame : (loadFromDB existing lists.social.playerGuid answer).playerSocialMap.lookup friend =
      lists.social.playerSocialMap.lookup friend := by
    rw [hlookup, h friend]
    cases lists.social.playerSocialMap.lookup friend <;> rfl
  simp only [PlayerSocial.hasFriend, PlayerSocial.hasIgnore, hsame, and_self]

theorem Loadable.kept {guid : Nat} {table answer : List Row} (h : Loadable existing guid table)
    (hanswer : Answers guid table answer) : Kept existing (loadFromDB existing guid answer) := by
  refine ⟨fun friend flags hlookup => ?_, fun flag => ?_⟩
  · rw [h.lookup hanswer friend] at hlookup
    obtain ⟨row, hrow, rfl⟩ := Option.map_eq_some_iff.mp hlookup
    obtain ⟨hmem, hguid, rfl⟩ := mem_rowsOf.mp (mem_of_mem_head? hrow)
    exact h.known row hmem hguid
  · have hperm := (h.mirrors hanswer).perm
    have hcount := hperm.countP_eq fun row => hasFlag flag row.flags
    rw [countP_map] at hcount
    exact hcount.symm.trans_le (h.within flag)

end

-- From a table that fits, the lists persist after every call exactly while each
-- call leaves its guid with one flag.
theorem socialLists_persist_iff (existing : Nat → Bool) (guid : Nat) (table answer : List Row)
    (hload : Loadable existing guid table) (hanswer : Answers guid table answer) (calls : List Call)
    (hcalls : ∀ call ∈ calls, existing call.friendGuid = true) :
    (∀ before, before <+: calls → Persists existing (Run.run step ⟨loadFromDB existing guid answer, table⟩ before)) ↔
      Run.Guarded step Single ⟨loadFromDB existing guid answer, table⟩ calls := by
  have hkept := hload.kept hanswer
  have hallowed := (Run.guarded_of_forall step (fun _ _ => True) (fun _ _ => trivial)
    (⟨loadFromDB existing guid answer, table⟩ : Lists) calls).and_mem step hcalls
  have hstep : ∀ lists call, Kept existing lists.social → True ∧ existing call.friendGuid = true →
      Kept existing (step lists call).social := by
    rintro lists (⟨friend, flag⟩ | ⟨friend, flag⟩) h ⟨-, hfriend⟩
    · exact h.add hfriend flag
    · exact h.remove friend flag
  refine Run.prefixes_iff_guarded step _ Single (fun lists => Kept existing lists.social) (Persists existing) hstep
    (fun lists call h hgood hok => ?_) hkept ((persists_iff hkept).mpr (hload.mirrors hanswer)) hallowed
  rw [persists_iff (hstep lists call h hok)]
  exact mirrors_step h hgood.mirrors call

-- A player with one friend
def oneFriend : List Row := [⟨1, 2, 1⟩]

theorem loadable_oneFriend : Loadable (fun _ => true) 1 oneFriend := by
  refine ⟨by decide, fun row hrow _ => ?_, fun flag => ?_⟩
  · obtain rfl := mem_singleton.mp hrow
    exact ⟨rfl, .inl rfl⟩
  · cases flag <;> decide

theorem answers_oneFriend : Answers 1 oneFriend oneFriend := ⟨oneFriend, List.Perm.refl _, rfl⟩

theorem socialLists_persist_apart :
    Persists (fun _ => true) (Run.run step ⟨loadFromDB (fun _ => true) 1 oneFriend, oneFriend⟩
      [.addToSocialList 3 .ignored, .removeFromSocialList 2 .friend]) :=
  (socialLists_persist_iff (fun _ => true) 1 oneFriend oneFriend loadable_oneFriend answers_oneFriend _
    (fun _ _ => rfl)).mpr (by decide) _ List.prefix_rfl

-- The friend is ignored as well: the table keeps the second flag only.
theorem not_socialLists_persist :
    Loadable (fun _ => true) 1 oneFriend ∧ Answers 1 oneFriend oneFriend ∧
      ¬ Persists (fun _ => true)
        (step ⟨loadFromDB (fun _ => true) 1 oneFriend, oneFriend⟩ (.addToSocialList 2 .ignored)) := by
  refine ⟨loadable_oneFriend, answers_oneFriend, fun h => ?_⟩
  have hrow := h.mirrors 2
  revert hrow
  decide

end TurtleWow.Chat
