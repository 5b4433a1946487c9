import TurtleWow.GuildBank.Ranges

namespace TurtleWow.GuildBank

open Util Objects List Function

-- The rows of this bank, once the queue is executed, are its entries.

def BankRow.view (row : BankRow) : Nat × Nat × Nat × Nat × Nat :=
  (row.guid, row.tab, row.slot, row.itemTemplate, row.count)

def BankItem.view (item : BankItem) : Nat × Nat × Nat × Nat × Nat := item.toBankRow.view

def Bank.otherKind (b : Bank) (row : BankRow) : Prop := row.guildid = b.guildid ∧ row.isInferno ≠ b.inferno

instance (b : Bank) (row : BankRow) : Decidable (b.otherKind row) := inferInstanceAs (Decidable (_ ∧ _))

structure Mirrors (b : Bank) (stored rows : List BankRow) (items : List BankItem) : Prop where
  owned : ∀ item ∈ items, item.guildid = b.guildid ∧ item.isInferno = b.inferno
  unique : (guids items).Nodup
  others : ∀ row ∈ rows, b.otherKind row → row ∈ stored
  apart : ∀ row ∈ rows, b.otherKind row → row.guid ∉ guids items
  views : ((b.rowsOf rows).map BankRow.view).Perm (items.map BankItem.view)

section

variable {b : Bank} {stored rows : List BankRow} {items : List BankItem}

theorem mem_rowsOf {row : BankRow} :
    row ∈ b.rowsOf rows ↔ row ∈ rows ∧ row.guildid = b.guildid ∧ row.isInferno = b.inferno := by
  simp [Bank.rowsOf, Bank.owns]

section

variable (h : Mirrors b stored rows items)

include h

theorem Mirrors.rowGuids :
    ((b.rowsOf rows).map fun row => row.guid).Perm (guids items) := by
  have hperm := h.views.map Prod.fst
  rw [map_map, map_map] at hperm
  exact hperm

theorem Mirrors.rowUnique :
    ((b.rowsOf rows).map fun row => row.guid).Nodup := h.rowGuids.nodup_iff.mpr h.unique

theorem Mirrors.own_of_guid {row : BankRow} (hrow : row ∈ rows)
    (hguildid : row.guildid = b.guildid) (hguid : row.guid ∈ guids items) : row.isInferno = b.inferno := by
  by_contra hkind
  exact h.apart row hrow ⟨hguildid, hkind⟩ hguid

theorem Mirrors.sameGuid_iff {item : BankItem}
    (hguildid : item.guildid = b.guildid) (hguid : item.guid ∈ guids items) {row : BankRow}
    (hrow : row ∈ rows) :
    item.toBankRow.sameGuid row = true ↔ b.owns row.guildid row.isInferno = true ∧ row.guid = item.guid := by
  simp only [BankRow.sameGuid, Bank.owns, Bool.and_eq_true, decide_eq_true_eq]
  constructor
  · rintro ⟨hg, hrowGuid⟩
    have hg : row.guildid = b.guildid := hg.trans hguildid
    exact ⟨⟨hg, h.own_of_guid hrow hg (hrowGuid ▸ hguid)⟩, hrowGuid⟩
  · rintro ⟨⟨hg, -⟩, hrowGuid⟩
    exact ⟨hg.trans hguildid.symm, hrowGuid⟩

theorem Mirrors.update {i : Nat} {old : BankItem} (new : BankItem)
    (hi : items[i]? = some old) (hguid : new.guid = old.guid) (hguildid : new.guildid = old.guildid)
    (hkind : new.isInferno = b.inferno) :
    ∃ rows', new.saveToDB rows = some rows' ∧ Mirrors b stored rows' (items.set i new) := by
  have hold := mem_of_getElem? hi
  have hmem : new.guid ∈ guids items := by
    rw [hguid]
    exact mem_map_of_mem hold
  have howner : new.guildid = b.guildid := hguildid.trans (h.owned old hold).1
  have hsame := fun row (hrow : row ∈ rows) => h.sameGuid_iff howner hmem hrow
  have hguids : guids (items.set i new) = guids items := Lists.map_set_same _ hi hguid
  have hnewOwned : b.owns new.guildid new.isInferno = true := by
    simp [Bank.owns, howner, hkind]
  have hone : (rows.filter new.toBankRow.sameGuid).length ≤ 1 := by
    have hfilter : rows.filter new.toBankRow.sameGuid =
        (b.rowsOf rows).filter fun row => decide (row.guid = new.guid) := by
      rw [Bank.rowsOf, filter_filter]
      refine filter_congr fun row hrow => ?_
      rw [Bool.eq_iff_iff, hsame row hrow]
      simp [and_comm]
    rw [hfilter]
    exact Lists.length_filter_key_le_one h.rowUnique new.guid
  refine ⟨_, if_pos hone, ?_, ?_, ?_, ?_, ?_⟩
  · intro item hitem
    rcases mem_or_eq_of_mem_set hitem with hitem | rfl
    · exact h.owned item hitem
    · exact ⟨howner, hkind⟩
  · rw [hguids]
    exact h.unique
  · intro row' hrow' hother
    obtain ⟨row, hrow, rfl⟩ := mem_map.mp hrow'
    split_ifs at hother ⊢ with hsameRow
    · exact absurd hkind hother.2
    · exact h.others row hrow hother
  · intro row' hrow' hother
    obtain ⟨row, hrow, rfl⟩ := mem_map.mp hrow'
    rw [hguids]
    split_ifs at hother ⊢ with hsameRow
    · exact absurd hkind hother.2
    · exact h.apart row hrow hother
  · have hrows : ((b.rowsOf (rows.map fun row =>
        if new.toBankRow.sameGuid row then new.toBankRow else row)).map BankRow.view) =
        ((b.rowsOf rows).map BankRow.view).map fun v => if v.1 = new.guid then new.view else v := by
      rw [Bank.rowsOf, filter_map, map_map, map_map]
      have hkeep : rows.filter ((fun row => b.owns row.guildid row.isInferno) ∘ fun row =>
          if new.toBankRow.sameGuid row then new.toBankRow else row) = b.rowsOf rows := by
        refine filter_congr fun row hrow => ?_
        simp only [comp_apply]
        split_ifs with hsameRow
        · rw [((hsame row hrow).mp hsameRow).1]
          exact hnewOwned
        · rfl
      rw [hkeep]
      refine map_congr_left fun row hrow => ?_
      obtain ⟨hin, howns⟩ := mem_filter.mp hrow
      simp only [comp_apply]
      by_cases hg : row.guid = new.guid
      · rw [if_pos ((hsame row hin).mpr ⟨howns, hg⟩), if_pos (show row.view.1 = new.guid from hg)]
        rfl
      · rw [if_neg fun hsameRow => hg ((hsame row hin).mp hsameRow).2,
          if_neg (show ¬row.view.1 = new.guid from hg)]
    have hitems : (items.set i new).map BankItem.view =
        (items.map BankItem.view).map fun v => if v.1 = new.guid then new.view else v := by
      rw [Lists.set_eq_map_key h.unique hi, map_map, map_map]
      refine map_congr_left fun item _ => ?_
      simp only [comp_apply]
      by_cases hg : item.guid = old.guid
      · rw [if_pos hg, if_pos (show item.view.1 = new.guid from hg.trans hguid.symm)]
      · rw [if_neg hg, if_neg (show ¬item.view.1 = new.guid from fun h => hg (h.trans hguid))]
    rw [hrows, hitems]
    exact h.views.map _

theorem Mirrors.delete {i : Nat} {old : BankItem}
    (hi : items[i]? = some old) :
    ∃ rows', ({ old with state := .removed } : BankItem).deleteFromDB rows = some rows' ∧
      Mirrors b stored rows' (items.eraseIdx i) := by
  have hold := mem_of_getElem? hi
  obtain ⟨howner, hkind⟩ := h.owned old hold
  have hsub := eraseIdx_sublist items i
  have hguids : ∀ guid, guid ∈ guids (items.eraseIdx i) → guid ∈ guids items := fun guid hguid =>
    (hsub.map _).mem hguid
  refine ⟨_, rfl, ?_, ?_, ?_, ?_, ?_⟩
  · exact fun item hitem => h.owned item (hsub.mem hitem)
  · exact h.unique.sublist (hsub.map _)
  · exact fun row hrow hother => h.others row (mem_of_mem_filter hrow) hother
  · exact fun row hrow hother hguid => h.apart row (mem_of_mem_filter hrow) hother (hguids _ hguid)
  · have hrows : (b.rowsOf (rows.filter fun row =>
        row.key ≠ ({ old with state := .removed } : BankItem).toBankRow.key)).map BankRow.view =
        ((b.rowsOf rows).map BankRow.view).filter fun v => decide (v.1 ≠ old.guid) := by
      rw [filter_map, Bank.rowsOf, Bank.rowsOf, filter_filter, filter_filter]
      refine congrArg (List.map BankRow.view) (filter_congr fun row _ => ?_)
      simp only [Bank.owns, BankRow.key, comp_apply, BankRow.view]
      rw [Bool.eq_iff_iff]
      simp only [Bool.and_eq_true, decide_eq_true_eq, ne_eq, Prod.mk.injEq, not_and]
      constructor
      · rintro ⟨⟨hg, hk⟩, hne⟩
        exact ⟨decide_eq_true fun heq => hne (hg.trans howner.symm) heq (hk.trans hkind.symm), hg, hk⟩
      · rintro ⟨hne, hg, hk⟩
        exact ⟨⟨hg, hk⟩, fun _ heq => absurd heq (of_decide_eq_true hne)⟩
    have hitems : (items.eraseIdx i).map BankItem.view =
        (items.map BankItem.view).filter fun v => decide (v.1 ≠ old.guid) := by
      rw [Lists.eraseIdx_eq_filter_key h.unique hi, filter_map]
      rfl
    rw [hrows, hitems]
    exact h.views.filter _

theorem Mirrors.insert {new : BankItem} (hguid : new.guid ∉ guids items)
    (hguildid : new.guildid = b.guildid) (hkind : new.isInferno = b.inferno)
    (hfresh : ∀ row ∈ rows, b.otherKind row → row.guid ≠ new.guid) :
    ∃ rows', new.addToDB rows = some rows' ∧ Mirrors b stored rows' (items ++ [new]) := by
  have hkey : new.toBankRow.key ∉ rows.map BankRow.key := by
    intro hmem
    obtain ⟨row, hrow, heq⟩ := mem_map.mp hmem
    simp only [BankRow.key, Prod.mk.injEq] at heq
    obtain ⟨hg, hrowGuid, hk⟩ := heq
    refine hguid ?_
    rw [← hrowGuid]
    exact h.rowGuids.mem_iff.mp
      (mem_map_of_mem (mem_rowsOf.mpr ⟨hrow, hg.trans hguildid, hk.trans hkind⟩))
  have hguids : guids (items ++ [new]) = guids items ++ [new.guid] := map_append
  refine ⟨_, if_neg hkey, ?_, ?_, ?_, ?_, ?_⟩
  · intro item hitem
    rcases mem_append.mp hitem with hitem | hitem
    · exact h.owned item hitem
    · rw [mem_singleton.mp hitem]
      exact ⟨hguildid, hkind⟩
  · rw [hguids]
    exact Lists.nodup_concat h.unique hguid
  · intro row hrow hother
    rcases mem_append.mp hrow with hrow | hrow
    · exact h.others row hrow hother
    · rw [mem_singleton.mp hrow] at hother
      exact absurd hkind hother.2
  · intro row hrow hother
    rcases mem_append.mp hrow with hrow | hrow
    · rw [hguids, mem_append, mem_singleton, not_or]
      exact ⟨h.apart row hrow hother, hfresh row hrow hother⟩
    · rw [mem_singleton.mp hrow] at hother
      exact absurd hkind hother.2
  · have hrows : b.rowsOf (rows ++ [new.toBankRow]) = b.rowsOf rows ++ [new.toBankRow] := by
      rw [Bank.rowsOf, filter_append, Bank.rowsOf]
      have hown : b.owns new.guildid new.isInferno = true := by simp [Bank.owns, hguildid, hkind]
      simp [hown]
    rw [hrows, map_append, map_append]
    exact h.views.append_right _

end

end

theorem Mirrors.congr {b b' : Bank} {stored rows : List BankRow} {items : List BankItem}
    (h : Mirrors b stored rows items) (hguildid : b'.guildid = b.guildid) (hinferno : b'.inferno = b.inferno) :
    Mirrors b' stored rows items := by
  have hother : ∀ row, b'.otherKind row ↔ b.otherKind row := fun row => by
    unfold Bank.otherKind
    rw [hguildid, hinferno]
  refine ⟨?_, h.unique, ?_, ?_, ?_⟩
  · rw [hguildid, hinferno]
    exact h.owned
  · exact fun row hrow hkind => h.others row hrow ((hother row).mp hkind)
  · exact fun row hrow hkind => h.apart row hrow ((hother row).mp hkind)
  · unfold Bank.rowsOf Bank.owns
    rw [hguildid, hinferno]
    exact h.views

theorem Mirrors.settle {b : Bank} {stored rows : List BankRow} {items : List BankItem}
    (h : Mirrors b stored rows items) : Mirrors b rows rows (items.map BankItem.settle) := by
  have hguids : guids (items.map BankItem.settle) = guids items := by
    simp only [guids, map_map]
    rfl
  refine ⟨?_, ?_, fun row hrow _ => hrow, ?_, ?_⟩
  · intro item hitem
    obtain ⟨old, hold, rfl⟩ := mem_map.mp hitem
    exact h.owned old hold
  · rw [hguids]
    exact h.unique
  · rw [hguids]
    exact h.apart
  · rw [map_map]
    exact h.views

def Stored (s : Session) : Prop :=
  ∃ rows, executeQueue s.bank.updateQueue s.db.bank = some rows ∧ Mirrors s.bank s.db.bank rows s.bank.items

theorem executeQueue_append {queue snaps : List BankItem} {stored rows : List BankRow}
    (h : executeQueue queue stored = some rows) :
    executeQueue (queue ++ snaps) stored = executeQueue snaps rows := by
  unfold executeQueue at h ⊢
  rw [foldlM_append, h]
  rfl

variable {s : Session}

theorem Stored.saveToDB (h : Stored s) : Stored s.saveToDB := by
  obtain ⟨rows, hqueue, hmirrors⟩ := h
  unfold Session.saveToDB
  split_ifs
  · exact ⟨rows, hqueue, hmirrors⟩
  · have hrows : (s.bank.commit s.db).bank = rows := by simp [Bank.commit, hqueue]
    have hsettled : s.bank.settled.items = s.bank.items ∨
        s.bank.settled.items = s.bank.items.map BankItem.settle := by
      by_cases hempty : s.bank.updateQueue = []
      · exact .inl (if_pos hempty)
      · exact .inr (if_neg hempty)
    refine ⟨rows, ?_, ?_⟩
    · show executeQueue s.bank.settled.updateQueue (s.bank.commit s.db).bank = some rows
      rw [hrows]
      rfl
    · show Mirrors s.bank.settled (s.bank.commit s.db).bank rows s.bank.settled.items
      rw [hrows]
      rcases hsettled with heq | heq
      · rw [heq]
        have hsaved : Mirrors s.bank rows rows s.bank.items :=
          ⟨hmirrors.owned, hmirrors.unique, fun row hrow _ => hrow, hmirrors.apart, hmirrors.views⟩
        exact hsaved.congr rfl rfl
      · rw [heq]
        exact hmirrors.settle.congr rfl rfl

theorem Mirrors.edit {Fits : BankItem → Prop} {taken : Option (List Nat)} {b : Bank}
    {stored rows : List BankRow} {items snaps : List BankItem} (h : Mirrors b stored rows b.items)
    (hnew : taken = some (guids b.items) → b.getNewGuid ∉ guids b.items ∧
      ∀ row ∈ rows, b.otherKind row → row.guid ≠ b.getNewGuid)
    (hedit : Edit Fits taken false b items snaps) :
    ∃ rows', executeQueue snaps rows = some rows' ∧ Mirrors b stored rows' items := by
  have hone : ∀ {items' : List BankItem} {snap : BankItem}, snap.state = .changed →
      (∃ rows', snap.saveToDB rows = some rows' ∧ Mirrors b stored rows' items') →
      ∃ rows', executeQueue [snap] rows = some rows' ∧ Mirrors b stored rows' items' := by
    rintro items' snap hstate ⟨rows', hsave, hrows⟩
    refine ⟨rows', ?_, hrows⟩
    simp [executeQueue, BankItem.execute, hstate, hsave]
  cases hedit with
  | refill i old new hi hslot hstate hkind =>
    refine hone hstate (h.update new hi hslot.guid hslot.guildid ?_)
    rcases hkind with hkind | hkind
    · exact hkind.trans (h.owned old (mem_of_getElem? hi)).2
    · exact hkind
  | move i old slot hi hfree =>
    exact hone rfl (h.update _ hi rfl rfl (h.owned old (mem_of_getElem? hi)).2)
  | exchange i j old other hi hj hne =>
    obtain ⟨rows', hsave, hrows⟩ := h.update { old with slot := other.slot, state := .changed } hi rfl rfl (h.owned old (mem_of_getElem? hi)).2
    have hj' : (b.items.set i { old with slot := other.slot, state := .changed })[j]? = some other := by
      rw [List.getElem?_set_ne hne]
      exact hj
    obtain ⟨rows'', hsave', hrows'⟩ := hrows.update
      { other with slot := old.slot, state := .changed } hj' rfl rfl
      (h.owned other (mem_of_getElem? hj)).2
    refine ⟨rows'', ?_, hrows'⟩
    simp [executeQueue, BankItem.execute, hsave, hsave']
  | remove i old hi =>
    obtain ⟨rows', hdelete, hrows⟩ := h.delete hi
    refine ⟨rows', ?_, hrows⟩
    simp only [executeQueue, foldlM_cons, foldlM_nil, BankItem.execute, hdelete]
    rfl
  | put new hguid htaken hguildid hkind hstate =>
    obtain ⟨hfree, hother⟩ := hnew htaken
    have hinferno : new.isInferno = b.inferno := by
      rcases hkind with hkind | ⟨item, hitem, hkind⟩
      · exact hkind
      · exact hkind.trans (h.owned item hitem).2
    obtain ⟨rows', hadd, hrows⟩ := h.insert (hguid ▸ hfree) hguildid hinferno (hguid ▸ hother)
    refine ⟨rows', ?_, hrows⟩
    simp [executeQueue, BankItem.execute, hstate, hadd]
  | forget aux hforgets => cases hforgets

def InBytes (item : BankItem) : Prop := item.tab < 256 ∧ item.slot < 256

theorem rules_inBytes (env : Env) :
    Rules env InBytes (fun _ => True) (fun _ => True) (fun tab => tab < 256) where
  stackAll := fun _ _ _ _ _ h _ _ _ _ => h
  stackSome := fun _ _ _ _ _ h _ _ _ _ => h
  fillUp := fun _ _ _ _ h _ _ => h
  rest := fun _ _ _ _ _ _ _ => trivial
  create := fun _ _ _ htab _ hslot _ => ⟨htab, Nat.lt_of_le_of_lt hslot (by decide)⟩
  swapIn := fun _ _ _ _ h => h
  withdrawSome := fun _ _ _ h _ _ _ => h
  withdrawFew := fun _ _ _ _ h _ _ _ _ _ _ => h
  withdrawOver := fun _ _ _ h _ _ _ _ => h
  move := fun _ _ h _ hslot => ⟨h.1, Nat.lt_of_le_of_lt hslot (by decide)⟩
  mergeAll := fun _ _ _ _ h _ _ _ => h
  mergeFew := fun _ _ _ h _ _ _ _ _ => h
  mergeFull := fun _ h => h
  splitOff := fun _ _ _ h _ _ _ _ => h
  splitNew := fun _ _ _ _ _ h _ _ _ hslot => ⟨h.1, Nat.lt_of_le_of_lt hslot (by decide)⟩
  splitOver := fun _ _ _ hs hd _ _ _ => ⟨hs, hd⟩

def FreshGuid (b : Bank) (db : Database) : Prop :=
  b.getNewGuid ∉ guids b.items ∧ ∀ row ∈ db.bank, b.otherKind row → row.guid ≠ b.getNewGuid

structure Safe (b : Bank) (db : Database) : Prop where
  stored : ∃ rows, executeQueue b.updateQueue db.bank = some rows ∧ Mirrors b db.bank rows b.items
  bytes : ∀ item ∈ b.items, InBytes item

theorem Safe.saveToDB (h : Safe s.bank s.db) : Safe s.saveToDB.bank s.saveToDB.db := by
  refine ⟨Stored.saveToDB h.stored, ?_⟩
  rcases s.saveToDB_items with hitems | hitems
  · rw [hitems]
    exact h.bytes
  · rw [hitems]
    intro item hitem
    obtain ⟨old, hold, rfl⟩ := mem_map.mp hitem
    exact h.bytes old hold

theorem saveToDB_otherKind (h : Safe s.bank s.db) {row : BankRow}
    (hrow : row ∈ s.saveToDB.db.bank) (hother : s.bank.otherKind row) : row ∈ s.db.bank := by
  obtain ⟨rows, hqueue, hmirrors⟩ := h.stored
  unfold Session.saveToDB at hrow
  split at hrow
  · exact hrow
  · have hrows : (s.bank.commit s.db).bank = rows := by simp [Bank.commit, hqueue]
    refine hmirrors.others row ?_ hother
    rw [← hrows]
    exact hrow

theorem Safe.sameEntries {t : Session} (h : Safe s.bank s.db) (hitems : t.bank.items = s.bank.items)
    (hqueue : t.bank.updateQueue = s.bank.updateQueue) (hrows : t.db.bank = s.db.bank)
    (hguildid : t.bank.guildid = s.bank.guildid) (hinferno : t.bank.inferno = s.bank.inferno) :
    Safe t.bank t.db := by
  obtain ⟨rows, hexecute, hmirrors⟩ := h.stored
  refine ⟨⟨rows, ?_, ?_⟩, ?_⟩
  · rw [hqueue, hrows]
    exact hexecute
  · rw [hrows, hitems]
    exact hmirrors.congr hguildid hinferno
  · rw [hitems]
    exact h.bytes

theorem Safe.trail {taken : Option (List Nat)} {s' : Session} (h : Safe s.bank s.db)
    (hfresh : taken = some (guids s.bank.items) → FreshGuid s.bank s.db)
    (htaken : taken = none ∨ taken = some (guids s.bank.items))
    (htrail : Trail InBytes taken false s s') : Safe s'.bank s'.db := by
  have hboth := Trail.invariant (P := fun t => Safe t.bank t.db ∧ t.bank.guildid = s.bank.guildid ∧
    t.bank.inferno = s.bank.inferno ∧ ∀ row ∈ t.db.bank, s.bank.otherKind row → row ∈ s.db.bank) ?_ ?_ ?_
    htrail ⟨h, rfl, rfl, fun row hrow _ => hrow⟩
  · exact hboth.1
  · rintro t t' ⟨ht, hguildid, hinferno, hothers⟩ hsame
    refine ⟨ht.sameEntries hsame.items hsame.queue (by rw [hsame.db]) hsame.guildid hsame.inferno,
      hsame.guildid.trans hguildid, hsame.inferno.trans hinferno, ?_⟩
    rw [hsame.db]
    exact hothers
  · rintro t t' items snaps ⟨ht, hguildid, hinferno, hothers⟩ hedit hbecomes
    obtain ⟨rows, hqueue, hmirrors⟩ := ht.stored
    have hkind : ∀ row, t.bank.otherKind row ↔ s.bank.otherKind row := fun row => by
      unfold Bank.otherKind
      rw [hguildid, hinferno]
    have hnew : taken = some (guids t.bank.items) → t.bank.getNewGuid ∉ guids t.bank.items ∧
        ∀ row ∈ rows, t.bank.otherKind row → row.guid ≠ t.bank.getNewGuid := by
      intro hguids
      have hsame : guids t.bank.items = guids s.bank.items := by
        rcases htaken with hnone | hsome
        · rw [hnone] at hguids
          cases hguids
        · rw [hsome] at hguids
          exact (Option.some.inj hguids).symm
      rw [getNewGuid_congr hsame, hsame]
      obtain ⟨hfree, hother⟩ := hfresh (hsame ▸ hguids)
      refine ⟨hfree, fun row hrow hrowKind => ?_⟩
      have hold := hmirrors.others row hrow hrowKind
      rw [hkind] at hrowKind
      exact hother row (hothers row hold hrowKind) hrowKind
    obtain ⟨rows', hexecute, hrows'⟩ := hmirrors.edit hnew hedit
    refine ⟨⟨⟨rows', ?_, ?_⟩, ?_⟩, hbecomes.guildid.trans hguildid, hbecomes.inferno.trans hinferno, ?_⟩
    · rw [hbecomes.queue, hbecomes.db, executeQueue_append hqueue]
      exact hexecute
    · rw [hbecomes.db, hbecomes.items]
      exact hrows'.congr hbecomes.guildid hbecomes.inferno
    · rw [hbecomes.items]
      exact fits_edit ht.bytes hedit
    · rw [hbecomes.db]
      exact hothers
  · rintro t ⟨ht, hguildid, hinferno, hothers⟩
    refine ⟨ht.saveToDB, t.saveToDB_guildid.trans hguildid, t.saveToDB_inferno.trans hinferno, ?_⟩
    intro row hrow hother
    have hkind : t.bank.otherKind row := by
      unfold Bank.otherKind
      rw [hguildid, hinferno]
      exact hother
    exact hothers row (saveToDB_otherKind ht hrow hkind) hother

-- When a handler call keeps the table in step: no swap of a bag item with an
-- entry goes through, a new entry gets a free guid, and a repeated unlock has
-- nothing to read.
def KeepsStored (env : Env) (msg : Text) (s : Session) : Call → Prop
  | .unlockGuildBank => UnlockPaid msg s → s.bank.rowsOf s.db.bank = []
  | .depositItem => FreshGuid s.bank s.db ∧
      DepositMeets (fun _ => True) (fun _ => True) (fun _ => True) false env msg s
  | .withdrawItem => WithdrawMeets (fun _ => True) false env msg s
  | .splitItem => FreshGuid s.bank s.db
  | _ => True

theorem safe_handle {env : Env} {msg : Text} {call : Call} (h : Safe s.bank s.db)
    (hok : KeepsStored env msg s call) :
    Safe (call.handle env msg s).bank (call.handle env msg s).db := by
  have hrules := rules_inBytes env
  have hquiet : call.touchesEntries = false →
      Safe (call.handle env msg s).bank (call.handle env msg s).db := by
    intro hcall
    obtain ⟨t, hsame, heq | heq⟩ := quiet_handle s env msg hcall
    · rw [heq]
      exact h.sameEntries hsame.items hsame.queue (by rw [hsame.db]) hsame.guildid hsame.inferno
    · rw [heq]
      exact (h.sameEntries hsame.items hsame.queue (by rw [hsame.db]) hsame.guildid hsame.inferno).saveToDB
  cases call with
  | unlockGuildBank =>
    rcases unlockGuildBank_cases s env msg with ⟨hsame, -⟩ | ⟨hpaid, hreloaded⟩
    · exact h.sameEntries hsame.items hsame.queue (congrArg Database.bank hsame.db) hsame.guildid
        hsame.inferno
    · refine h.sameEntries (hreloaded.items.trans ?_) hreloaded.queue hreloaded.rows hreloaded.guildid
        hreloaded.inferno
      rw [hok hpaid, map_nil, append_nil]
  | depositItem =>
    refine h.trail (fun _ => hok.1) (.inr rfl) (depositItem_trail hrules h.bytes ?_)
    intro name playerBag playerSlot bankTab bankSlot count pItem hparams haccess hpItem
    have hmeets := hok.2 name playerBag playerSlot bankTab bankSlot count pItem hparams haccess hpItem
    exact ⟨atoiU8_lt _, hmeets.2⟩
  | withdrawItem => exact h.trail (fun hnone => by cases hnone) (.inl rfl) (withdrawItem_trail hrules h.bytes hok)
  | moveItem =>
    have htrail : Trail InBytes none false s (s.moveItem env msg) := moveItem_trail hrules h.bytes
    exact h.trail (fun hnone => by cases hnone) (.inl rfl) htrail
  | splitItem =>
    refine h.trail (fun _ => hok) (.inr rfl) (splitItem_trail hrules h.bytes ?_)
    intro _ _ _ _ _ _ _ _
    trivial
  | _ => exact hquiet rfl

def Bank.reload (env : Env) (b : Bank) (db : Database) : List BankItem :=
  (b.rowsOf db.bank).map (Bank.loadItem env)

-- The queue executes and leaves the entries in the table, a save stores them,
-- and they come back from there.
structure Persistent (env : Env) (b : Bank) (db : Database) : Prop where
  queue : ∃ rows, executeQueue b.updateQueue db.bank = some rows ∧
    ((b.rowsOf rows).map BankRow.view).Perm (b.items.map BankItem.view)
  saved : ((b.reload env (b.commit db)).map BankItem.view).Perm (b.items.map BankItem.view)
  settled : b.updateQueue = [] → ((b.reload env db).map BankItem.view).Perm (b.items.map BankItem.view)

theorem reload_views {env : Env} {b : Bank} {db : Database}
    (h : ((b.rowsOf db.bank).map BankRow.view).Perm (b.items.map BankItem.view))
    (hbytes : ∀ item ∈ b.items, InBytes item) :
    ((b.reload env db).map BankItem.view).Perm (b.items.map BankItem.view) := by
  have hsame : (b.reload env db).map BankItem.view = (b.rowsOf db.bank).map BankRow.view := by
    rw [Bank.reload, map_map]
    refine map_congr_left fun row hrow => ?_
    have hview := h.mem_iff.mp (mem_map_of_mem (f := BankRow.view) hrow)
    obtain ⟨item, hitem, heq⟩ := mem_map.mp hview
    simp only [BankItem.view, BankRow.view, Prod.mk.injEq] at heq
    obtain ⟨-, htab, hslot, -⟩ := heq
    have hbyte := hbytes item hitem
    unfold InBytes at hbyte
    rw [htab, hslot] at hbyte
    simp only [comp_apply, BankItem.view, BankRow.view, Bank.loadItem, Word.u8_of_lt hbyte.1,
      Word.u8_of_lt hbyte.2]
  rw [hsame]
  exact h

theorem Safe.persistent {b : Bank} {db : Database} (h : Safe b db) (env : Env) : Persistent env b db := by
  obtain ⟨rows, hqueue, hmirrors⟩ := h.stored
  refine ⟨⟨rows, hqueue, hmirrors.views⟩, reload_views ?_ h.bytes, fun hempty => reload_views ?_ h.bytes⟩
  · have hrows : (b.commit db).bank = rows := by simp [Bank.commit, hqueue]
    rw [hrows]
    exact hmirrors.views
  · rw [hempty] at hqueue
    have hrows : db.bank = rows := Option.some.inj hqueue
    rw [hrows]
    exact hmirrors.views

structure Loadable (b : Bank) (rows : List BankRow) : Prop where
  guids : ((b.rowsOf rows).map fun row => row.guid).Nodup
  bytes : ∀ row ∈ b.rowsOf rows, row.tab < 256 ∧ row.slot < 256
  apart : ∀ row ∈ rows, b.otherKind row → ∀ own ∈ b.rowsOf rows, row.guid ≠ own.guid

theorem Loadable.safe {env : Env} {b : Bank} {db : Database} (h : Loadable b db.bank)
    (hitems : b.items = b.reload env db) (hqueue : b.updateQueue = []) : Safe b db := by
  have hguids : GuildBank.guids b.items = (b.rowsOf db.bank).map fun row => row.guid := by
    rw [hitems, Bank.reload, GuildBank.guids, map_map]
    rfl
  refine ⟨⟨db.bank, by rw [hqueue]; rfl, ?_, ?_, fun row hrow _ => hrow, ?_, ?_⟩, ?_⟩
  · rw [hitems]
    intro item hitem
    obtain ⟨row, hrow, rfl⟩ := mem_map.mp hitem
    exact (mem_rowsOf.mp hrow).2
  · rw [hguids]
    exact h.guids
  · intro row hrow hother hmem
    rw [hguids] at hmem
    obtain ⟨own, hown, heq⟩ := mem_map.mp hmem
    exact h.apart row hrow hother own hown heq.symm
  · rw [hitems, Bank.reload, map_map]
    refine List.Perm.of_eq (map_congr_left fun row hrow => ?_)
    obtain ⟨htab, hslot⟩ := h.bytes row hrow
    simp only [comp_apply, BankItem.view, BankRow.view, Bank.loadItem, Word.u8_of_lt htab,
      Word.u8_of_lt hslot]
  · rw [hitems]
    intro item hitem
    obtain ⟨row, -, rfl⟩ := mem_map.mp hitem
    exact ⟨Word.u8_lt _, Word.u8_lt _⟩

theorem loadable_clothServer : Loadable clothServer.bank clothServer.db.bank :=
  ⟨by decide, by decide, by decide⟩

-- The ring in the first backpack slot is dragged onto the cloth.
def swapRing : Message :=
  sampleMessage "TW_GUILDBANK DepositItem:0:1:1:1:1" 0
    { owner := 9, items := AList.singleton (255, 23) (sampleItem 50 ringEntry 1 9) }

end TurtleWow.GuildBank
