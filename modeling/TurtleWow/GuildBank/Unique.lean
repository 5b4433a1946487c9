import TurtleWow.GuildBank.Trail.Quiet

namespace TurtleWow.GuildBank

open Util Objects List

-- No two entries lie in one slot of one tab, and no two have one guid.

def places (items : List BankItem) : List (Nat × Nat) := items.map fun item => (item.tab, item.slot)

def guids (items : List BankItem) : List Nat := items.map fun item => item.guid

structure NoDuplicates (items : List BankItem) : Prop where
  places : (places items).Nodup
  guids : (guids items).Nodup

theorem NoDuplicates.settle {items : List BankItem} (h : NoDuplicates items) :
    NoDuplicates (items.map BankItem.settle) := by
  refine ⟨?_, ?_⟩
  · have hsame : GuildBank.places (items.map BankItem.settle) = GuildBank.places items := by
      simp only [GuildBank.places, map_map]
      rfl
    rw [hsame]
    exact h.places
  · have hsame : GuildBank.guids (items.map BankItem.settle) = GuildBank.guids items := by
      simp only [GuildBank.guids, map_map]
      rfl
    rw [hsame]
    exact h.guids

theorem getNewGuid_congr {b b' : Bank} (h : guids b.items = guids b'.items) :
    b.getNewGuid = b'.getNewGuid := by
  have hfold : ∀ (items : List BankItem) (start : Nat),
      items.foldl (fun guid item => if guid < item.guid then item.guid else guid) start =
        (guids items).foldl (fun guid other => if guid < other then other else guid) start := by
    intro items start
    rw [guids, foldl_map]
  unfold Bank.getNewGuid
  rw [hfold, hfold, h]

theorem NoDuplicates.edit {taken : Option (List Nat)} {b : Bank} {items snaps : List BankItem}
    (h : NoDuplicates b.items) (hfresh : taken = some (GuildBank.guids b.items) → b.getNewGuid ∉ GuildBank.guids b.items)
    (hedit : Edit (fun _ => True) taken true b items snaps) : NoDuplicates items := by
  cases hedit with
  | refill i old new hi hslot =>
    refine ⟨?_, ?_⟩
    · unfold GuildBank.places
      rw [Lists.map_set_same _ hi (by rw [hslot.tab, hslot.slot])]
      exact h.places
    · unfold GuildBank.guids
      rw [Lists.map_set_same _ hi hslot.guid]
      exact h.guids
  | move i old slot hi hfree =>
    refine ⟨?_, ?_⟩
    · unfold GuildBank.places
      rw [map_set]
      refine h.places.set ?_
      intro hmem
      obtain ⟨item, hitem, heq⟩ := mem_map.mp hmem
      rw [Prod.mk.injEq] at heq
      exact hfree item hitem heq
    · refine (congrArg List.Nodup (Lists.map_set_same _ hi ?_)).mpr h.guids
      rfl
  | exchange i j old other hi hj hne htab =>
    refine ⟨?_, ?_⟩
    · refine (Lists.map_exchange _ hi hj ?_ ?_).nodup_iff.mpr h.places
      · rw [htab]
      · rw [htab]
    · refine (congrArg List.Nodup (Lists.map_exchange_same _ hi hj hne ?_ ?_)).mpr h.guids
      · rfl
      · rfl
  | remove i old hi =>
    have hsub := eraseIdx_sublist b.items i
    exact ⟨h.places.sublist (hsub.map _), h.guids.sublist (hsub.map _)⟩
  | put new hguid htaken hguildid hkind hstate hfree =>
    refine ⟨?_, ?_⟩
    · unfold GuildBank.places
      rw [map_append]
      refine Lists.nodup_concat h.places fun hmem => ?_
      obtain ⟨item, hitem, heq⟩ := mem_map.mp hmem
      rw [Prod.mk.injEq] at heq
      exact hfree item hitem heq
    · unfold GuildBank.guids
      rw [map_append]
      refine Lists.nodup_concat h.guids fun hmem => ?_
      have hmem : new.guid ∈ GuildBank.guids b.items := hmem
      rw [hguid] at hmem
      exact hfresh htaken hmem
  | forget => exact h

theorem NoDuplicates.trail {taken : Option (List Nat)} {s s' : Session} (h : NoDuplicates s.bank.items)
    (hfresh : ∀ b : Bank, taken = some (GuildBank.guids b.items) → b.getNewGuid ∉ GuildBank.guids b.items)
    (htrail : Trail (fun _ => True) taken true s s') : NoDuplicates s'.bank.items := by
  refine Trail.invariant (P := fun s => NoDuplicates s.bank.items) ?_ ?_ ?_ htrail h
  · intro s s' hs hsame
    rw [hsame.items]
    exact hs
  · intro s s' items snaps hs hedit hbecomes
    rw [hbecomes.items]
    exact hs.edit (hfresh s.bank) hedit
  · intro s hs
    rcases s.saveToDB_items with hitems | hitems
    · rw [hitems]
      exact hs
    · rw [hitems]
      exact hs.settle

theorem NoDuplicates.quiet {s s' : Session} (h : NoDuplicates s.bank.items) (hquiet : Quiet s s') :
    NoDuplicates s'.bank.items := by
  obtain ⟨t, hsame, rfl | rfl⟩ := hquiet
  · rw [hsame.items]
    exact h
  · rcases t.saveToDB_items with hitems | hitems
    · rw [hitems, hsame.items]
      exact h
    · rw [hitems, hsame.items]
      exact h.settle

-- A paid unlock must not read a row whose entry is in memory already, and an
-- entry is created only while the next guid is free.
def KeepsUnique (env : Env) (msg : Text) (s : Session) : Call → Prop
  | .unlockGuildBank => UnlockPaid msg s →
      NoDuplicates (s.bank.items ++ (s.bank.rowsOf s.db.bank).map (Bank.loadItem env))
  | .depositItem | .splitItem => s.bank.getNewGuid ∉ guids s.bank.items
  | _ => True

theorem noDuplicates_handle {env : Env} {msg : Text} {s : Session} {call : Call}
    (h : NoDuplicates s.bank.items) (hok : KeepsUnique env msg s call) :
    NoDuplicates (call.handle env msg s).bank.items := by
  have hfresh : s.bank.getNewGuid ∉ guids s.bank.items → ∀ b : Bank,
      some (guids s.bank.items) = some (guids b.items) → b.getNewGuid ∉ guids b.items := fun hnew b hb => by
    rw [Option.some.injEq] at hb
    rw [getNewGuid_congr hb.symm, ← hb]
    exact hnew
  cases call with
  | unlockGuildBank =>
    rcases unlockGuildBank_cases s env msg with ⟨hsame, -⟩ | ⟨hpaid, hreloaded⟩
    · exact h.quiet hsame.quiet
    · simp only [Call.handle]
      rw [hreloaded.items]
      exact hok hpaid
  | depositItem =>
    refine h.trail (hfresh hok) (depositItem_trail (Rules.trivial env) (fun _ _ => trivial) ?_)
    intro _ _ _ _ _ _ _ _ _ _
    simp
  | splitItem =>
    refine h.trail (hfresh hok) (splitItem_trail (Rules.trivial env) (fun _ _ => trivial) ?_)
    intro _ _ _ _ _ _ _ _
    trivial
  | withdrawItem =>
    refine h.trail (fun _ hb => by cases hb)
      (withdrawItem_trail (Rules.trivial env) (fun _ _ => trivial) ?_)
    intro _ _ _ _ _ _ _ _ _ _ _ _ _
    simp
  | moveItem =>
    have htrail : Trail (fun _ => True) none true s (s.moveItem env msg) :=
      moveItem_trail (Rules.trivial env) fun _ _ => trivial
    exact h.trail (fun _ hb => by cases hb) htrail
  | _ => exact h.quiet (quiet_handle s env msg rfl)

def Started (env : Env) (srv : Server) : Prop :=
  ∃ b : Bank, b.items = [] ∧ srv.bank = Session.setGuild env b srv.db

structure UniqueRows (rows : List BankRow) : Prop where
  places : (rows.map fun row => (row.tab, row.slot)).Nodup
  guids : (rows.map fun row => row.guid).Nodup
  bytes : ∀ row ∈ rows, row.tab < 256 ∧ row.slot < 256

theorem UniqueRows.noDuplicates {rows : List BankRow} (h : UniqueRows rows) (env : Env) :
    NoDuplicates (rows.map (Bank.loadItem env)) := by
  refine ⟨?_, ?_⟩
  · have hsame : GuildBank.places (rows.map (Bank.loadItem env)) =
        rows.map fun row => (row.tab, row.slot) := by
      rw [GuildBank.places, map_map]
      refine map_congr_left fun row hrow => ?_
      obtain ⟨htab, hslot⟩ := h.bytes row hrow
      exact Prod.ext (Word.u8_of_lt htab) (Word.u8_of_lt hslot)
    rw [hsame]
    exact h.places
  · have hsame : GuildBank.guids (rows.map (Bank.loadItem env)) = rows.map fun row => row.guid := by
      rw [GuildBank.guids, map_map]
      rfl
    rw [hsame]
    exact h.guids

theorem started_items {env : Env} {srv : Server} (h : Started env srv) :
    srv.bank.items = [] ∨ srv.bank.items = (srv.bank.rowsOf srv.db.bank).map (Bank.loadItem env) := by
  obtain ⟨b, hitems, hbank⟩ := h
  obtain ⟨hlog, -, hguildid, hinferno, -⟩ :=
    loadLog_same env (({ b with tabs := 0 } : Bank).loadBank env srv.db) srv.db
  have hsame : srv.bank.items = (({ b with tabs := 0 } : Bank).loadBank env srv.db).items := by
    rw [hbank]
    exact hlog
  have hrows : srv.bank.rowsOf srv.db.bank = b.rowsOf srv.db.bank := by
    have hg : srv.bank.guildid = b.guildid := by
      rw [hbank]
      refine hguildid.trans ?_
      unfold Bank.loadBank
      split <;> rfl
    have hi : srv.bank.inferno = b.inferno := by
      rw [hbank]
      refine hinferno.trans ?_
      unfold Bank.loadBank
      split <;> rfl
    unfold Bank.rowsOf Bank.owns
    rw [hg, hi]
  rw [hsame, hrows]
  unfold Bank.loadBank
  split
  · exact .inl hitems
  · refine .inr ?_
    show b.items ++ _ = _
    rw [hitems]
    rfl

theorem noDuplicates_run {env : Env} {srv : Server} {messages : List Message} (hstart : Started env srv)
    (hrows : UniqueRows (srv.bank.rowsOf srv.db.bank))
    (hruns : Run.Guarded Server.receive (Server.MessageMeets KeepsUnique) srv messages) :
    NoDuplicates (Run.run Server.receive srv messages).bank.items := by
  refine Server.receive_invariant KeepsUnique (fun b _ => NoDuplicates b.items)
    (fun env msg s call hs hok => noDuplicates_handle hs hok) ?_ hruns
  rcases started_items hstart with hitems | hitems
  · rw [hitems]
    exact ⟨List.nodup_nil, List.nodup_nil⟩
  · rw [hitems]
    exact hrows.noDuplicates env

def clothServer : Server := sampleServer [sampleRow 7 1 1 clothEntry 5] 1 0

theorem started_clothServer : Started sampleEnv clothServer := ⟨emptyBank, rfl, rfl⟩

theorem uniqueRows_clothServer : UniqueRows (clothServer.bank.rowsOf clothServer.db.bank) :=
  ⟨by decide, by decide, by decide⟩

def moveCloth : Message := sampleMessage "TW_GUILDBANK MoveItem:1:1:2" 0 { owner := 9, items := ∅ }

theorem moveCloth_calls : (clothServer.session moveCloth).callsFor moveCloth.text = [.moveItem] := by
  decide +kernel

theorem noDuplicates_run_moveItem :
    NoDuplicates (Run.run Server.receive clothServer [moveCloth]).bank.items := by
  refine noDuplicates_run started_clothServer uniqueRows_clothServer ⟨fun _ => ?_, trivial⟩
  exact moveCloth_calls ▸ ⟨trivial, trivial⟩

def unlockAgain : Message :=
  sampleMessage "TW_GUILDBANK UnlockGuildBank:Ok" guildBankCost { owner := 9, items := ∅ }

theorem not_noDuplicates_run : ¬∀ (env : Env) (srv : Server) (messages : List Message), Started env srv →
    UniqueRows (srv.bank.rowsOf srv.db.bank) →
    NoDuplicates (Run.run Server.receive srv messages).bank.items := by
  intro h
  have hguids : guids (Run.run Server.receive clothServer [unlockAgain]).bank.items = [7, 7] := by
    decide +kernel
  have hnodup := (h sampleEnv clothServer [unlockAgain] started_clothServer uniqueRows_clothServer).guids
  rw [hguids] at hnodup
  simp at hnodup

end TurtleWow.GuildBank
