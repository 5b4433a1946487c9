import TurtleWow.Migrations.Splitter

namespace TurtleWow.Migrations

open List

-- What the updater promises over all its runs, and when it keeps it.

variable {σ : Type}

section Execute

variable {d : Database σ} {server : Server σ} {m : FileMigration}

def FileMigration.queue (m : FileMigration) : List Text := queries m.fileData ++ [insertRecord m.toMigration]

theorem foldl_execute (sql : List Text) (d : Database σ) :
    sql.foldl Database.execute d = { d with transaction := d.transaction.map fun queue => queue ++ sql } := by
  induction sql generalizing d with
  | nil => cases d with | mk _ _ transaction => cases transaction <;> simp
  | cons first rest ih =>
    rw [foldl_cons, ih]
    cases d with | mk _ _ transaction => cases transaction <;> simp [Database.execute]

theorem executeUpdate_eq (h : d.transaction = none) :
    executeUpdate d server m =
      if !d.asyncConn then (false, d)
      else if endsInString m.fileData then (false, { d with transaction := some [] })
      else
        ((server.executeTransaction m.queue d.contents).1,
          { d with contents := (server.executeTransaction m.queue d.contents).2 }) := by
  obtain ⟨contents, asyncConn, transaction⟩ := d
  obtain rfl : transaction = none := h
  cases asyncConn with
  | false => rfl
  | true =>
    cases hends : endsInString m.fileData with
    | true => simp [executeUpdate, Database.beginTransaction, hends]
    | false =>
      simp [executeUpdate, Database.beginTransaction, hends, foldl_execute, Database.execute,
        Database.commitTransactionDirect, FileMigration.queue]

theorem executeTransaction_cases (server : Server σ) {queue : List Text} (hne : queue ≠ []) (contents : σ) :
    (server.executeTransaction queue contents = (false, contents)) ∨
      ∃ after, server.executeQueue 0 queue contents = some after ∧
        server.executeTransaction queue contents = (true, after) := by
  unfold Server.executeTransaction
  rw [if_neg hne]
  split
  · exact .inl rfl
  · rename_i after hafter
    split
    · exact .inr ⟨after, hafter, rfl⟩
    · exact .inl rfl

theorem executeUpdate_cases (server : Server σ) (h : d.transaction = none) (hends : endsInString m.fileData = false) :
    executeUpdate d server m = (false, d) ∨
      ∃ after, server.executeQueue 0 m.queue d.contents = some after ∧
        executeUpdate d server m = (true, { d with contents := after }) := by
  rw [executeUpdate_eq h, hends]
  split
  · exact .inl rfl
  · have hqueue : m.queue ≠ [] := append_ne_nil_of_right_ne_nil _ (by simp)
    rcases executeTransaction_cases server hqueue d.contents with hnone | ⟨after, hafter, hsome⟩
    · exact .inl (by rw [hnone]; rfl)
    · exact .inr ⟨after, hafter, by rw [hsome]; rfl⟩

end Execute

section

variable (sha1Hex : Text → Text) (rows : σ → List Migration)

def committed (turns : List (Turn σ)) : List (Text × Text) :=
  (turns.filter fun turn => turn.succeeded).map fun turn => (turn.migration.module, turn.migration.fileData)

structure Applied (turns : List (Turn σ)) : Prop where
  once : (committed turns).Nodup
  whole : ∀ turn ∈ turns, turn.succeeded →
    turn.server.executeQueue 0 turn.migration.queue turn.before.contents = some turn.after.contents ∧
      turn.migration.toMigration ∈ rows turn.after.contents
  nothing : ∀ turn ∈ turns, turn.succeeded = false →
    turn.after.contents = turn.before.contents ∧ turn.after.transaction = none

-- One call of ProcessTargetUpdates: only files that are not recorded, in
-- order, and none after a failed one
structure Ordered (d : Database σ) (start : Start σ) (turns : List (Turn σ)) : Prop where
  unrecorded : ∀ turn ∈ turns, turn.migration.key ∉ (rows d.contents).map Migration.key
  sorted : turns.Pairwise fun first second => isBefore start.sortByName second.migration first.migration = false
  stops : ∀ front turn rest, turns = front ++ turn :: rest → turn.succeeded = false → rest = []

def AllOrNothing (w : World σ) (inputs : List (Input σ)) : Prop :=
  Applied rows (Run.run (World.step sha1Hex rows) w inputs).turns ∧
    ∀ before start after, inputs = before ++ .process start :: after →
      Ordered rows (Run.run (World.step sha1Hex rows) w before).database start
        (processTargetUpdates sha1Hex rows (Run.run (World.step sha1Hex rows) w before).database start)

-- Text that a quoted literal takes as it is
def Plain (text : Text) : Prop := '\'' ∉ text ∧ '\\' ∉ text

def Records (start : Start σ) : Prop :=
  ∀ i j (m : Migration) contents after, Plain m.hash → Plain m.name → Plain m.module →
    (start.server i).execute j (insertRecord m) contents = some after →
    m ∈ rows after ∧ ∀ row ∈ rows contents, row ∈ rows after

-- The file closes its strings, has a plain name and leaves what is recorded.
structure Sound (turn : Turn σ) : Prop where
  closed : endsInString turn.migration.fileData = false
  name : Plain turn.migration.name
  module : Plain turn.migration.module
  keeps : ∀ i sql contents after, sql ∈ queries turn.migration.fileData →
    turn.server.execute i sql contents = some after → ∀ row ∈ rows contents, row ∈ rows after

def Ready (w : World σ) : Input σ → Prop
  | .process start => start.selected ∧ ∀ turn ∈ processTargetUpdates sha1Hex rows w.database start, Sound rows turn
  | .restart => True

end

section Loading

variable {sha1Hex : Text → Text} {rows : σ → List Migration} {start : Start σ}

theorem nodup_insertNew {migrations : List FileMigration} (m : FileMigration)
    (h : (migrations.map fun m => m.key).Nodup) : ((insertNew migrations m).map fun m => m.key).Nodup := by
  unfold insertNew
  split
  · exact h
  · rename_i hnone
    rw [map_append, map_singleton]
    refine nodup_append.mpr ⟨h, nodup_singleton _, fun key hkey other hother heq => hnone ?_⟩
    obtain ⟨old, hold, rfl⟩ := mem_map.mp hkey
    rw [mem_singleton.mp hother] at heq
    exact any_eq_true.mpr ⟨old, hold, decide_eq_true heq⟩

theorem mem_insertNew {migrations : List FileMigration} {m other : FileMigration} (h : other ∈ insertNew migrations m) :
    other ∈ migrations ∨ other = m := by
  unfold insertNew at h
  split at h
  · exact .inl h
  · exact (mem_append.mp h).imp_right mem_singleton.mp

theorem foldl_insertNew (list migrations : List FileMigration) (h : (migrations.map fun m => m.key).Nodup) :
    ((list.foldl insertNew migrations).map fun m => m.key).Nodup ∧
      ∀ m ∈ list.foldl insertNew migrations, m ∈ migrations ∨ m ∈ list := by
  induction list generalizing migrations with
  | nil => exact ⟨h, fun m hm => .inl hm⟩
  | cons first rest ih =>
    obtain ⟨hnodup, hmem⟩ := ih _ (nodup_insertNew first h)
    refine ⟨hnodup, fun m hm => ?_⟩
    rcases hmem m hm with hold | hrest
    · rcases mem_insertNew hold with hold | rfl
      · exact .inl hold
      · exact .inr mem_cons_self
    · exact .inr (mem_cons_of_mem _ hrest)

theorem hash_of_mem_load {m : FileMigration} (h : m ∈ loadFileMigrations sha1Hex start) :
    m.hash = sha1Hex m.fileData := by
  rcases (foldl_insertNew _ [] nodup_nil).2 m h with hnil | hmem
  · cases hnil
  · obtain ⟨entry, -, hentry⟩ := mem_filterMap.mp hmem
    unfold fileMigration at hentry
    split at hentry
    · obtain ⟨data, -, rfl⟩ := Option.map_eq_some_iff.mp hentry
      rfl
    · cases hentry

theorem nodup_pendingUpdates (d : Database σ) :
    ((pendingUpdates sha1Hex rows d start).map fun m => m.key).Nodup := by
  unfold pendingUpdates
  refine ((mergeSort_perm _ _).map _).nodup_iff.mpr ?_
  exact ((foldl_insertNew _ [] nodup_nil).1).sublist (filter_sublist.map _)

theorem mem_pendingUpdates {d : Database σ} {m : FileMigration} (h : m ∈ pendingUpdates sha1Hex rows d start) :
    m.hash = sha1Hex m.fileData ∧ m.key ∉ loadDatabaseMigrations rows d start := by
  unfold pendingUpdates at h
  obtain ⟨hload, hkey⟩ := mem_filter.mp ((mergeSort_perm _ _).mem_iff.mp h)
  exact ⟨hash_of_mem_load hload, by simpa using hkey⟩

theorem isBefore_iff (sortByName : Bool) (e1 e2 : FileMigration) :
    isBefore sortByName e1 e2 = true ↔
      if sortByName then toLex (e1.name, e1.modifiedAt) < toLex (e2.name, e2.modifiedAt)
      else toLex (e1.modifiedAt, e1.name) < toLex (e2.modifiedAt, e2.name) := by
  cases sortByName with
  | true =>
    by_cases hsame : e1.name = e2.name <;> simp [isBefore, Prod.Lex.toLex_lt_toLex, hsame]
  | false =>
    by_cases hsame : e1.modifiedAt = e2.modifiedAt <;> simp [isBefore, Prod.Lex.toLex_lt_toLex, hsame]

theorem isBefore_trans (sortByName : Bool) {a b c : FileMigration} (hab : isBefore sortByName b a = false)
    (hbc : isBefore sortByName c b = false) : isBefore sortByName c a = false := by
  rw [← Bool.not_eq_true, isBefore_iff] at hab hbc ⊢
  split at hab
  · rename_i hname
    rw [if_pos hname] at hbc ⊢
    exact not_lt_of_ge ((not_lt (α := Text ×ₗ Int).mp hab).trans (not_lt (α := Text ×ₗ Int).mp hbc))
  · rename_i hname
    rw [if_neg hname] at hbc ⊢
    exact not_lt_of_ge ((not_lt (α := Int ×ₗ Text).mp hab).trans (not_lt (α := Int ×ₗ Text).mp hbc))

theorem isBefore_total (sortByName : Bool) (a b : FileMigration) :
    isBefore sortByName b a = false ∨ isBefore sortByName a b = false := by
  rw [← Bool.not_eq_true, ← Bool.not_eq_true, isBefore_iff, isBefore_iff]
  split
  · exact (le_total (α := Text ×ₗ Int) _ _).imp not_lt_of_ge not_lt_of_ge
  · exact (le_total (α := Int ×ₗ Text) _ _).imp not_lt_of_ge not_lt_of_ge

theorem sorted_pendingUpdates (d : Database σ) :
    (pendingUpdates sha1Hex rows d start).Pairwise fun first second =>
      isBefore start.sortByName second first = false := by
  unfold pendingUpdates
  refine (pairwise_mergeSort (fun a b c hab hbc => ?_) (fun a b => ?_) _).imp fun h => by simpa using h
  · simp only [Bool.not_eq_true'] at hab hbc ⊢
    exact isBefore_trans _ hab hbc
  · simpa using isBefore_total start.sortByName a b

end Loading

section Turns

variable {rows : σ → List Migration} {sha1Hex : Text → Text} {server : Nat → Server σ}

theorem lastDatabase_cons (d : Database σ) (turn : Turn σ) (turns : List (Turn σ)) :
    lastDatabase d (turn :: turns) = lastDatabase turn.after turns := by
  cases turns with
  | nil => rfl
  | cons next rest =>
    simp only [lastDatabase, List.getLast?_cons_cons]
    obtain ⟨last, hlast⟩ := Option.isSome_iff_exists.mp (List.getLast?_isSome.mpr (cons_ne_nil next rest))
    rw [hlast]

theorem runUpdates_cons (i : Nat) (m : FileMigration) (rest : List FileMigration) (d : Database σ) :
    runUpdates server i (m :: rest) d =
      ⟨m, server i, d, (executeUpdate d (server i) m).1, (executeUpdate d (server i) m).2⟩ ::
        if (executeUpdate d (server i) m).1 then runUpdates server (i + 1) rest (executeUpdate d (server i) m).2 else [] :=
  rfl

theorem runUpdates_prefix (server : Nat → Server σ) (i : Nat) (updates : List FileMigration) (d : Database σ) :
    (runUpdates server i updates d).map (fun turn => turn.migration) <+: updates := by
  induction updates generalizing i d with
  | nil => exact prefix_refl _
  | cons m rest ih =>
    rw [runUpdates_cons, map_cons]
    refine cons_prefix_cons.mpr ⟨rfl, ?_⟩
    split
    · exact ih _ _
    · exact nil_prefix

theorem runUpdates_stops (i : Nat) (updates : List FileMigration) (d : Database σ) (front : List (Turn σ))
    (turn : Turn σ) (rest : List (Turn σ)) (h : runUpdates server i updates d = front ++ turn :: rest)
    (hfailed : turn.succeeded = false) : rest = [] := by
  induction updates generalizing i d front with
  | nil => simp [runUpdates] at h
  | cons m others ih =>
    rw [runUpdates_cons] at h
    cases front with
    | nil =>
      obtain ⟨rfl, hrest⟩ := List.cons.inj h
      rw [if_neg (by simpa using hfailed)] at hrest
      exact hrest.symm
    | cons first front =>
      obtain ⟨-, hrest⟩ := List.cons.inj h
      split at hrest
      · exact ih _ _ _ hrest
      · simp at hrest

theorem ordered_processTargetUpdates (d : Database σ) (start : Start σ) (hselected : start.selected) :
    Ordered rows d start (processTargetUpdates sha1Hex rows d start) := by
  have hcalls := runUpdates_prefix start.server 0 (pendingUpdates sha1Hex rows d start) d
  refine ⟨fun turn hturn => ?_, ?_, runUpdates_stops _ _ _⟩
  · have hkey := (mem_pendingUpdates (hcalls.subset (mem_map_of_mem hturn))).2
    rwa [loadDatabaseMigrations, if_pos hselected] at hkey
  · exact pairwise_map.mp ((sorted_pendingUpdates d).sublist hcalls.sublist)

structure Consistent (rows : σ → List Migration) (sha1Hex : Text → Text) (d : Database σ) (turns : List (Turn σ)) : Prop where
  closed : d.transaction = none
  applied : Applied rows turns
  recorded : ∀ turn ∈ turns, turn.succeeded → turn.migration.toMigration ∈ rows d.contents
  hashed : ∀ turn ∈ turns, turn.migration.hash = sha1Hex turn.migration.fileData

theorem committed_append (turns rest : List (Turn σ)) : committed (turns ++ rest) = committed turns ++ committed rest := by
  rw [committed, filter_append, map_append, committed, committed]

theorem executeQueue_keeps {server : Server σ} {i : Nat} {queue : List Text} {contents after : σ}
    (hkeeps : ∀ i sql contents after, sql ∈ queue → server.execute i sql contents = some after →
      ∀ row ∈ rows contents, row ∈ rows after)
    (h : server.executeQueue i queue contents = some after) : ∀ row ∈ rows contents, row ∈ rows after := by
  induction queue generalizing i contents with
  | nil =>
    obtain rfl : contents = after := Option.some.inj h
    exact fun row hrow => hrow
  | cons sql rest ih =>
    rw [Server.executeQueue] at h
    cases hsql : server.execute i sql contents with
    | none =>
      rw [hsql] at h
      cases h
    | some next =>
      rw [hsql] at h
      intro row hrow
      refine ih (fun i sql contents after hmem => hkeeps i sql contents after (mem_cons_of_mem _ hmem)) h row ?_
      exact hkeeps i sql contents next mem_cons_self hsql row hrow

theorem executeQueue_append {server : Server σ} {i : Nat} {queue rest : List Text} {contents after : σ}
    (h : server.executeQueue i (queue ++ rest) contents = some after) :
    ∃ between, server.executeQueue i queue contents = some between ∧
      server.executeQueue (i + queue.length) rest between = some after := by
  induction queue generalizing i contents with
  | nil => exact ⟨contents, rfl, h⟩
  | cons sql others ih =>
    rw [cons_append, Server.executeQueue] at h
    cases hsql : server.execute i sql contents with
    | none =>
      rw [hsql] at h
      cases h
    | some next =>
      rw [hsql] at h
      obtain ⟨between, hbetween, hrest⟩ := ih h
      refine ⟨between, by rw [Server.executeQueue, hsql]; exact hbetween, ?_⟩
      rw [length_cons, Nat.add_comm others.length, ← Nat.add_assoc]
      exact hrest

-- The record goes in last, and what was recorded stays.
theorem executeQueue_records {server : Server σ} {m : FileMigration} {contents after : σ}
    (hkeeps : ∀ i sql contents after, sql ∈ queries m.fileData → server.execute i sql contents = some after →
      ∀ row ∈ rows contents, row ∈ rows after)
    (hrecords : ∀ j contents after, server.execute j (insertRecord m.toMigration) contents = some after →
      m.toMigration ∈ rows after ∧ ∀ row ∈ rows contents, row ∈ rows after)
    (h : server.executeQueue 0 m.queue contents = some after) :
    m.toMigration ∈ rows after ∧ ∀ row ∈ rows contents, row ∈ rows after := by
  obtain ⟨between, hbetween, hlast⟩ := executeQueue_append h
  have hrecord : server.execute (0 + (queries m.fileData).length) (insertRecord m.toMigration) between = some after := by
    rw [Server.executeQueue] at hlast
    cases hsql : server.execute (0 + (queries m.fileData).length) (insertRecord m.toMigration) between with
    | none =>
      rw [hsql] at hlast
      cases hlast
    | some last =>
      rw [hsql] at hlast
      exact hlast
  obtain ⟨hmem, hkept⟩ := hrecords _ _ _ hrecord
  exact ⟨hmem, fun row hrow => hkept row (executeQueue_keeps hkeeps hbetween row hrow)⟩

theorem Applied.concat {turns : List (Turn σ)} {turn : Turn σ} (h : Applied rows turns)
    (honce : turn.succeeded → (turn.migration.module, turn.migration.fileData) ∉ committed turns)
    (hwhole : turn.succeeded →
      turn.server.executeQueue 0 turn.migration.queue turn.before.contents = some turn.after.contents ∧
        turn.migration.toMigration ∈ rows turn.after.contents)
    (hnothing : turn.succeeded = false →
      turn.after.contents = turn.before.contents ∧ turn.after.transaction = none) : Applied rows (turns ++ [turn]) := by
  refine ⟨?_, fun other hother => ?_, fun other hother => ?_⟩
  · rw [committed_append]
    cases hsucceeded : turn.succeeded with
    | false =>
      have hnil : committed [turn] = [] := by simp [committed, hsucceeded]
      rw [hnil, append_nil]
      exact h.once
    | true =>
      have hone : committed [turn] = [(turn.migration.module, turn.migration.fileData)] := by
        simp [committed, hsucceeded]
      rw [hone]
      refine nodup_append.mpr ⟨h.once, nodup_singleton _, fun pair hpair other hother heq => ?_⟩
      rw [mem_singleton.mp hother] at heq
      exact honce hsucceeded (heq ▸ hpair)
  · rcases mem_append.mp hother with hold | hnew
    · exact h.whole other hold
    · exact mem_singleton.mp hnew ▸ hwhole
  · rcases mem_append.mp hother with hold | hnew
    · exact h.nothing other hold
    · exact mem_singleton.mp hnew ▸ hnothing

theorem Consistent.turn {d : Database σ} {turns : List (Turn σ)} {server : Server σ} {m : FileMigration}
    (h : Consistent rows sha1Hex d turns) (hhash : m.hash = sha1Hex m.fileData)
    (hnew : ∀ turn ∈ turns, turn.succeeded → turn.migration.key ≠ m.key)
    (hsound : Sound rows ⟨m, server, d, (executeUpdate d server m).1, (executeUpdate d server m).2⟩)
    (hrecords : ∀ j contents after, server.execute j (insertRecord m.toMigration) contents = some after →
      m.toMigration ∈ rows after ∧ ∀ row ∈ rows contents, row ∈ rows after) :
    Consistent rows sha1Hex (executeUpdate d server m).2
      (turns ++ [⟨m, server, d, (executeUpdate d server m).1, (executeUpdate d server m).2⟩]) := by
  have hhashed : ∀ succeeded after, ∀ turn ∈ turns ++ [⟨m, server, d, succeeded, after⟩],
      turn.migration.hash = sha1Hex turn.migration.fileData := by
    intro succeeded after turn hturn
    rcases mem_append.mp hturn with hold | hlast
    · exact h.hashed turn hold
    · rw [mem_singleton.mp hlast]
      exact hhash
  rcases executeUpdate_cases server h.closed hsound.closed with heq | ⟨after, hqueue, heq⟩
  · rw [heq]
    refine ⟨h.closed, h.applied.concat (by simp) (by simp) fun _ => ⟨rfl, h.closed⟩, fun turn hturn => ?_, hhashed _ _⟩
    rcases mem_append.mp hturn with hold | hlast
    · exact h.recorded turn hold
    · simp [mem_singleton.mp hlast]
  · rw [heq]
    obtain ⟨hrecord, hkept⟩ := executeQueue_records hsound.keeps hrecords hqueue
    have honce : (m.module, m.fileData) ∉ committed turns := by
      intro hmem
      obtain ⟨turn, hturn, hpair⟩ := mem_map.mp hmem
      obtain ⟨hturn, hsucceeded⟩ := mem_filter.mp hturn
      obtain ⟨hmodule, hdata⟩ := Prod.mk.inj hpair
      refine hnew turn hturn hsucceeded ?_
      rw [Migration.key, Migration.key, h.hashed turn hturn, hhash, hmodule, hdata]
    refine ⟨h.closed, h.applied.concat (fun _ => honce) (fun _ => ⟨hqueue, hrecord⟩) (by simp), ?_, hhashed _ _⟩
    intro turn hturn hsucceeded
    rcases mem_append.mp hturn with hold | hlast
    · exact hkept _ (h.recorded turn hold hsucceeded)
    · rw [mem_singleton.mp hlast]
      exact hrecord

theorem Consistent.runUpdates {server : Nat → Server σ} (updates : List FileMigration) (i : Nat) {d : Database σ}
    {turns : List (Turn σ)} (h : Consistent rows sha1Hex d turns) (hdistinct : (updates.map fun m => m.key).Nodup)
    (hupdates : ∀ m ∈ updates, m.hash = sha1Hex m.fileData ∧ Plain m.hash ∧
      ∀ turn ∈ turns, turn.succeeded → turn.migration.key ≠ m.key)
    (hsound : ∀ turn ∈ runUpdates server i updates d, Sound rows turn)
    (hrecords : ∀ i j (m : Migration) contents after, Plain m.hash → Plain m.name → Plain m.module →
      (server i).execute j (insertRecord m) contents = some after →
      m ∈ rows after ∧ ∀ row ∈ rows contents, row ∈ rows after) :
    Consistent rows sha1Hex (lastDatabase d (runUpdates server i updates d)) (turns ++ runUpdates server i updates d) := by
  induction updates generalizing i d turns with
  | nil =>
    rw [Migrations.runUpdates, append_nil]
    exact h
  | cons m rest ih =>
    rw [runUpdates_cons] at hsound ⊢
    obtain ⟨hfirst, hrest⟩ := forall_mem_cons.mp hsound
    obtain ⟨⟨hhash, hplain, hnew⟩, hothers⟩ := forall_mem_cons.mp hupdates
    obtain ⟨hkey, hdistinct⟩ := nodup_cons.mp hdistinct
    have hturn := h.turn hhash hnew hfirst fun j contents after =>
      hrecords i j m.toMigration contents after hplain hfirst.name hfirst.module
    rw [lastDatabase_cons, append_cons]
    split at hrest
    · rename_i hsucceeded
      rw [if_pos hsucceeded]
      refine ih (i + 1) hturn hdistinct (fun other hother => ?_) hrest
      obtain ⟨hhash, hplain, hnew⟩ := hothers other hother
      refine ⟨hhash, hplain, fun turn hturn hsucceeded => ?_⟩
      rcases mem_append.mp hturn with hold | hlast
      · exact hnew turn hold hsucceeded
      · rw [mem_singleton.mp hlast]
        exact fun heq => hkey (mem_map.mpr ⟨other, hother, heq.symm⟩)
    · rename_i hfailed
      rw [if_neg hfailed, append_nil]
      exact hturn

theorem Consistent.step {w : World σ} {input : Input σ} (h : Consistent rows sha1Hex w.database w.turns)
    (hhex : ∀ data, Plain (sha1Hex data)) (hready : Ready sha1Hex rows w input)
    (hrecords : ∀ start, input = .process start → Records rows start) :
    Consistent rows sha1Hex (w.step sha1Hex rows input).database (w.step sha1Hex rows input).turns := by
  cases input with
  | restart => exact ⟨rfl, h.applied, h.recorded, h.hashed⟩
  | process start =>
    obtain ⟨hselected, hsound⟩ := hready
    refine h.runUpdates _ 0 (nodup_pendingUpdates _) (fun m hm => ?_) hsound (hrecords start rfl)
    obtain ⟨hhash, hkey⟩ := mem_pendingUpdates hm
    refine ⟨hhash, hhash ▸ hhex _, fun turn hturn hsucceeded heq => hkey ?_⟩
    rw [loadDatabaseMigrations, if_pos hselected, ← heq]
    exact mem_map_of_mem (h.recorded turn hturn hsucceeded)

end Turns

section

variable {sha1Hex : Text → Text} {rows : σ → List Migration}

-- Over any number of calls and restarts: each file takes effect at most once
-- and with its record, in order, and one that fails leaves nothing behind.
theorem allOrNothing {w : World σ} {inputs : List (Input σ)} (hhex : ∀ data, Plain (sha1Hex data))
    (hclosed : w.database.transaction = none) (hturns : w.turns = [])
    (hrecords : ∀ start, .process start ∈ inputs → Records rows start)
    (hready : Run.Guarded (World.step sha1Hex rows) (Ready sha1Hex rows) w inputs) :
    AllOrNothing sha1Hex rows w inputs := by
  constructor
  · have hstart : Consistent rows sha1Hex w.database w.turns := by
      rw [hturns]
      exact ⟨hclosed, ⟨List.nodup_nil, by simp, by simp⟩, by simp, by simp⟩
    have hguarded : Run.Guarded (World.step sha1Hex rows)
        (fun w input => Ready sha1Hex rows w input ∧ ∀ start, input = .process start → Records rows start) w inputs :=
      Run.Guarded.and_mem _ hready fun input hinput start heq => hrecords start (heq ▸ hinput)
    exact (Run.run_invariant (World.step sha1Hex rows) _ (fun w => Consistent rows sha1Hex w.database w.turns)
      (fun w input h hok => h.step hhex hok.1 hok.2) hstart hguarded).applied
  · rintro before start after rfl
    have hprocess := ((Run.guarded_append _ _ _ _ _).mp hready).2.1
    exact ordered_processTargetUpdates _ start hprocess.1

theorem processTargetUpdates_single {d : Database σ} {start : Start σ} {entry : DirectoryEntry} {m : FileMigration}
    (hdirectory : start.directory = [entry]) (hfile : fileMigration sha1Hex start.module entry = some m)
    (hkey : m.key ∉ loadDatabaseMigrations rows d start) :
    processTargetUpdates sha1Hex rows d start =
      [⟨m, start.server 0, d, (executeUpdate d (start.server 0) m).1, (executeUpdate d (start.server 0) m).2⟩] := by
  have hpending : pendingUpdates sha1Hex rows d start = [m] := by
    simp [pendingUpdates, loadFileMigrations, hdirectory, hfile, insertNew, hkey]
  rw [processTargetUpdates, hpending, runUpdates_cons]
  split <;> rfl

end

def tableServer : Server (List Migration) where
  execute _ sql rows :=
    match sql.splitOn '\'' with
    | [_, name, _, module, _, hash, _] => some (rows ++ [⟨hash, name, module⟩])
    | _ => some rows
  commit := true

theorem tableServer_keeps {i : Nat} {sql : Text} {contents after : List Migration}
    (h : tableServer.execute i sql contents = some after) : ∀ row ∈ contents, row ∈ after := by
  intro row hrow
  simp only [tableServer] at h
  split at h
  · rw [← Option.some.inj h]
    exact mem_append_left _ hrow
  · rw [← Option.some.inj h]
    exact hrow

theorem tableServer_records {i : Nat} {m : Migration} {contents after : List Migration} (hhash : Plain m.hash)
    (hname : Plain m.name) (hmodule : Plain m.module)
    (h : tableServer.execute i (insertRecord m) contents = some after) : m ∈ after := by
  have hsplit : (insertRecord m).splitOn '\'' =
      ["INSERT INTO `migrations` (`Name`, `Module`, `Hash`, `AppliedAt`) VALUES (".toList, m.name, ", ".toList, m.module,
        ", ".toList, m.hash, ", NOW());".toList] := by
    refine splitOn_intercalate _ (fun part hpart => ?_) (by simp)
    simp only [mem_cons, not_mem_nil, or_false] at hpart
    rcases hpart with rfl | rfl | rfl | rfl | rfl | rfl | rfl
    · decide
    · exact hname.1
    · decide
    · exact hmodule.1
    · decide
    · exact hhash.1
    · decide
  rw [tableServer] at h
  simp only [hsplit] at h
  rw [← Option.some.inj h]
  exact mem_append_right _ mem_cons_self

def hexOne : Text → Text := fun _ => "FA8902D2C460E6E3BD49FDD125F755029F940A28".toList

theorem plain_hexOne (data : Text) : Plain (hexOne data) := by
  have hquote : '\'' ∉ "FA8902D2C460E6E3BD49FDD125F755029F940A28".toList := by decide
  have hslash : '\\' ∉ "FA8902D2C460E6E3BD49FDD125F755029F940A28".toList := by decide
  exact ⟨hquote, hslash⟩

def oneFile (content : Text) : Start (List Migration) where
  module := []
  directory := [⟨true, "first".toList, ".sql".toList, some content, 0⟩]
  sortByName := false
  selected := true
  server := fun _ => tableServer

def noMigrations : World (List Migration) := ⟨⟨[], true, none⟩, []⟩

theorem records_oneFile (content : Text) : Records (fun rows => rows) (oneFile content) := by
  intro i j m contents after hhash hname hmodule h
  exact ⟨tableServer_records hhash hname hmodule h, tableServer_keeps h⟩

theorem oneFile_turns (content : Text) :
    ∃ m : FileMigration, m.fileData = content ∧ m.name = "first".toList ∧ m.module = [] ∧
      processTargetUpdates hexOne (fun rows => rows) noMigrations.database (oneFile content) =
        [⟨m, tableServer, noMigrations.database, (executeUpdate noMigrations.database tableServer m).1,
          (executeUpdate noMigrations.database tableServer m).2⟩] :=
  ⟨⟨⟨hexOne content, "first".toList, []⟩, content, 0⟩, rfl, rfl, rfl,
    processTargetUpdates_single rfl (by simp [fileMigration, oneFile]) (by simp [loadDatabaseMigrations, noMigrations])⟩

theorem allOrNothing_oneFile : AllOrNothing hexOne (fun rows => rows) noMigrations [.process (oneFile ['A', ';'])] := by
  refine allOrNothing plain_hexOne rfl rfl (fun start hstart => ?_) ⟨⟨rfl, ?_⟩, trivial⟩
  · obtain rfl : start = oneFile ['A', ';'] := Input.process.inj (List.mem_singleton.mp hstart)
    exact records_oneFile _
  · obtain ⟨m, hdata, hname, hmodule, hturns⟩ := oneFile_turns ['A', ';']
    intro turn hturn
    rw [hturns, List.mem_singleton] at hturn
    subst hturn
    refine ⟨?_, ?_, ?_, fun i sql contents after _ h => tableServer_keeps h⟩
    · change endsInString m.fileData = false
      rw [hdata]
      decide
    · change Plain m.name
      rw [hname]
      exact ⟨by decide, by decide⟩
    · change Plain m.module
      rw [hmodule]
      exact ⟨by decide, by decide⟩

-- A file with one quote leaves a transaction open.
theorem not_allOrNothing :
    ¬∀ (sha1Hex : Text → Text) (rows : List Migration → List Migration) (w : World (List Migration))
      (inputs : List (Input (List Migration))), (∀ data, Plain (sha1Hex data)) → w.database.transaction = none →
      w.turns = [] → (∀ start, .process start ∈ inputs → Records rows start) →
      AllOrNothing sha1Hex rows w inputs := by
  intro h
  have hall := h hexOne (fun rows => rows) noMigrations [.process (oneFile ['\''])] plain_hexOne
    rfl rfl fun start hstart => by
      obtain rfl : start = oneFile ['\''] := Input.process.inj (List.mem_singleton.mp hstart)
      exact records_oneFile _
  obtain ⟨m, hdata, -, -, hturns⟩ := oneFile_turns ['\'']
  have hupdate : executeUpdate noMigrations.database tableServer m =
      (false, { noMigrations.database with transaction := some [] }) := by
    rw [executeUpdate_eq rfl, hdata]
    rfl
  rw [hupdate] at hturns
  have hnothing := hall.1.nothing _ (by
    change _ ∈ [] ++ processTargetUpdates hexOne (fun rows => rows) noMigrations.database (oneFile ['\''])
    rw [hturns]
    exact List.mem_singleton.mpr rfl) rfl
  cases hnothing.2

end TurtleWow.Migrations
