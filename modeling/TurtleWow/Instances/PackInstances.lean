import TurtleWow.Lib.Run
import TurtleWow.Lib.Table

namespace TurtleWow.Instances

open Table

-- The renumbering of the saved instances at the start of the server. The columns
-- that no statement reads or writes are left out.

def reservedInstancesLast : Nat := 100

structure Instance where
  id : Nat
  map : Nat
deriving DecidableEq

-- A row of one of the tables that refer to an instance; `guid` is the leader's
-- in group_instance.
structure Row where
  guid : Nat
  instanceId : Nat
deriving DecidableEq

inductive TableName
  | characterInstance
  | groupInstance
  | corpse
  | creatureRespawn
  | gameobjectRespawn
deriving DecidableEq

def TableName.key : TableName → Row → Nat × Nat
  | .corpse, row => (row.guid, 0)
  | _, row => (row.guid, row.instanceId)

-- The tables of the engine that rolls back
def TableName.transactional : TableName → Bool
  | .creatureRespawn => true
  | .gameobjectRespawn => true
  | _ => false

structure Tables where
  instances : List Instance
  rows : TableName → List Row

abbrev Statement := Tables → Tables × Bool

namespace Tables

def setRows (t : Tables) (table : TableName) (rows : List Row) : Tables :=
  { t with rows := fun other => if other = table then rows else t.rows other }

def updateInstance (set : Instance → Instance) (condition : Instance → Bool) (order : Instance → Instance → Prop)
    [DecidableRel order] : Statement := fun t =>
  let result := update Instance.id set condition order t.instances
  ({ t with instances := result.1 }, result.2)

def updateTable (table : TableName) (set : Row → Row) (condition : Row → Bool) (order : Row → Row → Prop)
    [DecidableRel order] : Statement := fun t =>
  let result := update table.key set condition order (t.rows table)
  if table.transactional ∧ result.2 = false then (t, false) else (t.setRows table result.1, result.2)

-- A transaction ends at the first statement that fails.
def execute (start : Tables) : List Statement → Tables → Tables
  | [], t => t
  | statement :: rest, t =>
    match statement t with
    | (t, true) => execute start rest t
    | (t, false) =>
      { t with rows := fun table => if table.transactional then start.rows table else t.rows table }

def transaction (statements : List Statement) (t : Tables) : Tables := execute t statements t

def unordered {α : Type} (_ _ : α) : Prop := True

instance {α : Type} : DecidableRel (@unordered α) := fun _ _ => inferInstanceAs (Decidable True)

def idDescending (i other : Instance) : Prop := other.id ≤ i.id

instance : DecidableRel idDescending := fun i other => inferInstanceAs (Decidable (other.id ≤ i.id))

def descending (row other : Row) : Prop := other.instanceId ≤ row.instanceId

instance : DecidableRel descending := fun row other => inferInstanceAs (Decidable (other.instanceId ≤ row.instanceId))

def moveUp (row : Row) : Row := { row with instanceId := row.instanceId + reservedInstancesLast }

def moves : TableName → Row → Bool
  | .creatureRespawn, row => reservedInstancesLast ≤ row.instanceId
  | .gameobjectRespawn, row => reservedInstancesLast ≤ row.instanceId
  | _, row => 0 ≤ row.instanceId

def moveTable (table : TableName) : Statement := updateTable table moveUp (moves table) descending

def moveInstances : Statement :=
  updateInstance (fun i => { i with id := i.id + reservedInstancesLast }) (fun _ => true) idDescending

def onContinent (i : Instance) : Bool := i.map ≤ 1

def deleteContinents : Statement := fun t => ({ t with instances := t.instances.filter fun i => !onContinent i }, true)

def moveAll : List Statement :=
  [moveInstances, moveTable .creatureRespawn, moveTable .gameobjectRespawn, moveTable .corpse,
    moveTable .characterInstance, moveTable .groupInstance, deleteContinents]

def remapTable (table : TableName) (i number : Nat) : Statement :=
  updateTable table (fun row => { row with instanceId := number }) (fun row => row.instanceId = i) unordered

def remapInstance (i number : Nat) : Statement :=
  updateInstance (fun old => { old with id := number }) (fun old => old.id = i) unordered

def remap (i number : Nat) : List Statement :=
  [remapTable .creatureRespawn i number, remapTable .gameobjectRespawn i number, remapTable .corpse i number,
    remapTable .characterInstance i number, remapInstance i number, remapTable .groupInstance i number]

def remapAll : List Nat → Nat → Tables → Tables
  | [], _, t => t
  | i :: rest, instanceNumber, t =>
    remapAll rest (instanceNumber + 1) (if i ≠ instanceNumber then transaction (remap i instanceNumber) t else t)

def instanceSet (t : Tables) : List Nat := (t.instances.map (·.id)).dedup.insertionSort (· ≤ ·)

def packInstances (t : Tables) : Tables :=
  let t := transaction moveAll t
  remapAll t.instanceSet reservedInstancesLast t

structure Bound where
  characters : Nat → Bool
  leaders : Nat → Bool

-- CleanupInstances behind LoadResetTimes. The SELECTs of the first deletions come
-- before all deletions, the conditions on the respawn data behind them.
def cleanupInstances (bound : Bound) (t : Tables) : Tables :=
  let refers (table : TableName) (i : Instance) : Bool := (t.rows table).any fun row => row.instanceId = i.id
  let valid (row : Row) : Bool := t.instances.any fun i => i.id = row.instanceId
  let instances := t.instances.filter fun i => refers .characterInstance i || refers .groupInstance i
  let used (row : Row) : Bool := row.instanceId < reservedInstancesLast || instances.any fun i => i.id = row.instanceId
  { instances := instances
    rows := fun
      | .characterInstance => (t.rows .characterInstance).filter fun row => bound.characters row.guid && valid row
      | .groupInstance => (t.rows .groupInstance).filter fun row =>
        (bound.characters row.guid && bound.leaders row.guid) && valid row
      | .corpse => t.rows .corpse
      | .creatureRespawn => (t.rows .creatureRespawn).filter used
      | .gameobjectRespawn => (t.rows .gameobjectRespawn).filter used }

def restart (t : Tables) (bound : Bound) : Tables := (t.cleanupInstances bound).packInstances

def kept (t : Tables) : List Instance := t.instances.filter fun i => !onContinent i

def Keeps (t : Tables) (id : Nat) : Prop := ∃ i ∈ t.kept, i.id = id

instance (t : Tables) (id : Nat) : Decidable (t.Keeps id) := inferInstanceAs (Decidable (∃ i ∈ t.kept, i.id = id))

structure Refers (t : Tables) (newId : Nat → Nat) (row new : Row) : Prop where
  guid : new.guid = row.guid
  kept : t.Keeps row.instanceId → new.instanceId = newId row.instanceId
  other : ¬ t.Keeps row.instanceId → ∀ i ∈ t.kept, new.instanceId ≠ newId i.id
  outside : row.instanceId < reservedInstancesLast → new.instanceId = row.instanceId

structure RenumberedBy (newId : Nat → Nat) (t after : Tables) : Prop where
  instances : after.instances = t.kept.map fun i => { i with id := newId i.id }
  ids : ∀ id, (∃ i ∈ t.kept, newId i.id = id) ↔
    reservedInstancesLast ≤ id ∧ id < reservedInstancesLast + t.kept.length
  order : ∀ i ∈ t.kept, ∀ j ∈ t.kept, i.id < j.id → newId i.id < newId j.id
  rows : ∀ table, List.Forall₂ (t.Refers newId) (t.rows table) (after.rows table)

def Renumbered (t after : Tables) : Prop := ∃ newId, RenumberedBy newId t after

structure WellFormed (t : Tables) : Prop where
  ids : Keyed Instance.id t.instances
  reserved : ∀ i ∈ t.instances, reservedInstancesLast ≤ i.id
  keys : ∀ table, Keyed table.key (t.rows table)

-- The tables whose rows outside dungeons are not moved
def spares : TableName → Bool
  | .creatureRespawn => true
  | .gameobjectRespawn => true
  | _ => false

-- No row that is moved lies outside dungeons, and none is left of an instance
-- that is not kept with an id below the number of those that are.
structure Packable (t : Tables) : Prop where
  outside : ∀ table, spares table = false → ∀ row ∈ t.rows table, reservedInstancesLast ≤ row.instanceId
  leftover : ∀ table, ∀ row ∈ t.rows table, reservedInstancesLast ≤ row.instanceId → ¬ t.Keeps row.instanceId →
    t.kept.length ≤ row.instanceId

end Tables

open Table

-- What PackInstances does when no statement fails, and what it leaves alone
-- when one does.

namespace Tables

variable {t after : Tables} {table : TableName} {i number : Nat} {ids : List Nat}

theorem updateTable_ok {set : Row → Row} {condition : Row → Bool} {order : Row → Row → Prop} [DecidableRel order]
    {rows : List Row} (h : update table.key set condition order (t.rows table) = (rows, true)) :
    updateTable table set condition order t = (t.setRows table rows, true) := by
  simp only [updateTable, h, Bool.true_eq_false, and_false, if_false]

theorem execute_ok {start : Tables} {statement : Statement} {rest : List Statement} (h : statement t = (after, true)) :
    execute start (statement :: rest) t = execute start rest after := by
  rw [execute]
  split
  · next ok heq =>
      rw [heq] at h
      cases h
      rfl
  · next failed heq =>
      rw [heq] at h
      cases h

instance : Std.Total idDescending := ⟨fun i other => Nat.le_total other.id i.id⟩

instance : IsTrans Instance idDescending := ⟨fun _ _ _ h h' => Nat.le_trans h' h⟩

instance : Std.Total descending := ⟨fun row other => Nat.le_total other.instanceId row.instanceId⟩

instance : IsTrans Row descending := ⟨fun _ _ _ h h' => Nat.le_trans h' h⟩

instance {α : Type} : Std.Total (@unordered α) := ⟨fun _ _ => .inl trivial⟩

instance {α : Type} : IsTrans α (@unordered α) := ⟨fun _ _ _ _ _ => trivial⟩

theorem key_eq_iff {row other : Row} : table.key row = table.key other ↔
    row.guid = other.guid ∧ (table = .corpse ∨ row.instanceId = other.instanceId) := by
  cases table with
  | corpse => simp only [TableName.key, Prod.mk.injEq, and_true, true_or]
  | characterInstance | groupInstance | creatureRespawn | gameobjectRespawn =>
    simp only [TableName.key, Prod.mk.injEq, reduceCtorEq, false_or]

theorem key_ne_of_injective {f : Row → Row} (hguid : ∀ row, (f row).guid = row.guid) {row other : Row}
    (hinstance : (f row).instanceId = (f other).instanceId → row.instanceId = other.instanceId)
    (h : table.key row ≠ table.key other) : table.key (f row) ≠ table.key (f other) := by
  intro hsame
  obtain ⟨hsame, hsame'⟩ := key_eq_iff.mp hsame
  rw [hguid, hguid] at hsame
  exact h (key_eq_iff.mpr ⟨hsame, hsame'.imp id hinstance⟩)

section

variable (table : TableName)

theorem moves_of_reserved {row : Row} (h : reservedInstancesLast ≤ row.instanceId) : moves table row = true := by
  cases table with
  | creatureRespawn | gameobjectRespawn => exact decide_eq_true h
  | corpse | characterInstance | groupInstance => exact decide_eq_true (Nat.zero_le row.instanceId)

def movedRow (row : Row) : Row := if moves table row then moveUp row else row

theorem movedRow_guid (row : Row) : (movedRow table row).guid = row.guid := by
  rw [movedRow]
  split
  · rfl
  · rfl

theorem movedRow_cases (row : Row) : (movedRow table row).instanceId = row.instanceId + reservedInstancesLast ∨
      (movedRow table row).instanceId = row.instanceId ∧ row.instanceId < reservedInstancesLast := by
  rw [movedRow]
  split
  · exact .inl rfl
  · next h => exact .inr ⟨rfl, Nat.lt_of_not_le fun hle => h (moves_of_reserved table hle)⟩

end

theorem movedRow_injective {row other : Row} (h : (movedRow table row).instanceId = (movedRow table other).instanceId) :
    row.instanceId = other.instanceId := by
  rcases movedRow_cases table row with hrow | ⟨hrow, hsmall⟩
  · rcases movedRow_cases table other with hother | ⟨hother, hsmall'⟩
    · omega
    · omega
  · rcases movedRow_cases table other with hother | ⟨hother, hsmall'⟩
    · omega
    · omega

-- The statements that move the instances up go through the table from its end,
-- so that they never fail.
theorem moveTable_eq (h : Keyed table.key (t.rows table)) :
    moveTable table t = (t.setRows table ((t.rows table).map (movedRow table)), true) := by
  refine updateTable_ok (update_eq h (fun row _ other _ hne => ?_) fun row _ later _ _ _ hne horder hsame => ?_)
  · exact key_ne_of_injective (f := movedRow table) (movedRow_guid table) movedRow_injective hne
  · obtain ⟨hguid, hcorpse | hinstance⟩ := key_eq_iff.mp hsame
    · exact hne (key_eq_iff.mpr ⟨hguid, .inl hcorpse⟩)
    · have hup : row.instanceId + reservedInstancesLast = later.instanceId := hinstance
      have hle : later.instanceId ≤ row.instanceId := horder
      have hpositive : 0 < reservedInstancesLast := by decide
      omega

theorem moveInstances_eq (h : Keyed Instance.id t.instances) :
    moveInstances t =
      ({ t with instances := t.instances.map fun i => { i with id := i.id + reservedInstancesLast } }, true) := by
  have hupdate : update Instance.id (fun i => { i with id := i.id + reservedInstancesLast }) (fun _ => true)
      idDescending t.instances =
        (t.instances.map fun i => if true then { i with id := i.id + reservedInstancesLast } else i, true) := by
    refine update_eq h (fun i _ other _ hne => ?_) fun i _ later _ _ _ _ horder => ?_
    · intro hsame
      exact hne (Nat.add_right_cancel hsame)
    · intro hsame
      have hle : later.id ≤ i.id := horder
      have heq : i.id + reservedInstancesLast = later.id := hsame
      have hpositive : 0 < reservedInstancesLast := by decide
      omega
  rw [moveInstances, updateInstance, hupdate]
  rfl

def moved (t : Tables) : Tables where
  instances := t.kept.map fun i => { i with id := i.id + reservedInstancesLast }
  rows := fun table => (t.rows table).map (movedRow table)

def mapped (tables : List TableName) (f : TableName → Row → Row) (t : Tables) : Tables :=
  { t with rows := fun table => if table ∈ tables then (t.rows table).map (f table) else t.rows table }

theorem execute_tables (start : Tables) (tables : List TableName) (statement : TableName → Statement)
    (f : TableName → Row → Row) (hnodup : tables.Nodup)
    (h : ∀ table ∈ tables, ∀ other : Tables, other.rows table = t.rows table →
      statement table other = (other.setRows table ((other.rows table).map (f table)), true)) (rest : List Statement) :
    execute start (tables.map statement ++ rest) t = execute start rest (mapped tables f t) := by
  induction tables generalizing t with
  | nil => rfl
  | cons table tables ih =>
    obtain ⟨hnot, hnodup⟩ := List.nodup_cons.mp hnodup
    have hfirst := h table List.mem_cons_self t rfl
    refine (execute_ok hfirst).trans ((ih hnodup fun next hnext other hother => ?_).trans ?_)
    · refine h next (List.mem_cons_of_mem table hnext) other (hother.trans ?_)
      exact if_neg fun hsame : next = table => hnot (hsame ▸ hnext)
    · refine congrArg (execute start rest) ?_
      rw [mapped, mapped, Tables.mk.injEq]
      refine ⟨rfl, funext fun other => ?_⟩
      by_cases hsame : other = table
      · subst hsame
        rw [if_neg hnot, if_pos List.mem_cons_self]
        exact if_pos rfl
      · have hrows : (t.setRows table ((t.rows table).map (f table))).rows other = t.rows other := if_neg hsame
        rw [hrows]
        by_cases hin : other ∈ tables
        · rw [if_pos hin, if_pos (List.mem_cons_of_mem table hin)]
        · rw [if_neg hin, if_neg fun hmem => (List.mem_cons.mp hmem).elim hsame hin]

theorem transaction_moveAll (h : t.WellFormed) : transaction moveAll t = t.moved := by
  refine (execute_ok (moveInstances_eq h.ids)).trans ?_
  have htables := execute_tables
    (t := { t with instances := t.instances.map fun i => { i with id := i.id + reservedInstancesLast } }) t
    [.creatureRespawn, .gameobjectRespawn, .corpse, .characterInstance, .groupInstance] moveTable movedRow (by decide)
    (fun table _ other hother => moveTable_eq (hother ▸ h.keys table)) [deleteContinents]
  refine htables.trans ((execute_ok rfl).trans ?_)
  rw [execute, moved, Tables.mk.injEq]
  refine ⟨?_, funext fun table => ?_⟩
  · exact List.filter_map
  · cases table <;> rfl

theorem keyed_moved (h : t.WellFormed) (table : TableName) : Keyed table.key (t.moved.rows table) :=
  keyed_map (h.keys table) fun _ _ _ _ hne => key_ne_of_injective (movedRow_guid table) movedRow_injective hne

def remappedRow (i number : Nat) (row : Row) : Row :=
  if row.instanceId = i then { row with instanceId := number } else row

def remappedInstance (i number : Nat) (old : Instance) : Instance := if old.id = i then { old with id := number } else old

theorem remappedRow_guid (i number : Nat) (row : Row) : (remappedRow i number row).guid = row.guid := by
  rw [remappedRow]
  split
  · rfl
  · rfl

theorem remappedRow_injective {row other : Row} (hrow : row.instanceId ≠ number) (hother : other.instanceId ≠ number)
    (h : (remappedRow i number row).instanceId = (remappedRow i number other).instanceId) :
    row.instanceId = other.instanceId := by
  rw [remappedRow, remappedRow] at h
  split at h
  · next hi =>
      split at h
      · next hi' => rw [hi, hi']
      · exact absurd h.symm hother
  · split at h
    · exact absurd h hrow
    · exact h

theorem remapTable_eq (h : Keyed table.key (t.rows table)) (hfree : ∀ row ∈ t.rows table, row.instanceId ≠ number) :
    remapTable table i number t = (t.setRows table ((t.rows table).map (remappedRow i number)), true) := by
  have hupdate : update table.key (fun row => { row with instanceId := number }) (fun row => row.instanceId = i)
      unordered (t.rows table) = ((t.rows table).map fun row =>
        if decide (row.instanceId = i) then { row with instanceId := number } else row, true) := by
    refine update_eq h (fun row hrow other hother hne => ?_) fun row _ later hlater _ _ hne _ hsame => ?_
    · have happart := key_ne_of_injective (f := remappedRow i number) (remappedRow_guid i number)
        (remappedRow_injective (hfree row hrow) (hfree other hother)) hne
      simp only [remappedRow] at happart
      simp only [decide_eq_true_eq]
      exact happart
    · obtain ⟨hguid, hcorpse | hinstance⟩ := key_eq_iff.mp hsame
      · exact hne (key_eq_iff.mpr ⟨hguid, .inl hcorpse⟩)
      · exact hfree later hlater hinstance.symm
  refine (updateTable_ok hupdate).trans ?_
  simp only [decide_eq_true_eq]
  rfl

theorem remapInstance_eq (h : Keyed Instance.id t.instances) (hfree : ∀ old ∈ t.instances, old.id ≠ number) :
    remapInstance i number t = ({ t with instances := t.instances.map (remappedInstance i number) }, true) := by
  have hupdate : update Instance.id (fun old => { old with id := number }) (fun old => old.id = i)
      unordered t.instances = (t.instances.map fun old =>
        if decide (old.id = i) then { old with id := number } else old, true) := by
    refine update_eq h (fun old hold other hother hne hsame => ?_) fun old _ later hlater _ _ _ _ hsame => ?_
    · simp only [decide_eq_true_eq] at hsame
      split at hsame
      · next hi =>
          split at hsame
          · next hi' => exact hne (hi.trans hi'.symm)
          · exact hfree other hother hsame.symm
      · split at hsame
        · exact hfree old hold hsame
        · exact hne hsame
    · exact hfree later hlater hsame.symm
  rw [remapInstance, updateInstance, hupdate]
  simp only [decide_eq_true_eq]
  rfl

def remapped (i number : Nat) (t : Tables) : Tables where
  instances := t.instances.map (remappedInstance i number)
  rows := fun table => (t.rows table).map (remappedRow i number)

theorem transaction_remap (hids : Keyed Instance.id t.instances) (hkeys : ∀ table, Keyed table.key (t.rows table))
    (hfree : ∀ old ∈ t.instances, old.id ≠ number) (hrows : ∀ table, ∀ row ∈ t.rows table, row.instanceId ≠ number) :
    transaction (remap i number) t = remapped i number t := by
  have hbefore := execute_tables (t := t) t [.creatureRespawn, .gameobjectRespawn, .corpse, .characterInstance]
    (remapTable · i number) (fun _ => remappedRow i number) (by decide)
    (fun table _ other hother => remapTable_eq (hother ▸ hkeys table) (hother ▸ hrows table))
    [remapInstance i number, remapTable .groupInstance i number]
  refine hbefore.trans ((execute_ok (remapInstance_eq (by exact hids) (by exact hfree))).trans ?_)
  refine (execute_ok (remapTable_eq (by exact hkeys .groupInstance) (by exact hrows .groupInstance))).trans ?_
  rw [execute, remapped, Tables.mk.injEq]
  refine ⟨rfl, funext fun table => ?_⟩
  cases table <;> rfl

end Tables

end TurtleWow.Instances
