import TurtleWow.Instances.Scheduled

namespace TurtleWow.Instances

open Run List

-- The schedule over whole runs: Update, forced resets and the schedules of normal
-- dungeons in any order.

def Reset.Due (reset : Reset) : Prop := (reset.resetTime : Int) - (if reset.forced then 5 else 60) < reset.now

namespace DungeonResetScheduler

variable (world : World)

section

variable (s : DungeonResetScheduler)

def resetting : Option (Int × DungeonResetEvent × MapEntry) :=
  match s.resetTimeQueue.begin with
  | none => none
  | some (t, event) =>
    if t < s.clock ∧ event.type.last then (world.lookupEntry event.mapid).map fun entry => (t, event, entry) else none

-- Players who leave a dungeon that is reset, but is no raid, leave no reset behind
-- that is overdue.
def Undisturbed (view : View) : Prop :=
  ∀ found ∈ s.resetting world, found.2.2.isRaid = false → ∀ left ∈ view.left, found.1 ≤ left.2

def Prompt (_ : View) : Prop :=
  ∀ found ∈ s.resetting world,
    s.clock < world.calculateNextResetTime found.2.2 (s.resetTimeByMapId found.2.1.mapid)

def Agreeing (view : View) : Prop :=
  ∀ found ∈ s.resetting world, view.early ∨
    world.calculateNextResetTime found.2.2
        (s.clock + view.lag + timeLeft (s.resetTimeByMapId found.2.1.mapid) s.clock) =
      world.calculateNextResetTime found.2.2 (s.resetTimeByMapId found.2.1.mapid)

end

instance (s : DungeonResetScheduler) (view : View) : Decidable (Undisturbed world s view) :=
  inferInstanceAs (Decidable (∀ found ∈ s.resetting world, _))

instance (s : DungeonResetScheduler) (view : View) : Decidable (Prompt world s view) :=
  inferInstanceAs (Decidable (∀ found ∈ s.resetting world, _))

instance (s : DungeonResetScheduler) (view : View) : Decidable (Agreeing world s view) :=
  inferInstanceAs (Decidable (∀ found ∈ s.resetting world, _))

def InUpdate (ok : DungeonResetScheduler → View → Prop) (s : DungeonResetScheduler) : Step → Prop
  | .update elapsed views => Guarded (pass world) ok (s.elapse elapsed) views
  | _ => True

instance (ok : DungeonResetScheduler → View → Prop) [∀ s view, Decidable (ok s view)] (s : DungeonResetScheduler) :
    ∀ input, Decidable (InUpdate world ok s input)
  | .update elapsed views => inferInstanceAs (Decidable (Guarded (pass world) ok (s.elapse elapsed) views))
  | .resetAllRaid _ => inferInstanceAs (Decidable True)
  | .scheduleReset _ _ _ _ => inferInstanceAs (Decidable True)
  | .executeDelayed => inferInstanceAs (Decidable True)

-- A forced reset comes when the maps are a minute from their reset time anyway.
def Unforced (s : DungeonResetScheduler) : Step → Prop
  | .resetAllRaid elapsed => ∀ entry ∈ s.resetTimeQueue.entries, entry.2.type.isRaid →
      s.resetTimeByMapId entry.2.mapid = s.clock + elapsed + forcedTime
  | _ => True

instance (s : DungeonResetScheduler) : ∀ input, Decidable (s.Unforced input)
  | .update _ _ => inferInstanceAs (Decidable True)
  | .resetAllRaid elapsed =>
    inferInstanceAs (Decidable (∀ entry ∈ s.resetTimeQueue.entries, entry.2.type.isRaid →
      s.resetTimeByMapId entry.2.mapid = s.clock + elapsed + forcedTime))
  | .scheduleReset _ _ _ _ => inferInstanceAs (Decidable True)
  | .executeDelayed => inferInstanceAs (Decidable True)

def settled (s : DungeonResetScheduler) (mapid : UInt16) : Option Nat := executeAll s.stored s.pending mapid

structure Holds (s : DungeonResetScheduler) : Prop where
  scheduled : Scheduled world.raids s.resetTimeByMapId s.resetTimeQueue.entries
  due : ∀ reset ∈ s.resets, reset.Due

variable {world} {s : DungeonResetScheduler} {view : View} {t : Int} {event : DungeonResetEvent} {entry : MapEntry}
  {mapid : UInt16}

theorem requeue_perm {queue : Multimap Int DungeonResetEvent} {old : DungeonResetEvent}
    (h : queue.begin = some (t, old)) (event : DungeonResetEvent) (added : List (Int × DungeonResetEvent))
    (hadded : ∀ other ∈ added, t ≤ other.1) (time : Int) :
    ∃ key, time ≤ key ∧ (requeue queue event added time).entries.Perm ((key, event) :: (added ++ queue.entries.tail)) := by
  obtain ⟨hset, htail⟩ := Multimap.begin_setBegin h event
  obtain ⟨hbegin, hperm⟩ := Multimap.begin_insertAll hset hadded
  rw [htail] at hperm
  rcases Multimap.insert_eraseBegin_perm hbegin time event with hnew | ⟨hless, hold⟩
  · exact ⟨time, Int.le_refl _, hnew.trans (hperm.cons _)⟩
  · refine ⟨t, Int.le_of_lt hless, ?_⟩
    rw [requeue, hold]
    exact hperm.cons _

theorem isRaid_firstAhead (t now : Nat) : (ResetEventType.firstAhead t now).isRaid = true := by
  unfold ResetEventType.firstAhead
  cases hfind : [ResetEventType.inform1, .inform2, .inform3].find? fun type => (now : Int) < t - type.delay with
  | none => rfl
  | some type =>
    have hmem := mem_of_find?_eq_some hfind
    simp only [mem_cons, not_mem_nil, or_false] at hmem
    rcases hmem with rfl | rfl | rfl
    · rfl
    · rfl
    · rfl

theorem isRaid_next {type : ResetEventType} : type.next.isRaid = true := by
  cases type <;> rfl

theorem last_delay {type : ResetEventType} (h : type.last = true) :
    (type.delay : Int) = if type = .forcedInformLast then 5 else 60 := by
  cases type <;> first | rfl | cases h

theorem leftBehind_normal (entry : MapEntry) (view : View) :
    ∀ other ∈ leftBehind entry view, other.2.type = .normalDungeon := by
  intro other hother
  unfold leftBehind at hother
  split at hother
  · cases hother
  · obtain ⟨left, -, rfl⟩ := mem_map.mp hother
    rfl

theorem leftBehind_le (hun : entry.isRaid = false → ∀ left ∈ view.left, t ≤ left.2) :
    ∀ other ∈ leftBehind entry view, t ≤ other.1 := by
  intro other hother
  unfold leftBehind at hother
  split at hother
  · cases hother
  · next hraid =>
      obtain ⟨left, hleft, rfl⟩ := mem_map.mp hother
      exact hun (by simpa using hraid) left hleft

theorem Holds.lookup (h : s.Holds world) (hbegin : s.resetTimeQueue.begin = some (t, event))
    (hraid : event.type.isRaid) : ∃ entry ∈ world.raids, entry.id = event.mapid ∧
      world.lookupEntry event.mapid = some entry := by
  have hmem : (t, event) ∈ s.resetTimeQueue.entries := by
    rw [Multimap.entries_of_begin hbegin]
    exact mem_cons_self
  obtain ⟨-, entry, hentry, hid⟩ := h.scheduled.known _ hmem hraid
  refine ⟨entry, hentry, hid, ?_⟩
  have hlookup := World.lookup_of_mem (World.mem_raids.mp hentry).1
  rw [hid] at hlookup
  exact hlookup

theorem resetting_eq (hbegin : s.resetTimeQueue.begin = some (t, event)) (hdue : t < s.clock)
    (hlast : event.type.last) (hlookup : world.lookupEntry event.mapid = some entry) :
    s.resetting world = some (t, event, entry) := by
  unfold resetting
  rw [hbegin]
  dsimp only
  rw [if_pos ⟨hdue, hlast⟩, hlookup]
  rfl

theorem Holds.warn (h : s.Holds world) (hbegin : s.resetTimeQueue.begin = some (t, event))
    (hraid : event.type.isRaid) : (s.warn event).Holds world := by
  obtain ⟨key, hkey, hperm⟩ := requeue_perm hbegin { event with type := event.type.next } [] nofun
    (s.resetTimeByMapId event.mapid - event.type.next.delay)
  have hscheduled := h.scheduled
  rw [Multimap.entries_of_begin hbegin] at hscheduled
  have hnext := hscheduled.replace hraid { event with type := event.type.next } isRaid_next rfl rfl hkey
  rw [Function.update_eq_self] at hnext
  exact ⟨hnext.perm hperm.symm, h.due⟩

theorem Holds.reset (h : s.Holds world) (hbegin : s.resetTimeQueue.begin = some (t, event)) (hdue : t < s.clock)
    (hlast : event.type.last) (hlookup : world.lookupEntry event.mapid = some entry) (hraid : event.type.isRaid)
    (hun : Undisturbed world s view) : (s.reset world event entry view).Holds world := by
  have hfound := resetting_eq hbegin hdue hlast hlookup
  obtain ⟨other, hother, -, hlookup'⟩ := h.lookup hbegin hraid
  obtain rfl := Option.some.inj (hlookup'.symm.trans hlookup)
  have hreset := (World.mem_raids.mp hother).2
  let nextReset := world.calculateNextResetTime other (s.resetTimeByMapId event.mapid)
  let type := ResetEventType.firstAhead nextReset s.clock
  obtain ⟨key, hkey, hperm⟩ := requeue_perm hbegin { event with type := type } _
    (leftBehind_le (hun _ hfound)) (nextReset - type.delay)
  have hscheduled := h.scheduled
  rw [Multimap.entries_of_begin hbegin] at hscheduled
  constructor
  · have hadded := (hscheduled.append (leftBehind_normal other view)).perm perm_middle
    have hnext := hadded.replace hraid { event with type := type } (isRaid_firstAhead _ _) rfl rfl hkey
    unfold DungeonResetScheduler.reset
    simp only [hreset, if_true]
    exact hnext.perm hperm.symm
  · intro reset hmem
    unfold DungeonResetScheduler.reset at hmem
    simp only [hreset, if_true, mem_append, mem_singleton] at hmem
    rcases hmem with hmem | rfl
    · exact h.due reset hmem
    · have htimed := hscheduled.timed _ mem_cons_self hraid
      dsimp only at htimed
      rw [last_delay hlast] at htimed
      simp only [Reset.Due, decide_eq_true_eq]
      omega

theorem Holds.pass (h : s.Holds world) (hun : Undisturbed world s view) : (s.pass world view).Holds world := by
  unfold DungeonResetScheduler.pass
  split
  · exact h
  · next t event hbegin =>
      split
      · next hdue =>
          split
          · next hnormal =>
              have hscheduled := h.scheduled
              rw [Multimap.entries_of_begin hbegin] at hscheduled
              exact ⟨(Scheduled.cons_iff _ hnormal).mp hscheduled, h.due⟩
          · next hraid =>
              have hraid : event.type.isRaid := by simpa [ResetEventType.isRaid] using hraid
              split
              · exact h
              · next entry hlookup =>
                  split
                  · next hlast => exact h.reset hbegin hdue hlast hlookup hraid hun
                  · exact h.warn hbegin hraid
      · exact h

theorem isRaid_iff {type : ResetEventType} : type.isRaid = true ↔ type ≠ .normalDungeon := by
  rw [ResetEventType.isRaid, decide_eq_true_eq]

theorem force_raid (now : Nat) {entry : Int × DungeonResetEvent} (h : entry.2.type.isRaid) :
    force now entry = ((now : Int), { entry.2 with type := .forcedInform1 }) :=
  if_neg (isRaid_iff.mp h)

theorem force_normal (now : Nat) {entry : Int × DungeonResetEvent} (h : ¬ entry.2.type.isRaid) :
    force now entry = entry :=
  if_pos (not_not.mp fun hne => h (isRaid_iff.mpr hne))

theorem raidEvent_force (now : Nat) (mapid : UInt16) (entry : Int × DungeonResetEvent) :
    raidEvent mapid (force now entry) = raidEvent mapid entry := by
  by_cases hraid : entry.2.type.isRaid
  · rw [force_raid now hraid, raidEvent, raidEvent, hraid]
    rfl
  · rw [force_normal now hraid]

theorem resetAllRaid_time (hentry : ∃ entry ∈ s.resetTimeQueue.entries, entry.2.type.isRaid ∧ entry.2.mapid = mapid) :
    s.resetAllRaid.resetTimeByMapId mapid = s.clock + forcedTime := by
  obtain ⟨entry, hmem, hraid, hmapid⟩ := hentry
  exact if_pos (any_eq_true.mpr ⟨entry, hmem, by simp [isRaid_iff.mp hraid, hmapid]⟩)

theorem Holds.resetAllRaid (h : s.Holds world) : s.resetAllRaid.Holds world := by
  refine ⟨Scheduled.perm ?_ (Multimap.insertAll_perm _ _).symm, h.due⟩
  rw [Multimap.empty, append_nil]
  constructor
  · intro entry hentry
    rw [countP_map, ← h.scheduled.one entry hentry]
    exact countP_congr fun other _ => by rw [Function.comp_apply, raidEvent_force]
  · intro entry hentry hraid
    obtain ⟨other, hother, rfl⟩ := mem_map.mp hentry
    by_cases hother' : other.2.type.isRaid
    · rw [force_raid _ hother']
      exact h.scheduled.known other hother hother'
    · rw [force_normal _ hother'] at hraid
      exact absurd hraid hother'
  · intro entry hentry hraid
    obtain ⟨other, hother, rfl⟩ := mem_map.mp hentry
    by_cases hother' : other.2.type.isRaid
    · rw [force_raid _ hother', resetAllRaid_time ⟨other, hother, hother', rfl⟩]
      simp only [forcedTime, ResetEventType.delay]
      omega
    · rw [force_normal _ hother'] at hraid
      exact absurd hraid hother'

theorem Holds.scheduleReset (h : s.Holds world) (add : Bool) (time : Int) (mapid : UInt16) (instanceId : InstanceId) :
    (s.scheduleReset add time (dungeonEvent mapid instanceId)).Holds world := by
  refine ⟨?_, h.due⟩
  cases add with
  | true =>
    have hnew := (Scheduled.cons_iff (time, dungeonEvent mapid instanceId) rfl).mpr h.scheduled
    exact hnew.perm (Multimap.insert_perm _ _ _).symm
  | false =>
    have hsame : ∀ other ∈ s.resetTimeQueue.entries, other.2.same (dungeonEvent mapid instanceId) →
        other.2.instanceId ≠ 0 := by
      intro other _ hsame hzero
      rw [DungeonResetEvent.same, Bool.and_eq_true] at hsame
      exact instanceId.property ((of_decide_eq_true hsame.2).trans hzero)
    change Scheduled world.raids _ (removeEvent s.resetTimeQueue time (dungeonEvent mapid instanceId)).entries
    unfold removeEvent
    split
    · refine h.scheduled.eraseP fun other hother hmatch => hsame other hother ?_
      rw [Bool.and_eq_true] at hmatch
      exact hmatch.2
    · exact h.scheduled.eraseP hsame

theorem Holds.elapse (h : s.Holds world) (elapsed : Nat) : (s.elapse elapsed).Holds world := ⟨h.scheduled, h.due⟩

theorem Holds.step (h : s.Holds world) {input : Step} (hun : InUpdate world (Undisturbed world) s input) :
    (s.step world input).Holds world := by
  cases input with
  | update elapsed views =>
    exact run_invariant (DungeonResetScheduler.pass world) (Undisturbed world) (DungeonResetScheduler.Holds world)
      (fun state view hstate hview => hstate.pass hview) (h.elapse elapsed) hun
  | resetAllRaid elapsed => exact (h.elapse elapsed).resetAllRaid
  | scheduleReset add time mapid instanceId => exact h.scheduleReset add time mapid instanceId
  | executeDelayed =>
    unfold DungeonResetScheduler.step
    dsimp only
    split
    · exact h
    · exact ⟨h.scheduled, h.due⟩

theorem scheduled_maps (now : Nat) (done maps : List MapEntry)
    (hnodup : ((done ++ maps).map MapEntry.id).Nodup)
    (h : Scheduled (done.filter MapEntry.hasReset) s.resetTimeByMapId s.resetTimeQueue.entries) :
    Scheduled ((done ++ maps).filter MapEntry.hasReset) (maps.foldl (scheduleMap world now) s).resetTimeByMapId
      (maps.foldl (scheduleMap world now) s).resetTimeQueue.entries := by
  induction maps generalizing s done with
  | nil => rwa [append_nil]
  | cons map rest ih =>
    have hsplit : done ++ map :: rest = (done ++ [map]) ++ rest := by simp
    rw [hsplit] at hnodup ⊢
    refine ih _ hnodup ?_
    rw [filter_append]
    by_cases hreset : map.hasReset
    · rw [filter_cons_of_pos hreset, filter_nil, scheduleMap, if_pos hreset]
      have hnew : ∀ other ∈ done.filter MapEntry.hasReset, other.id ≠ map.id := by
        intro other hother hsame
        rw [append_assoc, map_append, nodup_append] at hnodup
        exact hnodup.2.2 other.id (mem_map_of_mem (mem_of_mem_filter hother)) map.id (by simp) hsame
      exact (h.add hnew (isRaid_firstAhead _ _) (Int.le_refl _)).perm (Multimap.insert_perm _ _ _).symm
    · rw [filter_cons_of_neg hreset, filter_nil, append_nil, scheduleMap, if_neg hreset]
      exact h

theorem resets_maps (now : Nat) (maps : List MapEntry) :
    (maps.foldl (scheduleMap world now) s).resets = s.resets := by
  induction maps generalizing s with
  | nil => rfl
  | cons map rest ih =>
    rw [foldl_cons, ih, scheduleMap]
    split
    · rfl
    · rfl

theorem holds_scheduled (table : UInt16 → Option Nat) (saved : List SavedInstance) (now : Nat) :
    (scheduled world table saved now).Holds world := by
  refine ⟨?_, ?_⟩
  · refine scheduled_maps now [] world.maps world.nodup (Scheduled.perm (Scheduled.append ?_ ?_)
      (Multimap.insertAll_perm _ _).symm)
    · have hempty : (loadResetTimes world table).resetTimeQueue.entries = [] := rfl
      rw [hempty]
      exact ⟨by simp, by simp, by simp⟩
    · intro other hother
      obtain ⟨row, -, rfl⟩ := mem_map.mp hother
      rfl
  · intro reset hmem
    rw [scheduled, scheduleAllDungeonResets, resets_maps] at hmem
    cases hmem

end DungeonResetScheduler

end TurtleWow.Instances
