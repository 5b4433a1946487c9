import TurtleWow.Instances.ResetScheduler

namespace TurtleWow.Instances

open Run List

-- One event for each map with a global reset time

namespace World

def raids (world : World) : List MapEntry := world.maps.filter MapEntry.hasReset

theorem mem_raids {world : World} {entry : MapEntry} : entry ∈ world.raids ↔ entry ∈ world.maps ∧ entry.hasReset := by
  rw [raids, mem_filter]

theorem lookup_of_mem {world : World} {entry : MapEntry} (h : entry ∈ world.maps) :
    world.lookupEntry entry.id = some entry := by
  unfold lookupEntry
  have hnodup := world.nodup
  generalize world.maps = maps at h hnodup ⊢
  induction maps with
  | nil => cases h
  | cons head rest ih =>
    rw [map_cons, nodup_cons] at hnodup
    rw [List.find?_cons]
    rcases mem_cons.mp h with rfl | hrest
    · simp
    · have hne : head.id ≠ entry.id := fun heq => hnodup.1 (heq ▸ mem_map_of_mem hrest)
      rw [decide_eq_false hne]
      exact ih hrest hnodup.2

end World

def ResetEventType.isRaid (type : ResetEventType) : Bool := type ≠ .normalDungeon

def raidEvent (mapid : UInt16) (entry : Int × DungeonResetEvent) : Bool :=
  entry.2.type.isRaid && entry.2.mapid = mapid

-- Each map with a reset has one event, and no event comes earlier than its type says.
structure Scheduled (raids : List MapEntry) (resetTime : UInt16 → Nat) (entries : List (Int × DungeonResetEvent)) : Prop where
  one : ∀ entry ∈ raids, entries.countP (raidEvent entry.id) = 1
  known : ∀ entry ∈ entries, entry.2.type.isRaid → entry.2.instanceId = 0 ∧ ∃ map ∈ raids, map.id = entry.2.mapid
  timed : ∀ entry ∈ entries, entry.2.type.isRaid → (resetTime entry.2.mapid : Int) - entry.2.type.delay ≤ entry.1

namespace Scheduled

variable {raids : List MapEntry} {resetTime : UInt16 → Nat} {entries rest : List (Int × DungeonResetEvent)}
  {entry : Int × DungeonResetEvent}

theorem perm (h : Scheduled raids resetTime entries) (hperm : entries.Perm rest) : Scheduled raids resetTime rest where
  one map hmap := (hperm.countP_eq _).symm.trans (h.one map hmap)
  known other hother := h.known other (hperm.mem_iff.mpr hother)
  timed other hother := h.timed other (hperm.mem_iff.mpr hother)

theorem raidEvent_normal (h : entry.2.type = .normalDungeon) (mapid : UInt16) : raidEvent mapid entry = false := by
  rw [raidEvent, h]
  rfl

theorem cons_iff (entry : Int × DungeonResetEvent) (hnormal : entry.2.type = .normalDungeon) :
    Scheduled raids resetTime (entry :: entries) ↔ Scheduled raids resetTime entries := by
  have hraid : ¬ entry.2.type.isRaid = true := by rw [hnormal]; decide
  constructor
  · intro h
    refine ⟨fun map hmap => ?_, fun other hother => h.known other (mem_cons_of_mem _ hother),
      fun other hother => h.timed other (mem_cons_of_mem _ hother)⟩
    rw [← h.one map hmap, countP_cons_of_neg]
    rw [raidEvent_normal hnormal]
    exact Bool.false_ne_true
  · intro h
    refine ⟨fun map hmap => ?_, fun other hother => ?_, fun other hother => ?_⟩
    · rw [← h.one map hmap, countP_cons_of_neg]
      rw [raidEvent_normal hnormal]
      exact Bool.false_ne_true
    · rcases mem_cons.mp hother with rfl | hother
      · exact fun hother => absurd hother hraid
      · exact h.known other hother
    · rcases mem_cons.mp hother with rfl | hother
      · exact fun hother => absurd hother hraid
      · exact h.timed other hother

theorem append (h : Scheduled raids resetTime entries) {added : List (Int × DungeonResetEvent)}
    (hnormal : ∀ other ∈ added, other.2.type = .normalDungeon) : Scheduled raids resetTime (added ++ entries) := by
  induction added with
  | nil => exact h
  | cons other more ih =>
    obtain ⟨hother, hmore⟩ := forall_mem_cons.mp hnormal
    exact (cons_iff other hother).mpr (ih hmore)

theorem alone (h : Scheduled raids resetTime (entry :: entries)) (hraid : entry.2.type.isRaid) :
    ∀ other ∈ entries, other.2.type.isRaid → other.2.mapid ≠ entry.2.mapid := by
  intro other hother hraid' hsame
  obtain ⟨-, map, hmap, hid⟩ := h.known entry mem_cons_self hraid
  have hone := h.one map hmap
  have hfirst : raidEvent map.id entry = true := by simp [raidEvent, hraid, hid]
  rw [countP_cons_of_pos hfirst] at hone
  have hpos : 0 < entries.countP (raidEvent map.id) :=
    countP_pos_iff.mpr ⟨other, hother, by simp [raidEvent, hraid', hsame, hid]⟩
  omega

theorem replace (h : Scheduled raids resetTime (entry :: entries)) (hraid : entry.2.type.isRaid)
    {time : Int} (event : DungeonResetEvent) (hevent : event.type.isRaid) (hmapid : event.mapid = entry.2.mapid)
    (hinstance : event.instanceId = entry.2.instanceId) {t : Nat} (htime : (t : Int) - event.type.delay ≤ time) :
    Scheduled raids (Function.update resetTime entry.2.mapid t) ((time, event) :: entries) where
  one map hmap := by
    rw [← h.one map hmap, countP_cons, countP_cons]
    simp [raidEvent, hevent, hraid, hmapid]
  known other hother hother' := by
    rcases mem_cons.mp hother with rfl | hother
    · rw [hmapid, hinstance]
      exact h.known entry mem_cons_self hraid
    · exact h.known other (mem_cons_of_mem _ hother) hother'
  timed other hother hother' := by
    rcases mem_cons.mp hother with rfl | hother
    · rw [hmapid, Function.update_self]
      exact htime
    · rw [Function.update_of_ne (h.alone hraid other hother hother')]
      exact h.timed other (mem_cons_of_mem _ hother) hother'

theorem eraseP (h : Scheduled raids resetTime entries) {condition : Int × DungeonResetEvent → Bool}
    (hcondition : ∀ other ∈ entries, condition other → other.2.instanceId ≠ 0) :
    Scheduled raids resetTime (entries.eraseP condition) := by
  by_cases hany : ∃ other ∈ entries, condition other
  · obtain ⟨other, hother, hmatch⟩ := hany
    obtain ⟨found, before, after, -, hfound, hentries, heraseP⟩ := exists_of_eraseP hother hmatch
    have hmem : found ∈ entries := by
      rw [hentries]
      exact mem_append_right _ mem_cons_self
    have hnormal : found.2.type = .normalDungeon := by
      by_contra hraid
      exact hcondition found hmem hfound (h.known found hmem (by simpa [ResetEventType.isRaid] using hraid)).1
    rw [heraseP]
    rw [hentries] at h
    exact (cons_iff found hnormal).mp (h.perm perm_middle)
  · rw [eraseP_of_forall_not fun other hother hmatch => hany ⟨other, hother, hmatch⟩]
    exact h

theorem add (h : Scheduled raids resetTime entries) {map : MapEntry} (hnew : ∀ other ∈ raids, other.id ≠ map.id)
    {type : ResetEventType} (htype : type.isRaid) {time : Int} {t : Nat} (htime : (t : Int) - type.delay ≤ time) :
    Scheduled (raids ++ [map]) (Function.update resetTime map.id t) ((time, ⟨type, map.id, 0⟩) :: entries) := by
  have hother : ∀ other ∈ entries, other.2.type.isRaid → other.2.mapid ≠ map.id := by
    intro other hother hraid hsame
    obtain ⟨-, found, hfound, hid⟩ := h.known other hother hraid
    exact hnew found hfound (hid.trans hsame)
  constructor
  · intro other hmem
    rcases mem_append.mp hmem with hmem | hmem
    · rw [countP_cons_of_neg, h.one other hmem]
      simp [raidEvent, Ne.symm (hnew other hmem)]
    · obtain rfl := mem_singleton.mp hmem
      rw [countP_cons_of_pos (by simp [raidEvent, htype]), Nat.add_eq_right, countP_eq_zero]
      intro entry hentry hcount
      rw [raidEvent, Bool.and_eq_true, decide_eq_true_eq] at hcount
      exact hother entry hentry hcount.1 hcount.2
  · intro other hmem hraid
    rcases mem_cons.mp hmem with rfl | hmem
    · exact ⟨rfl, map, mem_append_right _ mem_cons_self, rfl⟩
    · obtain ⟨hzero, found, hfound, hid⟩ := h.known other hmem hraid
      exact ⟨hzero, found, mem_append_left _ hfound, hid⟩
  · intro other hmem hraid
    rcases mem_cons.mp hmem with rfl | hmem
    · rw [Function.update_self]
      exact htime
    · rw [Function.update_of_ne (hother other hmem hraid)]
      exact h.timed other hmem hraid

end Scheduled

end TurtleWow.Instances
