import TurtleWow.Lft.Bookkeeping

namespace TurtleWow.Lft

open List OrderedMap

-- What an offer is made of: five players with their roles, no party split. That
-- any two of them may group is not asked by the walk that gathers them.

def RoleMask.holds (mask : RoleMask) : Role → Bool
  | .tank => mask.tank
  | .healer => mask.healer
  | .damage => mask.damage

def Seats.of (seats : Seats) : Role → Nat
  | .tank => seats.tanks
  | .healer => seats.healers
  | .damage => seats.damage

@[simp] theorem Seats.of_free (role : Role) : Seats.free.of role = 0 := by
  cases role <;> simp [Seats.free, Seats.of]

@[simp] theorem Seats.of_take (seats : Seats) (taken role : Role) :
    (seats.take taken).of role = seats.of role + if taken = role then 1 else 0 := by
  cases taken <;> cases role <;> simp [Seats.take, Seats.of]

theorem holds_of_pickRole {mask : RoleMask} {seats : Seats} {role : Role} (h : pickRole mask seats = some role) :
    mask.holds role = true := by
  unfold pickRole at h
  split_ifs at h with htank hhealer hdamage <;> cases h
  · exact htank.1
  · exact hhealer.1
  · exact hdamage.1

def count (roles : OrderedMap Nat Role) (role : Role) : Nat := roles.entries.countP fun entry => entry.2 = role

@[simp] theorem count_empty (role : Role) : count .empty role = 0 := by simp [count, OrderedMap.empty]

theorem count_insert {roles : OrderedMap Nat Role} {guid : Nat} (h : roles.find guid = none) (taken role : Role) :
    count (roles.insert guid taken) role = count roles role + if taken = role then 1 else 0 := by
  rw [count, (entries_insert_perm h).countP_eq, countP_cons]
  simp [count]

namespace LFTManager

variable {m : LFTManager} {view : View} {name : String} {order : List Nat} {seed : Nat × QueuedPlayer}
  {selection placed result : Selection} {guid : Nat}

theorem waiting_eq_some_iff {queued : QueuedPlayer} : m.waiting view name seed selection guid = some queued ↔
    m.queue.find guid = some queued ∧ selection.roles.find guid = none ∧ m.playerOffers.find guid = none ∧
      name ∈ queued.instances ∧ view.canQueuedPlayersGroup seed (guid, queued) = true := by
  unfold waiting
  cases m.queue.find guid with
  | none => simp
  | some found =>
    simp only [Option.ite_none_right_eq_some, Option.some.injEq]
    constructor
    · rintro ⟨h, rfl⟩
      exact ⟨rfl, h⟩
    · rintro ⟨rfl, h⟩
      exact ⟨h, rfl⟩

-- What the walk over a block leaves: its members and no others come in, each
-- with a role of his own, and the seats count them.
structure Fills (m : LFTManager) (view : View) (name : String) (seed : Nat × QueuedPlayer) (selection : Selection)
    (placed : Selection) (guids : List Nat) (result : Selection) : Prop where
  members : ∀ guid, result.roles.find guid = none ↔ placed.roles.find guid = none ∧ guid ∉ guids
  roles : ∀ guid role, result.roles.find guid = some role → placed.roles.find guid = some role ∨
    ∃ queued, m.waiting view name seed selection guid = some queued ∧ queued.roleMask.holds role = true
  waits : ∀ guid ∈ guids, m.waiting view name seed selection guid ≠ none
  seats : ∀ role, result.seats.of role + count placed.roles role = placed.seats.of role + count result.roles role
  size : result.roles.size = placed.roles.size + guids.length

theorem fills_placeBlock {guids : List Nat} (hnodup : guids.Nodup) (hnew : ∀ guid ∈ guids, placed.roles.find guid = none)
    (h : m.placeBlock view name seed selection placed guids = some result) :
    Fills m view name seed selection placed guids result := by
  induction guids generalizing placed with
  | nil =>
    cases h
    exact ⟨by simp, fun _ _ h => .inl h, by simp, fun _ => rfl, by simp⟩
  | cons guid rest ih =>
    obtain ⟨hguid, hrest⟩ := nodup_cons.mp hnodup
    obtain ⟨hfree, hnewRest⟩ := forall_mem_cons.mp hnew
    unfold placeBlock at h
    cases hwaiting : m.waiting view name seed selection guid with
    | none => simp [hwaiting] at h
    | some queued =>
      cases hrole : pickRole queued.roleMask placed.seats with
      | none => simp [hwaiting, hrole] at h
      | some role =>
        simp only [hwaiting, hrole] at h
        have hstill : ∀ other ∈ rest, (placed.roles.insert guid role).find other = none := by
          intro other hother
          have hne : other ≠ guid := fun heq => hguid (heq ▸ hother)
          rw [find_insert, if_neg hne]
          exact hnewRest other hother
        have hfills := ih hrest hstill h
        refine ⟨fun other => ?_, fun other taken hother => ?_, ?_, fun asked => ?_, ?_⟩
        · rw [hfills.members, find_insert, mem_cons, not_or]
          by_cases hsame : other = guid
          · simp [hsame]
          · simp [hsame]
        · rcases hfills.roles other taken hother with hplaced | hcame
          · rcases of_find_insert hplaced with ⟨rfl, rfl⟩ | ⟨-, hold⟩
            · exact .inr ⟨queued, hwaiting, holds_of_pickRole hrole⟩
            · exact .inl hold
          · exact .inr hcame
        · exact forall_mem_cons.mpr ⟨by simp [hwaiting], hfills.waits⟩
        · have hseats := hfills.seats asked
          rw [count_insert hfree, Seats.of_take] at hseats
          omega
        · have hsize := hfills.size
          have hone := size_insert role hfree
          simp only [OrderedMap.size, length_cons] at *
          omega

theorem mem_block {leader : Nat} : guid ∈ m.block order leader ↔
    guid ∈ order ∧ ∃ queued, m.queue.find guid = some queued ∧ queued.leader guid = leader := by
  unfold block
  rw [mem_filter]
  cases m.queue.find guid <;> simp

theorem leader_unique {leader other : Nat} (h : guid ∈ m.block order leader) (hother : guid ∈ m.block order other) :
    leader = other := by
  obtain ⟨-, queued, hqueued, rfl⟩ := mem_block.mp h
  obtain ⟨-, found, hfound, rfl⟩ := mem_block.mp hother
  rw [hqueued] at hfound
  cases hfound
  rfl

theorem getQueueOrder_perm (m : LFTManager) : m.getQueueOrder.Perm m.queue.keys :=
  (perm_insertionSort _ _).map _

theorem nodup_getQueueOrder : m.getQueueOrder.Nodup := m.getQueueOrder_perm.nodup_iff.mpr nodup_keys

theorem mem_getQueueOrder : guid ∈ m.getQueueOrder ↔ m.queue.find guid ≠ none :=
  m.getQueueOrder_perm.mem_iff.trans mem_keys

-- The block that a candidate brings into the selection, when it does

def taken (m : LFTManager) (view : View) (name : String) (order : List Nat) (seed : Nat × QueuedPlayer)
    (selection : Selection) (guid : Nat) : Option Selection :=
  if 5 ≤ selection.roles.size then none
  else
    match m.waiting view name seed selection guid with
    | none => none
    | some queued =>
      match m.placeBlock view name seed selection ⟨.empty, selection.seats⟩
          (m.block order (queued.leader guid)) with
      | none => none
      | some placed =>
        if placed.roles.size = 0 ∨ 5 < selection.roles.size + placed.roles.size then none else some placed

theorem considerCandidate_eq : m.considerCandidate view name order seed selection guid =
    (m.taken view name order seed selection guid).elim selection selection.merge := by
  unfold considerCandidate taken
  split_ifs with hfull
  · rfl
  cases m.waiting view name seed selection guid with
  | none => rfl
  | some queued =>
    simp only []
    cases m.placeBlock view name seed selection ⟨.empty, selection.seats⟩ (m.block order (queued.leader guid)) with
    | none => rfl
    | some placed =>
      simp only []
      split_ifs <;> rfl

theorem fills_taken (hnodup : order.Nodup) (h : m.taken view name order seed selection guid = some placed) :
    ∃ leader, Fills m view name seed selection ⟨.empty, selection.seats⟩ (m.block order leader) placed := by
  unfold taken at h
  split_ifs at h
  cases hwaiting : m.waiting view name seed selection guid with
  | none => simp [hwaiting] at h
  | some queued =>
    cases hplaced : m.placeBlock view name seed selection ⟨.empty, selection.seats⟩
        (m.block order (queued.leader guid)) with
    | none => simp [hwaiting, hplaced] at h
    | some found =>
      simp only [hwaiting, hplaced] at h
      split_ifs at h
      cases h
      exact ⟨queued.leader guid, fills_placeBlock (hnodup.filter _) (by simp) hplaced⟩

theorem find_merge : (selection.merge placed).roles.find guid =
    (placed.roles.find guid).or (selection.roles.find guid) := find_insertAll placed.roles

theorem find_merge_ne_none : (selection.merge placed).roles.find guid ≠ none ↔
    placed.roles.find guid ≠ none ∨ selection.roles.find guid ≠ none := by
  rw [find_merge]
  cases placed.roles.find guid <;> simp

theorem count_merge (h : ∀ guid, placed.roles.find guid ≠ none → selection.roles.find guid = none) (role : Role) :
    count (selection.merge placed).roles role = count placed.roles role + count selection.roles role := by
  have hperm : (selection.merge placed).roles.entries.Perm (placed.roles.entries ++ selection.roles.entries) := by
    refine entries_insertAll_perm nodup_keys fun entry hentry => h entry.1 ?_
    rw [find_of_mem hentry]
    exact Option.some_ne_none _
  rw [count, hperm.countP_eq, countP_append]
  rfl

-- The state of the walk: who is in waits for the instance and has a role of
-- his own mask, the seats count them, and no party is split.
structure Chosen (m : LFTManager) (view : View) (name : String) (order : List Nat) (seed : Nat × QueuedPlayer)
    (selection : Selection) : Prop where
  waits : ∀ guid role, selection.roles.find guid = some role →
    ∃ queued, m.waiting view name seed Selection.none guid = some queued ∧ queued.roleMask.holds role = true
  seats : ∀ role, selection.seats.of role = count selection.roles role
  whole : ∀ leader, (∀ guid ∈ m.block order leader, selection.roles.find guid ≠ none) ∨
    ∀ guid ∈ m.block order leader, selection.roles.find guid = none

theorem chosen_none : Chosen m view name order seed Selection.none :=
  ⟨by simp [Selection.none], by simp [Selection.none], fun _ => .inr (by simp [Selection.none])⟩

theorem waiting_none {queued : QueuedPlayer} (h : m.waiting view name seed selection guid = some queued) :
    m.waiting view name seed Selection.none guid = some queued := by
  rw [waiting_eq_some_iff] at h ⊢
  exact ⟨h.1, find_empty, h.2.2⟩

theorem Chosen.merge {leader : Nat} (h : Chosen m view name order seed selection)
    (hfills : Fills m view name seed selection ⟨.empty, selection.seats⟩ (m.block order leader) placed) :
    Chosen m view name order seed (selection.merge placed) := by
  have hmembers : ∀ guid, placed.roles.find guid ≠ none ↔ guid ∈ m.block order leader := by
    intro guid
    rw [Ne, hfills.members]
    simp
  have hnew : ∀ guid, placed.roles.find guid ≠ none → selection.roles.find guid = none := by
    intro guid hguid
    obtain ⟨queued, hqueued⟩ := Option.ne_none_iff_exists'.mp (hfills.waits guid ((hmembers guid).mp hguid))
    exact (waiting_eq_some_iff.mp hqueued).2.1
  refine ⟨fun guid role hrole => ?_, fun role => ?_, fun other => ?_⟩
  · rw [find_merge] at hrole
    cases hplaced : placed.roles.find guid with
    | none =>
      rw [hplaced, Option.none_or] at hrole
      exact h.waits guid role hrole
    | some taken =>
      rw [hplaced, Option.some_or] at hrole
      cases hrole
      obtain hempty | ⟨queued, hqueued, hholds⟩ := hfills.roles guid role hplaced
      · simp at hempty
      · exact ⟨queued, waiting_none hqueued, hholds⟩
  · have hseats := hfills.seats role
    have hbefore := h.seats role
    rw [count_merge hnew]
    simp only [count_empty] at hseats
    show placed.seats.of role = _
    omega
  · -- the block of one leader came in, and that of any other stays as it was
    by_cases hsame : other = leader
    · subst hsame
      exact .inl fun guid hguid => find_merge_ne_none.mpr (.inl ((hmembers guid).mpr hguid))
    · have hapart : ∀ guid ∈ m.block order other, placed.roles.find guid = none := by
        intro guid hguid
        by_contra hin
        exact hsame (leader_unique hguid ((hmembers guid).mp hin))
      refine (h.whole other).imp (fun hall guid hguid => ?_) fun hall guid hguid => ?_
      · exact find_merge_ne_none.mpr (.inr (hall guid hguid))
      · rw [find_merge, hapart guid hguid, hall guid hguid]
        rfl

theorem Chosen.considerCandidate (hnodup : order.Nodup) (h : Chosen m view name order seed selection) (guid : Nat) :
    Chosen m view name order seed (m.considerCandidate view name order seed selection guid) := by
  rw [considerCandidate_eq]
  cases htaken : m.taken view name order seed selection guid with
  | none => exact h
  | some placed =>
    obtain ⟨leader, hfills⟩ := fills_taken hnodup htaken
    exact h.merge hfills

theorem chosen_walk (hnodup : order.Nodup) (guids : List Nat) :
    Chosen m view name order seed (Run.run (m.considerCandidate view name order seed) Selection.none guids) :=
  Run.run_invariant _ (fun _ _ => True) (Chosen m view name order seed)
    (fun _ guid h _ => h.considerCandidate hnodup guid) chosen_none
    (Run.guarded_of_forall _ _ (fun _ _ => trivial) _ _)

def Groups (m : LFTManager) (view : View) (one other : Nat) : Prop :=
  ∀ first second, m.queue.find one = some first → m.queue.find other = some second →
    view.canQueuedPlayersGroup (one, first) (other, second) = true

def AllGroup (m : LFTManager) (view : View) (roles : OrderedMap Nat Role) : Prop :=
  ∀ one other, roles.find one ≠ none → roles.find other ≠ none → one ≠ other → m.Groups view one other

-- A candidate whose block, if it comes in, may group with whoever is in then.
def Suits (m : LFTManager) (view : View) (name : String) (order : List Nat) (seed : Nat × QueuedPlayer)
    (selection : Selection) (guid : Nat) : Prop :=
  ∀ placed, m.taken view name order seed selection guid = some placed →
    ∀ one other, placed.roles.find one ≠ none → (selection.merge placed).roles.find other ≠ none → one ≠ other →
      m.Groups view one other ∧ m.Groups view other one

theorem allGroup_considerCandidate_iff : m.AllGroup view (m.considerCandidate view name order seed selection guid).roles ↔
    m.AllGroup view selection.roles ∧ m.Suits view name order seed selection guid := by
  rw [considerCandidate_eq, Suits]
  cases m.taken view name order seed selection guid with
  | none => simp
  | some placed =>
    simp only [Option.elim_some, Option.some.injEq, forall_eq']
    constructor
    · refine fun hall => ⟨fun one other hone hother hne => ?_, fun one other hone hother hne => ⟨?_, ?_⟩⟩
      · exact hall one other (find_merge_ne_none.mpr (.inr hone)) (find_merge_ne_none.mpr (.inr hother)) hne
      · exact hall one other (find_merge_ne_none.mpr (.inl hone)) hother hne
      · exact hall other one hother (find_merge_ne_none.mpr (.inl hone)) hne.symm
    · rintro ⟨hbefore, hsuits⟩ one other hone hother hne
      rcases find_merge_ne_none.mp hone with hplaced | hselected
      · exact (hsuits one other hplaced hother hne).1
      rcases find_merge_ne_none.mp hother with hplaced | hselected'
      · exact (hsuits other one hplaced hone hne.symm).2
      · exact hbefore one other hselected hselected' hne

theorem allGroup_walk_iff (m : LFTManager) (view : View) (name : String) (order : List Nat) (seed : Nat × QueuedPlayer)
    (guids : List Nat) :
    m.AllGroup view (Run.run (m.considerCandidate view name order seed) Selection.none guids).roles ↔
      Run.Guarded (m.considerCandidate view name order seed) (m.Suits view name order seed) Selection.none guids := by
  have hempty : m.AllGroup view Selection.none.roles := fun one _ hone => absurd find_empty hone
  refine Iff.trans ?_ (and_iff_right hempty)
  exact Run.run_iff_guarded (m.considerCandidate view name order seed) (m.Suits view name order seed)
    (fun _ => True) (fun selection => m.AllGroup view selection.roles) (fun _ _ _ => trivial)
    (fun _ _ _ => allGroup_considerCandidate_iff) trivial

structure Makes (m : LFTManager) (view : View) (name : String) (offer : Offer) : Prop where
  next : (m.tryBuildOfferForInstance view name).nextOfferId = m.nextOfferId + 1
  offer : (m.tryBuildOfferForInstance view name).offers.find m.newOfferId = some offer

structure SoundOffer (m : LFTManager) (view : View) (name : String) (offer : Offer) : Prop where
  instanceName : offer.instanceName = name
  five : offer.roles.size = 5
  tanks : count offer.roles .tank = 1
  healers : count offer.roles .healer = 1
  damage : count offer.roles .damage = 3
  queued : ∀ guid role, offer.roles.find guid = some role →
    ∃ queued, m.queue.find guid = some queued ∧ name ∈ queued.instances ∧ queued.roleMask.holds role = true
  free : ∀ guid, offer.roles.find guid ≠ none → m.playerOffers.find guid = none
  elsewhere : m.Agrees → ∀ guid, offer.roles.find guid ≠ none → ∀ id other, m.offers.find id = some other →
    other.roles.find guid = none
  whole : ∀ leader, (∀ guid queued, m.queue.find guid = some queued → queued.leader guid = leader →
      offer.roles.find guid ≠ none) ∨
    ∀ guid queued, m.queue.find guid = some queued → queued.leader guid = leader → offer.roles.find guid = none
  compatible : m.AllGroup view offer.roles

structure Gathers (m : LFTManager) (view : View) (name : String) (seed : Nat × QueuedPlayer) : Prop where
  queued : m.queue.find seed.1 = some seed.2
  first : m.getQueueOrder.find? (fun guid => (m.selectFor view name m.getQueueOrder guid).isSome) = some seed.1

theorem complete_iff : selection.complete = true ↔ selection.seats.tanks = 1 ∧ selection.seats.healers = 1 ∧
    selection.seats.damage = 3 ∧ selection.roles.size = 5 := by simp [Selection.complete]

theorem selectFor_eq_some_iff {guid : Nat} {roles : OrderedMap Nat Role} :
    m.selectFor view name order guid = some roles ↔ ∃ queued, m.queue.find guid = some queued ∧
      m.playerOffers.find guid = none ∧ name ∈ queued.instances ∧
      (Run.run (m.considerCandidate view name order (guid, queued)) Selection.none order).complete = true ∧
      roles = (Run.run (m.considerCandidate view name order (guid, queued)) Selection.none order).roles := by
  unfold selectFor
  cases m.queue.find guid with
  | none => simp
  | some queued =>
    simp only [Option.some.injEq, exists_eq_left']
    split_ifs with hout hcomplete
    · simp only [false_iff]
      rintro ⟨hfree, hname, -⟩
      exact hout.elim (fun hbusy => hbusy hfree) fun hnot => hnot hname
    · rw [not_or, not_not, not_not] at hout
      simp only [Option.some.injEq]
      exact ⟨fun h => ⟨hout.1, hout.2, hcomplete, h.symm⟩, fun h => h.2.2.2.symm⟩
    · simp only [false_iff]
      rintro ⟨-, -, hfull, -⟩
      exact hcomplete hfull

theorem selectPlayers_eq_some {roles : OrderedMap Nat Role} (h : m.selectPlayers view name = some roles) :
    ∃ seed, m.Gathers view name seed ∧
      (Run.run (m.considerCandidate view name m.getQueueOrder seed) Selection.none m.getQueueOrder).complete = true ∧
      roles = (Run.run (m.considerCandidate view name m.getQueueOrder seed) Selection.none m.getQueueOrder).roles := by
  obtain ⟨before, guid, after, horder, hguid, hbefore⟩ := List.findSome?_eq_some_iff.mp h
  obtain ⟨queued, hqueued, -, -, hcomplete, hroles⟩ := selectFor_eq_some_iff.mp hguid
  refine ⟨(guid, queued), ⟨hqueued, ?_⟩, hcomplete, hroles⟩
  rw [List.find?_eq_some_iff_append]
  refine ⟨by simp [hguid], before, after, horder, fun other hother => ?_⟩
  simp [hbefore other hother]

theorem Makes.roles {offer : Offer} (h : m.Makes view name offer) :
    offer.instanceName = name ∧ m.selectPlayers view name = some offer.roles := by
  have hnext := h.next
  have hoffer := h.offer
  unfold tryBuildOfferForInstance at hnext hoffer
  cases hroles : m.selectPlayers view name with
  | none => simp [hroles] at hnext
  | some roles =>
    simp only [hroles] at hoffer
    have hpromised : Promised m.newOfferId roles.keys (m.openOffer name roles) (m.makeOffer name roles) :=
      promised_foldl m.newOfferId roles.entries
    rw [hpromised.offers, openOffer, find_insert, if_pos rfl] at hoffer
    cases hoffer
    exact ⟨rfl, rfl⟩

theorem Gathers.unique {seed other : Nat × QueuedPlayer} (h : m.Gathers view name seed)
    (hother : m.Gathers view name other) : seed = other := by
  have hguid : seed.1 = other.1 := Option.some.inj (h.first.symm.trans hother.first)
  have hqueued := h.queued
  rw [hguid, hother.queued] at hqueued
  exact Prod.ext hguid (Option.some.inj hqueued).symm

def hardcoreView (level : Nat → Int) : View :=
  { samplePresent with
    isHardcore := fun _ => true, hardcoreAllows := fun leader member => (level leader - level member).natAbs ≤ 5 }

def queueUp (guids : List (Nat × RoleMask)) : LFTManager :=
  guids.foldl (fun m player => m.enqueuePlayer (hardcoreView fun _ => 20) player.1 0 ["Stockade"] player.2) new

def sampleQueue : LFTManager :=
  queueUp [(1, RoleMask.only .tank), (2, RoleMask.only .healer), (3, RoleMask.only .damage),
    (4, RoleMask.only .damage), (5, RoleMask.only .damage)]

def sampleOffer : Offer :=
  { instanceName := "Stockade",
    roles := ⟨[(1, .tank), (2, .healer), (3, .damage), (4, .damage), (5, .damage)], by decide⟩,
    accepted := .empty, timer := offerTimeout }

theorem makes_sampleOffer (level : Nat → Int)
    (h : sampleQueue.selectPlayers (hardcoreView level) "Stockade" = some sampleOffer.roles) :
    sampleQueue.Makes (hardcoreView level) "Stockade" sampleOffer := by
  have hmade : sampleQueue.tryBuildOfferForInstance (hardcoreView level) "Stockade" =
      sampleQueue.makeOffer "Stockade" sampleOffer.roles := by
    unfold tryBuildOfferForInstance
    rw [h]
  refine ⟨?_, ?_⟩ <;> rw [hmade]
  · decide
  · rfl

-- The healer is five levels below the player the offer is gathered for, and
-- one of the others is five above.
def spreadLevels (guid : Nat) : Int := if guid = 2 then 15 else if guid = 3 then 25 else 20

end LFTManager

end TurtleWow.Lft
