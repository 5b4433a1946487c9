import TurtleWow.Lft.Selected

namespace TurtleWow.Lft

open List OrderedMap

-- Players that queued alone and may all group take the seats in the order of
-- the queue: the first who can tank does, the first of the others who can heal
-- does, and what they could have done instead is lost.

-- One player after another takes the first seat that his mask and the seats
-- before him leave
def sitDown (seats : Seats) (mask : RoleMask) : Seats := (pickRole mask seats).elim seats seats.take

def Seats.total (seats : Seats) : Nat := seats.tanks + seats.healers + seats.damage

structure Seats.Bounded (seats : Seats) : Prop where
  tanks : seats.tanks ≤ 1
  healers : seats.healers ≤ 1
  damage : seats.damage ≤ 3

theorem Seats.bounded_free : Seats.free.Bounded := by constructor <;> simp [Seats.free]

theorem Seats.Bounded.sitDown {seats : Seats} (h : seats.Bounded) (mask : RoleMask) : (sitDown seats mask).Bounded := by
  have htanks := h.tanks
  have hhealers := h.healers
  have hdamage := h.damage
  unfold Lft.sitDown pickRole
  split_ifs <;> constructor <;> simp [Seats.take] <;> omega

theorem Seats.total_take (seats : Seats) (role : Role) : (seats.take role).total = seats.total + 1 := by
  cases role <;> simp only [Seats.take, Seats.total] <;> omega

theorem Seats.Bounded.pickRole_full {seats : Seats} (h : seats.Bounded) (hfull : 5 ≤ seats.total) (mask : RoleMask) :
    pickRole mask seats = none := by
  have htanks := h.tanks
  have hhealers := h.healers
  have hdamage := h.damage
  unfold Seats.total at hfull
  unfold pickRole
  rw [if_neg (by omega), if_neg (by omega), if_neg (by omega)]

-- Who is left of the masks when the first of a kind has taken a seat that was
-- free
def leave (taken : Nat) (p : RoleMask → Bool) (masks : List RoleMask) : List RoleMask :=
  if taken = 0 then masks.eraseP p else masks

section

variable {taken : Nat} {p : RoleMask → Bool} {mask : RoleMask} {rest masks : List RoleMask}

@[simp] theorem leave_succ : leave (taken + 1) p masks = masks := rfl

@[simp] theorem leave_nil : leave taken p [] = [] := by simp [leave]

theorem leave_first (hfree : taken = 0) (hp : p mask = true) : leave taken p (mask :: rest) = rest := by
  simp [leave, hfree, hp]

theorem leave_next (rest : List RoleMask) (h : ¬(p mask = true ∧ taken = 0)) :
    leave taken p (mask :: rest) = mask :: leave taken p rest := by
  unfold leave
  by_cases hfree : taken = 0
  · have hp : p mask = false := by simpa [hfree] using h
    simp [hfree, hp]
  · simp [hfree]

theorem any_next (rest : List RoleMask) (h : ¬(p mask = true ∧ taken = 0)) (hle : taken ≤ 1) :
    (taken = 1 ∨ (mask :: rest).any p = true) ↔ (taken = 1 ∨ rest.any p = true) := by
  rw [any_cons, Bool.or_eq_true]
  refine ⟨fun hor => ?_, fun hor => hor.imp_right .inr⟩
  rcases hor with hone | hmask | hrest
  · exact .inl hone
  · have hnot : taken ≠ 0 := fun hzero => h ⟨hmask, hzero⟩
    exact .inl (by omega)
  · exact .inr hrest

end

structure Served (seats : Seats) (masks : List RoleMask) (result : Seats) : Prop where
  tanks : result.tanks = 1 ↔ seats.tanks = 1 ∨ masks.any RoleMask.tank = true
  healers : result.healers = 1 ↔
    seats.healers = 1 ∨ (leave seats.tanks RoleMask.tank masks).any RoleMask.healer = true
  damage : result.damage = min 3 (seats.damage +
    (leave seats.healers RoleMask.healer (leave seats.tanks RoleMask.tank masks)).countP RoleMask.damage)

theorem served_foldl {seats : Seats} (h : seats.Bounded) (masks : List RoleMask) :
    Served seats masks (masks.foldl sitDown seats) := by
  induction masks generalizing seats with
  | nil =>
    have hdamage := h.damage
    constructor <;> simp
    omega
  | cons mask rest ih =>
    have htanks := h.tanks
    have hhealers := h.healers
    have hdamage := h.damage
    have hserved := ih (h.sitDown mask)
    rw [foldl_cons]
    generalize rest.foldl sitDown (sitDown seats mask) = result at hserved ⊢
    by_cases htank : mask.tank = true ∧ seats.tanks = 0
    · have hsit : sitDown seats mask = seats.take .tank := by simp [sitDown, pickRole, htank]
      rw [hsit] at hserved
      obtain ⟨hone, htwo, hthree⟩ := hserved
      simp only [Seats.take, leave_succ] at hone htwo hthree
      refine ⟨?_, ?_, ?_⟩
      · simp [hone, htank]
      · rw [htwo, leave_first htank.2 htank.1]
      · rw [hthree, leave_first htank.2 htank.1]
    have hleaveTank := leave_next rest htank
    have hnoTank : ¬(mask.tank = true ∧ seats.tanks < 1) := fun hnow => htank ⟨hnow.1, by omega⟩
    have hsameTank := any_next rest htank htanks
    by_cases hhealer : mask.healer = true ∧ seats.healers = 0
    · have hsit : sitDown seats mask = seats.take .healer := by
        simp only [sitDown, pickRole, if_neg hnoTank]
        simp [hhealer]
      rw [hsit] at hserved
      obtain ⟨hone, htwo, hthree⟩ := hserved
      simp only [Seats.take, leave_succ] at hone htwo hthree
      refine ⟨?_, ?_, ?_⟩
      · rw [hone, hsameTank]
      · rw [htwo, hleaveTank]
        simp [hhealer]
      · rw [hthree, hleaveTank, leave_first hhealer.2 hhealer.1]
    have hleaveHealer := leave_next (leave seats.tanks RoleMask.tank rest) hhealer
    have hnoHealer : ¬(mask.healer = true ∧ seats.healers < 1) := fun hnow => hhealer ⟨hnow.1, by omega⟩
    have hsameHealer := any_next (leave seats.tanks RoleMask.tank rest) hhealer hhealers
    by_cases hdealer : mask.damage = true ∧ seats.damage < 3
    · have hsit : sitDown seats mask = seats.take .damage := by
        simp only [sitDown, pickRole, if_neg hnoTank, if_neg hnoHealer]
        simp [hdealer]
      rw [hsit] at hserved
      obtain ⟨hone, htwo, hthree⟩ := hserved
      simp only [Seats.take] at hone htwo hthree
      refine ⟨?_, ?_, ?_⟩
      · rw [hone, hsameTank]
      · rw [htwo, hleaveTank, hsameHealer]
      · rw [hthree, hleaveTank, hleaveHealer, countP_cons_of_pos hdealer.1]
        omega
    · have hsit : sitDown seats mask = seats := by
        simp only [sitDown, pickRole, if_neg hnoTank, if_neg hnoHealer, if_neg hdealer, Option.elim_none]
      rw [hsit] at hserved
      obtain ⟨hone, htwo, hthree⟩ := hserved
      refine ⟨?_, ?_, ?_⟩
      · rw [hone, hsameTank]
      · rw [htwo, hleaveTank, hsameHealer]
      · rw [hthree, hleaveTank, hleaveHealer, countP_cons]
        split_ifs with hcan
        · -- he could only have dealt damage, and three do
          have hfull : ¬seats.damage < 3 := fun hfree => hdealer ⟨hcan, hfree⟩
          omega
        · rfl

def Filled (masks : List RoleMask) : Prop :=
  (∃ mask ∈ masks, mask.tank = true) ∧ (∃ mask ∈ masks.eraseP RoleMask.tank, mask.healer = true) ∧
    3 ≤ ((masks.eraseP RoleMask.tank).eraseP RoleMask.healer).countP RoleMask.damage

theorem filled_iff (masks : List RoleMask) : Filled masks ↔
    (masks.foldl sitDown Seats.free).tanks = 1 ∧ (masks.foldl sitDown Seats.free).healers = 1 ∧
      (masks.foldl sitDown Seats.free).damage = 3 := by
  obtain ⟨htanks, hhealers, hdamage⟩ := served_foldl Seats.bounded_free masks
  rw [htanks, hhealers, hdamage, Filled]
  simp [Seats.free, leave]

namespace LFTManager

variable {m : LFTManager} {view : View} {name : String} {order : List Nat} {seed : Nat × QueuedPlayer}
  {selection : Selection} {guid : Nat}

-- A queue of players that came alone: none is in an offer, and any two of them
-- may group, as each may with himself.
structure Singles (m : LFTManager) (view : View) : Prop where
  own : ∀ guid queued, m.queue.find guid = some queued → queued.leader guid = guid
  free : ∀ guid, m.queue.find guid ≠ none → m.playerOffers.find guid = none
  compatible : ∀ one other, m.Groups view one other

def masksFor (m : LFTManager) (name : String) (order : List Nat) : List RoleMask :=
  order.filterMap fun guid => (m.queue.find guid).bind fun queued =>
    if name ∈ queued.instances then some queued.roleMask else none

structure Seated (selection : Selection) : Prop where
  bounded : selection.seats.Bounded
  size : selection.roles.size = selection.seats.total

theorem Singles.block_eq (h : m.Singles view) (hnodup : order.Nodup) {queued : QueuedPlayer} (horder : guid ∈ order)
    (hqueued : m.queue.find guid = some queued) : m.block order (queued.leader guid) = [guid] := by
  have hmem : ∀ other, other ∈ m.block order (queued.leader guid) ↔ other = guid := by
    intro other
    rw [mem_block, h.own guid queued hqueued]
    constructor
    · rintro ⟨-, found, hfound, hleader⟩
      rw [← hleader, h.own other found hfound]
    · rintro rfl
      exact ⟨horder, queued, hqueued, h.own other queued hqueued⟩
  have hblock : (m.block order (queued.leader guid)).Nodup := hnodup.filter _
  have hperm : (m.block order (queued.leader guid)).Perm [guid] := by
    refine (perm_ext_iff_of_nodup hblock (nodup_singleton guid)).mpr fun other => ?_
    rw [hmem, mem_singleton]
  exact perm_singleton.mp hperm

theorem Singles.waiting_eq (name : String) (h : m.Singles view) (hseed : m.queue.find seed.1 = some seed.2)
    {queued : QueuedPlayer} (hqueued : m.queue.find guid = some queued) (hnew : selection.roles.find guid = none) :
    m.waiting view name seed selection guid = if name ∈ queued.instances then some queued else none := by
  have hfree := h.free guid (by simp [hqueued])
  have hgroup := h.compatible seed.1 guid seed.2 queued hseed hqueued
  unfold waiting
  simp [hqueued, hnew, hfree, hgroup]

structure Joins (selection : Selection) (guid : Nat) (masks : List RoleMask) (next : Selection) : Prop where
  seats : next.seats = masks.foldl sitDown selection.seats
  seated : Seated next
  others : ∀ other, other ≠ guid → selection.roles.find other = none → next.roles.find other = none

theorem Singles.joins (name : String) (h : m.Singles view) (hseed : m.queue.find seed.1 = some seed.2) (hnodup : order.Nodup)
    (hseated : Seated selection) (horder : guid ∈ order) (hnew : selection.roles.find guid = none) :
    Joins selection guid (m.masksFor name [guid]) (m.considerCandidate view name order seed selection guid) := by
  have hstays : m.considerCandidate view name order seed selection guid = selection →
      (m.masksFor name [guid]).foldl sitDown selection.seats = selection.seats →
      Joins selection guid (m.masksFor name [guid]) (m.considerCandidate view name order seed selection guid) := by
    intro heq hseats
    rw [heq]
    exact ⟨hseats.symm, hseated, fun _ _ hother => hother⟩
  cases hqueued : m.queue.find guid with
  | none =>
    apply hstays
    · unfold considerCandidate waiting
      simp [hqueued]
    · simp [masksFor, hqueued]
  | some queued =>
    have hwaiting := h.waiting_eq name hseed hqueued hnew
    have hblock := h.block_eq hnodup horder hqueued
    by_cases hname : name ∈ queued.instances
    · have hmasks : m.masksFor name [guid] = [queued.roleMask] := by simp [masksFor, hqueued, hname]
      rw [if_pos hname] at hwaiting
      cases hrole : pickRole queued.roleMask selection.seats with
      | none =>
        apply hstays
        · unfold considerCandidate
          simp [hwaiting, hblock, placeBlock, hrole]
        · simp [hmasks, sitDown, hrole]
      | some role =>
        have hroom : ¬5 ≤ selection.roles.size := by
          intro hfull
          rw [hseated.size] at hfull
          rw [hseated.bounded.pickRole_full hfull] at hrole
          cases hrole
        have hnext : m.considerCandidate view name order seed selection guid =
            ⟨selection.roles.insert guid role, selection.seats.take role⟩ := by
          have hone : (OrderedMap.empty.insert guid role : OrderedMap Nat Role).entries = [(guid, role)] := rfl
          unfold considerCandidate
          simp only [if_neg hroom, hwaiting, hblock, placeBlock, hrole]
          rw [if_neg]
          · rw [Selection.merge, hone]
            rfl
          · rw [OrderedMap.size, hone]
            simp only [length_singleton]
            omega
        have hsit : sitDown selection.seats queued.roleMask = selection.seats.take role := by
          simp [sitDown, hrole]
        rw [hnext, hmasks]
        refine ⟨?_, ⟨?_, ?_⟩, fun other hne hother => ?_⟩
        · simp [hsit]
        · rw [← hsit]
          exact hseated.bounded.sitDown _
        · have hgrows := size_insert role hnew
          have hsize := hseated.size
          rw [Seats.total_take]
          simp only [OrderedMap.size] at *
          omega
        · rw [find_insert, if_neg hne]
          exact hother
    · rw [if_neg hname] at hwaiting
      apply hstays
      · unfold considerCandidate
        simp [hwaiting]
      · simp [masksFor, hqueued, hname]

theorem Singles.walk (h : m.Singles view) (hseed : m.queue.find seed.1 = some seed.2) (hnodup : order.Nodup)
    {guids : List Nat} (hguids : guids.Nodup) (horder : ∀ guid ∈ guids, guid ∈ order) (hseated : Seated selection)
    (hnew : ∀ guid ∈ guids, selection.roles.find guid = none) :
    (Run.run (m.considerCandidate view name order seed) selection guids).seats =
        (m.masksFor name guids).foldl sitDown selection.seats ∧
      Seated (Run.run (m.considerCandidate view name order seed) selection guids) := by
  induction guids generalizing selection with
  | nil => exact ⟨rfl, hseated⟩
  | cons guid rest ih =>
    obtain ⟨hguid, hrest⟩ := nodup_cons.mp hguids
    obtain ⟨hfree, hnewRest⟩ := forall_mem_cons.mp hnew
    obtain ⟨hhead, horderRest⟩ := forall_mem_cons.mp horder
    have hjoins := h.joins name hseed hnodup hseated hhead hfree
    have hstill : ∀ other ∈ rest,
        (m.considerCandidate view name order seed selection guid).roles.find other = none := by
      intro other hother
      exact hjoins.others other (fun heq => hguid (heq ▸ hother)) (hnewRest other hother)
    obtain ⟨hseats, hend⟩ := ih hrest horderRest hjoins.seated hstill
    have hsplit : m.masksFor name (guid :: rest) = m.masksFor name [guid] ++ m.masksFor name rest := by
      rw [← singleton_append, masksFor, filterMap_append]
      rfl
    rw [Run.run_cons, hsplit, foldl_append, ← hjoins.seats]
    exact ⟨hseats, hend⟩

theorem Singles.complete_iff (h : m.Singles view) (seed : Nat × QueuedPlayer) (hseed : m.queue.find seed.1 = some seed.2) :
    (Run.run (m.considerCandidate view name m.getQueueOrder seed) Selection.none m.getQueueOrder).complete = true ↔
      Filled (m.masksFor name m.getQueueOrder) := by
  have hstart : Seated Selection.none := ⟨Seats.bounded_free, rfl⟩
  obtain ⟨hseats, hseated⟩ := h.walk hseed nodup_getQueueOrder nodup_getQueueOrder
    (fun _ horder => horder) hstart fun _ _ => find_empty
  have hsize := hseated.size
  rw [LFTManager.complete_iff, filled_iff, hsize, hseats, Seats.total]
  simp only [Selection.none]
  omega

def MakesOffer (m : LFTManager) (view : View) (name : String) : Prop :=
  (m.tryBuildOfferForInstance view name).nextOfferId = m.nextOfferId + 1

theorem makesOffer_iff_selectPlayers : m.MakesOffer view name ↔ m.selectPlayers view name ≠ none := by
  unfold MakesOffer tryBuildOfferForInstance
  cases m.selectPlayers view name with
  | none => simp
  | some roles =>
    have hpromised : Promised m.newOfferId roles.keys (m.openOffer name roles) (m.makeOffer name roles) :=
      promised_foldl m.newOfferId roles.entries
    have hnext : (m.makeOffer name roles).nextOfferId = m.nextOfferId + 1 := hpromised.next
    simp [hnext]

-- Players that queued alone get an offer exactly when the seats fill, taken in
-- the order of the queue.
theorem makesOffer_iff (h : m.Singles view) :
    m.MakesOffer view name ↔ Filled (m.masksFor name m.getQueueOrder) := by
  rw [makesOffer_iff_selectPlayers, Option.ne_none_iff_exists']
  constructor
  · rintro ⟨roles, hroles⟩
    obtain ⟨seed, hseed, hcomplete, -⟩ := selectPlayers_eq_some hroles
    exact (h.complete_iff _ hseed.queued).mp hcomplete
  · intro hfilled
    -- whoever waits for the instance can be the seed
    obtain ⟨mask, hmask, -⟩ := hfilled.1
    obtain ⟨guid, horder, hsome⟩ := List.mem_filterMap.mp hmask
    obtain ⟨queued, hqueued, hname⟩ := Option.bind_eq_some_iff.mp hsome
    have hinstance : name ∈ queued.instances := by
      by_contra hnot
      simp [hnot] at hname
    have hfree := h.free guid (by simp [hqueued])
    have hcomplete := (h.complete_iff (guid, queued) hqueued).mpr hfilled
    have hselected := selectFor_eq_some_iff.mpr ⟨queued, hqueued, hfree, hinstance, hcomplete, rfl⟩
    have hsome : (m.selectPlayers view name).isSome = true :=
      List.findSome?_isSome_iff.mpr ⟨guid, horder, by rw [hselected]; rfl⟩
    exact Option.isSome_iff_exists.mp hsome

theorem singles_present (hown : ∀ entry ∈ m.queue.entries, entry.2.leader entry.1 = entry.1)
    (hfree : ∀ guid, m.playerOffers.find guid = none) : m.Singles samplePresent := by
  refine ⟨fun guid queued hqueued => ?_, fun guid _ => hfree guid, fun one other _ _ _ _ => ?_⟩
  · exact hown (guid, queued) (mem_of_find hqueued)
  · simp [View.canQueuedPlayersGroup, View.canPlayersGroup, samplePresent, sampleView]

theorem makesOffer_iff_sample : sampleQueue.MakesOffer samplePresent "Stockade" ↔
    Filled (sampleQueue.masksFor "Stockade" sampleQueue.getQueueOrder) :=
  makesOffer_iff (singles_present (by decide) fun _ => rfl)

-- Five players of a queue who could take the five seats

def CanPlay (m : LFTManager) (name : String) (role : Role) (guid : Nat) : Prop :=
  ∃ queued, m.queue.find guid = some queued ∧ name ∈ queued.instances ∧ queued.roleMask.holds role = true

def Feasible (m : LFTManager) (name : String) : Prop :=
  ∃ tank healer first second third, [tank, healer, first, second, third].Nodup ∧ m.CanPlay name .tank tank ∧
    m.CanPlay name .healer healer ∧ m.CanPlay name .damage first ∧ m.CanPlay name .damage second ∧
    m.CanPlay name .damage third

-- The first could have healed, and the second is too late to tank.
theorem not_makesOffer_of_feasible :
    ¬∀ m view name, Singles m view → Feasible m name → MakesOffer m view name := by
  intro h
  let queue := queueUp [(1, ⟨true, true, false⟩), (2, RoleMask.only .tank), (3, RoleMask.only .damage),
    (4, RoleMask.only .damage), (5, RoleMask.only .damage)]
  have hsingles : queue.Singles samplePresent := singles_present (by decide) fun _ => rfl
  have hfeasible : queue.Feasible "Stockade" := by
    refine ⟨2, 1, 3, 4, 5, by decide, ?_, ?_, ?_, ?_, ?_⟩ <;> exact ⟨_, rfl, by decide, by decide⟩
  have hoffer := h queue samplePresent "Stockade" hsingles hfeasible
  revert hoffer
  unfold MakesOffer
  decide

end LFTManager

end TurtleWow.Lft
