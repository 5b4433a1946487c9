import TurtleWow.Lft.Signups
import TurtleWow.Lib.Run

namespace TurtleWow.Lft

open List OrderedMap

-- The offers and the players' way to them agree, and who is in an offer is
-- queued.

namespace LFTManager

structure Agrees (m : LFTManager) : Prop where
  linked : ∀ guid id, m.playerOffers.find guid = some id ↔
    ∃ offer, m.offers.find id = some offer ∧ offer.roles.find guid ≠ none
  queued : ∀ (id : Nat) (offer : Offer) (guid : Nat), m.offers.find id = some offer → offer.roles.find guid ≠ none →
    m.queue.find guid ≠ none

structure Kept (m : LFTManager) : Prop where
  numbered : ∀ id, m.offers.find id ≠ none → id < m.nextOfferId
  linked : ∀ guid id, m.playerOffers.find guid = some id ↔
    ∃ offer, m.offers.find id = some offer ∧ offer.roles.find guid ≠ none
  queued : ∀ guid, m.playerOffers.find guid ≠ none → m.queue.find guid ≠ none

-- What a step does that makes no offer.
structure Settles (m n : LFTManager) : Prop where
  next : n.nextOfferId = m.nextOfferId
  kept : m.Kept → n.Kept
  shrinks : ∀ guid, n.playerOffers.find guid ≠ none → m.playerOffers.find guid ≠ none

-- What any step does; an offer has a number of its own while fewer than 2 ^ 32
-- have been made.
structure Leads (m n : LFTManager) : Prop where
  next : m.nextOfferId ≤ n.nextOfferId
  kept : m.Kept → n.nextOfferId ≤ 2 ^ 32 → n.Kept

variable {m n k : LFTManager} {view : View}

theorem Kept.agrees (h : m.Kept) : m.Agrees := by
  refine ⟨h.linked, fun id offer guid hoffer hrole => h.queued guid ?_⟩
  rw [(h.linked guid id).mpr ⟨offer, hoffer, hrole⟩]
  exact Option.some_ne_none id

theorem kept_new : new.Kept := by
  refine ⟨?_, ?_, ?_⟩ <;> simp [new]

theorem Settles.refl (m : LFTManager) : Settles m m := ⟨rfl, id, fun _ h => h⟩

theorem Settles.trans (h : Settles m n) (hk : Settles n k) : Settles m k :=
  ⟨hk.next.trans h.next, fun hm => hk.kept (h.kept hm), fun guid hguid => h.shrinks guid (hk.shrinks guid hguid)⟩

theorem Settles.leads (h : Settles m n) : Leads m n := ⟨h.next.ge, fun hm _ => h.kept hm⟩

theorem Settles.ite {c : Prop} [Decidable c] (hn : c → Settles m n) (hk : ¬c → Settles m k) :
    Settles m (if c then n else k) := by
  by_cases hc : c
  · rw [if_pos hc]
    exact hn hc
  · rw [if_neg hc]
    exact hk hc

theorem settles_foldl {α : Type} {f : LFTManager → α → LFTManager} (hf : ∀ m a, Settles m (f m a)) (list : List α) :
    Settles m (list.foldl f m) := by
  induction list generalizing m with
  | nil => exact Settles.refl m
  | cons a rest ih => exact (hf m a).trans ih

theorem Leads.refl (m : LFTManager) : Leads m m := (Settles.refl m).leads

theorem Leads.trans (h : Leads m n) (hk : Leads n k) : Leads m k :=
  ⟨h.next.trans hk.next, fun hm hbound => hk.kept (h.kept hm (hk.next.trans hbound)) hbound⟩

theorem leads_foldl {α : Type} {f : LFTManager → α → LFTManager} (hf : ∀ m a, Leads m (f m a)) (list : List α) :
    Leads m (list.foldl f m) := by
  induction list generalizing m with
  | nil => exact Leads.refl m
  | cons a rest ih => exact (hf m a).trans ih

theorem settles_same (hnext : n.nextOfferId = m.nextOfferId) (hoffers : n.offers = m.offers)
    (hplayers : n.playerOffers = m.playerOffers)
    (hqueue : ∀ guid, m.queue.find guid ≠ none → n.queue.find guid ≠ none) : Settles m n := by
  refine ⟨hnext, fun h => ⟨?_, ?_, ?_⟩, ?_⟩
  · rw [hoffers, hnext]
    exact h.numbered
  · rw [hoffers, hplayers]
    exact h.linked
  · rw [hplayers]
    exact fun guid hguid => hqueue guid (h.queued guid hguid)
  · rw [hplayers]
    exact fun _ hguid => hguid

theorem settles_eraseRolecheck (leader : Nat) : Settles m (m.eraseRolecheck leader) :=
  settles_same rfl rfl rfl fun _ h => h

theorem settles_setRolecheck (leader : Nat) (rolecheck : PendingRolecheck) : Settles m (m.setRolecheck leader rolecheck) :=
  settles_same rfl rfl rfl fun _ h => h

theorem settles_enqueuePlayer (guid leader : Nat) (instances : List String) (mask : RoleMask) :
    Settles m (m.enqueuePlayer view guid leader instances mask) := by
  refine settles_same rfl rfl rfl fun other hother => ?_
  show (m.queue.insert guid _).find other ≠ none
  rw [find_insert]
  by_cases hsame : other = guid
  · simp [hsame]
  · rw [if_neg hsame]
    exact hother

theorem settles_setOffer {id : Nat} {old offer : Offer} (hold : m.offers.find id = some old)
    (hroles : offer.roles = old.roles) : Settles m (m.setOffer id offer) := by
  have hfind : ∀ other, (m.setOffer id offer).offers.find other = if other = id then some offer else m.offers.find other :=
    fun other => find_insert offer
  refine ⟨rfl, fun h => ⟨fun other hother => ?_, fun guid other => ?_, h.queued⟩, fun _ hguid => hguid⟩
  · rw [hfind] at hother
    by_cases hsame : other = id
    · subst hsame
      exact h.numbered other (by simp [hold])
    · rw [if_neg hsame] at hother
      exact h.numbered other hother
  · refine (h.linked guid other).trans ?_
    rw [hfind]
    by_cases hsame : other = id
    · subst hsame
      simp [hold, hroles]
    · rw [if_neg hsame]

theorem settles_eraseQueued {guid : Nat} (hguid : m.playerOffers.find guid = none) : Settles m (m.eraseQueued guid) := by
  refine ⟨rfl, fun h => ⟨h.numbered, h.linked, fun other hother => ?_⟩, fun _ hother => hother⟩
  show (m.queue.erase guid).find other ≠ none
  rw [find_erase, if_neg]
  · exact h.queued other hother
  · rintro rfl
    exact hother hguid

-- The end of an offer: some players lose their way to it, and nothing happens
-- to the others.

structure Frees (guids : List Nat) (m n : LFTManager) : Prop where
  next : n.nextOfferId = m.nextOfferId
  offers : n.offers = m.offers
  playerOffers : ∀ guid, n.playerOffers.find guid = if guid ∈ guids then none else m.playerOffers.find guid
  queue : ∀ guid, guid ∉ guids → n.queue.find guid = m.queue.find guid

theorem frees_foldl {f : LFTManager → Nat → LFTManager} (hf : ∀ m guid, Frees [guid] m (f m guid)) (guids : List Nat) :
    Frees guids m (guids.foldl f m) := by
  induction guids generalizing m with
  | nil => exact ⟨rfl, rfl, fun _ => rfl, fun _ _ => rfl⟩
  | cons guid rest ih =>
    have hone := hf m guid
    have hrest := ih (m := f m guid)
    refine ⟨hrest.next.trans hone.next, hrest.offers.trans hone.offers, fun other => ?_, fun other hother => ?_⟩
    · rw [foldl_cons, hrest.playerOffers, hone.playerOffers]
      by_cases hmem : other ∈ rest
      · simp [hmem]
      · simp [hmem]
    · rw [mem_cons, not_or] at hother
      rw [foldl_cons, hrest.queue other hother.2, hone.queue other (by simpa using hother.1)]

theorem frees_release (offer : Offer) (requeueAccepted : Bool) (removeGuid : Nat) (requeueOthers : Bool) (guid : Nat) :
    Frees [guid] m (release offer requeueAccepted removeGuid requeueOthers m guid) := by
  refine ⟨rfl, rfl, fun other => ?_, fun other hother => ?_⟩
  · simp only [mem_singleton]
    exact find_erase
  · have hne : other ≠ guid := by simpa using hother
    simp only [release]
    cases m.queue.find guid with
    | none => rw [find_erase, if_neg hne]
    | some queued =>
      simp only []
      generalize (requeueAccepted && guid != removeGuid && (requeueOthers || (offer.accepted.find guid).isSome)) = keep
      cases keep with
      | true => rw [if_pos rfl, find_insert, if_neg hne]
      | false => rw [if_neg Bool.false_ne_true, find_erase, if_neg hne]

theorem frees_finish (guid : Nat) : Frees [guid] m (m.finish guid) := by
  refine ⟨rfl, rfl, fun other => ?_, fun other hother => ?_⟩
  · simp only [mem_singleton]
    exact find_erase
  · have hne : other ≠ guid := by simpa using hother
    show (m.queue.erase guid).find other = m.queue.find other
    rw [find_erase, if_neg hne]

theorem Frees.shrinks {guids : List Nat} (h : Frees guids m n) {guid : Nat} (hguid : n.playerOffers.find guid ≠ none) :
    m.playerOffers.find guid ≠ none := by
  rw [h.playerOffers] at hguid
  by_cases hmem : guid ∈ guids
  · simp [hmem] at hguid
  · rw [if_neg hmem] at hguid
    exact hguid

theorem Frees.settles {id : Nat} {offer : Offer} (h : Frees offer.roles.keys m n) (hoffer : m.offers.find id = some offer) :
    Settles m (n.dropOffer id) := by
  have hfind : ∀ other, (n.dropOffer id).offers.find other = if other = id then none else m.offers.find other := by
    intro other
    rw [← h.offers]
    exact find_erase
  have hplayers : ∀ guid, (n.dropOffer id).playerOffers.find guid =
      if guid ∈ offer.roles.keys then none else m.playerOffers.find guid := h.playerOffers
  have hkeys : ∀ guid, guid ∈ offer.roles.keys ↔ offer.roles.find guid ≠ none := fun _ => mem_keys
  refine ⟨h.next, fun hm => ⟨fun other hother => ?_, fun guid other => ?_, fun guid hguid => ?_⟩, fun guid hguid => ?_⟩
  · show other < n.nextOfferId
    rw [h.next]
    rw [hfind] at hother
    by_cases hsame : other = id
    · simp [hsame] at hother
    · rw [if_neg hsame] at hother
      exact hm.numbered other hother
  · rw [hplayers, hfind]
    by_cases hmem : guid ∈ offer.roles.keys
    · rw [if_pos hmem]
      constructor
      · intro hnone
        cases hnone
      · rintro ⟨found, hfound, hrole⟩
        by_cases hsame : other = id
        · simp [hsame] at hfound
        · -- the player would be in two offers
          rw [if_neg hsame] at hfound
          have hother := (hm.linked guid other).mpr ⟨found, hfound, hrole⟩
          have hthis := (hm.linked guid id).mpr ⟨offer, hoffer, (hkeys guid).mp hmem⟩
          rw [hother] at hthis
          exact absurd (Option.some.inj hthis) hsame
    · rw [if_neg hmem, hm.linked]
      by_cases hsame : other = id
      · subst hsame
        rw [hkeys, not_not] at hmem
        simp [hoffer, hmem]
      · rw [if_neg hsame]
  · rw [hplayers] at hguid
    by_cases hmem : guid ∈ offer.roles.keys
    · simp [hmem] at hguid
    · rw [if_neg hmem] at hguid
      show n.queue.find guid ≠ none
      rw [h.queue guid hmem]
      exact hm.queued guid hguid
  · exact h.shrinks hguid

theorem settles_cancelOffer (id : Nat) (requeueAccepted : Bool) (removeGuid : Nat) (requeueOthers : Bool) :
    Settles m (m.cancelOffer id requeueAccepted removeGuid requeueOthers) := by
  unfold cancelOffer
  cases hoffer : m.offers.find id with
  | none => exact Settles.refl m
  | some offer => exact (frees_foldl (fun _ guid => frees_release offer _ _ _ guid) _).settles hoffer

theorem find_cancelOffer {id other : Nat} (hne : other ≠ id) (requeueAccepted : Bool) (removeGuid : Nat)
    (requeueOthers : Bool) :
    (m.cancelOffer id requeueAccepted removeGuid requeueOthers).offers.find other = m.offers.find other := by
  unfold cancelOffer
  cases m.offers.find id with
  | none => rfl
  | some offer =>
    have hfrees := frees_foldl (m := m) (fun _ guid => frees_release offer requeueAccepted removeGuid
      requeueOthers guid) offer.roles.keys
    refine find_erase.trans ?_
    rw [if_neg hne, hfrees.offers]

theorem settles_completeOffer (id : Nat) : Settles m (m.completeOffer view id) := by
  unfold completeOffer
  cases hoffer : m.offers.find id with
  | none => exact Settles.refl m
  | some offer =>
    refine Settles.ite (fun _ => Settles.refl m) fun _ => Settles.ite (fun _ => ?_) fun _ => ?_
    · exact (frees_foldl (fun _ guid => frees_finish guid) _).settles hoffer
    · exact settles_cancelOffer _ _ _ _

theorem settles_handleOfferAccept (player : Nat) : Settles m (m.handleOfferAccept view player) := by
  unfold handleOfferAccept
  cases m.playerOffers.find player with
  | none => exact Settles.refl m
  | some id =>
    cases hoffer : m.offers.find id with
    | none =>
      simp only [hoffer]
      exact Settles.refl m
    | some offer =>
      have hset := settles_setOffer hoffer (rfl : (offer.accept player).roles = offer.roles)
      simp only [hoffer]
      exact Settles.ite (fun _ => hset.trans (settles_completeOffer id)) fun _ => hset

-- An offer is made of players that are in none.

def Free (m : LFTManager) (roles : OrderedMap Nat Role) : Prop :=
  ∀ guid, roles.find guid ≠ none → m.playerOffers.find guid = none

theorem free_empty : m.Free .empty := fun _ h => absurd find_empty h

variable {roles : OrderedMap Nat Role} {name : String} {seed : Nat × QueuedPlayer} {selection : Selection}

theorem Free.insert (h : m.Free roles) {guid : Nat} (role : Role)
    (hguid : m.playerOffers.find guid = none) : m.Free (roles.insert guid role) := by
  intro other hother
  rw [find_insert] at hother
  by_cases hsame : other = guid
  · rw [hsame]
    exact hguid
  · rw [if_neg hsame] at hother
    exact h other hother

theorem waiting_free {guid : Nat}
    {queued : QueuedPlayer} (h : m.waiting view name seed selection guid = some queued) :
    m.playerOffers.find guid = none := by
  unfold waiting at h
  cases hfind : m.queue.find guid with
  | none => simp [hfind] at h
  | some found =>
    by_contra hoffer
    simp [hfind, hoffer] at h

theorem placeBlock_free {placed result : Selection}
    {guids : List Nat} (hplaced : m.Free placed.roles)
    (h : m.placeBlock view name seed selection placed guids = some result) : m.Free result.roles := by
  induction guids generalizing placed with
  | nil =>
    cases h
    exact hplaced
  | cons guid rest ih =>
    unfold placeBlock at h
    cases hwaiting : m.waiting view name seed selection guid with
    | none => simp [hwaiting] at h
    | some queued =>
      cases hrole : pickRole queued.roleMask placed.seats with
      | none => simp [hwaiting, hrole] at h
      | some role =>
        simp only [hwaiting, hrole] at h
        exact ih (hplaced.insert role (waiting_free hwaiting)) h

theorem merge_free {placed : Selection} (h : m.Free selection.roles) (hplaced : m.Free placed.roles) :
    m.Free (selection.merge placed).roles := by
  have hentries : ∀ entry ∈ placed.roles.entries, m.playerOffers.find entry.1 = none := fun entry hmem =>
    hplaced entry.1 (by rw [find_of_mem hmem]; exact Option.some_ne_none _)
  show m.Free (placed.roles.entries.foldl (fun roles entry => roles.insert entry.1 entry.2) selection.roles)
  revert hentries h
  generalize selection.roles = roles
  induction placed.roles.entries generalizing roles with
  | nil => exact fun h _ => h
  | cons entry rest ih =>
    intro h hentries
    refine ih _ (h.insert entry.2 (hentries entry mem_cons_self)) fun other hmem => ?_
    exact hentries other (mem_cons_of_mem _ hmem)

theorem considerCandidate_free {order : List Nat}
    (h : m.Free selection.roles) (guid : Nat) :
    m.Free (m.considerCandidate view name order seed selection guid).roles := by
  unfold considerCandidate
  by_cases hfull : 5 ≤ selection.roles.size
  · rw [if_pos hfull]
    exact h
  rw [if_neg hfull]
  cases m.waiting view name seed selection guid with
  | none => exact h
  | some queued =>
    simp only []
    cases hplaced : m.placeBlock view name seed selection ⟨.empty, selection.seats⟩
        (m.block order (queued.leader guid)) with
    | none => exact h
    | some placed =>
      simp only []
      by_cases hfits : placed.roles.size = 0 ∨ 5 < selection.roles.size + placed.roles.size
      · rw [if_pos hfits]
        exact h
      · rw [if_neg hfits]
        exact merge_free h (placeBlock_free free_empty hplaced)

theorem selectFor_free {order : List Nat} {seed : Nat}
    (h : m.selectFor view name order seed = some roles) : m.Free roles := by
  have hfold : ∀ (player : Nat × QueuedPlayer) (guids : List Nat) (selection : Selection), m.Free selection.roles →
      m.Free (guids.foldl (m.considerCandidate view name order player) selection).roles := by
    intro player guids
    induction guids with
    | nil => exact fun _ h => h
    | cons guid rest ih => exact fun _ h => ih _ (considerCandidate_free h guid)
  unfold selectFor at h
  cases hseed : m.queue.find seed with
  | none => simp [hseed] at h
  | some queued =>
    simp only [hseed] at h
    by_cases hout : m.playerOffers.find seed ≠ none ∨ name ∉ queued.instances
    · simp [if_pos hout] at h
    · rw [if_neg hout] at h
      have hfree := hfold (seed, queued) order Selection.none free_empty
      generalize order.foldl (m.considerCandidate view name order (seed, queued)) Selection.none = selection at h hfree
      cases hcomplete : selection.complete with
      | true =>
        rw [hcomplete, if_pos rfl] at h
        cases h
        exact hfree
      | false =>
        rw [hcomplete, if_neg Bool.false_ne_true] at h
        cases h

theorem selectPlayers_free
    (h : m.selectPlayers view name = some roles) : m.Free roles := by
  obtain ⟨guid, _, hguid⟩ := exists_of_findSome?_eq_some h
  exact selectFor_free hguid

structure Promised (id : Nat) (guids : List Nat) (m n : LFTManager) : Prop where
  next : n.nextOfferId = m.nextOfferId
  offers : n.offers = m.offers
  playerOffers : ∀ guid, n.playerOffers.find guid = if guid ∈ guids then some id else m.playerOffers.find guid
  queue : ∀ guid, guid ∈ guids ∨ m.queue.find guid ≠ none → n.queue.find guid ≠ none

theorem promised_foldl (id : Nat) (entries : List (Nat × Role)) :
    Promised id (entries.map fun entry => entry.1) m (entries.foldl (promise id) m) := by
  induction entries generalizing m with
  | nil => exact ⟨rfl, rfl, fun _ => rfl, fun _ h => h.resolve_left not_mem_nil⟩
  | cons entry rest ih =>
    have hrest := ih (m := promise id m entry)
    have hplayers : ∀ guid, (promise id m entry).playerOffers.find guid =
        if guid = entry.1 then some id else m.playerOffers.find guid := fun guid => find_insert id
    have hqueue : ∀ guid, guid = entry.1 ∨ m.queue.find guid ≠ none → (promise id m entry).queue.find guid ≠ none := by
      intro guid hguid
      simp only [promise, find_insert]
      by_cases hsame : guid = entry.1
      · simp [hsame]
      · rw [if_neg hsame]
        exact hguid.resolve_left hsame
    refine ⟨hrest.next, hrest.offers, fun guid => ?_, fun guid hguid => hrest.queue guid ?_⟩
    · rw [foldl_cons, hrest.playerOffers, hplayers, map_cons]
      by_cases hmem : guid ∈ rest.map fun entry => entry.1
      · rw [if_pos hmem, if_pos (mem_cons_of_mem _ hmem)]
      · simp only [mem_cons, hmem, or_false, if_false]
    · rw [map_cons, mem_cons, or_assoc] at hguid
      rcases hguid with hhead | hmem | hold
      · exact .inr (hqueue guid (.inl hhead))
      · exact .inl hmem
      · exact .inr (hqueue guid (.inr hold))

theorem leads_makeOffer (name : String) (hfree : m.Free roles) :
    Leads m (m.makeOffer name roles) := by
  have hpromised : Promised m.newOfferId roles.keys (m.openOffer name roles) (m.makeOffer name roles) :=
    promised_foldl m.newOfferId roles.entries
  have hkeys : ∀ guid, guid ∈ roles.keys ↔ roles.find guid ≠ none := fun _ => mem_keys
  have hnext : (m.makeOffer name roles).nextOfferId = m.nextOfferId + 1 := hpromised.next
  refine ⟨hnext ▸ Nat.le_succ _, fun h hbound => ?_⟩
  have hid : m.newOfferId = m.nextOfferId := Nat.mod_eq_of_lt (by omega)
  have hunused : m.offers.find m.newOfferId = none := by
    by_contra hused
    exact absurd (h.numbered _ hused) (by omega)
  have hoffers : ∀ id, (m.makeOffer name roles).offers.find id = if id = m.newOfferId then
      some { instanceName := name, roles := roles, accepted := .empty, timer := offerTimeout }
      else m.offers.find id := by
    intro id
    rw [hpromised.offers]
    exact find_insert _
  have hplayers : ∀ guid, (m.makeOffer name roles).playerOffers.find guid =
      if guid ∈ roles.keys then some m.newOfferId else m.playerOffers.find guid := hpromised.playerOffers
  refine ⟨fun id hid' => ?_, fun guid id => ?_, fun guid hguid => ?_⟩
  · rw [hoffers] at hid'
    rw [hnext]
    by_cases hsame : id = m.newOfferId
    · omega
    · rw [if_neg hsame] at hid'
      exact Nat.lt_succ_of_lt (h.numbered id hid')
  · rw [hplayers, hoffers]
    by_cases hmem : guid ∈ roles.keys
    · rw [if_pos hmem]
      by_cases hsame : id = m.newOfferId
      · simp [hsame, (hkeys guid).mp hmem]
      · rw [if_neg hsame, ← h.linked, hfree guid ((hkeys guid).mp hmem)]
        simp [Ne.symm hsame]
    · rw [if_neg hmem, h.linked]
      by_cases hsame : id = m.newOfferId
      · rw [hkeys, not_not] at hmem
        simp [hsame, hunused, hmem]
      · rw [if_neg hsame]
  · rw [hplayers] at hguid
    refine hpromised.queue guid ?_
    by_cases hmem : guid ∈ roles.keys
    · exact .inl hmem
    · rw [if_neg hmem] at hguid
      exact .inr (h.queued guid hguid)

theorem leads_tryBuildOfferForInstance (name : String) : Leads m (m.tryBuildOfferForInstance view name) := by
  unfold tryBuildOfferForInstance
  cases hroles : m.selectPlayers view name with
  | none => exact Leads.refl m
  | some roles => exact leads_makeOffer name (selectPlayers_free hroles)

theorem leads_tryMakeOffers : Leads m (m.tryMakeOffers view) :=
  leads_foldl (fun _ name => leads_tryBuildOfferForInstance name) _

theorem leads_enqueueRolecheck (leader : Nat) (rolecheck : PendingRolecheck) :
    Leads m (m.enqueueRolecheck view leader rolecheck) := by
  refine Leads.trans (Settles.leads (settles_foldl (fun m guid => ?_) _)) leads_tryMakeOffers
  refine Settles.ite (fun _ => ?_) fun _ => Settles.refl m
  cases rolecheck.responses.find guid with
  | none => exact Settles.refl m
  | some mask => exact settles_enqueuePlayer _ _ _ _

theorem Leads.ite {c : Prop} [Decidable c] (hn : c → Leads m n) (hk : ¬c → Leads m k) : Leads m (if c then n else k) := by
  by_cases hc : c
  · rw [if_pos hc]
    exact hn hc
  · rw [if_neg hc]
    exact hk hc

theorem leads_handleRolecheckResponse (player : Nat) (roles : List Char) :
    Leads m (m.handleRolecheckResponse view player roles) := by
  refine Leads.ite (fun _ => Leads.refl m) fun _ => ?_
  cases m.rolecheckOf player with
  | none => exact Leads.refl m
  | some entry =>
    refine Leads.ite (fun _ => ?_) fun _ => (settles_setRolecheck _ _).leads
    exact (settles_eraseRolecheck _).leads.trans (leads_enqueueRolecheck _ _)

theorem leads_botResponse (guid : Nat) : Leads m (botResponse view m guid) := by
  refine Leads.ite (fun _ => ?_) fun _ => Leads.refl m
  exact Leads.ite (fun _ => Leads.refl m) fun _ => leads_handleRolecheckResponse _ _

theorem leads_startRolecheck (leader : Nat) (instances : List String) :
    Leads m (m.startRolecheck view leader instances) := by
  have hset := (settles_setRolecheck (m := m) leader
    { members := view.getPartyMembers leader, instances := instances, responses := .empty,
      timer := rolecheckTimeout }).leads
  exact Leads.ite (fun _ => hset.trans (leads_foldl (fun _ guid => leads_botResponse guid) _)) fun _ => hset

theorem settles_cleanupRolechecks (guid : Nat) : Settles m (m.cleanupRolechecks guid) :=
  settles_foldl (fun m _ => Settles.ite (fun _ => settles_eraseRolecheck _) fun _ => Settles.refl m) _

theorem settles_cleanupPlayer (guid : Nat) : Settles m (m.cleanupPlayer guid) := by
  refine Settles.trans ?_ (settles_cleanupRolechecks guid)
  have hsame : (m.eraseQueued guid).playerOffers = m.playerOffers := rfl
  rw [hsame]
  cases hguid : m.playerOffers.find guid with
  | none => exact settles_eraseQueued hguid
  | some id =>
    simp only [cancelOffer]
    have hoffers : (m.eraseQueued guid).offers = m.offers := rfl
    rw [hoffers]
    cases hoffer : m.offers.find id with
    | none =>
      refine ⟨rfl, fun h => ?_, fun _ hother => hother⟩
      obtain ⟨offer, hsome, _⟩ := (h.linked guid id).mp hguid
      rw [hoffer] at hsome
      cases hsome
    | some offer =>
      have hfrees := frees_foldl (m := m.eraseQueued guid)
        (fun _ guid' => frees_release offer true guid true guid') offer.roles.keys
      refine ⟨hfrees.next, fun h => ?_, fun other hother => ?_⟩
      · obtain ⟨found, hfound, hrole⟩ := (h.linked guid id).mp hguid
        rw [hoffer] at hfound
        cases hfound
        have hmine : guid ∈ offer.roles.keys := mem_keys.mpr hrole
        have hothers : ∀ other, other ∉ offer.roles.keys →
            (m.eraseQueued guid).queue.find other = m.queue.find other := by
          intro other hother
          refine find_erase.trans (if_neg ?_)
          rintro rfl
          exact hother hmine
        have hfrom : Frees offer.roles.keys m _ :=
          ⟨hfrees.next, hfrees.offers, hfrees.playerOffers, fun other hother =>
            (hfrees.queue other hother).trans (hothers other hother)⟩
        exact (hfrom.settles hoffer).kept h
      · exact hfrees.shrinks hother

theorem leads_handleQueueJoin (player : Nat) (requested : List String) (roles : List Char) :
    Leads m (m.handleQueueJoin view player requested roles) := by
  unfold handleQueueJoin
  refine Leads.ite (fun _ => Leads.refl m) fun _ => ?_
  exact (settles_cleanupPlayer player).leads.trans (leads_startRolecheck _ _)

theorem eraseQueued_foldl {guids : List Nat} (hfree : ∀ guid ∈ guids, m.playerOffers.find guid = none) :
    Settles m (guids.foldl eraseQueued m) := by
  induction guids generalizing m with
  | nil => exact Settles.refl m
  | cons guid rest ih =>
    have hone := settles_eraseQueued (hfree guid mem_cons_self)
    exact hone.trans (ih fun other hmem => hfree other (mem_cons_of_mem _ hmem))

theorem pruneQueue_settles (hworld : ∀ guid, m.playerOffers.find guid ≠ none → view.inWorld guid = true) :
    Settles m (m.pruneQueue view) := by
  unfold pruneQueue
  induction m.queue.keys generalizing m with
  | nil => exact Settles.refl m
  | cons guid rest ih =>
    cases hin : view.inWorld guid with
    | true =>
      rw [foldl_cons, if_pos hin]
      exact ih hworld
    | false =>
      rw [foldl_cons, if_neg (by simp [hin])]
      have hout : m.playerOffers.find guid = none := by
        by_contra hoffer
        rw [hworld guid hoffer] at hin
        cases hin
      exact (settles_eraseQueued hout).trans (ih hworld)

theorem settles_acceptOffersForFillBots : Settles m (m.acceptOffersForFillBots view) := by
  refine settles_foldl (fun m entry => settles_foldl (fun m guid => ?_) _) _
  cases m.offers.find entry.1 with
  | none => exact Settles.refl m
  | some offer => exact Settles.ite (fun _ => settles_handleOfferAccept guid) fun _ => Settles.refl m

theorem settles_dropUnneededFillBots : Settles m (m.dropUnneededFillBots view) := by
  refine settles_foldl (fun m guid => ?_) _
  refine Settles.ite (fun _ => Settles.refl m) fun hfree => Settles.ite (fun _ => Settles.refl m) fun _ => ?_
  have hguid : m.playerOffers.find guid = none := by simpa using hfree
  exact (settles_eraseQueued hguid).trans (settles_same rfl rfl rfl fun _ h => h)

theorem settles_enlist (bot : Nat × String × Role) : Settles m (enlist view m bot) := by
  refine Settles.ite (fun _ => Settles.refl m) fun _ => ?_
  exact (settles_enqueuePlayer _ _ _ _).trans (settles_same rfl rfl rfl fun _ h => h)

theorem settles_seedBotOnlyQueue : Settles m (m.seedBotOnlyQueue view) := by
  unfold seedBotOnlyQueue
  cases view.seed with
  | none => exact Settles.refl m
  | some seed => exact Settles.ite (fun _ => settles_enqueuePlayer _ _ _ _) fun _ => Settles.refl m

theorem settles_updateBotFill (diff : Nat) : Settles m (m.updateBotFill view diff) := by
  refine Settles.ite (fun _ => ?_) fun _ => settles_dropUnneededFillBots
  have haccepted : Settles m (m.acceptOffersForFillBots view) := settles_acceptOffersForFillBots
  refine Settles.ite (fun _ => haccepted.trans (settles_same rfl rfl rfl fun _ h => h)) fun _ => ?_
  have htimer : Settles m { m.acceptOffersForFillBots view with botFillTimer := 5000 } :=
    haccepted.trans (settles_same rfl rfl rfl fun _ h => h)
  have hdropped : Settles m (({ m.acceptOffersForFillBots view with botFillTimer := 5000 } :
      LFTManager).dropUnneededFillBots view) := htimer.trans settles_dropUnneededFillBots
  exact (hdropped.trans settles_seedBotOnlyQueue).trans (settles_foldl (fun _ bot => settles_enlist bot) _)

theorem settles_updateRolechecks (diff : Nat) : Settles m (m.updateRolechecks diff) :=
  settles_foldl (fun _ _ => Settles.ite (fun _ => settles_eraseRolecheck _) fun _ => settles_setRolecheck _ _) _

-- Each offer is met as it stood before the walk: the walk touches one at a time.
theorem settles_updateOffers (diff : Nat) : Settles m (m.updateOffers diff) := by
  have hfind : ∀ entry ∈ m.offers.entries, m.offers.find entry.1 = some entry.2 := fun _ hmem =>
    find_of_mem hmem
  have hsorted := m.offers.sorted
  unfold updateOffers
  generalize m.offers.entries = entries at hfind hsorted ⊢
  induction entries generalizing m with
  | nil => exact Settles.refl m
  | cons entry rest ih =>
    obtain ⟨habove, hrest⟩ := pairwise_cons.mp hsorted
    have hthis := hfind entry mem_cons_self
    have hnext : ∀ n : LFTManager, (∀ other, other ≠ entry.1 → n.offers.find other = m.offers.find other) →
        ∀ other ∈ rest, n.offers.find other.1 = some other.2 := by
      intro n hsame other hmem
      rw [hsame other.1 (ne_of_gt (habove other hmem))]
      exact hfind other (mem_cons_of_mem _ hmem)
    rw [foldl_cons]
    by_cases hexpired : entry.2.timer ≤ diff
    · rw [if_pos hexpired]
      exact (settles_cancelOffer _ _ _ _).trans (ih (hnext _ fun other hne => find_cancelOffer hne _ _ _) hrest)
    · rw [if_neg hexpired]
      have hwaits := settles_setOffer hthis (rfl : (entry.2.wait diff).roles = entry.2.roles)
      refine hwaits.trans (ih (hnext _ fun other hne => ?_) hrest)
      exact (find_insert _).trans (if_neg hne)

-- A step of a run that takes no entry away from under an offer: who has an
-- offer is in the world at an update, and who leaves the queue leaves nobody
-- in an offer without entry.
def KeepsEntries (m : LFTManager) (message : Message) : Prop :=
  match message.op with
  | .update _ => ∀ guid ∈ m.playerOffers.keys, message.view.inWorld guid = true
  | .queueLeave player => m.rolecheckOf player = none → m.playerOffers.find player = none →
      ∀ queued, m.queue.find player = some queued → ∀ guid ∈ m.underLeader (queued.leader player),
        m.playerOffers.find guid = none
  | _ => True

theorem leads_handleQueueLeave (player : Nat) (hleave : KeepsEntries m ⟨view, .queueLeave player⟩) :
    Leads m (m.handleQueueLeave view player) := by
  unfold handleQueueLeave
  cases hrolecheck : m.rolecheckOf player with
  | some entry => exact (settles_eraseRolecheck _).leads
  | none =>
    cases hoffer : m.playerOffers.find player with
    | some id => exact (settles_cancelOffer _ _ _ _).leads.trans leads_tryMakeOffers
    | none =>
      cases hqueued : m.queue.find player with
      | none => exact Leads.refl m
      | some queued => exact (eraseQueued_foldl (hleave hrolecheck hoffer queued hqueued)).leads

theorem leads_update (diff : Nat) (hupdate : KeepsEntries m ⟨view, .update diff⟩) : Leads m (m.update view diff) := by
  have hfill : Settles m (m.updateBotFill view diff) := settles_updateBotFill diff
  have hworld : ∀ guid, (m.updateBotFill view diff).playerOffers.find guid ≠ none → view.inWorld guid = true :=
    fun guid hguid => hupdate guid (mem_keys.mpr (hfill.shrinks guid hguid))
  have hpruned := hfill.trans (pruneQueue_settles hworld)
  exact ((hpruned.trans (settles_updateRolechecks diff)).trans (settles_updateOffers diff)).leads.trans
    leads_tryMakeOffers

theorem leads_receive (message : Message) (hkeeps : KeepsEntries m message) : Leads m (m.receive message) := by
  obtain ⟨view, op⟩ := message
  cases op with
  | queueJoin player requested roles => exact leads_handleQueueJoin player requested roles
  | queueLeave player => exact leads_handleQueueLeave player hkeeps
  | rolecheckResponse player roles => exact leads_handleRolecheckResponse player roles
  | offerAccept player => exact (settles_handleOfferAccept player).leads
  | update diff => exact leads_update diff hkeeps
  | playerLogout guid => exact (settles_cleanupPlayer guid).leads

theorem leads_run {messages : List Message} (hruns : Run.Guarded receive KeepsEntries m messages) :
    Leads m (Run.run receive m messages) :=
  Run.run_rel receive KeepsEntries (fun _ => True) Leads Leads.refl (fun _ _ _ h hk => h.trans hk)
    (fun _ message _ hok => ⟨trivial, leads_receive message hok⟩) trivial hruns

theorem agrees_run {messages : List Message} (hruns : Run.Guarded receive KeepsEntries new messages)
    (hoffers : (Run.run receive new messages).nextOfferId ≤ 2 ^ 32) : (Run.run receive new messages).Agrees :=
  ((leads_run hruns).kept kept_new hoffers).agrees

instance (m : LFTManager) (message : Message) : Decidable (KeepsEntries m message) := by
  obtain ⟨view, op⟩ := message
  cases op with
  | update diff => exact inferInstanceAs (Decidable (∀ guid ∈ m.playerOffers.keys, view.inWorld guid = true))
  | queueLeave player =>
    cases hqueued : m.queue.find player with
    | none => exact isTrue fun _ _ queued hsome => by simp [hqueued] at hsome
    | some queued =>
      have hall : Decidable (m.rolecheckOf player = none → m.playerOffers.find player = none →
          ∀ guid ∈ m.underLeader (queued.leader player), m.playerOffers.find guid = none) := by
        cases m.rolecheckOf player with
        | none => infer_instance
        | some entry => exact isTrue fun hsome => by cases hsome
      exact decidable_of_iff _ ⟨fun h hr ho found hfound => by
        rw [hqueued] at hfound
        cases hfound
        exact h hr ho, fun h hr ho => h hr ho queued hqueued⟩
  | _ => exact inferInstanceAs (Decidable True)

def sampleClass : Nat → PlayerClass
  | 1 => .warrior
  | 2 => .priest
  | _ => .mage

def sampleView (inWorld : Nat → Bool) : View :=
  { inWorld := inWorld, playerClass := sampleClass, team := fun _ => 0, isHardcore := fun _ => false,
    group := fun _ => none, twoSideGroups := false, hardcoreAllows := fun _ _ => true,
    validDestinations := fun _ _ => true, addsToGroup := fun _ _ => true, teleports := fun _ _ => true,
    botFill := false, machineDriven := fun _ => false, scriptRoles := fun _ => RoleMask.none, seed := none, fill := [] }

def samplePresent : View := sampleView fun _ => true

def sampleJoin (player : Nat) (role : Char) : List Message :=
  [⟨samplePresent, .queueJoin player ["Stockade"] [role]⟩, ⟨samplePresent, .rolecheckResponse player [role]⟩]

def sampleFive : List Message :=
  sampleJoin 1 't' ++ sampleJoin 2 'h' ++ sampleJoin 3 'd' ++ sampleJoin 4 'd' ++ sampleJoin 5 'd'

theorem agrees_run_five : (Run.run receive new
    (sampleFive ++ [⟨samplePresent, .offerAccept 1⟩, ⟨samplePresent, .update 100⟩])).Agrees :=
  agrees_run (by decide +kernel) (by decide +kernel)

-- A player on his way between two maps is not in the world when the offer he
-- is in is a moment old.
theorem not_agrees_run : ¬∀ messages : List Message, (Run.run receive new messages).nextOfferId ≤ 2 ^ 32 →
    (Run.run receive new messages).Agrees := by
  intro h
  have hagrees := h (sampleFive ++ [⟨sampleView fun guid => guid != 5, .update 100⟩]) (by decide +kernel)
  have hlink := (hagrees.linked 5 1).mp (by decide +kernel)
  obtain ⟨offer, hoffer, hrole⟩ := hlink
  have hentry := hagrees.queued 1 offer 5 hoffer hrole
  revert hentry
  decide +kernel

end LFTManager

end TurtleWow.Lft
