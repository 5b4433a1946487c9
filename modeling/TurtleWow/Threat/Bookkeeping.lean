import TurtleWow.Lib.Lists
import TurtleWow.Threat.Manager

namespace TurtleWow.Threat

open List Function

-- Every live reference stands once, in the container its status names; no
-- unit has two; the victim is among the online ones.

namespace ThreatManager

structure Bookkept (m : ThreatManager) : Prop where
  once : ∀ (ref : Nat) (reference : HostileReference), m.refs ref = some reference →
    (m.onlineList ++ m.offlineList).count ref = 1 ∧ (ref ∈ m.onlineList ↔ reference.online = true)
  member : ∀ ref ∈ m.onlineList ++ m.offlineList, m.refs ref ≠ none
  unique : ∀ (ref other : Nat) (guid : Nat), m.guidOf ref = some guid → m.guidOf other = some guid → ref = other
  victim : ∀ ref, m.currentVictim = some ref → ref ∈ m.onlineList

-- What the operations preserve. A live reference keeps its link: only the
-- removal cuts it, and the removal ends with its deletion.
structure Kept (m : ThreatManager) : Prop where
  live : ∀ (ref : Nat) (reference : HostileReference), m.refs ref = some reference →
    ref < m.fresh ∧ reference.valid = true
  nodup : (m.onlineList ++ m.offlineList).Nodup
  online : ∀ ref, ref ∈ m.onlineList ↔ ∃ reference, m.refs ref = some reference ∧ reference.online = true
  offline : ∀ ref, ref ∈ m.offlineList ↔ ∃ reference, m.refs ref = some reference ∧ reference.online = false
  unique : ∀ (ref other : Nat) (guid : Nat), m.guidOf ref = some guid → m.guidOf other = some guid → ref = other
  victim : ∀ ref, m.currentVictim = some ref → ref ∈ m.onlineList

variable {m : ThreatManager} {ref : Nat} {reference : HostileReference}

theorem Kept.stands (h : m.Kept) (href : m.refs ref = some reference) :
    (m.onlineList ++ m.offlineList).count ref = 1 ∧ (ref ∈ m.onlineList ↔ reference.online = true) := by
  have hmem : ref ∈ m.onlineList ++ m.offlineList := by
    rw [mem_append, h.online, h.offline]
    cases honline : reference.online with
    | true => exact .inl ⟨reference, href, honline⟩
    | false => exact .inr ⟨reference, href, honline⟩
  refine ⟨count_eq_one_of_mem h.nodup hmem, ?_⟩
  rw [h.online]
  constructor
  · rintro ⟨other, hother, honline⟩
    rw [href] at hother
    cases hother
    exact honline
  · exact fun honline => ⟨reference, href, honline⟩

theorem Kept.bookkept (h : m.Kept) : m.Bookkept := by
  refine ⟨fun _ _ href => h.stands href, ?_, h.unique, h.victim⟩
  intro ref hmem hnone
  rw [mem_append, h.online, h.offline, hnone] at hmem
  simp at hmem

theorem kept_new (owner : Nat) : (new owner).Kept := by
  refine ⟨?_, by simp [new], ?_, ?_, ?_, ?_⟩ <;> simp [new, guidOf]

theorem refs_update (f : HostileReference → HostileReference) (other : Nat) :
    (m.update ref f).refs other = if other = ref then (m.refs ref).map f else m.refs other :=
  update_apply ..

@[simp] theorem currentVictim_update (f : HostileReference → HostileReference) :
    (m.update ref f).currentVictim = m.currentVictim := rfl

variable {f : HostileReference → HostileReference} {list : List Nat}

theorem update_eq_self (hsame : (m.refs ref).map f = m.refs ref) :
    m.update ref f = m := by
  unfold ThreatManager.update
  rw [hsame, Function.update_eq_self]

variable (m ref) in
theorem guidOf_update (f : HostileReference → HostileReference)
    (hguid : ∀ reference, (f reference).unitGuid = reference.unitGuid) (other : Nat) :
    (m.update ref f).guidOf other = m.guidOf other := by
  rw [guidOf, refs_update, guidOf]
  by_cases heq : other = ref
  · subst heq
    rw [if_pos rfl, Option.map_map]
    congr 1
    exact funext hguid
  · rw [if_neg heq]

-- A step that writes fields other than the guid, the status and the link of
-- one reference, and leaves the containers.
theorem Kept.update (h : m.Kept)
    (hguid : ∀ reference, (f reference).unitGuid = reference.unitGuid)
    (honline : ∀ reference, (f reference).online = reference.online)
    (hvalid : ∀ reference, reference.valid = true → (f reference).valid = true) : (m.update ref f).Kept := by
  have hstatus : ∀ other status, (∃ reference, (m.update ref f).refs other = some reference ∧
      reference.online = status) ↔ ∃ reference, m.refs other = some reference ∧ reference.online = status := by
    intro other status
    rw [refs_update]
    by_cases heq : other = ref
    · subst heq
      rw [if_pos rfl]
      cases hother : m.refs other with
      | none => simp
      | some reference => simp [honline]
    · rw [if_neg heq]
  refine ⟨?_, h.nodup, ?_, ?_, ?_, h.victim⟩
  · intro other reference hother
    rw [refs_update] at hother
    by_cases heq : other = ref
    · subst heq
      rw [if_pos rfl, Option.map_eq_some_iff] at hother
      obtain ⟨old, hold, rfl⟩ := hother
      exact ⟨(h.live other old hold).1, hvalid old (h.live other old hold).2⟩
    · rw [if_neg heq] at hother
      exact h.live other reference hother
  · intro other
    rw [hstatus]
    exact h.online other
  · intro other
    rw [hstatus]
    exact h.offline other
  · intro ref other guid hone htwo
    rw [guidOf_update m _ f hguid] at hone htwo
    exact h.unique ref other guid hone htwo

theorem Kept.dirty (h : m.Kept) (dirty : Bool) : ({ m with dirty := dirty } : ThreatManager).Kept :=
  ⟨h.live, h.nodup, h.online, h.offline, h.unique, h.victim⟩

theorem Kept.threatChange (h : m.Kept) (value : ℚ) : (m.processThreatEvent (.threatChange ref value)).Kept := by
  unfold processThreatEvent
  by_cases hchange : (m.currentVictim = some ref ∧ value < 0) ∨ (m.currentVictim ≠ some ref ∧ 0 < value)
  · simp only [if_pos hchange]
    exact h.dirty true
  · simp only [if_neg hchange]
    exact h

theorem setAccessibleState_eq (accessible : Bool) :
    m.setAccessibleState ref accessible = m.update ref fun reference => reference.setAccessible accessible := by
  unfold setAccessibleState
  cases href : m.refs ref with
  | none => exact (update_eq_self (by simp [href])).symm
  | some reference =>
    by_cases hsame : reference.accessible = accessible
    · simp only [if_pos hsame]
      exact (update_eq_self (by simp [href, ← hsame, HostileReference.setAccessible])).symm
    · simp only [if_neg hsame]
      rfl

theorem Kept.setAccessibleState (h : m.Kept) (accessible : Bool) : (m.setAccessibleState ref accessible).Kept := by
  rw [setAccessibleState_eq]
  exact h.update (fun _ => rfl) (fun _ => rfl) fun _ hvalid => hvalid

theorem Kept.notMem_online (h : m.Kept) (href : m.refs ref = some reference) (honline : reference.online = false) :
    ref ∉ m.onlineList := by
  rw [h.online]
  rintro ⟨other, hother, hstatus⟩
  rw [href] at hother
  cases hother
  rw [honline] at hstatus
  cases hstatus

theorem Kept.notMem_offline (h : m.Kept) (href : m.refs ref = some reference) (honline : reference.online = true) :
    ref ∉ m.offlineList := by
  rw [h.offline]
  rintro ⟨other, hother, hstatus⟩
  rw [href] at hother
  cases hother
  rw [honline] at hstatus
  cases hstatus

theorem Kept.move (h : m.Kept) (href : m.refs ref = some reference) (online dirty : Bool)
    {onlineList offlineList : List Nat} {currentVictim : Option Nat} (hnodup : (onlineList ++ offlineList).Nodup)
    (honline : ∀ other, other ∈ onlineList ↔ if other = ref then online = true else other ∈ m.onlineList)
    (hoffline : ∀ other, other ∈ offlineList ↔ if other = ref then online = false else other ∈ m.offlineList)
    (hvictim : ∀ other, currentVictim = some other → other ∈ onlineList) :
    ({ m.update ref fun reference => reference.setOnline online with
       onlineList := onlineList, offlineList := offlineList, dirty := dirty,
       currentVictim := currentVictim } : ThreatManager).Kept := by
  have hlookup : ∀ other status, (∃ moved, (m.update ref fun reference =>
      reference.setOnline online).refs other = some moved ∧ moved.online = status) ↔
      if other = ref then online = status else ∃ moved, m.refs other = some moved ∧ moved.online = status := by
    intro other status
    rw [refs_update]
    by_cases heq : other = ref
    · simp [heq, href, HostileReference.setOnline]
    · simp [heq]
  refine ⟨?_, hnodup, ?_, ?_, ?_, hvictim⟩
  · intro other moved hother
    have hother : (m.update ref fun reference => reference.setOnline online).refs other = some moved := hother
    rw [refs_update] at hother
    by_cases heq : other = ref
    · subst heq
      rw [if_pos rfl, href] at hother
      cases hother
      exact h.live other reference href
    · rw [if_neg heq] at hother
      exact h.live other moved hother
  · intro other
    refine ((honline other).trans ?_).trans (hlookup other true).symm
    rw [h.online]
  · intro other
    refine ((hoffline other).trans ?_).trans (hlookup other false).symm
    rw [h.offline]
  · intro one other guid hone htwo
    have hguids := guidOf_update m ref (fun reference => reference.setOnline online) fun _ => rfl
    exact h.unique one other guid ((hguids one).symm.trans hone) ((hguids other).symm.trans htwo)

theorem mem_concat_self {status : Prop} (hstatus : status) (list : List Nat) (ref other : Nat) :
    other ∈ list ++ [ref] ↔ if other = ref then status else other ∈ list := by
  by_cases heq : other = ref
  · simp [heq, hstatus]
  · simp [heq]

theorem mem_filter_self {status : Prop} (hstatus : ¬status) (list : List Nat) (ref other : Nat) :
    (other ∈ list.filter fun other => other ≠ ref) ↔ if other = ref then status else other ∈ list := by
  by_cases heq : other = ref
  · simp [heq, hstatus]
  · simp [heq]

theorem Kept.comesOnline (h : m.Kept) (href : m.refs ref = some reference) (honline : reference.online = false) :
    (((m.update ref fun reference => reference.setOnline true).addOnline ref).removeOffline ref).Kept := by
  have hout := h.notMem_online href honline
  refine h.move href true m.dirty ?_ (mem_concat_self rfl m.onlineList ref)
    (mem_filter_self (by decide) m.offlineList ref) ?_
  · show (m.onlineList ++ [ref] ++ m.offlineList.filter fun other => other ≠ ref).Nodup
    rw [append_assoc, singleton_append, nodup_middle, nodup_cons]
    refine ⟨by simp [hout], h.nodup.sublist ?_⟩
    exact filter_sublist.append_left _
  · intro other hother
    exact mem_append_left _ (h.victim other hother)

theorem Kept.goesOffline (h : m.Kept) (href : m.refs ref = some reference) (honline : reference.online = true) :
    ((((m.update ref fun reference => reference.setOnline false).dropVictim ref).removeOnline ref).addOffline
      ref).Kept := by
  have hout := h.notMem_offline href honline
  have hnodup : ((m.onlineList.filter fun other => other ≠ ref) ++ (m.offlineList ++ [ref])).Nodup := by
    rw [← append_assoc]
    refine Lists.nodup_concat (h.nodup.sublist (filter_sublist.append_right _)) ?_
    simp [hout]
  have honlines : ∀ other, _ ↔ if other = ref then false = true else other ∈ m.onlineList :=
    mem_filter_self (by decide) m.onlineList ref
  have hofflines : ∀ other, _ ↔ if other = ref then false = false else other ∈ m.offlineList :=
    mem_concat_self rfl m.offlineList ref
  by_cases hvictim : m.currentVictim = some ref
  · rw [dropVictim, currentVictim_update, if_pos hvictim]
    exact h.move href false true hnodup honlines hofflines fun other hother => by cases hother
  · rw [dropVictim, currentVictim_update, if_neg hvictim]
    refine h.move href false m.dirty hnodup honlines hofflines fun other hother => ?_
    have hne : other ≠ ref := fun heq => hvictim (heq ▸ hother)
    refine (honlines other).mpr ?_
    rw [if_neg hne]
    exact h.victim other hother

theorem update_update (f g : HostileReference → HostileReference) :
    (m.update ref f).update ref g = m.update ref fun reference => g (f reference) := by
  unfold ThreatManager.update
  simp only [update_self, update_idem, Option.map_map]
  rfl

theorem isOnline_update (href : m.refs ref = some reference) :
    (m.update ref f).isOnline ref = (f reference).online := by
  rw [isOnline, refs_update, if_pos rfl, href]
  rfl

theorem processThreatEvent_online (honline : m.isOnline ref = true) : ∃ dirty,
    m.processThreatEvent (.onlineStatus ref) = { (m.addOnline ref).removeOffline ref with dirty := dirty } := by
  simp only [processThreatEvent, if_pos honline]
  cases m.currentVictim with
  | none => exact ⟨m.dirty, rfl⟩
  | some victim =>
    by_cases hmore : 11 / 10 * m.threatOf victim < m.threatOf ref
    · simp only [if_pos hmore]
      exact ⟨true, rfl⟩
    · simp only [if_neg hmore]
      exact ⟨m.dirty, rfl⟩

theorem processThreatEvent_offline (honline : m.isOnline ref = false) :
    m.processThreatEvent (.onlineStatus ref) = ((m.dropVictim ref).removeOnline ref).addOffline ref := by
  simp [processThreatEvent, honline]

theorem Kept.setOnlineOfflineState (h : m.Kept) (online : Bool) : (m.setOnlineOfflineState ref online).Kept := by
  unfold ThreatManager.setOnlineOfflineState
  cases href : m.refs ref with
  | none => exact h
  | some reference =>
    by_cases hsame : reference.online = online
    · simp only [if_pos hsame]
      exact h
    · simp only [if_neg hsame]
      cases online with
      | true =>
        obtain ⟨dirty, heq⟩ := processThreatEvent_online
          (isOnline_update (f := fun reference => reference.setOnline true) href)
        rw [if_pos rfl, heq]
        exact (h.comesOnline href (by simpa using hsame)).dirty dirty
      | false =>
        have haccess : (m.setAccessibleState ref false).Kept := h.setAccessibleState false
        have hswap : (m.update ref fun reference => reference.setOnline false).setAccessibleState ref false =
            (m.setAccessibleState ref false).update ref fun reference => reference.setOnline false := by
          simp only [setAccessibleState_eq, update_update]
          rfl
        have hlookup : (m.setAccessibleState ref false).refs ref = some (reference.setAccessible false) := by
          rw [setAccessibleState_eq, refs_update, if_pos rfl, href]
          rfl
        rw [if_neg (by decide), hswap, processThreatEvent_offline (isOnline_update hlookup)]
        have honline : reference.online = true := by simpa using hsame
        exact haccess.goesOffline hlookup honline

theorem refs_dropVictim : (m.dropVictim ref).refs = m.refs := by
  unfold dropVictim
  by_cases hvictim : m.currentVictim = some ref
  · rw [if_pos hvictim]
  · rw [if_neg hvictim]

theorem refs_processThreatEvent (event : ThreatRefStatusChange) : (m.processThreatEvent event).refs = m.refs := by
  cases event with
  | threatChange ref value =>
    by_cases hchange : (m.currentVictim = some ref ∧ value < 0) ∨ (m.currentVictim ≠ some ref ∧ 0 < value)
    · simp only [processThreatEvent, if_pos hchange]
      rfl
    · simp only [processThreatEvent, if_neg hchange]
  | onlineStatus ref =>
    cases honline : m.isOnline ref with
    | true =>
      obtain ⟨dirty, heq⟩ := processThreatEvent_online honline
      rw [heq]
      rfl
    | false =>
      rw [processThreatEvent_offline honline]
      exact refs_dropVictim
  | accessibleStatus ref => rfl
  | removeFromList ref =>
    simp only [processThreatEvent]
    cases m.isOnline ref with
    | true => exact refs_dropVictim
    | false => exact refs_dropVictim

theorem setOnlineOfflineState_offline (href : m.refs ref = some reference) :
    ∃ gone, (m.setOnlineOfflineState ref false).refs ref = some gone ∧ gone.online = false := by
  simp only [ThreatManager.setOnlineOfflineState, href]
  by_cases hsame : reference.online = false
  · rw [if_pos hsame]
    exact ⟨reference, href, hsame⟩
  · refine ⟨(reference.setOnline false).setAccessible false, ?_, rfl⟩
    rw [if_neg hsame, if_neg (by decide), refs_processThreatEvent, setAccessibleState_eq, update_update, refs_update,
      if_pos rfl, href]
    rfl

theorem Kept.updateOnlineStatus (h : m.Kept) (view : View) : (m.updateOnlineStatus view ref).Kept := by
  unfold ThreatManager.updateOnlineStatus
  cases href : m.refs ref with
  | none => exact h
  | some reference =>
    have hvalid := (h.live ref reference href).2
    simp only [hvalid, Bool.true_or]
    refine Kept.setOnlineOfflineState (Kept.setAccessibleState ?_ false) _
    exact h.update (fun _ => rfl) (fun _ => rfl) fun _ _ => rfl

theorem Kept.ite {c : Prop} [Decidable c] {first second : ThreatManager} (hfirst : c → first.Kept)
    (hsecond : ¬c → second.Kept) : (if c then first else second).Kept := by
  by_cases hc : c
  · rw [if_pos hc]
    exact hfirst hc
  · rw [if_neg hc]
    exact hsecond hc

theorem Kept.raise (h : m.Kept) (view : View) (mod : ℚ) : (m.raise view ref mod).Kept := by
  have hgain : (m.update ref fun reference => reference.gain mod).Kept :=
    h.update (fun _ => rfl) (fun _ => rfl) fun _ hvalid => hvalid
  have honline : ((m.update ref fun reference => reference.gain mod).updateOnlineStatus view ref).Kept :=
    hgain.updateOnlineStatus view
  have hstatus := Kept.ite (c := (m.update ref fun reference => reference.gain mod).isOnline ref = true)
    (fun _ => hgain) fun _ => honline
  exact Kept.ite (fun _ => hstatus.threatChange mod) fun _ => hstatus

theorem getReferenceByTarget_some {guid : Nat} (h : m.getReferenceByTarget list guid = some ref) :
    ref ∈ list ∧ m.guidOf ref = some guid :=
  ⟨mem_of_find?_eq_some h, by simpa using List.find?_some h⟩

theorem Kept.mem_of_guidOf (h : m.Kept) {guid : Nat} (hguid : m.guidOf ref = some guid) :
    ref ∈ m.onlineList ∨ ref ∈ m.offlineList := by
  obtain ⟨reference, href, _⟩ := Option.map_eq_some_iff.mp hguid
  rw [h.online, h.offline]
  cases honline : reference.online with
  | true => exact .inl ⟨reference, href, honline⟩
  | false => exact .inr ⟨reference, href, honline⟩

theorem Kept.newReference (h : m.Kept) {guid : Nat} (honline : m.getReferenceByTarget m.onlineList guid = none)
    (hoffline : m.getReferenceByTarget m.offlineList guid = none) : (m.newReference guid).Kept := by
  have habsent : ∀ ref, m.guidOf ref ≠ some guid := by
    intro ref hguid
    rcases h.mem_of_guidOf hguid with hmem | hmem
    · have hnone := List.find?_eq_none.mp honline ref hmem
      simp [hguid] at hnone
    · have hnone := List.find?_eq_none.mp hoffline ref hmem
      simp [hguid] at hnone
  have hfresh : m.refs m.fresh = none := by
    cases href : m.refs m.fresh with
    | none => rfl
    | some reference => exact absurd (h.live m.fresh reference href).1 (Nat.lt_irrefl _)
  have hold : ∀ ref, ref ≠ m.fresh → (m.newReference guid).refs ref = m.refs ref := fun ref hne =>
    update_of_ne hne _ _
  have hnew : (m.newReference guid).refs m.fresh = some
      { unitGuid := guid, threat := 0, tempThreatModifyer := 0, online := true, accessible := true, valid := true } :=
    update_self ..
  have houtside : ∀ ref ∈ m.onlineList ++ m.offlineList, ref ≠ m.fresh := by
    rintro ref hmem rfl
    rw [mem_append, h.online, h.offline, hfresh] at hmem
    simp at hmem
  refine ⟨?_, ?_, ?_, ?_, ?_, ?_⟩
  · intro ref reference href
    by_cases heq : ref = m.fresh
    · subst heq
      rw [hnew] at href
      cases href
      exact ⟨Nat.lt_succ_self _, rfl⟩
    · rw [hold ref heq] at href
      exact ⟨Nat.lt_succ_of_lt (h.live ref reference href).1, (h.live ref reference href).2⟩
  · show (m.onlineList ++ [m.fresh] ++ m.offlineList).Nodup
    rw [append_assoc, singleton_append, nodup_middle, nodup_cons]
    exact ⟨fun hmem => houtside _ hmem rfl, h.nodup⟩
  · intro ref
    show ref ∈ m.onlineList ++ [m.fresh] ↔ _
    rw [mem_append, mem_singleton, h.online]
    by_cases heq : ref = m.fresh
    · simp [heq, hnew]
    · rw [hold ref heq]
      simp [heq]
  · intro ref
    show ref ∈ m.offlineList ↔ _
    rw [h.offline]
    by_cases heq : ref = m.fresh
    · simp [heq, hnew, hfresh]
    · rw [hold ref heq]
  · intro one other known hone htwo
    have hguids : ∀ ref, (m.newReference guid).guidOf ref = if ref = m.fresh then some guid else m.guidOf ref := by
      intro ref
      by_cases heq : ref = m.fresh
      · rw [guidOf, heq, hnew, if_pos rfl]
        rfl
      · rw [guidOf, hold ref heq, if_neg heq, guidOf]
    rw [hguids] at hone htwo
    by_cases hfirst : one = m.fresh
    · by_cases hsecond : other = m.fresh
      · rw [hfirst, hsecond]
      · rw [if_pos hfirst] at hone
        rw [if_neg hsecond, ← hone] at htwo
        exact absurd htwo (habsent other)
    · by_cases hsecond : other = m.fresh
      · rw [if_pos hsecond] at htwo
        rw [if_neg hfirst, ← htwo] at hone
        exact absurd hone (habsent one)
      · rw [if_neg hfirst] at hone
        rw [if_neg hsecond] at htwo
        exact h.unique one other known hone htwo
  · intro ref hvictim
    exact mem_append_left _ (h.victim ref hvictim)

-- Threat, with what goes to the owner of the victim

section

variable {toOwner : Nat → ThreatManager → ThreatManager} (hto : ∀ victim m, Kept m → (toOwner victim m).Kept)
  (view : View)

include hto

theorem Kept.addThreatTo (h : m.Kept) (mod : ℚ) : (m.addThreatTo toOwner view ref mod).Kept := by
  have hraised : (m.raise view ref mod).Kept := h.raise view mod
  simp only [ThreatManager.addThreatTo]
  cases (m.raise view ref mod).refs ref with
  | none => exact hraised
  | some reference => exact Kept.ite (fun _ => hto _ _ hraised) fun _ => hraised

theorem Kept.addThreatDirectlyWith (h : m.Kept) (victim : Nat) (threat : ℚ) :
    (m.addThreatDirectlyWith toOwner view victim threat).Kept := by
  unfold ThreatManager.addThreatDirectlyWith
  refine Kept.ite (fun _ => h) fun _ => ?_
  cases honline : m.getReferenceByTarget m.onlineList victim with
  | some ref => exact h.addThreatTo hto view threat
  | none =>
    cases hoffline : m.getReferenceByTarget m.offlineList victim with
    | some ref => exact h.addThreatTo hto view threat
    | none =>
      have hadded : ((m.newReference victim).addThreatTo toOwner view m.fresh threat).Kept :=
        (h.newReference honline hoffline).addThreatTo hto view threat
      exact Kept.ite (fun _ => hadded.setOnlineOfflineState false) fun _ => hadded

theorem Kept.addThreatWith (h : m.Kept) (victim : Nat) (threat : ℚ) :
    (m.addThreatWith toOwner view victim threat).Kept := by
  unfold ThreatManager.addThreatWith
  refine Kept.ite (fun _ => h) fun _ => ?_
  have hdirect := fun amount => h.addThreatDirectlyWith hto view victim amount
  cases view.totemTransfer victim with
  | none => exact hdirect _
  | some percent =>
    cases view.unitOwner victim with
    | none => exact hdirect _
    | some owner =>
      refine Kept.ite (fun _ => ?_) fun _ => hdirect _
      exact (h.addThreatDirectlyWith hto view owner _).addThreatDirectlyWith hto view victim _

end

-- The induction is on how many owners are still to be told.
theorem Kept.addOwnerThreat (view : View) (fuel victim : Nat) (h : m.Kept) : (addOwnerThreat view fuel victim m).Kept := by
  induction fuel generalizing victim m with
  | zero => exact h
  | succ fuel ih =>
    unfold ThreatManager.addOwnerThreat
    cases view.unitOwner victim with
    | none => exact h
    | some owner => exact Kept.ite (fun _ => h.addThreatWith (fun _ _ hm => ih _ hm) view owner 0) fun _ => h

theorem Kept.toOwner (view : View) (victim : Nat) (m : ThreatManager) (h : m.Kept) : (toOwner view victim m).Kept :=
  h.addOwnerThreat view _ victim

theorem Kept.refAddThreat (h : m.Kept) (view : View) (mod : ℚ) : (m.refAddThreat view ref mod).Kept :=
  h.addThreatTo (Kept.toOwner view) view mod

theorem Kept.erase (h : m.Kept) (hvictim : m.currentVictim ≠ some ref) :
    ({ m with
       refs := Function.update m.refs ref none, onlineList := m.onlineList.filter fun other => other ≠ ref,
       offlineList := m.offlineList.filter fun other => other ≠ ref } : ThreatManager).Kept := by
  have hlookup : ∀ other status, (∃ reference, (Function.update m.refs ref none) other = some reference ∧
      reference.online = status) ↔
      if other = ref then False else ∃ reference, m.refs other = some reference ∧ reference.online = status := by
    intro other status
    rw [update_apply]
    by_cases heq : other = ref
    · simp [heq]
    · simp [heq]
  have hguids : ∀ other guid, (Function.update m.refs ref none other).map (fun reference => reference.unitGuid) =
      some guid → m.guidOf other = some guid := by
    intro other guid hguid
    rw [update_apply] at hguid
    by_cases heq : other = ref
    · rw [if_pos heq] at hguid
      cases hguid
    · rw [if_neg heq] at hguid
      exact hguid
  refine ⟨?_, ?_, ?_, ?_, ?_, ?_⟩
  · intro other reference hother
    have hother : Function.update m.refs ref none other = some reference := hother
    rw [update_apply] at hother
    by_cases heq : other = ref
    · rw [if_pos heq] at hother
      cases hother
    · rw [if_neg heq] at hother
      exact h.live other reference hother
  · show ((m.onlineList.filter _) ++ m.offlineList.filter _).Nodup
    rw [← filter_append]
    exact h.nodup.filter _
  · intro other
    refine ((mem_filter_self not_false m.onlineList ref other).trans ?_).trans (hlookup other true).symm
    rw [h.online]
  · intro other
    refine ((mem_filter_self not_false m.offlineList ref other).trans ?_).trans (hlookup other false).symm
    rw [h.offline]
  · exact fun one other guid hone htwo => h.unique one other guid (hguids one guid hone) (hguids other guid htwo)
  · intro other hother
    have hne : other ≠ ref := fun heq => hvictim (heq ▸ hother)
    refine (mem_filter_self not_false m.onlineList ref other).mpr ?_
    rw [if_neg hne]
    exact h.victim other hother

theorem filter_ne_self (hout : ref ∉ list) : (list.filter fun other => other ≠ ref) = list := by
  refine filter_eq_self.mpr fun other hother => ?_
  have hne : other ≠ ref := fun heq => hout (heq ▸ hother)
  simpa using hne

section

variable (h : m.Kept)

include h

-- The status has gone offline when the event is handled, so the reference is
-- taken out of the right container.
theorem Kept.deleteReference : (m.deleteReference ref).Kept := by
  unfold ThreatManager.deleteReference
  cases href : m.refs ref with
  | none => exact h
  | some reference =>
    have hoff : (m.setOnlineOfflineState ref false).Kept := h.setOnlineOfflineState false
    obtain ⟨gone, hgone, hstatus⟩ := setOnlineOfflineState_offline href
    generalize m.setOnlineOfflineState ref false = left at hoff hgone
    have hout := hoff.notMem_online hgone hstatus
    have hvictim : left.currentVictim ≠ some ref := fun hvictim => hout (hoff.victim ref hvictim)
    have herased := hoff.erase hvictim
    rw [filter_ne_self hout] at herased
    have hline : (left.update ref fun reference => reference.setValid false).isOnline ref = false := by
      rw [isOnline_update hgone]
      exact hstatus
    have hdrop : (left.update ref fun reference => reference.setValid false).dropVictim ref =
        left.update ref fun reference => reference.setValid false := if_neg hvictim
    simp only [processThreatEvent, hline, hdrop, if_neg Bool.false_ne_true]
    simpa only [ThreatManager.update, removeOffline, update_idem] using herased

section

variable (view : View)

theorem Kept.refAddThreatPercent (percent : Int) : (m.refAddThreatPercent view ref percent).Kept :=
  h.refAddThreat view _

theorem Kept.setTempThreatModifier (threat : ℚ) : (m.setTempThreatModifier view ref threat).Kept := by
  refine Kept.refAddThreat ?_ view threat
  exact h.update (fun _ => rfl) (fun _ => rfl) fun _ hvalid => hvalid

theorem Kept.resetTempThreat : (m.resetTempThreat view ref).Kept := by
  refine Kept.ite (fun _ => h) fun _ => ?_
  exact (h.refAddThreat view _).update (fun _ => rfl) (fun _ => rfl) fun _ hvalid => hvalid

theorem Kept.forReferences (guid : Nat) {f : Nat → ThreatManager → ThreatManager}
    (hf : ∀ ref (m : ThreatManager), m.Kept → (f ref m).Kept) : (m.forReferences guid f).Kept := by
  unfold ThreatManager.forReferences
  induction m.references guid generalizing m with
  | nil => exact h
  | cons ref rest ih => exact ih (hf ref m h)

theorem Kept.modifyThreatPercent (victim : Nat) (percent : Int) :
    (m.modifyThreatPercent view victim percent).Kept := by
  unfold ThreatManager.modifyThreatPercent
  cases m.getReferenceByTarget m.onlineList victim with
  | none => exact h
  | some ref => exact Kept.ite (fun _ => h.deleteReference) fun _ => h.refAddThreatPercent view percent

theorem Kept.addTempThreat (unit : Nat) (threat : ℚ) (apply : Bool) :
    (m.addTempThreat view unit threat apply).Kept := by
  refine h.forReferences unit fun ref m h => Kept.ite (fun _ => ?_) fun _ => h.resetTempThreat view
  exact Kept.ite (fun _ => h.setTempThreatModifier view threat) fun _ => h

theorem Kept.tauntApply (taunter : Nat) : (m.tauntApply view taunter).Kept := by
  unfold ThreatManager.tauntApply
  cases m.getReferenceByTarget m.onlineList taunter with
  | none => exact h
  | some ref =>
    cases m.currentVictim with
    | none => exact h
    | some victim => exact Kept.ite (fun _ => h.setTempThreatModifier view _) fun _ => h

theorem Kept.tauntFadeOut (taunter : Nat) : (m.tauntFadeOut view taunter).Kept := by
  unfold ThreatManager.tauntFadeOut
  cases m.getReferenceByTarget m.onlineList taunter with
  | none => exact h
  | some ref => exact h.resetTempThreat view

end

end

theorem Kept.clearReferences : m.clearReferences.Kept := by
  refine ⟨?_, by simp [ThreatManager.clearReferences], ?_, ?_, ?_, ?_⟩ <;> simp [ThreatManager.clearReferences, guidOf]

theorem Kept.setCurrentVictimIfCan (h : m.Kept) (victim : Nat) : (m.setCurrentVictimIfCan victim).Kept := by
  unfold ThreatManager.setCurrentVictimIfCan
  cases href : m.getReferenceByTarget m.onlineList victim with
  | none => exact h
  | some ref =>
    refine ⟨h.live, h.nodup, h.online, h.offline, h.unique, fun other hother => ?_⟩
    cases hother
    exact (getReferenceByTarget_some href).1

theorem Kept.perm (h : m.Kept) (hperm : list.Perm m.onlineList) :
    ({ m with onlineList := list } : ThreatManager).Kept :=
  ⟨h.live, (hperm.append_right m.offlineList).nodup_iff.mpr h.nodup, fun ref => hperm.mem_iff.trans (h.online ref),
    h.offline, h.unique, fun ref hvictim => hperm.mem_iff.mpr (h.victim ref hvictim)⟩

theorem Kept.sort (h : m.Kept) : m.sort.Kept :=
  Kept.ite (fun _ => (h.perm (perm_insertionSort _ _)).dirty false) fun _ => h.dirty false

-- What an attempt finds, or leaves of the current victim, is in the container.

def among (list : List Nat) : Attempt → Prop
  | .lost => True
  | .found ref => ref ∈ list
  | .next currentVictim => ∀ ref, currentVictim = some ref → ref ∈ list

theorem attempt_among (view : View) (allow : Bool) {container : List Nat} {currentVictim : Option Nat}
    (hlist : ∀ ref ∈ list, ref ∈ container) (hvictim : ∀ ref, currentVictim = some ref → ref ∈ container) :
    among container (m.attempt view allow list currentVictim) := by
  induction list generalizing currentVictim with
  | nil => exact hvictim
  | cons ref rest ih =>
    have hrest : ∀ ref ∈ rest, ref ∈ container := fun other hother => hlist other (mem_cons_of_mem _ hother)
    have hhead : ref ∈ container := hlist ref mem_cons_self
    unfold attempt
    by_cases harea : view.outOfThreatArea (m.targetOf ref) = true
    · rw [if_pos harea]
      trivial
    rw [if_neg harea]
    by_cases hover : m.passesOver view allow ref = true
    · rw [if_pos hover]
      refine ih hrest fun other hother => ?_
      by_cases hcurrent : currentVictim = some ref
      · rw [if_pos hcurrent] at hother
        cases hother
      · rw [if_neg hcurrent] at hother
        exact hvictim other hother
    rw [if_neg hover]
    cases currentVictim with
    | none => exact hhead
    | some victim =>
      by_cases hkeep : victim = ref ∨ m.threatOf ref ≤ 11 / 10 * m.threatOf victim
      · simp only [if_pos hkeep]
        exact hvictim victim rfl
      · simp only [if_neg hkeep]
        by_cases hmore : m.outweighs view ref victim = true
        · rw [if_pos hmore]
          exact hhead
        · rw [if_neg hmore]
          exact ih hrest hvictim

theorem selectNextVictim_mem (view : View) (hvictim : ∀ ref, m.currentVictim = some ref → ref ∈ m.onlineList)
    (hselect : m.selectNextVictim view = some ref) : ref ∈ m.onlineList := by
  have hfirst := attempt_among (m := m) view false (fun _ hmem => hmem) hvictim
  unfold selectNextVictim at hselect
  cases hone : m.attempt view false m.onlineList m.currentVictim with
  | lost =>
    rw [hone] at hselect
    cases hselect
  | found other =>
    rw [hone] at hselect hfirst
    cases hselect
    exact hfirst
  | next left =>
    rw [hone] at hselect hfirst
    have hsecond := attempt_among (m := m) view true (fun _ hmem => hmem) hfirst
    cases htwo : m.attempt view true m.onlineList left with
    | found other =>
      simp only [htwo] at hselect hsecond
      cases hselect
      exact hsecond
    | lost => simp [htwo] at hselect
    | next after => simp [htwo] at hselect

theorem Kept.getHostileTarget (h : m.Kept) (view : View) : (m.getHostileTarget view).Kept := by
  have hsort := h.sort
  exact ⟨hsort.live, hsort.nodup, hsort.online, hsort.offline, hsort.unique, fun _ hselect =>
    selectNextVictim_mem (m := m.sort) view hsort.victim hselect⟩

theorem Kept.receive (h : m.Kept) (message : Message) : (m.receive message).Kept := by
  obtain ⟨view, op⟩ := message
  cases op with
  | addThreat victim threat noThreat assist =>
    exact Kept.ite (fun _ => h) fun _ => h.addThreatWith (Kept.toOwner view) view victim _
  | addThreatDirectly victim threat => exact h.addThreatDirectlyWith (Kept.toOwner view) view victim threat
  | addThreatPercent unit percent =>
    exact h.forReferences unit fun _ _ hm => hm.refAddThreatPercent view percent
  | modifyThreatPercent victim percent => exact h.modifyThreatPercent view victim percent
  | addTempThreat unit threat apply => exact h.addTempThreat view unit threat apply
  | tauntApply taunter => exact h.tauntApply view taunter
  | tauntFadeOut taunter => exact h.tauntFadeOut view taunter
  | setOnlineOfflineState unit online => exact h.forReferences unit fun _ _ hm => hm.setOnlineOfflineState online
  | updateThreatTables unit => exact h.forReferences unit fun _ _ hm => hm.updateOnlineStatus view
  | deleteReferences unit => exact h.forReferences unit fun _ _ hm => hm.deleteReference
  | clearReferences => exact Kept.clearReferences
  | setCurrentVictimIfCan victim => exact h.setCurrentVictimIfCan victim
  | getHostileTarget => exact h.getHostileTarget view

theorem kept_run (owner : Nat) (messages : List Message) : (Run.run receive (new owner) messages).Kept :=
  Run.run_invariant receive (fun _ _ => True) Kept (fun _ message h _ => h.receive message) (kept_new owner)
    (Run.guarded_of_forall _ _ (fun _ _ => trivial) _ _)

theorem bookkept_run (owner : Nat) (messages : List Message) : (Run.run receive (new owner) messages).Bookkept :=
  (kept_run owner messages).bookkept

end ThreatManager

end TurtleWow.Threat
