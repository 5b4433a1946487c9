import TurtleWow.Threat.Selection

namespace TurtleWow.Threat

open List

-- Temporary threat: a taunt and a fade share the one place where a reference
-- keeps what to take back.

namespace ThreatManager

variable {m n k : ThreatManager} {view : View} {ref r : Nat} {before : HostileReference} {gain more temp : ℚ}

structure Becomes (n : ThreatManager) (r : Nat) (before : HostileReference) (gain temp : ℚ)
    (after : HostileReference) : Prop where
  refs : n.refs r = some after
  unitGuid : after.unitGuid = before.unitGuid
  threat : after.threat = before.threat + gain
  temp : after.tempThreatModifyer = temp
  online : before.online = true → after.online = true

def Turns (n : ThreatManager) (r : Nat) (before : HostileReference) (gain temp : ℚ) : Prop :=
  ∃ after, n.Becomes r before gain temp after

def Gains (m n : ThreatManager) (r : Nat) (gain : ℚ) : Prop :=
  ∀ before, m.refs r = some before → n.Turns r before gain before.tempThreatModifyer

theorem Gains.refl (m : ThreatManager) (r : Nat) : Gains m m r 0 := by
  intro before hbefore
  exact ⟨before, hbefore, rfl, (add_zero _).symm, rfl, id⟩

theorem Gains.trans (h : Gains m n r gain) (hk : Gains n k r more) : Gains m k r (gain + more) := by
  intro before hbefore
  obtain ⟨middle, hmiddle⟩ := h before hbefore
  obtain ⟨after, hafter⟩ := hk middle hmiddle.refs
  refine ⟨after, hafter.refs, hafter.unitGuid.trans hmiddle.unitGuid, ?_, hafter.temp.trans hmiddle.temp, fun honline =>
    hafter.online (hmiddle.online honline)⟩
  rw [hafter.threat, hmiddle.threat, add_assoc]

theorem Gains.same (hrefs : n.refs r = m.refs r) : Gains m n r 0 := by
  intro before hbefore
  exact ⟨before, hrefs.trans hbefore, rfl, (add_zero _).symm, rfl, id⟩

theorem Gains.of_eq (h : Gains m n r gain) (heq : gain = more) : Gains m n r more := heq ▸ h

def Marks (f : HostileReference → HostileReference) : Prop :=
  ∀ reference, (f reference).unitGuid = reference.unitGuid ∧ (f reference).threat = reference.threat ∧
    (f reference).tempThreatModifyer = reference.tempThreatModifyer

theorem Marks.comp {f g : HostileReference → HostileReference} (hf : Marks f) (hg : Marks g) :
    Marks fun reference => g (f reference) := by
  intro reference
  obtain ⟨hguid, hthreat, htemp⟩ := hf reference
  obtain ⟨hguid', hthreat', htemp'⟩ := hg (f reference)
  exact ⟨hguid'.trans hguid, hthreat'.trans hthreat, htemp'.trans htemp⟩

theorem refs_marked_self (m : ThreatManager) (ref : Nat) : ∃ f, Marks f ∧ m.refs = (m.update ref f).refs :=
  ⟨id, fun _ => ⟨rfl, rfl, rfl⟩, by rw [update_eq_self (by rw [Option.map_id]; rfl)]⟩

theorem refs_setOnlineOfflineState (m : ThreatManager) (ref : Nat) (online : Bool) :
    ∃ f, Marks f ∧ (m.setOnlineOfflineState ref online).refs = (m.update ref f).refs := by
  unfold setOnlineOfflineState
  cases m.refs ref with
  | none => exact m.refs_marked_self ref
  | some reference =>
    dsimp only
    split_ifs
    · exact m.refs_marked_self ref
    · exact ⟨fun reference => reference.setOnline online, fun _ => ⟨rfl, rfl, rfl⟩, refs_processThreatEvent _⟩
    · rw [setAccessibleState_eq, update_update]
      exact ⟨fun reference => (reference.setOnline online).setAccessible false, fun _ => ⟨rfl, rfl, rfl⟩,
        refs_processThreatEvent _⟩

theorem refs_updateOnlineStatus (m : ThreatManager) (view : View) (ref : Nat) :
    ∃ f, Marks f ∧ (m.updateOnlineStatus view ref).refs = (m.update ref f).refs := by
  unfold updateOnlineStatus
  cases m.refs ref with
  | none => exact m.refs_marked_self ref
  | some reference =>
    dsimp only
    rw [setAccessibleState_eq, update_update]
    let mark (other : HostileReference) :=
      (other.setValid (reference.valid || view.present reference.unitGuid)).setAccessible false
    have hmark : Marks mark := fun _ => ⟨rfl, rfl, rfl⟩
    obtain ⟨f, hf, hrefs⟩ := refs_setOnlineOfflineState (m.update ref mark) ref
      ((reference.valid || view.present reference.unitGuid) &&
        (!view.gameMaster reference.unitGuid || !view.taxiFlying reference.unitGuid))
    rw [update_update] at hrefs
    exact ⟨fun other => f (mark other), hmark.comp hf, hrefs⟩

theorem gains_updateOnlineStatus (hoffline : m.isOnline ref = false) : Gains m (m.updateOnlineStatus view ref) r 0 := by
  obtain ⟨f, hf, hrefs⟩ := refs_updateOnlineStatus m view ref
  intro before hbefore
  by_cases hsame : r = ref
  · subst hsame
    obtain ⟨hguid, hthreat, htemp⟩ := hf before
    refine ⟨f before, ?_, hguid, hthreat.trans (add_zero _).symm, htemp, fun honline => ?_⟩
    · rw [hrefs, refs_update, if_pos rfl, hbefore]
      rfl
    · rw [isOnline, hbefore] at hoffline
      exact absurd (honline.symm.trans hoffline) (by decide)
  · refine Gains.same ?_ before hbefore
    rw [hrefs, refs_update, if_neg hsame]

theorem gains_update (mod : ℚ) :
    Gains m (m.update ref fun reference => reference.gain mod) r (if ref = r then mod else 0) := by
  by_cases hsame : ref = r
  · subst hsame
    rw [if_pos rfl]
    intro before hbefore
    refine ⟨before.gain mod, ?_, rfl, rfl, rfl, id⟩
    rw [refs_update, if_pos rfl, hbefore]
    rfl
  · rw [if_neg hsame]
    exact Gains.same (by rw [refs_update, if_neg (Ne.symm hsame)])

theorem gains_raise (mod : ℚ) : Gains m (m.raise view ref mod) r (if ref = r then mod else 0) := by
  have hgain : Gains m (m.update ref fun reference => reference.gain mod) r (if ref = r then mod else 0) :=
    gains_update mod
  unfold raise
  dsimp only
  generalize m.update ref (fun reference => reference.gain mod) = raised at hgain
  have hstatus : Gains raised (if raised.isOnline ref = true then raised else raised.updateOnlineStatus view ref) r 0 := by
    split_ifs with honline
    · exact Gains.refl raised r
    · exact gains_updateOnlineStatus (by simpa using honline)
  have hboth := (hgain.trans hstatus).of_eq (add_zero _)
  generalize (if raised.isOnline ref = true then raised else raised.updateOnlineStatus view ref) = shown at hboth
  by_cases hmod : mod ≠ 0
  · rw [if_pos hmod]
    exact (hboth.trans (Gains.same (by rw [refs_processThreatEvent]))).of_eq (add_zero _)
  · rw [if_neg hmod]
    exact hboth

-- The threat to a victim's owner is an addition of 0 to other references.

section

variable {toOwner : Nat → ThreatManager → ThreatManager}

def Spares (toOwner : Nat → ThreatManager → ThreatManager) (r : Nat) : Prop :=
  ∀ victim m, Kept m → (m.refs r).isSome = true → Gains m (toOwner victim m) r 0

theorem Gains.isSome (h : Gains m n r gain) (hsome : (m.refs r).isSome = true) : (n.refs r).isSome = true := by
  obtain ⟨before, hbefore⟩ := Option.isSome_iff_exists.mp hsome
  obtain ⟨after, hafter⟩ := h before hbefore
  rw [hafter.refs]
  rfl

theorem gains_addThreatTo (view : View) (ref : Nat) (hto : Spares toOwner r) (h : m.Kept) (hsome : (m.refs r).isSome = true) (mod : ℚ) :
    Gains m (m.addThreatTo toOwner view ref mod) r (if ref = r then mod else 0) := by
  have hraise : Gains m (m.raise view ref mod) r (if ref = r then mod else 0) := gains_raise mod
  have hkept : (m.raise view ref mod).Kept := h.raise view mod
  have hstill := hraise.isSome hsome
  unfold addThreatTo
  dsimp only
  generalize m.raise view ref mod = raised at hraise hkept hstill
  cases raised.refs ref with
  | none => exact hraise
  | some reference =>
    dsimp only
    by_cases hvalid : reference.valid = true ∧ 0 ≤ mod
    · rw [if_pos hvalid]
      exact (hraise.trans (hto _ raised hkept hstill)).of_eq (add_zero _)
    · rw [if_neg hvalid]
      exact hraise

theorem Kept.lt_fresh (h : m.Kept) (hsome : (m.refs r).isSome = true) : r < m.fresh := by
  obtain ⟨before, hbefore⟩ := Option.isSome_iff_exists.mp hsome
  exact (h.live r before hbefore).1

theorem gains_addThreatDirectlyWith (view : View) (hto : Spares toOwner r) (h : m.Kept)
    (hsome : (m.refs r).isSome = true) (victim : Nat) :
    Gains m (m.addThreatDirectlyWith toOwner view victim 0) r 0 := by
  have hzero (ref : Nat) : Gains m (m.addThreatTo toOwner view ref 0) r 0 :=
    (gains_addThreatTo view ref hto h hsome 0).of_eq (ite_self 0)
  unfold addThreatDirectlyWith
  by_cases hout : victim = m.owner ∨ (!view.alive victim) = true ∨ (!view.inMap victim) = true
  · rw [if_pos hout]
    exact Gains.refl m r
  rw [if_neg hout]
  cases honline : m.getReferenceByTarget m.onlineList victim with
  | some ref => exact hzero ref
  | none =>
    cases hoffline : m.getReferenceByTarget m.offlineList victim with
    | some ref => exact hzero ref
    | none =>
      -- the new reference stands at another address
      have hne : r ≠ m.fresh := Nat.ne_of_lt (h.lt_fresh hsome)
      have hnew : Gains m (m.newReference victim) r 0 := Gains.same (Function.update_of_ne hne _ _)
      have hadded : Gains m ((m.newReference victim).addThreatTo toOwner view m.fresh 0) r 0 := by
        have hmore := gains_addThreatTo view m.fresh hto (h.newReference honline hoffline)
          (hnew.isSome hsome) 0
        exact (hnew.trans hmore).of_eq (by simp)
      by_cases hmaster : view.gameMaster victim = true
      · rw [if_pos hmaster]
        obtain ⟨f, -, hrefs⟩ := refs_setOnlineOfflineState
          ((m.newReference victim).addThreatTo toOwner view m.fresh 0) m.fresh false
        refine (hadded.trans (Gains.same ?_)).of_eq (add_zero 0)
        rw [hrefs, refs_update, if_neg hne]
      · rw [if_neg hmaster]
        exact hadded

theorem gains_addThreatWith (hto : Spares toOwner r) (hkeeps : ∀ victim m, Kept m → (toOwner victim m).Kept)
    (h : m.Kept) (hsome : (m.refs r).isSome = true) (victim : Nat) :
    Gains m (m.addThreatWith toOwner view victim 0) r 0 := by
  have hdirect : Gains m (m.addThreatDirectlyWith toOwner view victim 0) r 0 :=
    gains_addThreatDirectlyWith view hto h hsome victim
  unfold addThreatWith
  by_cases hout : victim = m.owner ∨ view.gameMaster victim = true ∨ (!view.alive victim) = true ∨
      (!view.ownerAlive) = true
  · rw [if_pos hout]
    exact Gains.refl m r
  rw [if_neg hout]
  cases view.totemTransfer victim with
  | none => simpa using hdirect
  | some percent =>
    cases view.unitOwner victim with
    | none => simpa using hdirect
    | some owner =>
      have howner : Gains m (m.addThreatDirectlyWith toOwner view owner 0) r 0 :=
        gains_addThreatDirectlyWith view hto h hsome owner
      have hboth := howner.trans (gains_addThreatDirectlyWith view hto
        (h.addThreatDirectlyWith hkeeps view owner 0) (howner.isSome hsome) victim)
      simp only [if_true, zero_mul, zero_div, sub_zero]
      split_ifs
      · exact hboth.of_eq (add_zero 0)
      · exact hdirect

end

theorem spares_addOwnerThreat (view : View) (fuel : Nat) : Spares (addOwnerThreat view fuel) r := by
  induction fuel with
  | zero => exact fun _ m _ _ => Gains.refl m r
  | succ fuel ih =>
    intro victim m h hsome
    unfold addOwnerThreat
    cases view.unitOwner victim with
    | none => exact Gains.refl m r
    | some owner =>
      dsimp only
      split_ifs
      · exact gains_addThreatWith ih (fun _ _ hm => hm.addOwnerThreat view fuel _) h hsome owner
      · exact Gains.refl m r

theorem gains_refAddThreat (view : View) (ref : Nat) (h : m.Kept) (hsome : (m.refs r).isSome = true) (mod : ℚ) :
    Gains m (m.refAddThreat view ref mod) r (if ref = r then mod else 0) :=
  gains_addThreatTo view ref (fun victim => spares_addOwnerThreat view _ victim) h hsome mod

-- The two effects on the reference to a unit

section

variable {unit : Nat} (h : m.Kept) (hbefore : m.refs r = some before)

include hbefore

theorem guidOf_eq : m.guidOf r = some before.unitGuid := by
  rw [guidOf, hbefore]
  rfl

theorem threatOf_eq : m.threatOf r = before.threat := by rw [threatOf, hbefore]

theorem tempThreatOf_eq : m.tempThreatOf r = before.tempThreatModifyer := by rw [tempThreatOf, hbefore]

theorem isOnline_eq : m.isOnline r = before.online := by rw [isOnline, hbefore]

theorem turns_same (hrefs : n.refs r = m.refs r) : n.Turns r before 0 before.tempThreatModifyer :=
  Gains.same hrefs before hbefore

include h

theorem references_eq : m.references before.unitGuid = [r] := by
  have hmem : ∀ other, other ∈ m.references before.unitGuid ↔ other = r := by
    intro other
    rw [references, mem_filter, decide_eq_true_eq]
    constructor
    · rintro ⟨-, hother⟩
      exact h.unique other r before.unitGuid hother (guidOf_eq hbefore)
    · rintro rfl
      exact ⟨mem_append.mpr (h.mem_of_guidOf (guidOf_eq hbefore)), guidOf_eq hbefore⟩
  have hnodup : (m.references before.unitGuid).Nodup := h.nodup.filter _
  have hperm : (m.references before.unitGuid).Perm [r] := by
    refine (perm_ext_iff_of_nodup hnodup (nodup_singleton r)).mpr fun other => ?_
    rw [hmem, mem_singleton]
  exact perm_singleton.mp hperm

theorem getReferenceByTarget_eq :
    m.getReferenceByTarget m.onlineList before.unitGuid = if before.online = true then some r else none := by
  cases hfound : m.getReferenceByTarget m.onlineList before.unitGuid with
  | none =>
    rw [if_neg]
    intro honline
    have hnone := List.find?_eq_none.mp hfound r ((h.online r).mpr ⟨before, hbefore, honline⟩)
    simp [guidOf_eq hbefore] at hnone
  | some ref =>
    obtain ⟨hmem, hguid⟩ := getReferenceByTarget_some hfound
    obtain rfl := h.unique ref r before.unitGuid hguid (guidOf_eq hbefore)
    rw [if_pos ((h.stands hbefore).2.mp hmem)]

theorem turns_setTempThreatModifier (threat : ℚ) :
    (m.setTempThreatModifier view r threat).Turns r before threat threat := by
  have hkept : (m.update r fun reference => reference.keepTemp threat).Kept :=
    h.update (fun _ => rfl) (fun _ => rfl) fun _ hvalid => hvalid
  have hkeep : (m.update r fun reference => reference.keepTemp threat).refs r = some (before.keepTemp threat) := by
    rw [refs_update, if_pos rfl, hbefore]
    rfl
  obtain ⟨after, hafter⟩ := gains_refAddThreat view r hkept (by rw [hkeep]; rfl) threat _ hkeep
  rw [if_pos rfl] at hafter
  exact ⟨after, hafter.refs, hafter.unitGuid, hafter.threat, hafter.temp, hafter.online⟩

theorem turns_resetTempThreat :
    (m.resetTempThreat view r).Turns r before (-before.tempThreatModifyer) 0 := by
  unfold resetTempThreat
  rw [tempThreatOf_eq hbefore]
  by_cases hzero : before.tempThreatModifyer = 0
  · rw [if_pos hzero, hzero]
    exact ⟨before, hbefore, rfl, by simp, hzero, id⟩
  · rw [if_neg hzero]
    obtain ⟨after, hafter⟩ := gains_refAddThreat view r h (by rw [hbefore]; rfl)
      (-before.tempThreatModifyer) before hbefore
    rw [if_pos rfl] at hafter
    refine ⟨after.keepTemp 0, ?_, hafter.unitGuid, hafter.threat, rfl, hafter.online⟩
    rw [refs_update, if_pos rfl, hafter.refs]
    rfl

theorem turns_addTempThreat (view : View) (threat : ℚ) : (m.addTempThreat view before.unitGuid threat true).Turns r before
    (if before.tempThreatModifyer = 0 then threat else 0)
    (if before.tempThreatModifyer = 0 then threat else before.tempThreatModifyer) := by
  unfold addTempThreat forReferences
  rw [references_eq h hbefore, foldl_cons, foldl_nil]
  dsimp only
  rw [if_pos rfl, tempThreatOf_eq hbefore]
  by_cases hzero : before.tempThreatModifyer = 0
  · rw [if_pos hzero, if_pos hzero, if_pos hzero]
    exact turns_setTempThreatModifier h hbefore threat
  · rw [if_neg hzero, if_neg hzero, if_neg hzero]
    exact turns_same hbefore rfl

theorem turns_removeTempThreat (view : View) (threat : ℚ) : (m.addTempThreat view before.unitGuid threat false).Turns r before
    (-before.tempThreatModifyer) 0 := by
  unfold addTempThreat forReferences
  rw [references_eq h hbefore, foldl_cons, foldl_nil]
  dsimp only
  rw [if_neg Bool.false_ne_true]
  exact turns_resetTempThreat h hbefore

omit h hbefore in
-- What a taunt is to add: the victim's lead over a reference that is online
def tauntGap (m : ThreatManager) (r : Nat) : ℚ :=
  match m.currentVictim with
  | none => 0
  | some victim => if m.isOnline r = true ∧ m.threatOf r < m.threatOf victim then m.threatOf victim - m.threatOf r else 0

theorem turns_tauntApply (view : View) : (m.tauntApply view before.unitGuid).Turns r before
    (if before.tempThreatModifyer = 0 then m.tauntGap r else 0)
    (if before.tempThreatModifyer = 0 then m.tauntGap r else before.tempThreatModifyer) := by
  have hstays : m.tauntGap r = 0 ∨ before.tempThreatModifyer ≠ 0 → m.Turns r before
      (if before.tempThreatModifyer = 0 then m.tauntGap r else 0)
      (if before.tempThreatModifyer = 0 then m.tauntGap r else before.tempThreatModifyer) := by
    intro hor
    have hsame := turns_same (n := m) hbefore rfl
    by_cases hzero : before.tempThreatModifyer = 0
    · rw [if_pos hzero, if_pos hzero, hor.resolve_right (not_not.mpr hzero)]
      rwa [hzero] at hsame
    · rwa [if_neg hzero, if_neg hzero]
  unfold tauntApply
  rw [getReferenceByTarget_eq h hbefore]
  cases hvictim : m.currentVictim with
  | none =>
    have hgap : m.tauntGap r = 0 := by simp [tauntGap, hvictim]
    by_cases honline : before.online = true
    · rw [if_pos honline]
      exact hstays (.inl hgap)
    · rw [if_neg honline]
      exact hstays (.inl hgap)
  | some victim =>
    by_cases honline : before.online = true
    · rw [if_pos honline]
      dsimp only
      by_cases hless : m.threatOf r < m.threatOf victim
      · have hgap : m.tauntGap r = m.threatOf victim - m.threatOf r := by
          simp [tauntGap, hvictim, isOnline_eq hbefore, honline, hless]
        by_cases hzero : before.tempThreatModifyer = 0
        · rw [if_pos ⟨hless, (tempThreatOf_eq hbefore).trans hzero⟩, if_pos hzero, if_pos hzero, hgap]
          exact turns_setTempThreatModifier h hbefore _
        · rw [if_neg fun hand => hzero ((tempThreatOf_eq hbefore).symm.trans hand.2)]
          exact hstays (.inr hzero)
      · rw [if_neg fun hand => hless hand.1]
        refine hstays (.inl ?_)
        simp [tauntGap, hvictim, hless]
    · rw [if_neg honline]
      refine hstays (.inl ?_)
      simp [tauntGap, hvictim, isOnline_eq hbefore, honline]

theorem tauntFadeOut_offline (honline : before.online = false) : m.tauntFadeOut view before.unitGuid = m := by
  unfold tauntFadeOut
  rw [getReferenceByTarget_eq h hbefore, if_neg (by rw [honline]; decide)]

theorem turns_tauntFadeOut (view : View) (honline : before.online = true) :
    (m.tauntFadeOut view before.unitGuid).Turns r before (-before.tempThreatModifyer) 0 := by
  unfold tauntFadeOut
  rw [getReferenceByTarget_eq h hbefore, if_pos honline]
  exact turns_resetTempThreat h hbefore

end

-- The reference of a unit through taunts, fades and additions of threat.
-- `additive` is the threat from the additions alone; an effect that is active
-- has the threat that it was to add.

inductive TempOp where
  | tauntApply
  | tauntFadeOut
  | fadeApply (threat : ℚ)
  | fadeRemove (threat : ℚ)
  | addThreat (ref : Nat) (mod : ℚ)

structure Tracked where
  manager : ThreatManager
  additive : ℚ
  taunt : Option ℚ
  fade : Option ℚ

variable {unit : Nat} {t : Tracked} {input : View × TempOp}

def track (r unit : Nat) (t : Tracked) (input : View × TempOp) : Tracked :=
  match input.2 with
  | .tauntApply =>
    { t with manager := t.manager.tauntApply input.1 unit, taunt := some (t.manager.tauntGap r) }
  | .tauntFadeOut => { t with manager := t.manager.tauntFadeOut input.1 unit, taunt := none }
  | .fadeApply threat => { t with manager := t.manager.addTempThreat input.1 unit threat true, fade := some threat }
  | .fadeRemove threat => { t with manager := t.manager.addTempThreat input.1 unit threat false, fade := none }
  | .addThreat ref mod =>
    { t with
      manager := t.manager.refAddThreat input.1 ref mod,
      additive := if ref = r then t.additive + mod else t.additive }

-- An effect begins when it is not active and ends when it is.
def Alternates (t : Tracked) (input : View × TempOp) : Prop :=
  match input.2 with
  | .tauntApply => t.taunt = none
  | .tauntFadeOut => t.taunt ≠ none
  | .fadeApply _ => t.fade = none
  | .fadeRemove _ => t.fade ≠ none
  | .addThreat _ _ => True

-- The effect that ends leaves the other, if that is active, nothing to add. A
-- taunt that ends while the reference is offline takes nothing back.
def Outlasts (r : Nat) (t : Tracked) (input : View × TempOp) : Prop :=
  match input.2 with
  | .tauntFadeOut => t.manager.isOnline r = true → t.fade.getD 0 = 0
  | .fadeRemove _ => t.taunt.getD 0 = 0
  | _ => True

-- With no effect active the threat is that from the additions, and with one
-- it is that and the effect's.
def Exact (r : Nat) (t : Tracked) : Prop :=
  match t.taunt, t.fade with
  | none, none => t.manager.threatOf r = t.additive
  | some gap, none => t.manager.threatOf r = t.additive + gap
  | none, some threat => t.manager.threatOf r = t.additive + threat
  | some _, some _ => True

structure Tracks (r unit : Nat) (t : Tracked) (reference : HostileReference) : Prop where
  kept : t.manager.Kept
  refs : t.manager.refs r = some reference
  unitGuid : reference.unitGuid = unit
  threat : reference.threat = t.additive + reference.tempThreatModifyer
  idle : t.taunt = none → t.fade = none → reference.tempThreatModifyer = 0
  offline : reference.online = false → reference.tempThreatModifyer = t.fade.getD 0 ∧ t.taunt.getD 0 = 0

variable {reference : HostileReference}

-- One active effect is exact when its threat is what the reference keeps.
theorem Tracks.exact_iff (h : Tracks r unit t reference) : Exact r t ↔
    (t.fade = none → ∀ gap, t.taunt = some gap → reference.tempThreatModifyer = gap) ∧
      (t.taunt = none → ∀ threat, t.fade = some threat → reference.tempThreatModifyer = threat) := by
  have hidle := h.idle
  unfold Exact
  rw [threatOf_eq h.refs, h.threat]
  cases htaunt : t.taunt with
  | none =>
    cases hfade : t.fade with
    | none => simp [hidle htaunt hfade]
    | some threat => simp
  | some gap =>
    cases hfade : t.fade with
    | none => simp
    | some threat => simp

theorem Tracks.next (h : Tracks r unit t reference) (next : Tracked) (hkept : next.manager.Kept)
    (hturns : next.manager.Turns r reference gain temp) (hthreat : reference.threat + gain = next.additive + temp)
    (hidle : next.taunt = none → next.fade = none → temp = 0)
    (hoffline : reference.online = false → temp = next.fade.getD 0 ∧ next.taunt.getD 0 = 0) :
    ∃ after, Tracks r unit next after ∧ after.tempThreatModifyer = temp := by
  obtain ⟨after, hafter⟩ := hturns
  refine ⟨after, ⟨hkept, hafter.refs, hafter.unitGuid.trans h.unitGuid, ?_, ?_, ?_⟩, hafter.temp⟩
  · rw [hafter.threat, hafter.temp, hthreat]
  · rw [hafter.temp]
    exact hidle
  · intro hout
    rw [hafter.temp]
    refine hoffline ?_
    by_contra honline
    rw [Bool.not_eq_false] at honline
    exact absurd (hafter.online honline) (by rw [hout]; decide)

-- A step, and whether it leaves an exact state exact
structure Steps (r unit : Nat) (t : Tracked) (input : View × TempOp) : Prop where
  tracks : ∃ after, Tracks r unit (track r unit t input) after
  exact : Exact r t → (Exact r (track r unit t input) ↔ Outlasts r t input)

section

variable (h : Tracks r unit t reference)

include h

theorem Tracks.tauntGap_offline (hout : reference.online = false) :
    t.manager.tauntGap r = 0 := by
  unfold tauntGap
  cases t.manager.currentVictim with
  | none => rfl
  | some victim =>
    dsimp only
    rw [if_neg]
    rintro ⟨honline, -⟩
    rw [isOnline_eq h.refs, hout] at honline
    cases honline

section

variable (view : View)

theorem Tracks.tauntApply (htaunt : t.taunt = none) : Steps r unit t (view, .tauntApply) := by
  have hturns := turns_tauntApply h.kept h.refs view
  rw [h.unitGuid] at hturns
  have hthreat := h.threat
  by_cases hzero : reference.tempThreatModifyer = 0
  · rw [if_pos hzero, if_pos hzero] at hturns
    obtain ⟨after, hafter, htemp⟩ := h.next (track r unit t (view, .tauntApply))
      (h.kept.tauntApply view unit) hturns (by rw [hthreat, hzero, add_zero]; rfl) (by simp [track])
      fun hout => by
        have hgap := h.tauntGap_offline hout
        have hfade := (h.offline hout).1
        rw [hzero] at hfade
        exact ⟨hgap.trans hfade, hgap⟩
    refine ⟨⟨after, hafter⟩, fun _ => iff_of_true (hafter.exact_iff.mpr ⟨fun _ gap hgap => ?_, ?_⟩) trivial⟩
    · rw [htemp]
      exact Option.some.inj hgap
    · simp [track]
  · rw [if_neg hzero, if_neg hzero] at hturns
    obtain ⟨after, hafter, htemp⟩ := h.next (track r unit t (view, .tauntApply))
      (h.kept.tauntApply view unit) hturns (by rw [hthreat, add_zero]; rfl) (by simp [track])
      fun hout => ⟨(h.offline hout).1, h.tauntGap_offline hout⟩
    refine ⟨⟨after, hafter⟩, fun _ => iff_of_true (hafter.exact_iff.mpr ⟨fun hfade => ?_, ?_⟩) trivial⟩
    · exact absurd (h.idle htaunt hfade) hzero
    · simp [track]

theorem Tracks.tauntFadeOut : Steps r unit t (view, .tauntFadeOut) := by
  have hthreat := h.threat
  have hkept := h.kept.tauntFadeOut view unit
  have hstatus := isOnline_eq h.refs
  cases honline : reference.online with
  | true =>
    have hturns := turns_tauntFadeOut h.kept h.refs view honline
    rw [h.unitGuid] at hturns
    obtain ⟨after, hafter, htemp⟩ := h.next (track r unit t (view, .tauntFadeOut)) hkept hturns
      (by rw [hthreat, add_neg_cancel_right, add_zero]; rfl) (fun _ _ => rfl) (by simp [honline])
    refine ⟨⟨after, hafter⟩, fun _ => hafter.exact_iff.trans ?_⟩
    rw [htemp]
    simp only [Outlasts, track, hstatus, honline, forall_const]
    cases t.fade <;> simp [eq_comm]
  | false =>
    have hsame : t.manager.tauntFadeOut view unit = t.manager := by
      rw [← h.unitGuid]
      exact tauntFadeOut_offline h.kept h.refs honline
    obtain ⟨htemp, -⟩ := h.offline honline
    obtain ⟨after, hafter, htemp'⟩ := h.next (track r unit t (view, .tauntFadeOut)) hkept
      (turns_same h.refs (by simp [track, hsame])) (by rw [hthreat, add_zero]; rfl)
      (fun _ hfade => by rw [htemp]; simp [show t.fade = none from hfade]) fun _ => ⟨htemp, rfl⟩
    refine ⟨⟨after, hafter⟩, fun _ => iff_of_true (hafter.exact_iff.mpr ⟨by simp [track], ?_⟩) ?_⟩
    · intro _ threat hfade
      have hfade : t.fade = some threat := hfade
      rw [htemp', htemp, hfade]
      rfl
    · intro hon
      rw [hstatus, honline] at hon
      cases hon

theorem Tracks.fadeApply (threat : ℚ) (hfade : t.fade = none) : Steps r unit t (view, .fadeApply threat) := by
  have hturns := turns_addTempThreat h.kept h.refs view threat
  rw [h.unitGuid] at hturns
  have hthreat := h.threat
  have hkept := h.kept.addTempThreat view unit threat true
  by_cases hzero : reference.tempThreatModifyer = 0
  · rw [if_pos hzero, if_pos hzero] at hturns
    obtain ⟨after, hafter, htemp⟩ := h.next (track r unit t (view, .fadeApply threat)) hkept hturns
      (by rw [hthreat, hzero, add_zero]; rfl) (by simp [track]) fun hout => ⟨rfl, (h.offline hout).2⟩
    refine ⟨⟨after, hafter⟩, fun _ => iff_of_true (hafter.exact_iff.mpr ⟨by simp [track], fun _ other hother => ?_⟩) trivial⟩
    rw [htemp]
    exact Option.some.inj hother
  · rw [if_neg hzero, if_neg hzero] at hturns
    obtain ⟨after, hafter, htemp⟩ := h.next (track r unit t (view, .fadeApply threat)) hkept hturns
      (by rw [hthreat, add_zero]; rfl) (by simp [track]) fun hout => by
        have hnone := (h.offline hout).1
        rw [hfade] at hnone
        exact absurd hnone hzero
    refine ⟨⟨after, hafter⟩, fun _ => iff_of_true (hafter.exact_iff.mpr ⟨by simp [track], fun htaunt => ?_⟩) trivial⟩
    exact absurd (h.idle htaunt hfade) hzero

theorem Tracks.fadeRemove (threat : ℚ) : Steps r unit t (view, .fadeRemove threat) := by
  have hturns := turns_removeTempThreat h.kept h.refs view threat
  rw [h.unitGuid] at hturns
  have hthreat := h.threat
  obtain ⟨after, hafter, htemp⟩ := h.next (track r unit t (view, .fadeRemove threat))
    (h.kept.addTempThreat view unit threat false) hturns (by rw [hthreat, add_neg_cancel_right, add_zero]; rfl)
    (fun _ _ => rfl) fun hout => ⟨rfl, (h.offline hout).2⟩
  refine ⟨⟨after, hafter⟩, fun _ => hafter.exact_iff.trans ?_⟩
  rw [htemp]
  simp only [Outlasts, track]
  cases t.taunt <;> simp [eq_comm]

theorem Tracks.addThreat (ref : Nat) (mod : ℚ) : Steps r unit t (view, .addThreat ref mod) := by
  have hturns := gains_refAddThreat view ref h.kept (by rw [h.refs]; rfl) mod reference h.refs
  have hthreat : reference.threat + (if ref = r then mod else 0) =
      (track r unit t (view, .addThreat ref mod)).additive + reference.tempThreatModifyer := by
    rw [h.threat]
    simp only [track]
    split_ifs
    · exact add_right_comm _ _ _
    · exact add_zero _
  obtain ⟨after, hafter, htemp⟩ := h.next (track r unit t (view, .addThreat ref mod))
    (h.kept.refAddThreat view mod) hturns hthreat h.idle h.offline
  refine ⟨⟨after, hafter⟩, fun hexact => iff_of_true (hafter.exact_iff.mpr ?_) trivial⟩
  rw [htemp]
  exact h.exact_iff.mp hexact

end

theorem Tracks.steps {input : View × TempOp} (hok : Alternates t input) :
    Steps r unit t input := by
  obtain ⟨view, op⟩ := input
  cases op with
  | tauntApply => exact h.tauntApply view hok
  | tauntFadeOut => exact h.tauntFadeOut view
  | fadeApply threat => exact h.fadeApply view threat hok
  | fadeRemove threat => exact h.fadeRemove view threat
  | addThreat ref mod => exact h.addThreat view ref mod

end

def tracked (m : ThreatManager) (reference : HostileReference) : Tracked := ⟨m, reference.threat, none, none⟩

theorem tracks_tracked (h : m.Kept) (href : m.refs r = some reference) (htemp : reference.tempThreatModifyer = 0) :
    Tracks r reference.unitGuid (tracked m reference) reference :=
  ⟨h, href, rfl, by rw [htemp, add_zero]; rfl, fun _ _ => htemp, fun _ => ⟨htemp, rfl⟩⟩

-- A reference without temporary threat: every state of a run is exact when the
-- effect that ends first leaves the other nothing to add.
theorem exact_run_iff (owner : Nat) (messages : List Message) (r : Nat) (reference : HostileReference)
    (inputs : List (View × TempOp)) (href : (Run.run receive (new owner) messages).refs r = some reference)
    (htemp : reference.tempThreatModifyer = 0)
    (hok : Run.Guarded (track r reference.unitGuid) Alternates
      (tracked (Run.run receive (new owner) messages) reference) inputs) :
    (∀ before, before <+: inputs → Exact r
        (Run.run (track r reference.unitGuid) (tracked (Run.run receive (new owner) messages) reference) before)) ↔
      Run.Guarded (track r reference.unitGuid) (Outlasts r) (tracked (Run.run receive (new owner) messages) reference)
        inputs := by
  have hstart := tracks_tracked (kept_run owner messages) href htemp
  refine Run.prefixes_iff_guarded (track r reference.unitGuid) Alternates (Outlasts r)
    (fun t => ∃ after, Tracks r reference.unitGuid t after) (Exact r)
    (fun _ _ hex hstep => (hex.choose_spec.steps hstep).tracks)
    (fun _ _ hex hexact hstep => (hex.choose_spec.steps hstep).exact hexact) ⟨reference, hstart⟩ ?_ hok
  exact hstart.exact_iff.mpr ⟨by simp [tracked], by simp [tracked]⟩

-- Unit 2 has a threat of 10 when the creature attacks unit 1, which has 100.

def sampleReference : HostileReference :=
  { unitGuid := 2, threat := 10, tempThreatModifyer := 0, online := true, accessible := true, valid := true }

deriving instance DecidableEq for HostileReference

theorem refs_sampleFight : (Run.run receive (new 7) sampleFight).refs 2 = some sampleReference := by decide +kernel

def sampleTracked : Tracked := tracked (Run.run receive (new 7) sampleFight) sampleReference

theorem exact_run_iff_apart :
    (∀ before, before <+: [(sampleView, TempOp.tauntApply), (sampleView, .tauntFadeOut), (sampleView, .fadeApply (-5))] →
        Exact 2 (Run.run (track 2 2) sampleTracked before)) ↔
      Run.Guarded (track 2 2) (Outlasts 2) sampleTracked
        [(sampleView, TempOp.tauntApply), (sampleView, .tauntFadeOut), (sampleView, .fadeApply (-5))] :=
  exact_run_iff 7 sampleFight 2 sampleReference _ refs_sampleFight rfl (by simp [Alternates, track, tracked])

-- The fade comes and goes while unit 2 taunts, and takes the taunt with it.
theorem not_exact_run : ¬∀ (owner : Nat) (messages : List Message) (r : Nat) (reference : HostileReference)
    (inputs : List (View × TempOp)), (Run.run receive (new owner) messages).refs r = some reference →
    reference.tempThreatModifyer = 0 →
    Run.Guarded (track r reference.unitGuid) Alternates
      (tracked (Run.run receive (new owner) messages) reference) inputs →
    ∀ before, before <+: inputs → Exact r
      (Run.run (track r reference.unitGuid) (tracked (Run.run receive (new owner) messages) reference) before) := by
  intro h
  let inputs := [(sampleView, TempOp.tauntApply), (sampleView, .fadeApply (-5)), (sampleView, .fadeRemove (-5))]
  have hexact := h 7 sampleFight 2 sampleReference inputs refs_sampleFight rfl
    (by simp [inputs, Alternates, track, tracked]) inputs (List.prefix_refl inputs)
  have hthreat : (Run.run (track 2 2) sampleTracked inputs).manager.threatOf 2 = 10 + 90 := by
    have hgap : sampleTracked.manager.tauntGap 2 = 90 := by decide +kernel
    rw [← hgap]
    exact hexact
  revert hthreat
  decide +kernel

end ThreatManager

end TurtleWow.Threat
