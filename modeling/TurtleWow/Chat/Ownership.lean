import TurtleWow.Chat.Channel
import TurtleWow.Lib.Run

namespace TurtleWow.Chat

open OrderedMap

-- One owner, who is a member and carries the flag; and a member has joined and
-- is not banned.

namespace Channel

structure Owned (c : Channel) : Prop where
  one : ∀ guid other, c.isOn guid = true → c.isOn other = true → (c.info guid).owner = true →
    (c.info other).owner = true → guid = other
  owner : c.ownerGuid ≠ 0 → c.isOn c.ownerGuid = true ∧ (c.info c.ownerGuid).owner = true
  joined : ∀ guid, c.isOn guid = true → c.joined guid = true
  banned : ∀ guid, c.banned guid = true → c.isOn guid = false

structure Kept (c : Channel) : Prop where
  player : ∀ guid, c.isOn guid = true → (c.info guid).player = guid
  flag : ∀ guid, c.isOn guid = true → (c.info guid).owner = true → guid = c.ownerGuid ∧ guid ≠ 0
  joined : ∀ guid, c.isOn guid = true → c.joined guid = true
  banned : ∀ guid, c.banned guid = true → c.isOn guid = false

structure Sound (c : Channel) : Prop extends Kept c where
  owner : c.ownerGuid ≠ 0 → c.isOn c.ownerGuid = true ∧ (c.info c.ownerGuid).owner = true

def mayOwn (c : Channel) (view : View) (guid : Nat) : Bool :=
  (view.getPlayer guid).any fun sec => !(c.general && decide (sec < SEC_OBSERVER))

variable {c : Channel} {view : View} {guid other : Nat}

theorem Sound.owned (h : c.Sound) : c.Owned := by
  refine ⟨fun guid other hguid hother hflag hflag' => ?_, h.owner, h.joined, h.banned⟩
  rw [(h.flag guid hguid hflag).1, (h.flag other hother hflag').1]

theorem sound_new (custom general : Bool) (securityLevel : Nat) : (new custom general securityLevel).Sound := by
  have hempty (guid : Nat) : (new custom general securityLevel).isOn guid = false := rfl
  refine ⟨⟨?_, ?_, ?_, fun _ _ => rfl⟩, fun h => absurd rfl h⟩ <;> simp [hempty]

theorem isOn_setInfo (f : PlayerInfo → PlayerInfo) :
    (c.setInfo guid f).isOn other = (decide (other = guid) || c.isOn other) := by
  simp only [isOn, setInfo, find_insert]
  by_cases h : other = guid
  · simp [h]
  · simp [h]

theorem info_setInfo (f : PlayerInfo → PlayerInfo) :
    (c.setInfo guid f).info other = if other = guid then f (c.info guid) else c.info other := by
  rw [info, setInfo, find_insert]
  by_cases h : other = guid
  · rw [if_pos h, if_pos h, Option.getD_some]
  · rw [if_neg h, if_neg h, info]

theorem isOn_erase : (c.erase guid).isOn other = (!decide (other = guid) && c.isOn other) := by
  simp only [isOn, erase, find_erase]
  by_cases h : other = guid
  · simp [h]
  · simp [h]

theorem info_erase (hne : other ≠ guid) : (c.erase guid).info other = c.info other := by
  rw [info, erase, find_erase, if_neg hne, info]

theorem isOn_of_firstPlayer (h : c.Kept) (hne : c.players.entries ≠ []) : c.isOn c.firstPlayer = true := by
  obtain ⟨entry, rest, hentries⟩ := List.exists_cons_of_ne_nil hne
  have hfind : c.players.find entry.1 = some entry.2 :=
    find_of_mem (hentries ▸ List.mem_cons_self)
  have hon : c.isOn entry.1 = true := by rw [isOn, hfind]; rfl
  have hplayer := h.player entry.1 hon
  rw [info, hfind, Option.getD_some] at hplayer
  simp only [firstPlayer, hentries, hplayer]
  exact hon

theorem not_isOn_of_isEmpty (h : c.players.entries = []) (guid : Nat) : c.isOn guid = false := by
  rw [isOn, OrderedMap.find, h]
  rfl

theorem Kept.setInfo (h : c.Kept) (hon : c.isOn guid = true) {f : PlayerInfo → PlayerInfo}
    (hplayer : ∀ info, (f info).player = info.player) (howner : ∀ info, (f info).owner = info.owner) :
    (c.setInfo guid f).Kept := by
  have hsame : ∀ other, (c.setInfo guid f).isOn other = c.isOn other := by
    intro other
    rw [isOn_setInfo]
    by_cases hother : other = guid
    · simp [hother, hon]
    · simp [hother]
  refine ⟨fun other hother => ?_, fun other hother hflag => ?_, fun other hother => ?_, fun other hother => ?_⟩
  · rw [hsame] at hother
    rw [info_setInfo]
    by_cases heq : other = guid
    · rw [if_pos heq, hplayer, heq, h.player guid hon]
    · rw [if_neg heq, h.player other hother]
  · rw [hsame] at hother
    rw [info_setInfo] at hflag
    by_cases heq : other = guid
    · rw [if_pos heq, howner, ← heq] at hflag
      exact h.flag other hother hflag
    · rw [if_neg heq] at hflag
      exact h.flag other hother hflag
  · rw [hsame] at hother
    exact h.joined other hother
  · rw [hsame]
    exact h.banned other hother

theorem Sound.setInfo (h : c.Sound) (hon : c.isOn guid = true) {f : PlayerInfo → PlayerInfo}
    (hplayer : ∀ info, (f info).player = info.player) (howner : ∀ info, (f info).owner = info.owner) :
    (c.setInfo guid f).Sound := by
  refine ⟨h.toKept.setInfo hon hplayer howner, fun hne => ?_⟩
  obtain ⟨hmember, hflag⟩ := h.owner hne
  refine ⟨?_, ?_⟩
  · rw [isOn_setInfo]
    exact Bool.or_eq_true_iff.mpr (.inr hmember)
  · rw [info_setInfo]
    by_cases heq : (c.setInfo guid f).ownerGuid = guid
    · rw [if_pos heq, howner, ← heq]
      exact hflag
    · rw [if_neg heq]
      exact hflag

theorem dropOwner_spec (c : Channel) (guid : Nat) :
    c.dropOwner.isOn guid = c.isOn guid ∧ (c.dropOwner.info guid).player = (c.info guid).player ∧
      (c.dropOwner.info guid).owner =
        (!decide (guid = c.ownerGuid ∧ c.ownerGuid ≠ 0 ∧ c.isOn c.ownerGuid = true) && (c.info guid).owner) := by
  unfold dropOwner
  by_cases h : c.ownerGuid ≠ 0 ∧ c.isOn c.ownerGuid = true
  · rw [if_pos h, isOn_setInfo, info_setInfo]
    by_cases heq : guid = c.ownerGuid
    · simp [heq, h.1, h.2, PlayerInfo.setOwner]
    · simp [heq]
  · rw [if_neg h]
    have hnot : ¬(guid = c.ownerGuid ∧ c.ownerGuid ≠ 0 ∧ c.isOn c.ownerGuid = true) := fun hall => h hall.2
    simp [hnot]

theorem ne_zero_of_mayOwn (h : c.mayOwn view guid = true) : guid ≠ 0 := by
  rintro rfl
  simp [mayOwn, View.getPlayer] at h

theorem setOwner_of_mayOwn (h : c.mayOwn view guid = true) :
    c.setOwner view guid = { c.dropOwner with ownerGuid := guid }.setInfo guid fun info => info.setOwner true := by
  unfold mayOwn at h
  unfold setOwner
  cases hplayer : view.getPlayer guid with
  | none =>
    rw [hplayer] at h
    cases h
  | some sec =>
    have hsec : ¬(c.general = true ∧ sec < SEC_OBSERVER) := by
      simpa [hplayer, imp_iff_not_or] using h
    have hne : guid ≠ 0 := by
      rintro rfl
      simp [View.getPlayer] at hplayer
    simp only [if_neg hsec, if_pos hne]

theorem setOwner_of_not (h : c.mayOwn view guid = false) : c.setOwner view guid = c := by
  unfold mayOwn at h
  unfold setOwner
  cases hplayer : view.getPlayer guid with
  | none => rfl
  | some sec =>
    have hsec : c.general = true ∧ sec < SEC_OBSERVER := by
      simpa [hplayer] using h
    simp only [if_pos hsec]

theorem sound_setOwner (h : c.Kept) (hon : c.isOn guid = true) (hmay : c.mayOwn view guid = true) :
    (c.setOwner view guid).Sound := by
  rw [setOwner_of_mayOwn hmay]
  have hdrop := dropOwner_spec c
  have hkeeps : c.dropOwner.joined = c.joined ∧ c.dropOwner.banned = c.banned := by
    unfold dropOwner
    by_cases h : c.ownerGuid ≠ 0 ∧ c.isOn c.ownerGuid = true
    · rw [if_pos h]
      exact ⟨rfl, rfl⟩
    · rw [if_neg h]
      exact ⟨rfl, rfl⟩
  have hsame : ∀ other, ({ c.dropOwner with ownerGuid := guid }.setInfo guid fun info => info.setOwner true).isOn
      other = c.isOn other := by
    intro other
    rw [isOn_setInfo, show ({ c.dropOwner with ownerGuid := guid } : Channel).isOn other = c.dropOwner.isOn other from rfl,
      (hdrop other).1]
    by_cases hother : other = guid
    · simp [hother, hon]
    · simp [hother]
  have hinfo : ∀ other, ({ c.dropOwner with ownerGuid := guid }.setInfo guid fun info => info.setOwner true).info
      other = if other = guid then (c.dropOwner.info guid).setOwner true else c.dropOwner.info other := by
    intro other
    exact info_setInfo _
  refine ⟨⟨fun other hother => ?_, fun other hother hflag => ?_, fun other hother => ?_, fun other hother => ?_⟩,
    fun _ => ?_⟩
  · rw [hsame] at hother
    rw [hinfo]
    by_cases heq : other = guid
    · rw [if_pos heq, heq]
      exact (hdrop guid).2.1.trans (h.player guid hon)
    · rw [if_neg heq, (hdrop other).2.1, h.player other hother]
  · rw [hsame] at hother
    rw [hinfo] at hflag
    by_cases heq : other = guid
    · exact ⟨heq, heq ▸ ne_zero_of_mayOwn hmay⟩
    · -- Nobody else had the flag but the old owner, who has lost it.
      rw [if_neg heq, (hdrop other).2.2, Bool.and_eq_true] at hflag
      obtain ⟨hwas, hnonzero⟩ := h.flag other hother hflag.2
      have hlost := hflag.1
      rw [decide_eq_true ⟨hwas, hwas ▸ hnonzero, hwas ▸ hother⟩] at hlost
      exact absurd hlost (by decide)
  · rw [hsame] at hother
    exact hkeeps.1 ▸ h.joined other hother
  · rw [hsame]
    exact h.banned other (hkeeps.2 ▸ hother)
  · refine ⟨(hsame guid).trans hon, ?_⟩
    refine (congrArg PlayerInfo.owner (hinfo guid)).trans ?_
    rw [if_pos rfl]
    rfl

theorem isOn_setOwner (hon : c.isOn guid = true) : (c.setOwner view guid).isOn guid = true := by
  cases hmay : c.mayOwn view guid with
  | true =>
    rw [setOwner_of_mayOwn hmay, isOn_setInfo, decide_eq_true rfl, Bool.true_or]
  | false =>
    rw [setOwner_of_not hmay]
    exact hon

theorem Sound.setOwner (h : c.Sound) (hon : c.isOn guid = true) : (c.setOwner view guid).Sound := by
  cases hmay : c.mayOwn view guid with
  | true => exact sound_setOwner h.toKept hon hmay
  | false =>
    rw [setOwner_of_not hmay]
    exact h

theorem Kept.erase (h : c.Kept) (guid : Nat) : (c.erase guid).Kept := by
  have hmember : ∀ other, (c.erase guid).isOn other = true → other ≠ guid ∧ c.isOn other = true := by
    intro other hother
    rw [isOn_erase, Bool.and_eq_true] at hother
    exact ⟨by simpa using hother.1, hother.2⟩
  refine ⟨fun other hother => ?_, fun other hother hflag => ?_, fun other hother => ?_, fun other hother => ?_⟩
  · obtain ⟨hne, hon⟩ := hmember other hother
    rw [info_erase hne, h.player other hon]
  · obtain ⟨hne, hon⟩ := hmember other hother
    rw [info_erase hne] at hflag
    exact h.flag other hon hflag
  · obtain ⟨hne, hon⟩ := hmember other hother
    exact (Function.update_of_ne hne _ _).trans (h.joined other hon)
  · rw [isOn_erase, h.banned other hother, Bool.and_false]

theorem Sound.erase (h : c.Sound) (hne : c.ownerGuid ≠ 0 → guid ≠ c.ownerGuid) : (c.erase guid).Sound := by
  refine ⟨h.toKept.erase guid, fun howner => ?_⟩
  obtain ⟨hon, hflag⟩ := h.owner howner
  replace hne := hne howner
  refine ⟨?_, ?_⟩
  · rw [isOn_erase, show (c.erase guid).ownerGuid = c.ownerGuid from rfl, hon]
    simpa using Ne.symm hne
  · exact (congrArg PlayerInfo.owner (info_erase (Ne.symm hne))).trans hflag

theorem sound_add (h : c.Sound) (hoff : c.isOn guid = false) (hfree : c.banned guid = false) : (c.add guid).Sound := by
  have hon : ∀ other, (c.add guid).isOn other = (decide (other = guid) || c.isOn other) := fun other =>
    isOn_setInfo (c := c) fun _ => ⟨guid, false, false, false⟩
  have hinfo : ∀ other, (c.add guid).info other = if other = guid then ⟨guid, false, false, false⟩ else c.info other :=
    fun other => info_setInfo (c := c) fun _ => ⟨guid, false, false, false⟩
  have hold : ∀ other, (c.add guid).isOn other = true → other ≠ guid → c.isOn other = true := by
    intro other hother hne
    rw [hon, decide_eq_false hne, Bool.false_or] at hother
    exact hother
  refine ⟨⟨fun other hother => ?_, fun other hother hflag => ?_, fun other hother => ?_, fun other hother => ?_⟩,
    fun howner => ?_⟩
  · rw [hinfo]
    by_cases heq : other = guid
    · rw [if_pos heq, heq]
    · rw [if_neg heq, h.player other (hold other hother heq)]
  · rw [hinfo] at hflag
    by_cases heq : other = guid
    · rw [if_pos heq] at hflag
      cases hflag
    · rw [if_neg heq] at hflag
      exact h.flag other (hold other hother heq) hflag
  · by_cases heq : other = guid
    · rw [heq]
      exact Function.update_self _ _ _
    · exact (Function.update_of_ne heq _ _).trans (h.joined other (hold other hother heq))
  · have hne : other ≠ guid := by
      rintro rfl
      exact absurd (hfree.symm.trans hother) Bool.false_ne_true
    rw [hon, decide_eq_false hne, Bool.false_or, h.banned other hother]
  · obtain ⟨hmember, hflag⟩ := h.owner howner
    have hne : c.ownerGuid ≠ guid := by
      intro heq
      exact absurd (hoff.symm.trans (heq ▸ hmember)) Bool.false_ne_true
    refine ⟨?_, ?_⟩
    · rw [hon, show (c.add guid).ownerGuid = c.ownerGuid from rfl, hmember, Bool.or_true]
    · rw [hinfo, show (c.add guid).ownerGuid = c.ownerGuid from rfl, if_neg hne]
      exact hflag

theorem Sound.ite {p : Prop} [Decidable p] {first second : Channel} (hfirst : p → first.Sound)
    (hsecond : ¬p → second.Sound) : (if p then first else second).Sound := by
  by_cases hp : p
  · rw [if_pos hp]
    exact hfirst hp
  · rw [if_neg hp]
    exact hsecond hp

theorem Sound.join (h : c.Sound) (view : View) (guid : Nat) : (c.join view guid).Sound := by
  unfold Channel.join
  refine Sound.ite (fun _ => h) fun hoff => Sound.ite (fun _ => h) fun hfree => Sound.ite (fun _ => h) fun _ =>
    Sound.ite (fun _ => h) fun _ => ?_
  have hadd : (c.add guid).Sound := sound_add h (by simpa using hoff) (by simpa using hfree)
  have hon : (c.add guid).isOn guid = true := by
    refine (isOn_setInfo (c := c) fun _ => ⟨guid, false, false, false⟩).trans ?_
    rw [decide_eq_true rfl, Bool.true_or]
  exact Sound.ite (fun _ => (hadd.setOwner hon).setInfo (isOn_setOwner hon) (fun _ => rfl) fun _ => rfl) fun _ => hadd

theorem Sound.leftChannel (h : c.Sound) : c.leftChannel.Sound := by
  refine Sound.ite (fun _ => ?_) fun _ => h
  have hempty (guid : Nat) : isOn { new c.custom c.general 0 with joined := c.joined } guid = false := rfl
  refine ⟨⟨?_, ?_, ?_, fun _ _ => rfl⟩, fun h => absurd rfl h⟩ <;> simp [hempty]

theorem Sound.setMode (h : c.Sound) (view : View) (guid : Nat) (moderator set : Bool) :
    (c.setMode view guid moderator set).Sound := by
  unfold Channel.setMode
  cases view.getPlayer guid with
  | none => exact h
  | some sec =>
    refine Sound.ite (fun _ => h) fun _ => Sound.ite (fun _ => h) fun _ => ?_
    cases view.named with
    | none => exact h
    | some target =>
      refine Sound.ite (fun _ => h) fun _ => Sound.ite (fun _ => h) fun hoff => Sound.ite (fun _ => h) fun _ =>
        Sound.ite (fun _ => h) fun _ => ?_
      have hon : c.isOn target = true := by simpa using hoff
      refine Sound.ite (fun _ => Sound.ite (fun _ => h) fun _ => ?_) fun _ => ?_
      · exact h.setInfo hon (fun _ => rfl) fun _ => rfl
      · exact h.setInfo hon (fun _ => rfl) fun _ => rfl

theorem Sound.setOwnerBy (h : c.Sound) (view : View) (guid : Nat) : (c.setOwnerBy view guid).Sound := by
  unfold Channel.setOwnerBy
  cases view.getPlayer guid with
  | none => exact h
  | some sec =>
    refine Sound.ite (fun _ => h) fun _ => Sound.ite (fun _ => h) fun _ => ?_
    cases view.named with
    | none => exact h
    | some target =>
      refine Sound.ite (fun _ => h) fun hoff => Sound.ite (fun _ => h) fun _ => Sound.ite (fun _ => h) fun _ => ?_
      have hon : c.isOn target = true := by simpa using hoff
      have hset : (c.setInfo target fun info => info.setModerator true).Sound :=
        h.setInfo hon (fun _ => rfl) fun _ => rfl
      refine hset.setOwner ?_
      rw [isOn_setInfo, hon, Bool.or_true]

theorem Sound.unBan (h : c.Sound) (view : View) (guid : Nat) : (c.unBan view guid).Sound := by
  unfold Channel.unBan
  refine Sound.ite (fun _ => h) fun _ => Sound.ite (fun _ => h) fun _ => ?_
  cases view.named with
  | none => exact h
  | some target =>
    refine ⟨⟨h.player, h.flag, h.joined, fun other hother => ?_⟩, h.owner⟩
    refine h.banned other ?_
    by_cases heq : other = target
    · simp [heq] at hother
    · simpa [heq] using hother

-- Where the code goes wrong: the owner who leaves must leave the channel to
-- somebody whom it can make the owner, or leave it to be deleted; and the owner
-- may not kick or ban himself.
def Meets (c : Channel) (view : View) : Message → Prop
  | .leave guid => c.isOn guid = true → (c.info guid).owner = true →
      if (c.erase guid).players.entries.isEmpty then c.securityLevel = 0
      else c.mayOwn view (c.erase guid).firstPlayer = true
  | .kickOrBan guid _ =>
    ¬(c.isOn guid = true ∧ c.canModerate view guid = true ∧ guid = c.ownerGuid ∧ view.named = some guid)
  | _ => True

instance (c : Channel) (view : View) : (message : Message) → Decidable (c.Meets view message)
  | .join _ => inferInstanceAs (Decidable True)
  | .leave _ => inferInstanceAs (Decidable (_ → _ → ite _ _ _))
  | .kickOrBan _ _ => inferInstanceAs (Decidable (¬_))
  | .unBan _ => inferInstanceAs (Decidable True)
  | .setMode _ _ _ => inferInstanceAs (Decidable True)
  | .setOwner _ => inferInstanceAs (Decidable True)

theorem Sound.leave (h : c.Sound) (hmeets : c.Meets view (.leave guid)) : (c.leave view guid).leftChannel.Sound := by
  unfold Channel.leave
  by_cases hon : c.isOn guid = true
  · rw [if_pos hon]
    by_cases hflag : (c.info guid).owner = true
    · rw [if_pos hflag]
      have hmeets := hmeets hon hflag
      have hkept := h.toKept.erase guid
      by_cases hempty : (c.erase guid).players.entries.isEmpty = true
      · rw [if_pos hempty] at hmeets
        have hnobody : (c.erase guid).firstPlayer = 0 := by
          simp only [firstPlayer, List.isEmpty_iff.mp hempty]
        have hnot : (c.erase guid).mayOwn view (c.erase guid).firstPlayer = false := by
          rw [hnobody]
          rfl
        rw [setOwner_of_not hnot]
        have hdeleted : (c.erase guid).leftChannel =
            { new c.custom c.general 0 with joined := (c.erase guid).joined } := if_pos ⟨hempty, hmeets⟩
        rw [hdeleted]
        have hnone (other : Nat) :
            isOn { new c.custom c.general 0 with joined := (c.erase guid).joined } other = false := rfl
        refine ⟨⟨?_, ?_, ?_, fun _ _ => rfl⟩, fun h => absurd rfl h⟩ <;> simp [hnone]
      · rw [if_neg hempty] at hmeets
        have hfirst := isOn_of_firstPlayer hkept fun hnil => hempty (List.isEmpty_iff.mpr hnil)
        exact (sound_setOwner hkept hfirst hmeets).leftChannel
    · rw [if_neg hflag]
      refine (h.erase fun howner => ?_).leftChannel
      rintro rfl
      exact hflag (h.owner howner).2
  · rw [if_neg hon]
    exact h.leftChannel

theorem Kept.ban (h : c.Kept) (guid : Nat) :
    ({ c with banned := Function.update c.banned guid true } : Channel).erase guid |>.Kept := by
  have herased := h.erase guid
  refine ⟨herased.player, herased.flag, herased.joined, fun other hother => ?_⟩
  by_cases heq : other = guid
  · refine (isOn_erase (c := c)).trans ?_
    rw [heq, decide_eq_true rfl, Bool.not_true, Bool.false_and]
  · exact herased.banned other ((Function.update_of_ne heq _ _).symm.trans hother)

theorem Sound.kickOrBan (h : c.Sound) {ban : Bool} (hmeets : c.Meets view (.kickOrBan guid ban)) :
    (c.kickOrBan view guid ban).Sound := by
  unfold Channel.kickOrBan
  refine Sound.ite (fun _ => h) fun hoff => Sound.ite (fun _ => h) fun hmoderates => ?_
  have hon : c.isOn guid = true := by simpa using hoff
  have hmoderator : c.canModerate view guid = true := by simpa using hmoderates
  cases hnamed : view.named with
  | none => exact h
  | some target =>
    refine Sound.ite (fun _ => h) fun _ => Sound.ite (fun _ => h) fun hallowed => ?_
    have hremoved : ((if ban then { c with banned := Function.update c.banned target true } else c).erase target).Kept := by
      cases ban with
      | true => exact h.toKept.ban target
      | false => exact h.toKept.erase target
    have hfind : ((if ban then { c with banned := Function.update c.banned target true } else c).erase target).players =
        (c.erase target).players := by
      cases ban <;> rfl
    have hfields : ((if ban then { c with banned := Function.update c.banned target true } else c).erase target).general =
        c.general ∧ ((if ban then { c with banned := Function.update c.banned target true } else c).erase target).ownerGuid
          = c.ownerGuid := by
      cases ban <;> exact ⟨rfl, rfl⟩
    dsimp only
    generalize (if ban then { c with banned := Function.update c.banned target true } else c).erase target = left
      at hremoved hfind hfields
    have hsame : ∀ other, left.isOn other = (c.erase target).isOn other ∧ left.info other = (c.erase target).info other :=
      fun other => ⟨by rw [isOn, hfind, isOn], by rw [info, hfind, info]⟩
    by_cases howner : c.ownerGuid = target
    · rw [if_pos howner]
      -- The one who removes the owner stays, and is of the staff.
      have hother : guid ≠ target := by
        rintro rfl
        exact hmeets ⟨hon, hmoderator, howner.symm, hnamed⟩
      have hstays : left.isOn guid = true := by
        rw [(hsame guid).1, isOn_erase, hon, decide_eq_false hother]
        rfl
      have hfilled : ¬left.players.entries.isEmpty = true := by
        intro hempty
        exact absurd ((not_isOn_of_isEmpty (List.isEmpty_iff.mp hempty) guid).symm.trans hstays) Bool.false_ne_true
      have hmay : left.mayOwn view guid = true := by
        have hstaff : ¬(view.getPlayer guid).getD SEC_PLAYER < SEC_OBSERVER := fun hlow =>
          hallowed ⟨hlow, howner, fun heq => hother (heq.trans howner)⟩
        unfold mayOwn
        cases hplayer : view.getPlayer guid with
        | none =>
          rw [hplayer] at hstaff
          exact absurd (by decide) hstaff
        | some sec =>
          rw [hplayer, Option.getD_some] at hstaff
          simp [hstaff]
      rw [if_neg hfilled]
      exact sound_setOwner hremoved hstays hmay
    · rw [if_neg howner]
      refine ⟨hremoved, fun hne => ?_⟩
      rw [hfields.2] at hne ⊢
      have herased := h.erase (fun _ heq => howner heq.symm) |>.owner hne
      exact ⟨(hsame _).1.trans herased.1, (congrArg PlayerInfo.owner (hsame _).2).trans herased.2⟩

theorem Sound.receive (h : c.Sound) {input : View × Message} (hmeets : c.Meets input.1 input.2) :
    (c.receive input).Sound := by
  obtain ⟨view, message⟩ := input
  cases message with
  | join guid => exact h.join view guid
  | leave guid => exact h.leave hmeets
  | kickOrBan guid ban => exact h.kickOrBan hmeets
  | unBan guid => exact h.unBan view guid
  | setMode guid moderator set => exact h.setMode view guid moderator set
  | setOwner guid => exact h.setOwnerBy view guid

theorem owned_run (custom general : Bool) (securityLevel : Nat) (inputs : List (View × Message))
    (h : Run.Guarded receive (fun c input => c.Meets input.1 input.2) (new custom general securityLevel) inputs) :
    (Run.run receive (new custom general securityLevel) inputs).Owned :=
  (Run.run_invariant receive (fun c input => c.Meets input.1 input.2) Sound (fun _ _ hsound hmeets =>
    hsound.receive hmeets) (sound_new custom general securityLevel) h).owned

def everybody (named : Option Nat) : View := ⟨fun guid => if guid = 4 then none else some 0, named, 0, true, true⟩

theorem owned_run_succession :
    (Run.run receive (new true false 0)
      [(everybody none, .join 2), (everybody none, .join 1), (everybody none, .join 4), (everybody (some 1), .kickOrBan 2 true),
        (everybody none, .join 3), (everybody (some 3), .setOwner 2), (everybody none, .leave 4),
        (everybody none, .leave 3), (everybody none, .leave 2)]).Owned :=
  owned_run true false 0 _ (by decide)

-- The owner bans himself and is put back as the owner.
theorem not_owned_run :
    ¬(Run.run receive (new true false 0)
      [(everybody none, .join 1), (everybody none, .join 2), (everybody (some 1), .kickOrBan 1 true)]).Owned := fun h =>
  absurd (h.banned 1 (by decide)) (by decide)

-- The owner leaves the channel to somebody who has gone offline.
example : ¬(Run.run receive (new true false 0)
      [(everybody none, .join 1), (everybody none, .join 4), (everybody none, .leave 1)]).Owned := fun h =>
  absurd (h.owner (by decide)).1 (by decide)

end Channel

end TurtleWow.Chat
