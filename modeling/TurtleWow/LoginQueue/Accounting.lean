import TurtleWow.Lib.Fibers
import TurtleWow.LoginQueue.World

namespace TurtleWow.LoginQueue

open List Function OrderedMap

-- The queues, the flags of the sessions and the counters belong together.

namespace World

def lets (region : Region) : Option WorldSession → Bool
  | none => false
  | some s => s.passedQueue && s.region = region

def letInSessions (w : World) (region : Region) : Finset Nat :=
  (Finset.range w.nextSession).filter fun id => lets region (w.session id)

def weight (region : Region) (s : Option WorldSession) : Nat := if lets region s then 1 else 0

def queuedIds (w : World) (region : Region) : List Nat := (w.priorityQueue region).map Prod.snd

-- While a session is replaced, `exempt` is its account.
structure Accounted (exempt : Option Nat) (w : World) : Prop where
  fresh : ∀ id, w.nextSession ≤ id → w.session id = none
  queued : ∀ region id, id ∈ w.queuedIds region ↔ ∃ s, w.session id = some s ∧ s.region = region ∧ s.inQueue = true
  once : ∀ region, (w.queuedIds region).Nodup
  waiting : ∀ id s, w.session id = some s → s.inQueue = true →
    s.passedQueue = false ∧ w.sessions.find s.account = some id ∧ (s.socket = true → s.player = false)
  logged : ∀ region, w.logged region = (w.letInSessions region).card
  mapped : ∀ account id, some account ≠ exempt → w.sessions.find account = some id →
    ∃ s, w.session id = some s ∧ s.account = account
  disconnected : ∀ id ∈ w.disconnectedSessions, id < w.nextSession ∧ ∀ account, w.sessions.find account ≠ some id

namespace Accounted

variable {w w' : World} {exempt : Option Nat} {id account : Nat} {s s' : WorldSession}

section

variable (h : Accounted exempt w)

include h

section

variable (hs : w.session id = some s)

include hs

theorem lt_next : id < w.nextSession := by
  by_contra hge
  rw [h.fresh id (Nat.le_of_not_lt hge)] at hs
  cases hs

theorem card_letIn (hnext : w'.nextSession = w.nextSession)
    {new : Option WorldSession} (hsession : w'.session = Function.update w.session id new) (region : Region) :
    (w'.letInSessions region).card + weight region (some s) = (w.letInSessions region).card + weight region new := by
  have hcard := Fibers.card_update w.session (fun s => lets region s = true) (h.lt_next hs) new
  rw [hs] at hcard
  unfold letInSessions
  rw [hnext, hsession]
  exact hcard

theorem update (hsession : w'.session = Function.update w.session id (some s')) (hnext : w'.nextSession = w.nextSession)
    (hsessions : w'.sessions = w.sessions) (hdisconnected : w'.disconnectedSessions = w.disconnectedSessions)
    (haccount : s'.account = s.account) (hregion : s'.region = s.region)
    (hqueue : ∀ region other, other ∈ w'.queuedIds region ↔
      if other = id then region = s.region ∧ s'.inQueue = true else other ∈ w.queuedIds region)
    (honce : ∀ region, (w'.queuedIds region).Nodup)
    (hwaiting : s'.inQueue = true →
      s'.passedQueue = false ∧ w.sessions.find s.account = some id ∧ (s'.socket = true → s'.player = false))
    (hlogged : ∀ region, w'.logged region + weight region (some s) = w.logged region + weight region (some s')) :
    Accounted exempt w' where
  fresh other hother := by
    have hlt := h.lt_next hs
    rw [hsession, update_of_ne (by omega)]
    exact h.fresh other (by omega)
  queued region other := by
    rw [hqueue, hsession]
    by_cases hother : other = id
    · subst hother
      rw [if_pos rfl, update_self]
      constructor
      · rintro ⟨rfl, hin⟩
        exact ⟨s', rfl, hregion, hin⟩
      · rintro ⟨found, hfound, hfregion, hin⟩
        cases hfound
        exact ⟨hfregion.symm.trans hregion, hin⟩
    · rw [if_neg hother, update_of_ne hother]
      exact h.queued region other
  once := honce
  waiting other found hfound hin := by
    rw [hsession] at hfound
    rw [hsessions]
    by_cases hother : other = id
    · subst hother
      rw [update_self] at hfound
      cases hfound
      rw [haccount]
      exact hwaiting hin
    · rw [update_of_ne hother] at hfound
      exact h.waiting other found hfound hin
  logged region := by
    have hcard := h.card_letIn hs hnext hsession region
    have hbefore := h.logged region
    have hafter := hlogged region
    omega
  mapped account other hexempt hfind := by
    rw [hsessions] at hfind
    obtain ⟨found, hfound, haccount'⟩ := h.mapped account other hexempt hfind
    rw [hsession]
    by_cases hother : other = id
    · subst hother
      rw [hs] at hfound
      cases hfound
      exact ⟨s', update_self _ _ _, haccount.trans haccount'⟩
    · exact ⟨found, (update_of_ne hother _ _).trans hfound, haccount'⟩
  disconnected other hother := by
    rw [hsessions, hnext]
    exact h.disconnected other (hdisconnected ▸ hother)

theorem inQueue_iff (region : Region) :
    id ∈ w.queuedIds region ↔ region = s.region ∧ s.inQueue = true := by
  rw [h.queued, hs]
  constructor
  · rintro ⟨found, hfound, rfl, hin⟩
    cases hfound
    exact ⟨rfl, hin⟩
  · rintro ⟨rfl, hin⟩
    exact ⟨s, rfl, rfl, hin⟩

theorem setSession (haccount : s'.account = s.account)
    (hregion : s'.region = s.region) (hin : s'.inQueue = s.inQueue) (hpassed : s'.passedQueue = s.passedQueue)
    (hplayer : s'.inQueue = true → s'.socket = true → s'.player = false) : Accounted exempt (w.setSession id s') := by
  refine h.update hs rfl rfl rfl rfl haccount hregion (fun region other => ?_) h.once (fun hin' => ?_) fun region => ?_
  · change other ∈ w.queuedIds region ↔ _
    split
    · next hother =>
        rw [hother, hin]
        exact h.inQueue_iff hs region
    · exact Iff.rfl
  · obtain ⟨hwait, hfind, -⟩ := h.waiting id s hs (hin ▸ hin')
    exact ⟨hpassed.trans hwait, hfind, hplayer hin'⟩
  · change w.logged region + _ = _
    rw [weight, weight, lets, lets, hpassed, hregion]

end

end

theorem map_eraseP_snd (queue : List (Nat × Nat)) (id : Nat) :
    (queue.eraseP fun entry => entry.2 = id).map Prod.snd = (queue.map Prod.snd).erase id := by
  induction queue with
  | nil => rfl
  | cons entry rest ih =>
    by_cases hentry : entry.2 = id
    · rw [eraseP_cons_of_pos (by simpa using hentry), map_cons, hentry, erase_cons_head]
    · rw [eraseP_cons_of_neg (by simpa using hentry), map_cons, map_cons, ih,
        erase_cons_tail (by simpa using hentry)]

theorem queuedIds_setQueue (w : World) (region other : Region) (queue : List (Nat × Nat)) :
    (w.setQueue region queue).queuedIds other = if other = region then queue.map Prod.snd else w.queuedIds other := by
  unfold queuedIds setQueue
  dsimp only
  rw [update_apply]
  split
  · rfl
  · rfl

section

variable (h : Accounted exempt w)

include h

theorem dequeue (hs : w.session id = some s) {queue : List (Nat × Nat)}
    (hqueue : queue.map Prod.snd = (w.queuedIds s.region).erase id) :
    Accounted exempt ((w.setSession id { s with inQueue := false }).setQueue s.region queue) := by
  refine h.update hs rfl rfl rfl rfl rfl rfl (fun region other => ?_) (fun region => ?_) nofun fun region => rfl
  · rw [queuedIds_setQueue]
    by_cases hregion : region = s.region
    · rw [if_pos hregion, hqueue, (h.once _).mem_erase_iff, hregion]
      by_cases hother : other = id
      · simp [hother]
      · simp [hother]
    · rw [if_neg hregion]
      change other ∈ w.queuedIds region ↔ _
      split
      · next hother =>
          rw [hother, h.inQueue_iff hs]
          simp [hregion]
      · exact Iff.rfl
  · rw [queuedIds_setQueue]
    split
    · rw [hqueue]
      exact (h.once _).erase _
    · exact h.once region

theorem removeQueuedSession_eq (hs : w.session id = some s) :
    ∃ queue, queue.Sublist (w.priorityQueue s.region) ∧ queue.map Prod.snd = (w.queuedIds s.region).erase id ∧
      w.removeQueuedSession id = (w.setSession id { s with inQueue := false }).setQueue s.region queue := by
  refine ⟨(w.priorityQueue s.region).eraseP fun entry => entry.2 = id, eraseP_sublist, map_eraseP_snd _ _, ?_⟩
  unfold removeQueuedSession
  rw [hs]
  dsimp only
  split
  · rw [setInQueue, hs]
  · next hnone =>
      have hnot : id ∉ w.queuedIds s.region := by
        intro hmem
        obtain ⟨entry, hentry, hid⟩ := mem_map.mp hmem
        exact hnone (any_eq_true.mpr ⟨entry, hentry, by simpa using hid⟩)
      have hin : s.inQueue = false := by
        by_contra hin
        exact hnot ((h.inQueue_iff hs _).mpr ⟨rfl, by simpa using hin⟩)
      have hsame : ({ s with inQueue := false } : WorldSession) = s := by rw [← hin]
      have herase : ((w.priorityQueue s.region).eraseP fun entry => entry.2 = id) = w.priorityQueue s.region := by
        refine eraseP_of_forall_not fun entry hentry hid => hnot ?_
        exact mem_map.mpr ⟨entry, hentry, by simpa using hid⟩
      rw [hsame, herase, World.setSession, setQueue, ← hs, update_eq_self, update_eq_self]

theorem letIn (hs : w.session id = some s) (hin : s.inQueue = false)
    (hpassed : s.passedQueue = false) (config : Config) (region : Region) (skipped : Bool) :
    Accounted exempt (w.letIn config id region skipped) := by
  unfold World.letIn onPassedQueue
  rw [hs]
  refine h.update hs rfl rfl rfl rfl rfl rfl (fun region other => ?_) h.once
    (fun hin' => absurd (hin.symm.trans hin') Bool.false_ne_true) fun region => ?_
  · change other ∈ w.queuedIds region ↔ _
    split
    · next hother =>
        rw [hother]
        exact h.inQueue_iff hs region
    · exact Iff.rfl
  · change Function.update w.logged s.region _ region + _ = _
    rw [update_apply]
    unfold weight lets
    by_cases hregion : region = s.region
    · rw [if_pos hregion, hregion]
      simp [hpassed]
      rfl
    · rw [if_neg hregion]
      simp [hpassed, Ne.symm hregion]

theorem congr (hsession : w'.session = w.session) (hnext : w'.nextSession = w.nextSession)
    (hsessions : w'.sessions = w.sessions) (hdisconnected : w'.disconnectedSessions = w.disconnectedSessions)
    (hqueued : ∀ region, w'.queuedIds region = w.queuedIds region) (hlogged : w'.logged = w.logged) :
    Accounted exempt w' where
  fresh := by rw [hsession, hnext]; exact h.fresh
  queued := by intro region id; rw [hqueued, hsession]; exact h.queued region id
  once := by intro region; rw [hqueued]; exact h.once region
  waiting := by rw [hsession, hsessions]; exact h.waiting
  logged := by unfold letInSessions; rw [hlogged, hnext, hsession]; exact h.logged
  mapped := by rw [hsessions, hsession]; exact h.mapped
  disconnected := by rw [hdisconnected, hsessions, hnext]; exact h.disconnected

section

variable (config : Config)

theorem popFront (region : Region) : Accounted exempt (w.popFront config region) := by
  unfold World.popFront
  cases hqueue : w.priorityQueue region with
  | nil => exact h
  | cons entry rest =>
    have hids : w.queuedIds region = entry.2 :: rest.map Prod.snd := by rw [queuedIds, hqueue, map_cons]
    obtain ⟨s, hs, rfl, hin⟩ := (h.queued region entry.2).mp (hids ▸ mem_cons_self)
    have hrest : rest.map Prod.snd = (w.queuedIds s.region).erase entry.2 := by rw [hids, erase_cons_head]
    have hdequeued := h.dequeue hs hrest
    dsimp only
    rw [setInQueue, hs]
    exact hdequeued.letIn (update_self _ _ _) rfl (h.waiting _ s hs hin).1 config s.region false

theorem pops (region : Region) (n : Nat) : Accounted exempt ((World.popFront config region)^[n] w) := by
  induction n generalizing w with
  | zero => exact h
  | succ n ih => exact ih (h.popFront config region)

theorem admitRegion (diff : Nat) (pop : Region → Int) (region : Region) :
    Accounted exempt (World.admitRegion config diff pop w region) := by
  have hadmitted : ∀ (limit : Int) (acceptNow : Nat), Accounted exempt
      (((World.popFront config region)^[acceptNow] { w with playerLimit := limit }).setQueue region
        ((((World.popFront config region)^[acceptNow] { w with playerLimit := limit }).priorityQueue region).map
          (raise config diff))) := by
    intro limit acceptNow
    have hlimit : Accounted exempt { w with playerLimit := limit } := h.congr rfl rfl rfl rfl (fun _ => rfl) rfl
    refine (hlimit.pops config region acceptNow).congr rfl rfl rfl rfl (fun other => ?_) rfl
    rw [queuedIds_setQueue]
    split
    · next hother =>
        rw [hother, map_map]
        rfl
    · rfl
  unfold World.admitRegion
  split
  · exact hadmitted _ _
  · exact h

theorem capLimit : Accounted exempt (w.capLimit config) := by
  unfold World.capLimit
  split
  · exact h.congr rfl rfl rfl rfl (fun _ => rfl) rfl
  · exact h

theorem updateSessions (diff : Nat) : Accounted exempt (w.updateSessions config diff) :=
  ((h.capLimit config).admitRegion _ _ _ _).admitRegion _ _ _ _

end

theorem drop (hs : w.session id = some s) (hin : s.inQueue = false)
    (hfind : ∀ account, w.sessions.find account = some id → some account = exempt)
    (hsession : w'.session = Function.update w.session id none) (hnext : w'.nextSession = w.nextSession)
    (hsessions : w'.sessions = w.sessions) (hdisconnected : w'.disconnectedSessions = w.disconnectedSessions)
    (hqueued : ∀ region, w'.queuedIds region = w.queuedIds region)
    (hlogged : ∀ region, w'.logged region + weight region (some s) = w.logged region) : Accounted exempt w' where
  fresh other hother := by
    rw [hsession, update_apply]
    split
    · rfl
    · exact h.fresh other (hnext ▸ hother)
  queued region other := by
    rw [hqueued, hsession]
    by_cases hother : other = id
    · rw [hother, update_self, h.inQueue_iff hs, hin]
      simp
    · rw [update_of_ne hother]
      exact h.queued region other
  once region := by
    rw [hqueued]
    exact h.once region
  waiting other found hfound hin' := by
    rw [hsession, update_apply] at hfound
    split at hfound
    · cases hfound
    · rw [hsessions]
      exact h.waiting other found hfound hin'
  logged region := by
    have hcard := h.card_letIn hs hnext hsession region
    have hbefore := h.logged region
    have hafter := hlogged region
    have hnone : weight region none = 0 := rfl
    omega
  mapped account other hexempt hother := by
    rw [hsessions] at hother
    have hne : other ≠ id := fun heq => hexempt (hfind account (heq ▸ hother))
    rw [hsession, update_of_ne hne]
    exact h.mapped account other hexempt hother
  disconnected other hother := by
    rw [hsessions, hnext]
    exact h.disconnected other (hdisconnected ▸ hother)

end

theorem session_delete (w : World) (id : Nat) : (w.delete id).session = Function.update w.session id none := by
  unfold World.delete
  cases hs : w.session id with
  | none =>
    have hsame := update_eq_self id w.session
    rw [hs] at hsame
    exact hsame.symm
  | some s =>
    dsimp only
    split
    · rfl
    · rfl

theorem sessions_delete (w : World) (id : Nat) : (w.delete id).sessions = w.sessions := by
  unfold World.delete
  cases hs : w.session id with
  | none => rfl
  | some s =>
    dsimp only
    split
    · rfl
    · rfl

theorem delete (h : Accounted exempt w) (hin : ∀ s, w.session id = some s → s.inQueue = false)
    (hfind : ∀ account, w.sessions.find account = some id → some account = exempt) : Accounted exempt (w.delete id) := by
  unfold World.delete
  cases hs : w.session id with
  | none => exact h
  | some s =>
    dsimp only
    cases hpassed : s.passedQueue with
    | false =>
      refine h.drop hs (hin s hs) hfind rfl rfl rfl rfl (fun _ => rfl) fun region => ?_
      simp [weight, lets, hpassed]
    | true =>
      refine h.drop hs (hin s hs) hfind rfl rfl rfl rfl (fun _ => rfl) fun region => ?_
      change Function.update w.logged s.region _ region + _ = _
      rw [update_apply, weight, lets, hpassed]
      by_cases hregion : region = s.region
      · rw [if_pos hregion, hregion]
        simp only [Bool.true_and, decide_true, if_true]
        omega
      · rw [if_neg hregion]
        simp [Ne.symm hregion]

theorem eraseAccount (h : Accounted exempt w) (hs : w.session id = some s) (hin : s.inQueue = false)
    (hfind : w.sessions.find s.account = some id) (hsession : w'.session = w.session)
    (hnext : w'.nextSession = w.nextSession) (hsessions : w'.sessions = w.sessions.erase s.account)
    (hdisconnected : ∀ other ∈ w'.disconnectedSessions, other ∈ w.disconnectedSessions ∨
      other = id ∧ some s.account ≠ exempt ∧ exempt = none)
    (hqueued : ∀ region, w'.queuedIds region = w.queuedIds region) (hlogged : w'.logged = w.logged) :
    Accounted exempt w' where
  fresh := by rw [hsession, hnext]; exact h.fresh
  queued := by intro region id; rw [hqueued, hsession]; exact h.queued region id
  once := by intro region; rw [hqueued]; exact h.once region
  waiting other found hfound hin' := by
    rw [hsession] at hfound
    obtain ⟨hwait, hother, hplayer⟩ := h.waiting other found hfound hin'
    have hne : found.account ≠ s.account := by
      intro heq
      rw [heq, hfind] at hother
      cases hother
      obtain rfl := Option.some.inj (hs.symm.trans hfound)
      rw [hin] at hin'
      cases hin'
    rw [hsessions, find_erase, if_neg hne]
    exact ⟨hwait, hother, hplayer⟩
  logged := by unfold letInSessions; rw [hlogged, hnext, hsession]; exact h.logged
  mapped account other hexempt hother := by
    rw [hsessions, find_erase] at hother
    split at hother
    · cases hother
    · rw [hsession]
      exact h.mapped account other hexempt hother
  disconnected other hother := by
    rw [hnext, hsessions]
    rcases hdisconnected other hother with hbefore | ⟨rfl, -, rfl⟩
    · obtain ⟨hlt, hnot⟩ := h.disconnected other hbefore
      refine ⟨hlt, fun account hfound => ?_⟩
      rw [find_erase] at hfound
      split at hfound
      · cases hfound
      · exact hnot account hfound
    · refine ⟨h.lt_next hs, fun account hfound => ?_⟩
      rw [find_erase] at hfound
      split at hfound
      · cases hfound
      · next hne =>
          obtain ⟨found, hfound', haccount⟩ := h.mapped account other nofun hfound
          obtain rfl := Option.some.inj (hs.symm.trans hfound')
          exact hne haccount.symm

theorem setSessionDisconnected (h : Accounted none w) (hs : w.session id = some s) (hin : s.inQueue = false)
    (hfind : w.sessions.find s.account = some id) : Accounted none (w.setSessionDisconnected id) := by
  unfold World.setSessionDisconnected
  rw [hs]
  refine h.eraseAccount hs hin hfind rfl rfl rfl (fun other hother => ?_) (fun _ => rfl) rfl
  exact (mem_cons.mp hother).symm.imp_right fun heq => ⟨heq, nofun, rfl⟩

theorem weaken (h : Accounted none w) (exempt : Option Nat) : Accounted exempt w :=
  { h with mapped := fun account id _ => h.mapped account id nofun }

-- The old session of the account is in no queue when it goes, and is deleted or
-- stays without its socket.
theorem replaceOld (h : Accounted none w) (account : Nat) (delay : Bool) :
    Accounted (some account) (w.replaceOld account delay) ∧
      ∀ id, (w.replaceOld account delay).sessions.find account = some id →
        (w.replaceOld account delay).session id = none := by
  unfold World.replaceOld
  cases hfind : w.sessions.find account with
  | none => exact ⟨h.weaken _, fun id hid => by rw [hfind] at hid; cases hid⟩
  | some old =>
    obtain ⟨s, hs, rfl⟩ := h.mapped account old nofun hfind
    obtain ⟨queue, -, hqueue, heq⟩ := h.removeQueuedSession_eq hs
    have hdequeued := h.dequeue hs hqueue
    dsimp only
    rw [heq]
    have hnow : ((w.setSession old { s with inQueue := false }).setQueue s.region queue).session old =
        some { s with inQueue := false } := update_self _ _ _
    split
    · refine ⟨(hdequeued.setSessionDisconnected hnow rfl hfind).weaken _, fun id hid => ?_⟩
      unfold World.setSessionDisconnected at hid
      rw [hnow] at hid
      change (w.sessions.erase s.account).find s.account = some id at hid
      rw [find_erase, if_pos rfl] at hid
      cases hid
    · refine ⟨(hdequeued.weaken _).delete (fun found hfound => ?_) fun other hother => ?_, fun id hid => ?_⟩
      · obtain rfl := Option.some.inj (hnow.symm.trans hfound)
        rfl
      · obtain ⟨found, hfound, haccount⟩ := hdequeued.mapped other old nofun hother
        obtain rfl := Option.some.inj (hnow.symm.trans hfound)
        rw [← haccount]
      · rw [sessions_delete] at hid
        obtain rfl := Option.some.inj (hfind.symm.trans hid)
        rw [session_delete, update_self]

theorem insert (h : Accounted (some account) w)
    (hgone : ∀ id, w.sessions.find account = some id → w.session id = none)
    (haccount : s.account = account) (hin : s.inQueue = false) (hpassed : s.passedQueue = false)
    (hsession : w'.session = Function.update w.session w.nextSession (some s))
    (hnext : w'.nextSession = w.nextSession + 1) (hsessions : w'.sessions = w.sessions.insert account w.nextSession)
    (hdisconnected : w'.disconnectedSessions = w.disconnectedSessions)
    (hqueued : ∀ region, w'.queuedIds region = w.queuedIds region) (hlogged : w'.logged = w.logged) :
    Accounted none w' where
  fresh other hother := by
    rw [hsession, update_of_ne (by omega)]
    exact h.fresh other (by omega)
  queued region other := by
    rw [hqueued, hsession]
    by_cases hother : other = w.nextSession
    · rw [hother, update_self, h.queued, h.fresh _ (Nat.le_refl _)]
      constructor
      · rintro ⟨found, hfound, -⟩
        cases hfound
      · rintro ⟨found, hfound, -, hin'⟩
        cases hfound
        rw [hin] at hin'
        cases hin'
    · rw [update_of_ne hother]
      exact h.queued region other
  once region := by
    rw [hqueued]
    exact h.once region
  waiting other found hfound hin' := by
    rw [hsession] at hfound
    by_cases hother : other = w.nextSession
    · rw [hother, update_self] at hfound
      cases hfound
      rw [hin] at hin'
      cases hin'
    · rw [update_of_ne hother] at hfound
      obtain ⟨hwait, hfind, hplayer⟩ := h.waiting other found hfound hin'
      have hne : found.account ≠ account := by
        intro heq
        rw [hgone other (heq ▸ hfind)] at hfound
        cases hfound
      rw [hsessions, find_insert, if_neg hne]
      exact ⟨hwait, hfind, hplayer⟩
  logged region := by
    rw [hlogged, h.logged region]
    unfold letInSessions
    rw [hnext, Finset.range_add_one, Finset.filter_insert, hsession, update_self, lets, hpassed, Bool.false_and,
      if_neg Bool.false_ne_true]
    congr 2
    refine Finset.filter_congr fun other hother => ?_
    rw [update_of_ne (Nat.ne_of_lt (Finset.mem_range.mp hother))]
  mapped other id _ hfind := by
    rw [hsessions, find_insert] at hfind
    split at hfind
    · next hother =>
        cases hfind
        rw [hsession, update_self]
        exact ⟨s, rfl, haccount.trans hother.symm⟩
    · next hother =>
        obtain ⟨found, hfound, haccount'⟩ := h.mapped other id (fun heq => hother (Option.some.inj heq)) hfind
        rw [hsession, update_of_ne (Nat.ne_of_lt (h.lt_next hfound))]
        exact ⟨found, hfound, haccount'⟩
  disconnected id hid := by
    obtain ⟨hlt, hnot⟩ := h.disconnected id (hdisconnected ▸ hid)
    rw [hnext, hsessions]
    refine ⟨by omega, fun other hfind => ?_⟩
    rw [find_insert] at hfind
    split at hfind
    · cases hfind
      omega
    · exact hnot other hfind

theorem insertByPriority_perm (priority id : Nat) (queue : List (Nat × Nat)) :
    (insertByPriority priority id queue).Perm ((priority, id) :: queue) := by
  induction queue with
  | nil => exact List.Perm.refl _
  | cons entry rest ih =>
    unfold insertByPriority
    split
    · exact List.Perm.refl _
    · exact (ih.cons entry).trans (List.Perm.swap _ _ _)

section

variable (h : Accounted none w)

include h

theorem addQueuedSession (hs : w.session id = some s) (hin : s.inQueue = false)
    (hpassed : s.passedQueue = false) (hfind : w.sessions.find s.account = some id) (hplayer : s.player = false)
    (config : Config) (arrival : Arrival) (hregion : arrival.region = s.region) :
    Accounted none (w.addQueuedSession config id arrival) := by
  unfold World.addQueuedSession
  rw [setInQueue, hs, hregion]
  have hids : ∀ priority queue, (insertByPriority priority id queue).map Prod.snd |>.Perm (id :: queue.map Prod.snd) :=
    fun priority queue => (insertByPriority_perm priority id queue).map _
  have hnot : id ∉ w.queuedIds s.region := by
    rw [h.inQueue_iff hs, hin]
    exact fun hboth => Bool.false_ne_true hboth.2
  refine h.update hs rfl rfl rfl rfl rfl rfl (fun region other => ?_) (fun region => ?_)
    (fun _ => ⟨hpassed, hfind, fun _ => hplayer⟩) fun region => rfl
  · rw [queuedIds_setQueue]
    by_cases hother : region = s.region
    · rw [if_pos hother, (hids _ _).mem_iff, mem_cons, hother]
      change other = id ∨ other ∈ w.queuedIds s.region ↔ _
      split
      · next heq => simp [heq]
      · next hne => simp [hne]
    · rw [if_neg hother]
      change other ∈ w.queuedIds region ↔ _
      split
      · next heq =>
          rw [heq, h.inQueue_iff hs]
          simp [hother]
      · exact Iff.rfl
  · rw [queuedIds_setQueue]
    split
    · exact (hids _ _).nodup_iff.mpr (nodup_cons.mpr ⟨hnot, h.once _⟩)
    · exact h.once region

theorem addSession (config : Config) (arrival : Arrival) :
    Accounted none (w.addSession config arrival) := by
  unfold World.addSession
  split
  · exact h
  · obtain ⟨hreplaced, hgone⟩ := h.replaceOld arrival.account arrival.delay
    generalize w.replaceOld arrival.account arrival.delay = old at hreplaced hgone ⊢
    have hinserted : Accounted none { old with
        session := Function.update old.session old.nextSession
          (some ⟨arrival.account, arrival.region, arrival.binaryAddress, arrival.socket, false, false, false⟩)
        nextSession := old.nextSession + 1
        sessions := old.sessions.insert arrival.account old.nextSession
        ipconnections := Function.update old.ipconnections arrival.binaryAddress
          (old.ipconnections arrival.binaryAddress + 1) } :=
      hreplaced.insert hgone rfl rfl rfl rfl rfl rfl rfl (fun _ => rfl) rfl
    dsimp only
    split
    · exact hinserted.addQueuedSession (update_self _ _ _) rfl rfl
        ((find_insert _).trans (if_pos rfl)) rfl config arrival rfl
    · exact hinserted.letIn (update_self _ _ _) rfl rfl config arrival.region arrival.skips

theorem login (id : Nat) : Accounted none (w.login id) := by
  unfold World.login
  cases hs : w.session id with
  | none => exact h
  | some s =>
    dsimp only
    split
    · exact h
    · next hnot =>
        refine h.setSession hs rfl rfl rfl rfl fun hin hsocket => absurd ?_ hnot
        rw [Bool.and_eq_true]
        exact ⟨hsocket, hin⟩

theorem logout (id : Nat) : Accounted none (w.logout id) := by
  unfold World.logout
  cases hs : w.session id with
  | none => exact h
  | some s => exact h.setSession hs rfl rfl rfl rfl fun _ _ => rfl

theorem removeSession (account : Nat) : Accounted none (w.removeSession account) := by
  unfold World.removeSession
  cases hfind : w.sessions.find account with
  | none => exact h
  | some id =>
    obtain ⟨s, hs, rfl⟩ := h.mapped account id nofun hfind
    obtain ⟨queue, -, hqueue, heq⟩ := h.removeQueuedSession_eq hs
    have hdequeued := h.dequeue hs hqueue
    have hnow : ((w.setSession id { s with inQueue := false }).setQueue s.region queue).session id =
        some { s with inQueue := false } := update_self _ _ _
    dsimp only
    rw [hs, heq]
    have herased : Accounted none { (w.setSession id { s with inQueue := false }).setQueue s.region queue with
        sessions := w.sessions.erase s.account
        ipconnections := Function.update w.ipconnections s.binaryAddress (w.ipconnections s.binaryAddress - 1) } :=
      hdequeued.eraseAccount hnow rfl hfind rfl rfl rfl (fun _ hother => .inl hother) (fun _ => rfl) rfl
    refine herased.delete (fun found hfound => ?_) fun other hother => ?_
    · obtain rfl := Option.some.inj (hnow.symm.trans hfound)
      rfl
    · change (w.sessions.erase s.account).find other = some id at hother
      rw [find_erase] at hother
      split at hother
      · cases hother
      · next hne =>
          obtain ⟨found, hfound, haccount⟩ := h.mapped other id nofun hother
          obtain rfl := Option.some.inj (hs.symm.trans hfound)
          exact absurd haccount.symm hne

theorem loseSocket (account : Nat) (delay : Bool) :
    Accounted none (w.loseSocket account delay) := by
  unfold World.loseSocket
  cases hfind : w.sessions.find account with
  | none => exact h
  | some id =>
    obtain ⟨s, hs, rfl⟩ := h.mapped account id nofun hfind
    dsimp only
    rw [hs]
    dsimp only
    split
    · exact h
    · next hsocket =>
        split
        · next hstays =>
            have hplayer : s.player = true := by
              rw [staysInWorld, hs, Bool.and_eq_true] at hstays
              exact hstays.1
            -- a queued session with a socket has no player
            have hin : s.inQueue = false := by
              by_contra hin
              have hidle := (h.waiting id s hs (by simpa using hin)).2.2 (by simpa using hsocket)
              rw [hplayer] at hidle
              cases hidle
            have hclosed : Accounted none (w.setSession id { s with socket := false }) :=
              h.setSession hs rfl rfl rfl rfl nofun
            exact hclosed.setSessionDisconnected (update_self _ _ _) hin hfind
        · exact h.removeSession s.account

theorem expire (id : Nat) : Accounted none (w.expire id) := by
  unfold World.expire
  split
  · next hmem =>
      have hkept : Accounted none { w with disconnectedSessions := w.disconnectedSessions.filter (· ≠ id) } :=
        { h with disconnected := fun other hother => h.disconnected other (mem_of_mem_filter hother) }
      refine hkept.delete (fun s hs => ?_) fun account hfind => absurd hfind ((h.disconnected id hmem).2 account)
      by_contra hin
      exact (h.disconnected id hmem).2 _ (h.waiting id s hs (by simpa using hin)).2.1
  · exact h

theorem step (input : Step) : Accounted none (w.step input) := by
  cases input with
  | updateSessions config diff => exact h.updateSessions config diff
  | arrive config arrival => exact h.addSession config arrival
  | login id => exact h.login id
  | logout id => exact h.logout id
  | lose account delay => exact h.loseSocket account delay
  | remove account => exact h.removeSession account
  | expire id => exact h.expire id

end

theorem initial : Accounted none World.initial where
  fresh _ _ := rfl
  queued region id := by
    constructor
    · intro h
      cases h
    · rintro ⟨s, hs, -⟩
      cases hs
  once _ := nodup_nil
  waiting := nofun
  logged _ := rfl
  mapped := nofun
  disconnected := nofun

end Accounted

end World

end TurtleWow.LoginQueue
