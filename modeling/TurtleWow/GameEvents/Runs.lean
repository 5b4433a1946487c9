import TurtleWow.GameEvents.Follows

namespace TurtleWow.GameEvents

open Run Function

-- From the initial Update on, over every run

def Action.Touches (event : Nat) : Action → Prop
  | .apply other _ => other = event
  | .unapply other _ => other = event
  | .setDisabled _ _ => False
  | .setPeriod _ _ _ => False

namespace World

variable (db : Database)

def OkAction (w : World) : Action → Prop
  | .unapply event created => Separate db w event created
  | _ => True

def OkHardcoded (view : View) (w : World) (event : Nat) : Prop :=
  (w.event event).disabled = false → Guarded (act db) (OkAction db) w (view.hardcoded event)

def OkEvent (view : View) (w : World) (event : Nat) : Prop :=
  (w.event event).hardcoded = false → (w.event event).disabled = false → w.checkOneGameEvent event view.now = false →
    event ∈ w.activeEvents → Separate db w event (view.created event)

def OkUpdate (w : World) (view : View) : Prop :=
  Guarded (updateHardcoded db view) (OkHardcoded db view) w db.hardcodedList ∧
    Guarded (updateEvent db view) (OkEvent db view) (run (updateHardcoded db view) w db.hardcodedList) (events db)

def OkStep (w : World) : Step → Prop
  | .act action => OkAction db w action
  | .update view => OkUpdate db w view
  | _ => True

-- The initial Update starts or stops the event in its first loop, or the second loop
-- does not pass over it.
def Reached (view : View) (event : Nat) : Prop :=
  let w := run (updateHardcoded db view) (loaded db) db.hardcodedList
  (w.event event).hardcoded = false ∧ (w.event event).disabled = false ∨
    Sometime (updateHardcoded db view)
      (fun w other => (w.event other).disabled = false ∧ ∃ action ∈ view.hardcoded other, action.Touches event)
      (loaded db) db.hardcodedList

def OkInitial (view : View) : Prop :=
  OkUpdate db (loaded db) view ∧
    ∀ kind (event : Nat), db.spawnGuids kind (-event) ≠ [] → Reached db view event

structure Follows (w : World) : Prop where
  quests : w.QuestsFollow db
  spawns : ∀ kind guid tag, (guid, tag) ∈ db.gameEventSpawn kind → tag ≠ 0 → db.isValidEvent tag.natAbs = true →
    db.hasData kind guid = true → db.isPartOfAPool kind guid = false → w.grid kind guid = w.wants tag
  data : w.CreaturesFollow db

section

variable {db} {w w' : World} {event : Nat} {tag : Int}

theorem Settled.congr (h : Settled db w tag) (hactive : w'.activeEvents = w.activeEvents) (hgrid : w'.grid = w.grid) :
    Settled db w' tag := by
  intro kind guid hguid
  unfold wants
  rw [hactive, hgrid]
  exact h kind guid hguid

section

variable (h : Sound db w)

include h

theorem Sound.congr (hlength : ∀ event, (w'.event event).length = (w.event event).length)
    (hactive : w'.activeEvents = w.activeEvents) (hgrid : w'.grid = w.grid) (hquests : w'.questActive = w.questActive)
    (hcreatures : w'.creatures = w.creatures) : Sound db w' where
  length event := (hlength event).trans (h.length event)
  active event hevent := (h.active event (hactive ▸ hevent)).congr hactive hgrid
  spawns tag htag := (h.spawns tag htag).congr hactive hgrid
  quests := by
    unfold QuestsFollow
    rw [hquests, hactive]
    exact h.quests
  data := by
    unfold CreaturesFollow
    rw [hcreatures, hactive]
    exact h.data
  spawned := by
    rw [hcreatures]
    exact h.spawned

theorem Sound.creatures {creatures : Nat → Nat → Option (Option GameEventCreatureData)}
    (hcreatures : ∀ map guid data, creatures map guid = some data → w.creatures map guid = some data ∨
      db.hasData .creature guid = true ∧ RightData db w.activeEvents guid data) :
    Sound db { w with creatures := creatures } where
  length := h.length
  active := h.active
  spawns := h.spawns
  quests := h.quests
  data map guid data hdata := (hcreatures map guid data hdata).elim (h.data map guid data) fun hnew => hnew.2
  spawned map guid data hdata := (hcreatures map guid data hdata).elim (h.spawned map guid data) fun hnew => hnew.1

theorem Sound.create (created : Nat → Nat → Bool) : Sound db (w.create db created) :=
  h.creatures fun _ _ _ hdata => (of_create hdata).imp_right fun ⟨_, _, hhas, hright⟩ => ⟨hhas, hright⟩

theorem Sound.remove (map guid : Nat) : Sound db (w.remove map guid) := by
  refine h.creatures fun map' guid' data hdata => .inl ?_
  rw [update_apply] at hdata
  split at hdata
  · next hmap =>
      subst hmap
      rw [update_apply] at hdata
      split at hdata
      · cases hdata
      · exact hdata
  · exact hdata

theorem Sound.respawn (map guid : Nat) : Sound db (w.respawn db map guid) := by
  unfold World.respawn
  split
  · exact h
  · next old hold =>
      refine h.creatures fun map' guid' data hdata => ?_
      rw [update_apply] at hdata
      split at hdata
      · next hmap =>
          subst hmap
          rw [update_apply] at hdata
          split at hdata
          · next hguid =>
              subst hguid
              cases hdata
              exact .inr ⟨h.spawned map' guid' old hold, rightData_get w guid'⟩
          · exact .inl hdata
      · exact .inl hdata

theorem Sound.valid (event : Nat) : w.isValidEvent db event = db.isValidEvent event := by
  rw [isValidEvent, Database.isValidEvent, h.length]

theorem Sound.act (hsize : db.size ≤ 2 ^ 15) {action : Action} (hok : OkAction db w action) :
    Sound db (w.act db action) := by
  cases action with
  | apply event created =>
    simp only [World.act]
    split
    · next hvalid => exact h.applyNewEvent ((h.valid event).symm.trans hvalid) hsize created
    · exact h
  | unapply event created =>
    simp only [World.act]
    split
    · next hvalid => exact h.unApplyEvent ((h.valid event).symm.trans hvalid) hsize hok
    · exact h
  | setDisabled event disabled =>
    refine h.congr (fun other => ?_) rfl rfl rfl rfl
    change (Function.update w.event event _ other).length = _
    rw [update_apply]
    split
    · next heq => rw [heq]
    · rfl
  | setPeriod event start finish =>
    refine h.congr (fun other => ?_) rfl rfl rfl rfl
    change (Function.update w.event event _ other).length = _
    rw [update_apply]
    split
    · next heq => rw [heq]
    · rfl

end

theorem settled_of_invalid (hvalid : db.isValidEvent tag.natAbs = false) : Settled db w tag := by
  intro kind guid hguid
  rw [(Database.of_mem_spawnGuids hguid).2.2] at hvalid
  cases hvalid

theorem Settled.act (h : Sound db w) (hsize : db.size ≤ 2 ^ 15) {action : Action}
    (htag : action.Touches tag.natAbs ∨ Settled db w tag) : Settled db (w.act db action) tag := by
  cases action with
  | apply event created =>
    simp only [World.act]
    split
    · next hvalid =>
        have hvalid' := (h.valid event).symm.trans hvalid
        exact (applyNewEvent_changes hvalid' hsize w created).settled (inRange_of_valid hvalid').1 (htag.imp_left Eq.symm)
    · next hvalid =>
        refine htag.elim (fun htouches => settled_of_invalid ?_) id
        rw [← show event = tag.natAbs from htouches, ← h.valid]
        simpa using hvalid
  | unapply event created =>
    simp only [World.act]
    split
    · next hvalid =>
        have hvalid' := (h.valid event).symm.trans hvalid
        exact (unApplyEvent_changes hvalid' hsize w created).settled (inRange_of_valid hvalid').1 (htag.imp_left Eq.symm)
    · next hvalid =>
        refine htag.elim (fun htouches => settled_of_invalid ?_) id
        rw [← show event = tag.natAbs from htouches, ← h.valid]
        simpa using hvalid
  | setDisabled event disabled => exact (htag.resolve_left id).congr rfl rfl
  | setPeriod event start finish => exact (htag.resolve_left id).congr rfl rfl

theorem Sound.acts (h : Sound db w) (hsize : db.size ≤ 2 ^ 15) {actions : List Action}
    (hok : Guarded (World.act db) (OkAction db) w actions) : Sound db (run (World.act db) w actions) :=
  run_invariant (World.act db) (OkAction db) (Sound db) (fun _ _ h hok => h.act hsize hok) h hok

theorem Settled.acts (h : Sound db w) (hsize : db.size ≤ 2 ^ 15) {actions : List Action}
    (hok : Guarded (World.act db) (OkAction db) w actions)
    (htag : (∃ action ∈ actions, action.Touches tag.natAbs) ∨ Settled db w tag) :
    Settled db (run (World.act db) w actions) tag := by
  refine run_reaches (World.act db) (OkAction db) (fun _ action => action.Touches tag.natAbs) (Sound db)
    (fun w => Settled db w tag) (fun _ _ h hok => h.act hsize hok) (fun _ _ h _ hmark => Settled.act h hsize (.inl hmark))
    (fun _ _ h _ hkeep => Settled.act h hsize (.inr hkeep)) h hok ?_
  exact htag.symm.imp_right fun ⟨_, hmem, htouches⟩ =>
    sometime_of_mem (World.act db) htouches w hmem

variable {view : View}

theorem Sound.updateHardcoded (h : Sound db w) (hsize : db.size ≤ 2 ^ 15)
    (hok : OkHardcoded db view w event) : Sound db (w.updateHardcoded db view event) := by
  unfold World.updateHardcoded
  split
  · exact h
  · next henabled => exact h.acts hsize (hok (by simpa using henabled))

theorem Settled.updateHardcoded (h : Sound db w) (hsize : db.size ≤ 2 ^ 15)
    (hok : OkHardcoded db view w event)
    (htag : ((w.event event).disabled = false ∧ ∃ action ∈ view.hardcoded event, action.Touches tag.natAbs) ∨
      Settled db w tag) : Settled db (w.updateHardcoded db view event) tag := by
  unfold World.updateHardcoded
  split
  · next hdisabled =>
      refine htag.resolve_left fun hmark => ?_
      rw [hmark.1] at hdisabled
      cases hdisabled
  · next henabled => exact Settled.acts h hsize (hok (by simpa using henabled)) (htag.imp_left And.right)

theorem gameEventSpawn_eq (hevent : event ∈ events db) (hsize : db.size ≤ 2 ^ 15) (w : World)
    (created : Nat → Nat → Bool) :
    w.gameEventSpawn db (i16 (-event)) created = (w.setGrid db (-event) true).create db created := by
  obtain ⟨hpos, hlt⟩ : 1 ≤ event ∧ event < 1 + (db.size - 1) := by simpa [events] using hevent
  unfold gameEventSpawn
  rw [i16_eq (by omega) (by omega), if_pos]
  unfold Database.inRange
  simp only [Bool.and_eq_true, decide_eq_true_eq]
  omega

theorem settled_setGrid (hevent : event ∈ events db) (hinactive : event ∉ w.activeEvents)
    (htag : tag = -(event : Int) ∨ Settled db w tag) : Settled db (w.setGrid db (-event) true) tag := by
  obtain ⟨hpos, -⟩ : 1 ≤ event ∧ event < 1 + (db.size - 1) := by simpa [events] using hevent
  intro kind guid hguid
  change (if guid ∈ db.spawnGuids kind (-event) then true else w.grid kind guid) = w.wants tag
  by_cases hminus : tag = -(event : Int)
  · subst hminus
    unfold wants
    rw [if_pos hguid, if_neg (by omega), Int.natAbs_neg, Int.natAbs_natCast]
    exact (decide_eq_true hinactive).symm
  · rw [if_neg fun hmem => hminus (Database.tag_unique hguid hmem)]
    exact htag.resolve_left hminus kind guid hguid

section

variable (h : Sound db w)

include h

section

variable (hevent : event ∈ events db)

include hevent

section

variable (hsize : db.size ≤ 2 ^ 15)

include hsize

theorem Sound.spawnNegative (hinactive : event ∉ w.activeEvents) (created : Nat → Nat → Bool) :
    Sound db (w.gameEventSpawn db (i16 (-event)) created) := by
  rw [gameEventSpawn_eq hevent hsize]
  have hset : Sound db (w.setGrid db (-event) true) :=
    { h with
      active := fun other hother => settled_setGrid hevent hinactive (.inr (h.active other hother))
      spawns := fun tag htag => settled_setGrid hevent hinactive (.inr (h.spawns tag htag)) }
  exact hset.create created

theorem Sound.updateEvent (hok : OkEvent db view w event) : Sound db (w.updateEvent db view event) := by
  unfold World.updateEvent
  split
  · exact h
  · next hpass =>
      rw [Bool.or_eq_true, not_or, Bool.not_eq_true, Bool.not_eq_true] at hpass
      split
      · split
        · exact h
        · exact h.act hsize trivial
      · next hcheck =>
          split
          · next hactive => exact h.act hsize (hok hpass.1 hpass.2 (by simpa using hcheck) hactive)
          · next hinactive =>
              split
              · exact h
              · exact h.spawnNegative hevent hsize hinactive _

theorem Settled.updateEvent (htag : Settled db w tag) : Settled db (w.updateEvent db view event) tag := by
  unfold World.updateEvent
  split
  · exact htag
  · split
    · split
      · exact htag
      · exact Settled.act h hsize (.inr htag)
    · split
      · exact Settled.act h hsize (.inr htag)
      · next hinactive =>
          split
          · exact htag
          · rw [gameEventSpawn_eq hevent hsize]
            exact (settled_setGrid hevent hinactive (.inr htag)).congr rfl rfl

theorem Settled.initial
    (hhardcoded : (w.event event).hardcoded = false) (hdisabled : (w.event event).disabled = false)
    (hinit : w.isGameEventsInit = false) : Settled db (w.updateEvent db view event) (-(event : Int)) := by
  have htouches : event = (-(event : Int)).natAbs := by omega
  unfold World.updateEvent
  rw [hhardcoded, hdisabled, hinit, if_neg (by simp), if_neg Bool.false_ne_true]
  split
  · split
    · next hactive => exact h.active event hactive
    · exact Settled.act h hsize (.inl htouches)
  · split
    · exact Settled.act h hsize (.inl htouches)
    · next hinactive =>
        rw [gameEventSpawn_eq hevent hsize]
        exact (settled_setGrid hevent hinactive (.inl rfl)).congr rfl rfl

end

end

theorem act_frame (hsize : db.size ≤ 2 ^ 15) (event : Nat) (created : Nat → Nat → Bool) :
    ((w.act db (.apply event created)).event = w.event ∧
        (w.act db (.apply event created)).isGameEventsInit = w.isGameEventsInit) ∧
      (w.act db (.unapply event created)).event = w.event ∧
        (w.act db (.unapply event created)).isGameEventsInit = w.isGameEventsInit := by
  simp only [World.act]
  split
  · next hvalid =>
      have hvalid' := (h.valid event).symm.trans hvalid
      have hstart := applyNewEvent_changes hvalid' hsize w created
      have hstop := unApplyEvent_changes hvalid' hsize w created
      exact ⟨⟨hstart.table, hstart.init⟩, hstop.table, hstop.init⟩
  · exact ⟨⟨rfl, rfl⟩, rfl, rfl⟩

theorem updateEvent_frame (hevent : event ∈ events db) (hsize : db.size ≤ 2 ^ 15) (view : View) :
    (w.updateEvent db view event).event = w.event ∧
      (w.updateEvent db view event).isGameEventsInit = w.isGameEventsInit := by
  unfold World.updateEvent
  split
  · exact ⟨rfl, rfl⟩
  · split
    · split
      · exact ⟨rfl, rfl⟩
      · exact (act_frame h hsize event _).1
    · split
      · exact (act_frame h hsize event _).2
      · split
        · exact ⟨rfl, rfl⟩
        · rw [gameEventSpawn_eq hevent hsize]
          exact ⟨rfl, rfl⟩

theorem init_act (hsize : db.size ≤ 2 ^ 15) (action : Action) :
    (w.act db action).isGameEventsInit = w.isGameEventsInit := by
  cases action with
  | apply event created => exact (act_frame h hsize event created).1.2
  | unapply event created => exact (act_frame h hsize event created).2.2
  | setDisabled event disabled => rfl
  | setPeriod event start finish => rfl

theorem init_updateHardcoded (hsize : db.size ≤ 2 ^ 15)
    (hok : OkHardcoded db view w event) :
    (w.updateHardcoded db view event).isGameEventsInit = w.isGameEventsInit := by
  unfold World.updateHardcoded
  split
  · rfl
  · next henabled =>
      refine (run_invariant _ _ (fun w' => Sound db w' ∧ w'.isGameEventsInit = w.isGameEventsInit)
        (fun _ action h hok => ⟨h.1.act hsize hok, (init_act h.1 hsize action).trans h.2⟩) ⟨h, rfl⟩
        (hok (by simpa using henabled))).2

theorem Sound.hardcoded (hsize : db.size ≤ 2 ^ 15) (hok : OkUpdate db w view) :
    Sound db (run (World.updateHardcoded db view) w db.hardcodedList) :=
  run_invariant _ _ (Sound db) (fun _ _ h hok => h.updateHardcoded hsize hok) h hok.1

end

theorem OkUpdate.events (hok : OkUpdate db w view) :
    Guarded (World.updateEvent db view) (fun w event => OkEvent db view w event ∧ event ∈ World.events db)
      (run (World.updateHardcoded db view) w db.hardcodedList) (World.events db) :=
  Guarded.and_mem _ hok.2 fun _ hevent => hevent

theorem Sound.update (h : Sound db w) (hsize : db.size ≤ 2 ^ 15) (hok : OkUpdate db w view) :
    Sound db (w.update db view) :=
  run_invariant _ _ (Sound db) (fun _ _ h hok => h.updateEvent hok.2 hsize hok.1) (h.hardcoded hsize hok) hok.events

theorem Settled.update (h : Sound db w) (hsize : db.size ≤ 2 ^ 15) (hok : OkUpdate db w view)
    (htag : Settled db w tag) : Settled db (w.update db view) tag := by
  have hfirst := run_invariant _ _ (fun w => Sound db w ∧ Settled db w tag)
    (fun _ _ h hok => ⟨h.1.updateHardcoded hsize hok, Settled.updateHardcoded h.1 hsize hok (.inr h.2)⟩) ⟨h, htag⟩ hok.1
  exact (run_invariant _ _ (fun w => Sound db w ∧ Settled db w tag)
    (fun _ _ h hok => ⟨h.1.updateEvent hok.2 hsize hok.1, Settled.updateEvent h.1 hok.2 hsize h.2⟩) hfirst hok.events).2

theorem Sound.step (h : Sound db w) (hsize : db.size ≤ 2 ^ 15) {input : Step} (hok : OkStep db w input) :
    Sound db (w.step db input) := by
  cases input with
  | act action => exact h.act hsize hok
  | update view => exact h.update hsize hok
  | create created => exact h.create created
  | remove map guid => exact h.remove map guid
  | respawn map guid => exact h.respawn map guid

theorem Settled.step (h : Sound db w) (hsize : db.size ≤ 2 ^ 15) {input : Step} (hok : OkStep db w input)
    (htag : Settled db w tag) : Settled db (w.step db input) tag := by
  cases input with
  | act action => exact Settled.act h hsize (.inr htag)
  | update view => exact htag.update h hsize hok
  | create created => exact htag.congr rfl rfl
  | remove map guid => exact htag.congr rfl rfl
  | respawn map guid =>
    unfold World.step World.respawn
    dsimp only
    split
    · exact htag
    · exact htag.congr rfl rfl

theorem sound_loaded (db : Database) : Sound db (loaded db) where
  length _ := rfl
  active _ hevent := absurd hevent (Finset.notMem_empty _)
  spawns tag htag kind guid hguid := by
    obtain ⟨hrow, hzero, -⟩ := Database.of_mem_spawnGuids hguid
    have hlisted : ((db.gameEventSpawn kind).all fun row => row.1 ≠ guid || row.2 = 0) = false := by
      rw [List.all_eq_false]
      exact ⟨(guid, tag), hrow, by simpa using hzero⟩
    unfold loaded wants
    dsimp only
    rw [hlisted, Bool.and_false, if_pos htag]
    rfl
  quests quest hquest := by
    refine iff_of_false ?_ fun ⟨event, hevent, _⟩ => absurd hevent (Finset.notMem_empty _)
    simpa [loaded] using hquest
  data _ _ _ hdata := nomatch hdata
  spawned _ _ _ hdata := nomatch hdata

theorem settled_initialUpdate (hsize : db.size ≤ 2 ^ 15) (hok : OkInitial db view) (event : Nat) :
    Settled db ((loaded db).update db view) (-(event : Int)) := by
  by_cases hlisted : ∃ kind, db.spawnGuids kind (-event) ≠ []
  · obtain ⟨kind, hlisted⟩ := hlisted
    obtain ⟨guid, hguid⟩ := List.exists_mem_of_ne_nil _ hlisted
    have hvalid := (Database.of_mem_spawnGuids hguid).2.2
    rw [Int.natAbs_neg, Int.natAbs_natCast] at hvalid
    obtain ⟨hpos, hlt, -⟩ := inRange_of_valid hvalid
    have hevent : event ∈ events db := by
      rw [events, List.mem_range'_1]
      omega
    have hsound := sound_loaded db
    rcases hok.2 kind event hlisted with ⟨hhardcoded, hdisabled⟩ | hsometime
    · -- the second loop reaches the event with its flags as they are after the first
      have hfirst := run_invariant _ _ (fun w => Sound db w ∧ w.isGameEventsInit = false)
        (fun _ _ h hok => ⟨h.1.updateHardcoded hsize hok, (init_updateHardcoded h.1 hsize hok).trans h.2⟩)
        ⟨hsound, rfl⟩ hok.1.1
      refine run_reaches _ _ (fun _ other => other = event)
        (fun w => Sound db w ∧ w.isGameEventsInit = false ∧
          w.event = (run (World.updateHardcoded db view) (loaded db) db.hardcodedList).event)
        (fun w => Settled db w (-(event : Int))) (fun w other h hok => ?_) (fun w other h hok hmark => ?_)
        (fun w other h hok hkeep => Settled.updateEvent h.1 hok.2 hsize hkeep) ⟨hfirst.1, hfirst.2, rfl⟩ hok.1.events
        (.inr (sometime_of_mem _ (by rfl) _ hevent))
      · obtain ⟨htable, hinit⟩ := updateEvent_frame h.1 hok.2 hsize view
        exact ⟨h.1.updateEvent hok.2 hsize hok.1, hinit.trans h.2.1, htable.trans h.2.2⟩
      · subst hmark
        exact Settled.initial h.1 hevent hsize (by rw [h.2.2]; exact hhardcoded) (by rw [h.2.2]; exact hdisabled) h.2.1
    · have hfirst := run_reaches _ _ _ (Sound db) (fun w => Settled db w (-(event : Int)))
        (fun _ _ h hok => h.updateHardcoded hsize hok)
        (fun _ _ h hok hmark => Settled.updateHardcoded h hsize hok (.inl (by simpa using hmark)))
        (fun _ _ h hok hkeep => Settled.updateHardcoded h hsize hok (.inr hkeep)) hsound hok.1.1 (.inr hsometime)
      exact (run_invariant _ _ (fun w => Sound db w ∧ Settled db w (-(event : Int)))
        (fun _ _ h hok => ⟨h.1.updateEvent hok.2 hsize hok.1, Settled.updateEvent h.1 hok.2 hsize h.2⟩)
        ⟨hsound.hardcoded hsize hok.1, hfirst⟩ hok.1.events).2
  · intro kind guid hguid
    exact absurd ⟨kind, List.ne_nil_of_mem hguid⟩ hlisted

theorem Sound.follows (h : Sound db w) (hsettled : ∀ event : Nat, Settled db w (-(event : Int))) : Follows db w := by
  refine ⟨h.quests, fun kind guid tag hrow hzero hvalid hhas hpool => ?_, h.data⟩
  have hguid : guid ∈ db.spawnGuids kind tag := by
    refine List.mem_filter.mpr ⟨List.mem_map.mpr ⟨(guid, tag), List.mem_filter.mpr ⟨hrow, ?_⟩, rfl⟩, ?_⟩
    · simp [hzero, hvalid, hpool]
    · simp [hhas, hpool]
  rcases Int.lt_or_gt_of_ne hzero with hnegative | hpositive
  · obtain ⟨event, rfl⟩ : ∃ event : Nat, tag = -(event : Int) := ⟨tag.natAbs, by omega⟩
    exact hsettled event kind guid hguid
  · exact h.spawns tag hpositive kind guid hguid

theorem run_follows (hsize : db.size ≤ 2 ^ 15) (hinitial : OkInitial db view) {steps : List Step}
    (hok : Guarded (World.step db) (OkStep db) (initialUpdate db view) steps) :
    Follows db (run (World.step db) (initialUpdate db view) steps) := by
  have hupdated := (sound_loaded db).update hsize hinitial.1
  have hstart : Sound db (initialUpdate db view) ∧ ∀ event : Nat, Settled db (initialUpdate db view) (-(event : Int)) :=
    ⟨hupdated.congr (fun _ => rfl) rfl rfl rfl rfl,
      fun event => (settled_initialUpdate hsize hinitial event).congr rfl rfl⟩
  have hend := run_invariant _ _ (fun w => Sound db w ∧ ∀ event : Nat, Settled db w (-(event : Int)))
    (fun _ _ h hok => ⟨h.1.step hsize hok, fun event => (h.2 event).step h.1 hsize hok⟩) hstart hok
  exact hend.1.follows hend.2

theorem Follows.agree (h : Follows db w) (h' : Follows db w') (hactive : w'.activeEvents = w.activeEvents) :
    (∀ quest ∈ db.listedQuests, w'.questActive quest = w.questActive quest) ∧
    ∀ kind guid tag, (guid, tag) ∈ db.gameEventSpawn kind → tag ≠ 0 → db.isValidEvent tag.natAbs = true →
      db.hasData kind guid = true → db.isPartOfAPool kind guid = false → w'.grid kind guid = w.grid kind guid := by
  refine ⟨fun quest hquest => ?_, fun kind guid tag hrow hzero hvalid hhas hpool => ?_⟩
  · rw [Bool.eq_iff_iff, h.quests quest hquest, h'.quests quest hquest, hactive]
  · rw [h.spawns kind guid tag hrow hzero hvalid hhas hpool, h'.spawns kind guid tag hrow hzero hvalid hhas hpool]
    unfold wants
    rw [hactive]

end

-- With event numbers below 2 ^ 15, the state follows the active events in every run in
-- which no event stops while another one lists its quests or creatures, if the initial
-- Update reaches every event with negative spawns.
theorem world_follows_active_events (hsize : db.size ≤ 2 ^ 15) (view : View) (hinitial : OkInitial db view)
    (steps : List Step) (hok : Guarded (step db) (OkStep db) (initialUpdate db view) steps) :
    let w := run (step db) (initialUpdate db view) steps
    Follows db w ∧
    ∀ view' steps', OkInitial db view' → Guarded (step db) (OkStep db) (initialUpdate db view') steps' →
      let w' := run (step db) (initialUpdate db view') steps'
      w'.activeEvents = w.activeEvents →
        (∀ quest ∈ db.listedQuests, w'.questActive quest = w.questActive quest) ∧
        ∀ kind guid tag, (guid, tag) ∈ db.gameEventSpawn kind → tag ≠ 0 → db.isValidEvent tag.natAbs = true →
          db.hasData kind guid = true → db.isPartOfAPool kind guid = false → w'.grid kind guid = w.grid kind guid := by
  have hfollows := run_follows hsize hinitial hok
  exact ⟨hfollows, fun view' steps' hinitial' hok' hactive =>
    hfollows.agree (run_follows hsize hinitial' hok') hactive⟩

theorem negative_spawn_follows :
    let db : Database := {
      size := 2, event := fun event => ⟨1, 0, 1, event, false, false, 0⟩, hardcodedList := []
      gameEventSpawn := fun _ => [(7, -1)], gameEventCreatureData := [], gameEventQuest := [(5, 1)]
      hasData := fun _ _ => true, isPartOfAPool := fun _ _ => false, reserved := rfl, once := fun _ => by decide }
    let view : View := ⟨0, fun _ => [], fun _ _ _ => false⟩
    let steps : List Step := [.act (.apply 1 fun _ _ => false), .act (.unapply 1 fun _ _ => false)]
    Follows db (run (step db) (initialUpdate db view) steps) := by
  intro db view steps
  have hactive : (step db (initialUpdate db view) (.act (.apply 1 fun _ _ => false))).activeEvents = {1} := by decide
  refine (world_follows_active_events db (by decide) view ⟨⟨trivial, fun _ _ _ hevent => ?_, trivial⟩, fun _ _ _ => ?_⟩ steps
    ⟨trivial, fun other hother hne => ?_, trivial⟩).1
  · exact absurd hevent (by decide)
  · exact .inl ⟨rfl, rfl⟩
  · rw [hactive] at hother
    exact absurd (Finset.mem_singleton.mp hother) hne

-- Event 1 stops while event 2 is active: quest 5, which both list, is closed, and
-- creature 7, which both list, loses its event data. The negative spawn of the disabled
-- event 3 is not there although the event is not active.
theorem overlap_not_followed :
    let db : Database := {
      size := 4, event := fun event => ⟨1, 0, 1, event, false, event = 3, 0⟩, hardcodedList := []
      gameEventSpawn := fun _ => [(8, -3)]
      gameEventCreatureData := [(7, 1, ⟨0, 1, 0, 0, 0⟩), (7, 2, ⟨0, 2, 0, 0, 0⟩)], gameEventQuest := [(5, 1), (5, 2)]
      hasData := fun _ _ => true, isPartOfAPool := fun _ _ => false, reserved := rfl, once := fun _ => by decide }
    let view : View := ⟨0, fun _ => [], fun _ _ _ => false⟩
    let steps : List Step := [.create fun map guid => map = 0 && guid = 7, .act (.apply 1 fun _ _ => false),
      .act (.apply 2 fun _ _ => false), .act (.unapply 1 fun _ _ => false)]
    let w := run (step db) (initialUpdate db view) steps
    ¬ w.QuestsFollow db ∧ ¬ w.CreaturesFollow db ∧ (initialUpdate db view).grid .creature 8 = false ∧
      (initialUpdate db view).wants (-3) = true := by
  intro db view steps w
  refine ⟨fun h => absurd (h 5 (by decide)) (by decide), fun h => ?_, by decide, by decide⟩
  exact absurd (h 0 7 none (by decide) 2 (by decide) ⟨0, 2, 0, 0, 0⟩) (by decide)

end World

end TurtleWow.GameEvents
