import TurtleWow.Objects.Passes

namespace TurtleWow.Objects

open Early List

namespace Inventory

-- _CanStoreItem as a list of passes, and what its answer says about the count.

section

variable (store : ItemStore) (inv : Inventory)

def offerAt (bag entry : Nat) (proto : ItemPrototype) (merge : Bool) (src : Option MovedItem) (j : Nat) :
    Option Offer :=
  let pItem2 := inv.getOtherItemByPos store bag j src
  if pItem2.isSome ≠ merge then none else (spaceFor entry proto pItem2).map fun space => ⟨(bag, j), space⟩

def bagOffers (bag entry : Nat) (proto : ItemPrototype) (merge nonSpecialized : Bool) (src : Option MovedItem)
    (skipBag skipSlot : Nat) : Except InventoryResult (List Offer) :=
  if bag = skipBag then .error .itemDoesntGoIntoBag
  else
    match inv.getItemByPos store inventorySlotBag0 bag with
    | none => .error .itemDoesntGoIntoBag
    | some pBag =>
      if isSrcItem pBag src then .error .itemDoesntGoIntoBag
      else if holdsNonEmptyBag src then .error .canOnlyDoWithEmptyBags
      else if nonSpecialized ≠ (pBag.proto store).isPlainContainer then .error .itemDoesntGoIntoBag
      else if !itemCanGoIntoBag proto (pBag.proto store) then .error .itemDoesntGoIntoBag
      else
        .ok (((List.range (pBag.getBagSize store)).filter (· ≠ skipSlot)).filterMap
          (inv.offerAt store bag entry proto merge src))

variable (req : Request)

def slotsPass (slotBegin slotEnd : Nat) (merge : Bool) : List Pass :=
  if holdsNonEmptyBag req.src then [.stop .canOnlyDoWithEmptyBags true]
  else
    [.offer (((slotRange slotBegin slotEnd).filter fun j =>
      ¬(req.bag = inventorySlotBag0 ∧ j = req.slot)).filterMap
        (inv.offerAt store inventorySlotBag0 req.entry req.proto merge req.src))]

def bagPass (merge nonSpecialized : Bool) (i : Nat) : List Pass :=
  match inv.bagOffers store i req.entry req.proto merge nonSpecialized req.src req.bag req.slot with
  | .error _ => []
  | .ok offers => [.offer offers]

def bagPasses (merge nonSpecialized : Bool) : List Pass :=
  (slotRange inventorySlotBagStart inventorySlotBagEnd).flatMap (inv.bagPass store req merge nonSpecialized)

def requestedBagPass (merge : Bool) : List Pass :=
  match inv.bagOffers store req.bag req.entry req.proto merge false req.src nullBag req.slot with
  | .ok offers => [.offer offers]
  | .error _ =>
    match inv.bagOffers store req.bag req.entry req.proto merge true req.src nullBag req.slot with
    | .ok offers => [.offer offers]
    | .error msg => [.stop msg true]

def keyringPass : List Pass :=
  if req.proto.bagFamily = .keys then inv.slotsPass store req keyringSlotStart keyringSlotEnd false else []

def specificSlotPass : List Pass :=
  if req.bag ≠ nullBag ∧ req.slot ≠ nullSlot then
    if req.bag = inventorySlotBag0 ∧ playerSlotEnd ≤ req.slot then [.stop .itemDoesntGoToSlot false]
    else if holdsNonEmptyBag req.src then [.stop .canOnlyDoWithEmptyBags true]
    else
      let space := inv.spaceInSpecificSlot store req.bag req.slot req.entry req.proto req.swap req.src
      if space.1 ≠ .ok then [.stop space.1 true] else [.offer [⟨(req.bag, req.slot), space.2⟩]]
  else []

def specificBagStacksPasses : List Pass :=
  if 1 < req.proto.stackable then
    if req.bag = inventorySlotBag0 then
      inv.slotsPass store req keyringSlotStart keyringSlotEnd true ++
        inv.slotsPass store req inventorySlotItemStart inventorySlotItemEnd true
    else inv.requestedBagPass store req true
  else []

def specificBagFreePasses : List Pass :=
  if req.bag = inventorySlotBag0 then
    inv.keyringPass store req ++ inv.slotsPass store req inventorySlotItemStart inventorySlotItemEnd false
  else inv.requestedBagPass store req false

def specificBagPasses : List Pass :=
  if req.bag ≠ nullBag then inv.specificBagStacksPasses store req ++ inv.specificBagFreePasses store req else []

def stacksPasses : List Pass :=
  if 1 < req.proto.stackable then
    inv.slotsPass store req keyringSlotStart keyringSlotEnd true ++
      (inv.slotsPass store req inventorySlotItemStart inventorySlotItemEnd true ++
        ((if req.proto.bagFamily ≠ .none then inv.bagPasses store req true false else []) ++
          inv.bagPasses store req true true))
  else []

def specialBagsPasses : List Pass :=
  if req.proto.bagFamily ≠ .none then inv.keyringPass store req ++ inv.bagPasses store req false false else []

def freePasses : List Pass :=
  if holdsNonEmptyBag req.src then [.stop .nonEmptyBagOverOtherBag false]
  else inv.slotsPass store req inventorySlotItemStart inventorySlotItemEnd false ++ inv.bagPasses store req false true

def passes : List Pass :=
  inv.specificSlotPass store req ++ (inv.specificBagPasses store req ++ (inv.stacksPasses store req ++
    (inv.specialBagsPasses store req ++ inv.freePasses store req)))

end

section

variable {store : ItemStore} {inv : Inventory} {req : Request} {s : Search}

theorem placeInSlots_eq {bag entry : Nat} {proto : ItemPrototype} {merge : Bool} {src : Option MovedItem}
    (slots : List Nat) (s : Search) : inv.placeInSlots store bag entry proto merge src slots s =
      takeAll (slots.filterMap (inv.offerAt store bag entry proto merge src)) s := by
  induction slots generalizing s with
  | nil => rfl
  | cons j rest ih =>
    unfold placeInSlots
    rw [filterMap_cons, offerAt]
    by_cases hmerge : (inv.getOtherItemByPos store bag j src).isSome ≠ merge
    · rw [if_pos hmerge, if_pos hmerge]
      exact ih s
    · rw [if_neg hmerge, if_neg hmerge]
      cases hspace : spaceFor entry proto (inv.getOtherItemByPos store bag j src) with
      | none => exact ih s
      | some space =>
        rw [Option.map_some]
        dsimp only [takeAll]
        rw [ih, ih]

section

variable {bag entry skipBag skipSlot : Nat}

theorem canStoreItemInBag_eq {proto : ItemPrototype} {merge nonSpecialized : Bool} {src : Option MovedItem} :
    inv.canStoreItemInBag store bag entry proto merge nonSpecialized src skipBag skipSlot s =
      match inv.bagOffers store bag entry proto merge nonSpecialized src skipBag skipSlot with
      | .error msg => (msg, s)
      | .ok offers => (.ok, takeAll offers s) := by
  unfold canStoreItemInBag bagOffers
  by_cases hskip : bag = skipBag
  · rw [if_pos hskip, if_pos hskip]
  rw [if_neg hskip, if_neg hskip]
  cases inv.getItemByPos store inventorySlotBag0 bag with
  | none => rfl
  | some pBag =>
    dsimp only
    split_ifs
    · rfl
    · rfl
    · rfl
    · rfl
    · rw [placeInSlots_eq]

theorem searchSlots_eq (slotBegin slotEnd : Nat) (merge : Bool) :
    inv.searchSlots store req slotBegin slotEnd merge s =
      runPasses req.noSimilarCount (inv.slotsPass store req slotBegin slotEnd merge) s := by
  unfold searchSlots canStoreItemInInventorySlots slotsPass
  split
  · rfl
  · rw [placeInSlots_eq]
    simp only [runPasses, afterSearch, ne_eq, not_true_eq_false, if_false]

theorem bagOffers_error {proto : ItemPrototype} {merge nonSpecialized : Bool}
    {src : Option MovedItem} {msg : InventoryResult}
    (h : inv.bagOffers store bag entry proto merge nonSpecialized src skipBag skipSlot = .error msg) :
    msg = .itemDoesntGoIntoBag ∨ msg = .canOnlyDoWithEmptyBags := by
  unfold bagOffers at h
  split at h
  · exact .inl (Except.error.inj h).symm
  split at h
  · exact .inl (Except.error.inj h).symm
  split_ifs at h
  · exact .inl (Except.error.inj h).symm
  · exact .inr (Except.error.inj h).symm
  · exact .inl (Except.error.inj h).symm
  · exact .inl (Except.error.inj h).symm

theorem bagOffers_error_ne_ok {proto : ItemPrototype}
    {merge nonSpecialized : Bool} {src : Option MovedItem} {msg : InventoryResult}
    (h : inv.bagOffers store bag entry proto merge nonSpecialized src skipBag skipSlot = .error msg) :
    msg ≠ .ok := by
  rcases bagOffers_error h with rfl | rfl <;> nofun

end

theorem searchBags_eq (merge nonSpecialized : Bool) :
    inv.searchBags store req merge nonSpecialized s =
      runPasses req.noSimilarCount (inv.bagPasses store req merge nonSpecialized) s := by
  unfold searchBags bagPasses
  generalize slotRange inventorySlotBagStart inventorySlotBagEnd = slots
  induction slots generalizing s with
  | nil => rfl
  | cons i rest ih =>
    rw [foldlM_cons, flatMap_cons, runPasses_append]
    have hone : afterBagSearch req.noSimilarCount (inv.canStoreItemInBag store i req.entry req.proto merge
        nonSpecialized req.src req.bag req.slot s) =
        runPasses req.noSimilarCount (inv.bagPass store req merge nonSpecialized i) s := by
      rw [canStoreItemInBag_eq, bagPass]
      cases hoffers : inv.bagOffers store i req.entry req.proto merge nonSpecialized req.src req.bag req.slot with
      | error msg =>
        have hmsg : msg ≠ .ok := bagOffers_error_ne_ok hoffers
        exact if_pos hmsg
      | ok offers => simp only [runPasses, afterBagSearch, ne_eq, not_true_eq_false, if_false]
    rw [hone]
    exact congrArg _ (funext fun s => ih)

theorem searchRequestedBag_eq (merge : Bool) :
    inv.searchRequestedBag store req merge s =
      runPasses req.noSimilarCount (inv.requestedBagPass store req merge) s := by
  unfold searchRequestedBag canStoreItemInEitherBag requestedBagPass
  rw [canStoreItemInBag_eq]
  cases hspecial : inv.bagOffers store req.bag req.entry req.proto merge false req.src nullBag req.slot with
  | ok offers => simp only [runPasses, afterSearch, ne_eq, not_true_eq_false, if_false]
  | error msg =>
    rw [if_pos (bagOffers_error_ne_ok hspecial), canStoreItemInBag_eq]
    cases hplain : inv.bagOffers store req.bag req.entry req.proto merge true req.src nullBag req.slot with
    | ok offers => simp only [runPasses, afterSearch, ne_eq, not_true_eq_false, if_false]
    | error msg => exact if_pos (bagOffers_error_ne_ok hplain)

theorem searchKeyring_eq :
    inv.searchKeyring store req s = runPasses req.noSimilarCount (inv.keyringPass store req) s := by
  unfold searchKeyring keyringPass
  split
  · exact searchSlots_eq _ _ _
  · rfl

theorem searchSpecificSlot_eq :
    inv.searchSpecificSlot store req s = runPasses req.noSimilarCount (inv.specificSlotPass store req) s := by
  unfold searchSpecificSlot specificSlotPass
  split
  · split
    · rfl
    · unfold canStoreItemInSpecificSlot
      dsimp only
      split
      · rfl
      · split
        · next hspace => exact if_pos hspace
        · simp only [runPasses, takeAll, afterSearch]
          split <;> simp
  · rfl

theorem searchSpecificBagStacks_eq :
    inv.searchSpecificBagStacks store req s =
      runPasses req.noSimilarCount (inv.specificBagStacksPasses store req) s := by
  unfold searchSpecificBagStacks specificBagStacksPasses
  split
  · split
    · rw [runPasses_append, ← searchSlots_eq]
      exact congrArg _ (funext fun s => searchSlots_eq _ _ _)
    · exact searchRequestedBag_eq _
  · rfl

theorem searchSpecificBagFree_eq :
    inv.searchSpecificBagFree store req s =
      runPasses req.noSimilarCount (inv.specificBagFreePasses store req) s := by
  unfold searchSpecificBagFree specificBagFreePasses
  split
  · rw [runPasses_append, ← searchKeyring_eq]
    exact congrArg _ (funext fun s => searchSlots_eq _ _ _)
  · exact searchRequestedBag_eq _

theorem searchSpecificBag_eq :
    inv.searchSpecificBag store req s = runPasses req.noSimilarCount (inv.specificBagPasses store req) s := by
  unfold searchSpecificBag specificBagPasses
  split
  · rw [runPasses_append, ← searchSpecificBagStacks_eq]
    exact congrArg _ (funext fun s => searchSpecificBagFree_eq)
  · rfl

theorem searchStacks_eq :
    inv.searchStacks store req s = runPasses req.noSimilarCount (inv.stacksPasses store req) s := by
  unfold searchStacks stacksPasses
  split
  · rw [runPasses_append, ← searchSlots_eq]
    refine congrArg _ (funext fun s => ?_)
    rw [runPasses_append, ← searchSlots_eq]
    refine congrArg _ (funext fun s => ?_)
    rw [runPasses_append]
    have hspecial : (ite (req.proto.bagFamily ≠ .none) (inv.searchBags store req true false s) (.ok s)) =
        runPasses req.noSimilarCount
          (if req.proto.bagFamily ≠ .none then inv.bagPasses store req true false else []) s := by
      split
      · exact searchBags_eq _ _
      · rfl
    rw [hspecial]
    exact congrArg _ (funext fun s => searchBags_eq _ _)
  · rfl

theorem searchSpecialBags_eq :
    inv.searchSpecialBags store req s = runPasses req.noSimilarCount (inv.specialBagsPasses store req) s := by
  unfold searchSpecialBags specialBagsPasses
  split
  · rw [runPasses_append, ← searchKeyring_eq]
    exact congrArg _ (funext fun s => searchBags_eq _ _)
  · rfl

def inventoryFullOf (noSimilarCount : Nat) (s : Search) : StoreResult :=
  ⟨.inventoryFull, s.dest, Word.add32 s.count noSimilarCount⟩

theorem searchFree_eq :
    inv.searchFree store req s =
      (runPasses req.noSimilarCount (inv.freePasses store req) s >>= fun s =>
        .ok (inventoryFullOf req.noSimilarCount s)) := by
  unfold searchFree freePasses
  split
  · rfl
  · rw [runPasses_append, bind_assoc, ← searchSlots_eq]
    refine congrArg _ (funext fun s => ?_)
    rw [← searchBags_eq]
    rfl

theorem canStoreItemSearches_eq :
    inv.canStoreItemSearches store req s =
      (runPasses req.noSimilarCount (inv.passes store req) s >>= fun s =>
        .ok (inventoryFullOf req.noSimilarCount s)) := by
  unfold canStoreItemSearches passes
  rw [runPasses_append, bind_assoc, ← searchSpecificSlot_eq]
  refine congrArg _ (funext fun s => ?_)
  rw [runPasses_append, bind_assoc, ← searchSpecificBag_eq]
  refine congrArg _ (funext fun s => ?_)
  rw [runPasses_append, bind_assoc, ← searchStacks_eq]
  refine congrArg _ (funext fun s => ?_)
  rw [runPasses_append, bind_assoc, ← searchSpecialBags_eq]
  exact congrArg _ (funext fun s => searchFree_eq)

end

-- What a position may be offered for, and what a pass may be refused with.
section

variable (store : ItemStore) (inv : Inventory) (entry : Nat) (proto : ItemPrototype) (src : Option MovedItem)

def Fitting (o : Offer) : Prop :=
  spaceFor entry proto (inv.getOtherItemByPos store o.pos.1 o.pos.2 src) = some o.space

def Refusal (msg : InventoryResult) : Prop := msg ≠ .ok ∧ msg ≠ .inventoryFull ∧ msg ≠ .cantCarryMoreOfThis

def Sensible : Pass → Prop
  | .offer offers => ∀ o ∈ offers, Fitting store inv entry proto src o
  | .stop msg _ => Refusal msg

end

section

variable {store : ItemStore} {inv : Inventory} {entry : Nat} {proto : ItemPrototype} {src : Option MovedItem}

variable {bag : Nat}

theorem fitting_offerAt {j : Nat} {merge : Bool} {o : Offer}
    (h : inv.offerAt store bag entry proto merge src j = some o) : Fitting store inv entry proto src o := by
  unfold offerAt at h
  dsimp only at h
  split at h
  · cases h
  · obtain ⟨space, hspace, rfl⟩ := Option.map_eq_some_iff.mp h
    exact hspace

theorem fitting_offersAt {merge : Bool} {slots : List Nat} :
    ∀ o ∈ slots.filterMap (inv.offerAt store bag entry proto merge src), Fitting store inv entry proto src o := by
  intro o ho
  obtain ⟨j, -, hj⟩ := mem_filterMap.mp ho
  exact fitting_offerAt hj

theorem fitting_bagOffers {skipBag skipSlot : Nat} {merge nonSpecialized : Bool} {offers : List Offer}
    (h : inv.bagOffers store bag entry proto merge nonSpecialized src skipBag skipSlot = .ok offers) :
    ∀ o ∈ offers, Fitting store inv entry proto src o := by
  unfold bagOffers at h
  split at h
  · cases h
  split at h
  · cases h
  split_ifs at h
  exact Except.ok.inj h ▸ fitting_offersAt

theorem fitting_spaceInSpecificSlot {slot : Nat}
    (h : (inv.spaceInSpecificSlot store bag slot entry proto false src).1 = .ok) :
    Fitting store inv entry proto src ⟨(bag, slot), (inv.spaceInSpecificSlot store bag slot entry proto false src).2⟩ := by
  unfold Fitting
  cases hitem : inv.getOtherItemByPos store bag slot src with
  | none => simp only [spaceInSpecificSlot, spaceFor, hitem, ItemPrototype.getMaxStackSize]
  | some item2 =>
    simp only [spaceInSpecificSlot, hitem] at h ⊢
    simp only [spaceFor, h, if_true, ItemPrototype.getMaxStackSize]

theorem fitsSlot_refusal {slot : Nat} (h : inv.fitsSlot store bag slot proto src ≠ .ok) :
    inv.fitsSlot store bag slot proto src = .itemDoesntGoIntoBag := by
  unfold fitsSlot at h ⊢
  split
  · rename_i hbag
    rw [if_pos hbag] at h
    split_ifs at h ⊢
    all_goals first | rfl | exact absurd rfl h
  · rename_i hbag
    rw [if_neg hbag] at h
    split
    · rfl
    · rename_i pBag hpBag
      rw [hpBag] at h
      dsimp only at h
      split_ifs at h ⊢
      all_goals first | rfl | exact absurd rfl h

theorem canBeMergedPartlyWith_refusal {item : Item} (h : item.canBeMergedPartlyWith entry proto ≠ .ok) :
    Refusal (item.canBeMergedPartlyWith entry proto) := by
  refine ⟨h, ?_, ?_⟩
  all_goals
    unfold Item.canBeMergedPartlyWith
    split_ifs <;> nofun

theorem spaceInSpecificSlot_refusal {slot : Nat} {swap : Bool}
    (h : (inv.spaceInSpecificSlot store bag slot entry proto swap src).1 ≠ .ok) :
    Refusal (inv.spaceInSpecificSlot store bag slot entry proto swap src).1 := by
  have hfits : inv.fitsSlot store bag slot proto src ≠ .ok → Refusal (inv.fitsSlot store bag slot proto src) := by
    intro hne
    rw [fitsSlot_refusal hne]
    exact ⟨nofun, nofun, nofun⟩
  unfold spaceInSpecificSlot at h ⊢
  split at h
  · exact canBeMergedPartlyWith_refusal h
  · exact hfits h

end

section

variable {store : ItemStore} {inv : Inventory} {req : Request}

def AllSensible (store : ItemStore) (inv : Inventory) (req : Request) (passes : List Pass) : Prop :=
  ∀ pass ∈ passes, Sensible store inv req.entry req.proto req.src pass

theorem allSensible_nil : AllSensible store inv req [] := fun _ h => absurd h not_mem_nil

theorem allSensible_append {first second : List Pass} (hfirst : AllSensible store inv req first)
    (hsecond : AllSensible store inv req second) : AllSensible store inv req (first ++ second) :=
  fun pass h => (mem_append.mp h).elim (hfirst pass) (hsecond pass)

theorem allSensible_one {pass : Pass} (h : Sensible store inv req.entry req.proto req.src pass) :
    AllSensible store inv req [pass] := by
  intro other hother
  rw [mem_singleton.mp hother]
  exact h

theorem allSensible_stop {msg : InventoryResult} {counts : Bool} (h : Refusal msg) :
    AllSensible store inv req [.stop msg counts] := allSensible_one h

theorem sensible_slotsPass (slotBegin slotEnd : Nat) (merge : Bool) :
    AllSensible store inv req (inv.slotsPass store req slotBegin slotEnd merge) := by
  unfold slotsPass
  split
  · exact allSensible_stop ⟨nofun, nofun, nofun⟩
  · exact allSensible_one fitting_offersAt

theorem bagOffers_refusal {bag skipBag skipSlot : Nat} {merge nonSpecialized : Bool} {msg : InventoryResult}
    (h : inv.bagOffers store bag req.entry req.proto merge nonSpecialized req.src skipBag skipSlot = .error msg) :
    Refusal msg := by
  rcases bagOffers_error h with rfl | rfl <;> exact ⟨nofun, nofun, nofun⟩

theorem sensible_bagPasses (merge nonSpecialized : Bool) :
    AllSensible store inv req (inv.bagPasses store req merge nonSpecialized) := by
  intro pass hpass
  obtain ⟨i, -, hi⟩ := mem_flatMap.mp hpass
  unfold bagPass at hi
  split at hi
  · cases hi
  · next offers hoffers =>
      have hoffer : AllSensible store inv req [.offer offers] := allSensible_one (fitting_bagOffers hoffers)
      exact hoffer pass hi

theorem sensible_requestedBagPass (merge : Bool) :
    AllSensible store inv req (inv.requestedBagPass store req merge) := by
  unfold requestedBagPass
  split
  · next offers hoffers => exact allSensible_one (fitting_bagOffers hoffers)
  · split
    · next offers hoffers => exact allSensible_one (fitting_bagOffers hoffers)
    · next msg hmsg => exact allSensible_stop (bagOffers_refusal hmsg)

theorem sensible_keyringPass : AllSensible store inv req (inv.keyringPass store req) := by
  unfold keyringPass
  split
  · exact sensible_slotsPass _ _ _
  · exact allSensible_nil

theorem sensible_specificSlotPass (hswap : req.swap = false) :
    AllSensible store inv req (inv.specificSlotPass store req) := by
  unfold specificSlotPass
  dsimp only
  rw [hswap]
  split_ifs with hnamed hout hbag hspace
  · exact allSensible_stop ⟨nofun, nofun, nofun⟩
  · exact allSensible_stop ⟨nofun, nofun, nofun⟩
  · exact allSensible_stop (spaceInSpecificSlot_refusal hspace)
  · refine allSensible_one fun o ho => ?_
    rw [mem_singleton.mp ho]
    exact fitting_spaceInSpecificSlot (not_not.mp hspace)
  · exact allSensible_nil

theorem sensible_specificBagPasses : AllSensible store inv req (inv.specificBagPasses store req) := by
  unfold specificBagPasses
  split
  · refine allSensible_append ?_ ?_
    · unfold specificBagStacksPasses
      split_ifs
      · exact allSensible_append (sensible_slotsPass _ _ _) (sensible_slotsPass _ _ _)
      · exact sensible_requestedBagPass _
      · exact allSensible_nil
    · unfold specificBagFreePasses
      split_ifs
      · exact allSensible_append sensible_keyringPass (sensible_slotsPass _ _ _)
      · exact sensible_requestedBagPass _
  · exact allSensible_nil

theorem sensible_stacksPasses : AllSensible store inv req (inv.stacksPasses store req) := by
  unfold stacksPasses
  split
  · refine allSensible_append (sensible_slotsPass _ _ _) (allSensible_append (sensible_slotsPass _ _ _) ?_)
    refine allSensible_append ?_ (sensible_bagPasses _ _)
    split
    · exact sensible_bagPasses _ _
    · exact allSensible_nil
  · exact allSensible_nil

theorem sensible_specialBagsPasses : AllSensible store inv req (inv.specialBagsPasses store req) := by
  unfold specialBagsPasses
  split
  · exact allSensible_append sensible_keyringPass (sensible_bagPasses _ _)
  · exact allSensible_nil

theorem sensible_freePasses : AllSensible store inv req (inv.freePasses store req) := by
  unfold freePasses
  split
  · exact allSensible_stop ⟨nofun, nofun, nofun⟩
  · exact allSensible_append (sensible_slotsPass _ _ _) (sensible_bagPasses _ _)

theorem sensible_passes (hswap : req.swap = false) : AllSensible store inv req (inv.passes store req) :=
  allSensible_append (sensible_specificSlotPass hswap)
    (allSensible_append sensible_specificBagPasses
      (allSensible_append sensible_stacksPasses
        (allSensible_append sensible_specialBagsPasses sensible_freePasses)))

theorem fitting_offered {passes : List Pass} (h : AllSensible store inv req passes) :
    ∀ o ∈ offered passes, Fitting store inv req.entry req.proto req.src o := by
  induction passes with
  | nil => exact fun o ho => absurd ho not_mem_nil
  | cons pass rest ih =>
    obtain ⟨hpass, hrest⟩ := forall_mem_cons.mp h
    intro o ho
    cases pass with
    | stop msg counts => exact absurd ho not_mem_nil
    | offer offers => exact (mem_append.mp ho).elim (hpass o) (ih hrest o)

theorem refusal_stops {passes : List Pass} (h : AllSensible store inv req passes) {msg : InventoryResult}
    (hstops : stops passes = some msg) : Refusal msg := by
  induction passes with
  | nil => cases hstops
  | cons pass rest ih =>
    obtain ⟨hpass, hrest⟩ := forall_mem_cons.mp h
    cases pass with
    | stop other counts => exact Option.some.inj hstops ▸ hpass
    | offer offers => exact ih hrest hstops

theorem space_le_of_fitting {o : Offer} (h : Fitting store inv req.entry req.proto req.src o) : o.space ≤ 255 := by
  have hle := req.proto.stackable_le
  unfold Fitting spaceFor at h
  split at h
  · split at h
    · have hspace : req.proto.stackable - _ = o.space := Option.some.inj h
      omega
    · cases h
  · have hspace : req.proto.stackable = o.space := Option.some.inj h
    omega

end

end Inventory

end TurtleWow.Objects
