import TurtleWow.Objects.Shortfall

namespace TurtleWow.Objects

open Early

section

variable {noSimilarCount : Nat} {passes : List Pass} {s : Search}

theorem holds_runPasses (hspace : ∀ o ∈ offered passes, o.space ≤ 255) :
    Holds
      (fun res => stops passes = some res.msg ∨
        ∃ last, res = Inventory.placedAll noSimilarCount last ∧ last.count = 0 ∧ last.placed = s.placed + s.count)
      (fun last => stops passes = none ∧ last.placed + last.count = s.placed + s.count)
      (runPasses noSimilarCount passes s) := by
  induction passes generalizing s with
  | nil => exact ⟨rfl, rfl⟩
  | cons pass rest ih =>
    cases pass with
    | stop msg counts => exact .inl rfl
    | offer offers =>
      have hplaced := placed_takeAll (s := s) fun o ho => hspace o (List.mem_append_left _ ho)
      unfold runPasses
      split
      · next hzero => exact .inr ⟨_, rfl, hzero, by omega⟩
      · have hrest := ih (s := takeAll offers s) fun o ho => hspace o (List.mem_append_right _ ho)
        rw [hplaced] at hrest
        exact hrest

theorem mem_runPasses :
    Holds (fun res => ∀ p ∈ res.dest, p.pos ∈ s.positions ∨ ∃ o ∈ offered passes, o.pos = p.pos)
      (fun last => ∀ p ∈ last.dest, p.pos ∈ s.positions ∨ ∃ o ∈ offered passes, o.pos = p.pos)
      (runPasses noSimilarCount passes s) := by
  induction passes generalizing s with
  | nil => exact fun p hp => .inl (List.mem_map_of_mem hp)
  | cons pass rest ih =>
    cases pass with
    | stop msg counts => exact fun p hp => .inl (List.mem_map_of_mem hp)
    | offer offers =>
      have hfirst : ∀ {pos : Pos}, pos ∈ (takeAll offers s).positions →
          pos ∈ s.positions ∨ ∃ o ∈ offers ++ offered rest, o.pos = pos := fun hpos =>
        (mem_takeAll hpos).imp_right fun ⟨o, ho, hat⟩ => ⟨o, List.mem_append_left _ ho, hat⟩
      have hlater : ∀ {pos : Pos}, (pos ∈ (takeAll offers s).positions ∨ ∃ o ∈ offered rest, o.pos = pos) →
          pos ∈ s.positions ∨ ∃ o ∈ offers ++ offered rest, o.pos = pos := fun h =>
        h.elim hfirst fun ⟨o, ho, hat⟩ => .inr ⟨o, List.mem_append_right _ ho, hat⟩
      unfold runPasses
      split
      · unfold Inventory.placedAll
        split <;> exact fun p hp => hfirst (List.mem_map_of_mem hp)
      · exact Holds.mono (fun _ h p hp => hlater (h p hp)) (fun _ h p hp => hlater (h p hp)) ih

end

namespace Inventory

-- A full inventory or a limit on the entry: what found no space and what did
-- make up the request.
def Accounted (count : Nat) (res : StoreResult) : Prop :=
  res.msg = .inventoryFull ∨ res.msg = .cantCarryMoreOfThis →
    res.noSpaceCount + (res.dest.map fun p => p.count).sum = count

section

variable {store : ItemStore} {inv : Inventory} {req : Request} {count left : Nat}

theorem accounted_of_refusal {res : StoreResult} (h : Refusal res.msg) : Accounted count res :=
  fun hmsg => hmsg.elim (fun hfull => absurd hfull h.2.1) fun hcarry => absurd hcarry h.2.2

theorem accounted_placedAll {last : Search} (hcount : count < 2 ^ 32) (hzero : last.count = 0)
    (hplaced : last.placed + req.noSimilarCount = count) :
    Accounted count (placedAll req.noSimilarCount last) := by
  intro hmsg
  unfold placedAll at hmsg ⊢
  split at hmsg
  · next hsimilar => exact absurd hmsg (by rintro (h | h) <;> cases h)
  · next hsimilar =>
      have hadd : Word.add32 0 req.noSimilarCount = 0 + req.noSimilarCount := Word.add32_of_lt (by omega)
      rw [if_neg hsimilar]
      dsimp only
      rw [hzero, hadd]
      simp only [Search.placed] at hplaced
      omega

theorem accounted_searches (hswap : req.swap = false) (hcount : count < 2 ^ 32)
    (hleft : left + req.noSimilarCount = count) :
    Accounted count (Early.result (inv.canStoreItemSearches store req ⟨[], left⟩)) := by
  have hsensible := @sensible_passes store inv req hswap
  have hruns := @holds_runPasses req.noSimilarCount _ ⟨[], left⟩
    fun o ho => space_le_of_fitting (fitting_offered hsensible o ho)
  rw [canStoreItemSearches_eq]
  cases hrun : runPasses req.noSimilarCount (inv.passes store req) ⟨[], left⟩ with
  | error res =>
    rw [hrun] at hruns
    rcases hruns with hstop | ⟨last, rfl, hzero, hplaced⟩
    · exact accounted_of_refusal (refusal_stops hsensible hstop)
    · have hempty : Search.placed ⟨[], left⟩ = 0 := rfl
      refine accounted_placedAll hcount hzero ?_
      rw [hplaced, hempty]
      dsimp only
      omega
  | ok last =>
    rw [hrun] at hruns
    obtain ⟨-, hplaced⟩ := hruns
    have hempty : Search.placed ⟨[], left⟩ = 0 := rfl
    rw [hempty] at hplaced
    intro _
    show Word.add32 last.count req.noSimilarCount + last.placed = count
    dsimp only at hplaced
    have hsmall : last.count + req.noSimilarCount < 4294967296 := by omega
    rw [Word.add32_of_lt hsmall]
    omega

end

section

variable (store : ItemStore) (inv : Inventory) (entry : Nat) (src : Option MovedItem)

def similarHeld : Nat := inv.getItemCount store entry true (src.map fun moved => moved.item.guid)

def unitsOver (proto : ItemPrototype) : Nat := inv.similarHeld store entry src - Word.toU32 proto.maxCount

-- The player holds more of the entry already than its limit allows.
def HoldsOverLimit (count : Nat) (proto : ItemPrototype) : Prop :=
  0 < proto.maxCount ∧ Word.toU32 proto.maxCount < inv.similarHeld store entry src ∧
    inv.similarHeld store entry src + count < 2 ^ 32

def roomOffered (req : Request) : Nat := roomAfter [] (offered (inv.passes store req))

-- More is placed than was requested: what is left to place has wrapped, and the
-- search finds room for it, or for all of it before a pass refuses the item.
def Overfills (req : Request) (count : Nat) : Prop :=
  inv.HoldsOverLimit store req.entry req.src count req.proto ∧
    match stops (inv.passes store req) with
    | none => count < inv.roomOffered store req
    | some _ => 2 ^ 32 - inv.unitsOver store req.entry req.src req.proto ≤ inv.roomOffered store req

end

section

variable {store : ItemStore} {inv : Inventory} {req : Request} {count left excess : Nat}

theorem not_accounted_placedAll {last : Search} (hexcess : 0 < excess) (hsimilar : req.noSimilarCount = count + excess)
    (hsmall : count + excess < 2 ^ 32) (hleft : left = 2 ^ 32 - excess) (hzero : last.count = 0)
    (hplaced : last.placed = left) : ¬Accounted count (placedAll req.noSimilarCount last) := by
  have hadd : Word.add32 0 req.noSimilarCount = 0 + req.noSimilarCount := Word.add32_of_lt (by omega)
  have hpositive : req.noSimilarCount ≠ 0 := by omega
  unfold placedAll
  rw [if_neg hpositive, hzero, hadd]
  intro h
  have hsum : 0 + req.noSimilarCount + last.placed = count := h (.inr rfl)
  omega

theorem accounted_inventoryFullOf_iff {last : Search} {room : Nat} (hexcess : 0 < excess)
    (hsimilar : req.noSimilarCount = count + excess) (hsmall : count + excess < 2 ^ 32)
    (hleft : left = 2 ^ 32 - excess) (hroom : ¬left ≤ room) (hcount : last.count = left - room)
    (hplaced : last.placed + last.count = left) :
    Accounted count (inventoryFullOf req.noSimilarCount last) ↔ ¬count < room := by
  have hsum : last.count + req.noSimilarCount = 2 ^ 32 + count - room := by omega
  have haccounted : Accounted count (inventoryFullOf req.noSimilarCount last) ↔
      Word.add32 last.count req.noSimilarCount + last.placed = count :=
    ⟨fun h => h (.inl rfl), fun h _ => h⟩
  rw [haccounted]
  by_cases hmore : count < room
  · rw [Word.add32_of_lt (by omega)]
    omega
  · rw [Word.add32_of_ge (by omega) (by omega) (by omega)]
    omega

theorem accounted_wrapped_iff (hswap : req.swap = false) (hexcess : 0 < excess)
    (hsimilar : req.noSimilarCount = count + excess) (hsmall : count + excess < 2 ^ 32) (hleft : left = 2 ^ 32 - excess) :
    Accounted count (Early.result (inv.canStoreItemSearches store req ⟨[], left⟩)) ↔
      ¬match stops (inv.passes store req) with
        | none => count < inv.roomOffered store req
        | some _ => left ≤ inv.roomOffered store req := by
  have hsensible := @sensible_passes store inv req hswap
  have hruns := runPasses_cases req.noSimilarCount (s := ⟨[], left⟩)
    (fun o ho => space_le_of_fitting (fitting_offered hsensible o ho)) (show 0 < left by omega)
  have hroom : roomAfter (Search.positions ⟨[], left⟩) (offered (inv.passes store req)) = inv.roomOffered store req :=
    rfl
  have hempty : Search.placed ⟨[], left⟩ = 0 := rfl
  rw [hroom, hempty, Nat.zero_add] at hruns
  rw [canStoreItemSearches_eq]
  by_cases henough : left ≤ inv.roomOffered store req
  · rw [if_pos henough] at hruns
    obtain ⟨last, hrun, hzero, hplaced⟩ := hruns
    rw [hrun]
    have hnot := not_accounted_placedAll hexcess hsimilar hsmall hleft hzero hplaced
    cases stops (inv.passes store req) with
    | none => exact ⟨fun h => absurd h hnot, fun h => absurd (show count < _ by omega) h⟩
    | some msg => exact ⟨fun h => absurd h hnot, fun h => absurd henough h⟩
  · rw [if_neg henough] at hruns
    cases hstops : stops (inv.passes store req) with
    | none =>
      rw [hstops] at hruns
      obtain ⟨last, hrun, hcount, hplaced⟩ := hruns
      rw [hrun]
      exact accounted_inventoryFullOf_iff hexcess hsimilar hsmall hleft henough hcount hplaced
    | some msg =>
      rw [hstops] at hruns
      obtain ⟨res, hrun, hmsg⟩ := hruns
      rw [hrun]
      have hrefusal : Refusal res.msg := hmsg ▸ refusal_stops hsensible hstops
      exact ⟨fun _ => henough, fun _ => accounted_of_refusal hrefusal⟩

theorem similarHeld_lt (store : ItemStore) (inv : Inventory) (entry : Nat) (src : Option MovedItem) :
    inv.similarHeld store entry src < 2 ^ 32 := by
  refine List.foldlRecOn (motive := fun held => held < 2 ^ 32) _ _ (Nat.two_pow_pos 32) fun held hheld pos _ => ?_
  split
  · split
    · exact Word.add32_lt _ _
    · exact hheld
  · exact hheld

theorem canTakeMoreSimilarItems_over {proto : ItemPrototype} {entry : Nat} {src : Option MovedItem}
    (hproto : store.getItemPrototype entry = some proto) (hover : inv.HoldsOverLimit store entry src count proto) :
    inv.canTakeMoreSimilarItems store entry count src =
      (.cantCarryMoreOfThis, count + inv.unitsOver store entry src proto) := by
  obtain ⟨hlimit, hmore, hsmall⟩ := hover
  unfold canTakeMoreSimilarItems
  rw [hproto]
  dsimp only
  rw [if_pos hlimit]
  show (if Word.toU32 proto.maxCount < Word.add32 (inv.similarHeld store entry src) count then _ else _) = _
  have hsum : Word.add32 (inv.similarHeld store entry src) count = inv.similarHeld store entry src + count :=
    Word.add32_of_lt hsmall
  have hsum' : Word.add32 count (inv.similarHeld store entry src) = count + inv.similarHeld store entry src :=
    Word.add32_of_lt (by omega)
  rw [hsum, if_pos (by omega)]
  show (_, Word.sub32 (Word.add32 count (inv.similarHeld store entry src)) _) = _
  rw [hsum', Word.sub32_of_le (by omega) (by omega)]
  unfold unitsOver
  congr 1
  omega

theorem canTakeMoreSimilarItems_within {proto : ItemPrototype} {entry : Nat} {src : Option MovedItem}
    (hproto : store.getItemPrototype entry = some proto) (hcount : count < 2 ^ 32)
    (hwithin : ¬inv.HoldsOverLimit store entry src count proto) :
    inv.canTakeMoreSimilarItems store entry count src = (.ok, 0) ∨
      ((inv.canTakeMoreSimilarItems store entry count src).1 = .cantCarryMoreOfThis ∧
        (inv.canTakeMoreSimilarItems store entry count src).2 ≤ count) := by
  unfold canTakeMoreSimilarItems
  rw [hproto]
  dsimp only
  split
  · next hlimit =>
      have hheld : inv.getItemCount store entry true (src.map fun moved => moved.item.guid) =
          inv.similarHeld store entry src := rfl
      rw [hheld]
      split
      · next hcarry =>
          refine .inr ⟨rfl, ?_⟩
          have hheld := inv.similarHeld_lt store entry src
          by_cases hsmall : inv.similarHeld store entry src + count < 2 ^ 32
          · have hle : ¬Word.toU32 proto.maxCount < inv.similarHeld store entry src :=
              fun hmore => hwithin ⟨hlimit, hmore, hsmall⟩
            have hsum : Word.add32 count (inv.similarHeld store entry src) = count + inv.similarHeld store entry src :=
              Word.add32_of_lt (by omega)
            rw [Word.add32_of_lt hsmall] at hcarry
            rw [hsum, Word.sub32_of_le (by omega) (by omega)]
            omega
          · have hsum : Word.add32 count (inv.similarHeld store entry src) =
                count + inv.similarHeld store entry src - 2 ^ 32 := Word.add32_of_ge hcount hheld (by omega)
            rw [Word.add32_of_ge hheld hcount (by omega)] at hcarry
            rw [hsum, Word.sub32_of_le (by omega) (by omega)]
            omega
      · exact .inl rfl
  · exact .inl rfl

-- What an OK promises: distinct positions that are free or hold a stack with
-- room, and that together take the requested count.
structure Sound (store : ItemStore) (inv : Inventory) (entry : Nat) (proto : ItemPrototype)
    (src : Option MovedItem) (count : Nat) (dest : List ItemPosCount) : Prop where
  distinct : (dest.map fun p => p.pos).Nodup
  sum : (dest.map fun p => p.count).sum = count
  container : ∀ p ∈ dest, Container store inv p.pos.1 p.pos.2
  small : ∀ p ∈ dest, p.count ≤ proto.getMaxStackSize
  merges : ∀ p ∈ dest, ∀ item, inv.getItemByPos store p.pos.1 p.pos.2 = some item → isSrcItem item src = false →
    item.canBeMergedPartlyWith entry proto = .ok ∧ item.count + p.count ≤ proto.getMaxStackSize

theorem canBeMerged_of_fitting {entry : Nat} {proto : ItemPrototype} {src : Option MovedItem} {o : Offer} {item : Item}
    (h : Fitting store inv entry proto src o) (hitem : inv.getOtherItemByPos store o.pos.1 o.pos.2 src = some item) :
    item.canBeMergedPartlyWith entry proto = .ok := by
  unfold Fitting at h
  rw [hitem] at h
  dsimp only [spaceFor] at h
  split at h
  · assumption
  · cases h

theorem getOtherItemByPos_of_ne_src {src : Option MovedItem} {bag slot : Nat} {item : Item}
    (hitem : inv.getItemByPos store bag slot = some item) (hsrc : isSrcItem item src = false) :
    inv.getOtherItemByPos store bag slot src = some item := by
  unfold getOtherItemByPos
  rw [hitem]
  dsimp only
  rw [hsrc]
  rfl

theorem fitting_dest (hswap : req.swap = false) :
    ∀ p ∈ (Early.result (inv.canStoreItemSearches store req ⟨[], left⟩)).dest,
      ∃ o, Fitting store inv req.entry req.proto req.src o ∧ o.pos = p.pos := by
  have hsensible := @sensible_passes store inv req hswap
  have hmem := @mem_runPasses req.noSimilarCount (inv.passes store req) ⟨[], left⟩
  have hgenuine : ∀ pos : Pos, (pos ∈ Search.positions ⟨[], left⟩ ∨ ∃ o ∈ offered (inv.passes store req), o.pos = pos) →
      ∃ o, Fitting store inv req.entry req.proto req.src o ∧ o.pos = pos := by
    rintro pos (hnil | ⟨o, ho, hat⟩)
    · cases hnil
    · exact ⟨o, fitting_offered hsensible o ho, hat⟩
  rw [canStoreItemSearches_eq]
  cases hrun : runPasses req.noSimilarCount (inv.passes store req) ⟨[], left⟩ with
  | error res =>
    rw [hrun] at hmem
    exact fun p hp => hgenuine p.pos (hmem p hp)
  | ok last =>
    rw [hrun] at hmem
    exact fun p hp => hgenuine p.pos (hmem p hp)

end

section

variable {store : ItemStore} {inv : Inventory} {bag slot entry count : Nat} {src : Option MovedItem}
  {proto : ItemPrototype}

theorem canStoreItemInto_eq (hproto : store.getItemPrototype entry = some proto) (hstored : inv.cantBeStored src = none) :
    inv.canStoreItemInto store bag slot [] entry count src false =
      let similar := inv.canTakeMoreSimilarItems store entry count src
      if similar.1 ≠ .ok ∧ count = similar.2 then ⟨similar.1, [], similar.2⟩
      else
        Early.result (inv.canStoreItemSearches store ⟨bag, slot, entry, proto, false, src, similar.2⟩
          ⟨[], if similar.1 ≠ .ok then Word.sub32 count similar.2 else count⟩) := by
  unfold canStoreItemInto
  rw [hproto, hstored]

theorem cantBeStored_refusal {msg : InventoryResult} (h : inv.cantBeStored src = some msg) : Refusal msg := by
  unfold cantBeStored at h
  split at h
  · cases h
  · split_ifs at h
    · exact Option.some.inj h ▸ ⟨nofun, nofun, nofun⟩
    · exact Option.some.inj h ▸ ⟨nofun, nofun, nofun⟩

theorem sound_of_ok (h : (inv.canStoreItemInto store bag slot [] entry count src false).msg = .ok) :
    ∃ proto, store.getItemPrototype entry = some proto ∧
      Sound store inv entry proto src count (inv.canStoreItemInto store bag slot [] entry count src false).dest := by
  obtain ⟨proto, hproto, hplaced⟩ := placed_of_canStoreItemInto h
  refine ⟨proto, hproto, hplaced.nodup, ?_, fun p hp => (hplaced.room p hp).container,
    fun p hp => (hplaced.room p hp).small, ?_⟩
  · have hsum := hplaced.sum
    dsimp only at hsum
    omega
  · intro p hp item hitem hsrc
    have hother := getOtherItemByPos_of_ne_src hitem hsrc
    have hfits := (hplaced.room p hp).fits item hother
    refine ⟨?_, hfits.2⟩
    cases hstored : inv.cantBeStored src with
    | some msg =>
      have hres : (inv.canStoreItemInto store bag slot [] entry count src false).msg = msg := by
        unfold canStoreItemInto
        rw [hproto, hstored]
      exact absurd (hres.symm.trans h) (cantBeStored_refusal hstored).1
    | none =>
      rw [canStoreItemInto_eq hproto hstored] at h hp
      dsimp only at h hp
      split at h
      · next hall => exact absurd h hall.1
      · next hsome =>
          rw [if_neg hsome] at hp
          obtain ⟨o, hfitting, hat⟩ := fitting_dest rfl p hp
          exact canBeMerged_of_fitting hfitting (hat ▸ hother)

theorem accounted_iff (hproto : store.getItemPrototype entry = some proto) (hstored : inv.cantBeStored src = none)
    (hcount : count < 2 ^ 32) :
    Accounted count (inv.canStoreItemInto store bag slot [] entry count src false) ↔
      ¬inv.Overfills store ⟨bag, slot, entry, proto, false, src, 0⟩ count := by
  rw [canStoreItemInto_eq hproto hstored]
  dsimp only
  by_cases hover : inv.HoldsOverLimit store entry src count proto
  · have hover' := hover
    obtain ⟨-, hmore, hsmall⟩ := hover'
    have hexcess : 0 < inv.unitsOver store entry src proto := Nat.sub_pos_of_lt hmore
    have hle : inv.unitsOver store entry src proto ≤ inv.similarHeld store entry src := Nat.sub_le _ _
    rw [canTakeMoreSimilarItems_over hproto hover]
    have hleft : count + 4294967296 - (count + inv.unitsOver store entry src proto) =
        2 ^ 32 - inv.unitsOver store entry src proto := by omega
    rw [if_neg (by omega), if_pos nofun, Word.sub32_of_lt (by omega) (by omega), hleft,
      accounted_wrapped_iff rfl hexcess rfl (by omega) rfl]
    exact not_congr ⟨fun h => ⟨hover, h⟩, fun h => h.2⟩
  · have hnot : ¬inv.Overfills store ⟨bag, slot, entry, proto, false, src, 0⟩ count := fun h => hover h.1
    refine iff_of_true ?_ hnot
    rcases canTakeMoreSimilarItems_within hproto hcount hover with hok | ⟨hcarry, hle⟩
    · rw [hok]
      exact accounted_searches rfl hcount rfl
    · rw [hcarry]
      split
      · next hall => exact fun _ => hall.2.symm
      · next hsome =>
          have hne : count ≠ (inv.canTakeMoreSimilarItems store entry count src).2 := fun h => hsome ⟨nofun, h⟩
          rw [if_pos nofun, Word.sub32_of_le hcount hle]
          exact accounted_searches rfl hcount (Nat.sub_add_cancel hle)

-- Overfills needs an inventory that holds more than MaxCount already; everywhere
-- else the answer of _CanStoreItem accounts for every unit of the request.
theorem canStoreItem_sound_and_accounted_iff (store : ItemStore) (inv : Inventory) (bag slot entry count : Nat)
    (src : Option MovedItem) (hcount : count < 2 ^ 32) :
    (((inv.canStoreItemInto store bag slot [] entry count src false).msg = .ok →
        ∃ proto, store.getItemPrototype entry = some proto ∧
          Sound store inv entry proto src count (inv.canStoreItemInto store bag slot [] entry count src false).dest) ∧
      Accounted count (inv.canStoreItemInto store bag slot [] entry count src false)) ↔
      ∀ proto, store.getItemPrototype entry = some proto → inv.cantBeStored src = none →
        ¬inv.Overfills store ⟨bag, slot, entry, proto, false, src, 0⟩ count := by
  constructor
  · rintro ⟨-, haccounted⟩ proto hproto hstored
    exact (accounted_iff hproto hstored hcount).mp haccounted
  · refine fun hnot => ⟨sound_of_ok, ?_⟩
    cases hproto : store.getItemPrototype entry with
    | none =>
      unfold canStoreItemInto
      rw [hproto]
      exact accounted_of_refusal ⟨nofun, nofun, nofun⟩
    | some proto =>
      cases hstored : inv.cantBeStored src with
      | none => exact (accounted_iff hproto hstored hcount).mpr (hnot proto hproto hstored)
      | some msg =>
        unfold canStoreItemInto
        rw [hproto, hstored]
        exact accounted_of_refusal (cantBeStored_refusal hstored)

theorem canStoreItem_sound_and_accounted_empty :
    ((Inventory.canStoreItemInto sampleStore ⟨1, ∅⟩ nullBag nullSlot [] clothEntry 30 none false).msg = .ok →
        ∃ proto, sampleStore.getItemPrototype clothEntry = some proto ∧
          Sound sampleStore ⟨1, ∅⟩ clothEntry proto none 30
            (Inventory.canStoreItemInto sampleStore ⟨1, ∅⟩ nullBag nullSlot [] clothEntry 30 none false).dest) ∧
      Accounted 30 (Inventory.canStoreItemInto sampleStore ⟨1, ∅⟩ nullBag nullSlot [] clothEntry 30 none false) := by
  refine (canStoreItem_sound_and_accounted_iff sampleStore ⟨1, ∅⟩ nullBag nullSlot clothEntry 30 none
    (by decide)).mpr ?_
  intro proto hproto _ hover
  have hcloth : clothProto = proto := Option.some.inj hproto
  have hlimit : 0 < proto.maxCount := hover.1.1
  rw [← hcloth] at hlimit
  exact absurd hlimit (by decide)

-- A character may carry one cloth and holds five: a sixth fills the stack and
-- the rest of the backpack.
def limitedStore : ItemStore :=
  { sampleStore with
    proto := fun entry => if entry = clothEntry then { clothProto with maxCount := 1 } else sampleStore.proto entry }

def overstocked : Inventory :=
  Inventory.setItem ⟨1, ∅⟩ (inventorySlotBag0, inventorySlotItemStart) (sampleItem 7 clothEntry 5 1)

theorem not_accounted_over_limit :
    ¬(((overstocked.canStoreItemInto limitedStore nullBag nullSlot [] clothEntry 1 none false).msg = .ok →
          ∃ proto, limitedStore.getItemPrototype clothEntry = some proto ∧
            Sound limitedStore overstocked clothEntry proto none 1
              (overstocked.canStoreItemInto limitedStore nullBag nullSlot [] clothEntry 1 none false).dest) ∧
        Accounted 1 (overstocked.canStoreItemInto limitedStore nullBag nullSlot [] clothEntry 1 none false)) := by
  rintro ⟨-, haccounted⟩
  have hmsg : (overstocked.canStoreItemInto limitedStore nullBag nullSlot [] clothEntry 1 none false).msg =
      .inventoryFull := by decide +kernel
  have hplaced : ((overstocked.canStoreItemInto limitedStore nullBag nullSlot [] clothEntry 1 none false).dest.map
      fun p => p.count).sum = 315 := by decide +kernel
  have hsum := haccounted (.inl hmsg)
  omega

end

end Inventory

end TurtleWow.Objects
