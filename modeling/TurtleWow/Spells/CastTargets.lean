import TurtleWow.Lib.Lists
import TurtleWow.Lib.Parse

namespace TurtleWow.Spells

open Bytes Parse List

-- The targets of a spell, as clients send them and as the server writes them.

def TARGET_FLAG_SELF : UInt16 := 0x0000

def TARGET_FLAG_UNIT : UInt16 := 0x0002

def TARGET_FLAG_ITEM : UInt16 := 0x0010

def TARGET_FLAG_SOURCE_LOCATION : UInt16 := 0x0020

def TARGET_FLAG_DEST_LOCATION : UInt16 := 0x0040

def TARGET_FLAG_OBJECT_UNK : UInt16 := 0x0080

def TARGET_FLAG_PVP_CORPSE : UInt16 := 0x0200

def TARGET_FLAG_OBJECT : UInt16 := 0x0800

def TARGET_FLAG_TRADE_ITEM : UInt16 := 0x1000

def TARGET_FLAG_STRING : UInt16 := 0x2000

def TARGET_FLAG_CORPSE : UInt16 := 0x8000

-- TARGET_FLAG_UNK2 is 0x10000, which no 16-bit mask has.

def any (mask flags : UInt16) : Bool := mask &&& flags ≠ 0

@[simp] theorem any_or (mask first second : UInt16) : any mask (first ||| second) = (any mask first || any mask second) := by
  have hdistrib : mask &&& (first ||| second) = (mask &&& first) ||| (mask &&& second) :=
    UInt16.eq_of_toBitVec_eq BitVec.and_or_distrib_left
  unfold any
  rw [hdistrib]
  by_cases hfirst : mask &&& first = 0 <;> simp [hfirst]

-- Three floats, by their bits
abbrev Coords := UInt32 × UInt32 × UInt32

def TRADE_SLOT_COUNT : Nat := 7

def HIGHGUID_ITEM : Nat := 0x4000

def getHigh (guid : Nat) : Nat := guid / 2 ^ 48

structure ItemGuid where
  counter : UInt32
  pos : 0 < counter.toNat

def ItemGuid.raw (item : ItemGuid) : Nat := item.counter.toNat + 2 ^ 48 * HIGHGUID_ITEM

-- The caster, and what Update finds by a guid
structure Surroundings where
  casterGuid : Nat
  position : Coords
  isPlayer : Bool
  validMapCoord : Coords → Bool
  unit : Nat → Bool
  gameObject : Nat → Bool
  item : Nat → Bool
  traderItem : Nat → Option ItemGuid
  gameObjectHigh : ∀ guid, gameObject guid = true → getHigh guid ≠ HIGHGUID_ITEM

-- The three targets are those Update has found, by their guids.
structure SpellCastTargets where
  targetMask : UInt16
  unitTargetGUID : Nat
  GOTargetGUID : Nat
  itemTargetGUID : Nat
  CorpseTargetGUID : Nat
  src : Coords
  dest : Coords
  strTarget : List UInt8
  unitTarget : Option Nat
  GOTarget : Option Nat
  itemTarget : Option Nat

namespace SpellCastTargets

section

variable (w : Surroundings)

def update (t : SpellCastTargets) : SpellCastTargets :=
  { t with
    GOTarget := if t.GOTargetGUID ≠ 0 ∧ w.gameObject t.GOTargetGUID then some t.GOTargetGUID else none
    unitTarget :=
      if t.unitTargetGUID ≠ 0 ∧ (t.unitTargetGUID = w.casterGuid ∨ w.unit t.unitTargetGUID) then some t.unitTargetGUID
      else none
    itemTarget :=
      if w.isPlayer then
        if any t.targetMask TARGET_FLAG_ITEM then
          if w.item t.itemTargetGUID then some t.itemTargetGUID else none
        else if any t.targetMask TARGET_FLAG_TRADE_ITEM then
          if t.itemTargetGUID < TRADE_SLOT_COUNT then (w.traderItem t.itemTargetGUID).map (·.raw) else none
        else none
      else none }

-- ObjectGuid::ClampPlayerGuid: the guid of a player is its low guid.
def clampPlayerGuid (guid : Nat) : Nat := if getHigh guid = 0 then guid % 2 ^ 32 else guid

def packedGuid : Reader Nat := return clampPlayerGuid (← packed 8)

-- A text, or nothing at the end of the packet
def string : Reader (List UInt8) := fun bytes => if bytes = [] then some ([], []) else text bytes

def coords : Reader Coords := do
  let x ← uint32
  let y ← uint32
  let z ← uint32
  if w.validMapCoord (x, y, z) then return (x, y, z) else failure

def optional {α : Type} (named : Bool) (reader : Reader α) (default : α) : Reader α :=
  if named then reader else pure default

def self : SpellCastTargets where
  targetMask := TARGET_FLAG_SELF
  unitTargetGUID := w.casterGuid
  GOTargetGUID := 0
  itemTargetGUID := 0
  CorpseTargetGUID := 0
  src := (0, 0, 0)
  dest := w.position
  strTarget := []
  unitTarget := some w.casterGuid
  GOTarget := none
  itemTarget := none

def readNamed (mask : UInt16) : Reader SpellCastTargets := do
  let unit ← optional (any mask TARGET_FLAG_UNIT) packedGuid 0
  let gameObject ← optional (any mask (TARGET_FLAG_OBJECT ||| TARGET_FLAG_OBJECT_UNK)) packedGuid 0
  let item ← optional (any mask (TARGET_FLAG_ITEM ||| TARGET_FLAG_TRADE_ITEM) && w.isPlayer) packedGuid 0
  let src ← optional (any mask TARGET_FLAG_SOURCE_LOCATION) (coords w) (0, 0, 0)
  let dest ← optional (any mask TARGET_FLAG_DEST_LOCATION) (coords w) (0, 0, 0)
  let str ← optional (any mask TARGET_FLAG_STRING) string []
  let corpse ← optional (any mask (TARGET_FLAG_CORPSE ||| TARGET_FLAG_PVP_CORPSE)) packedGuid 0
  -- find real units/GOs
  return update w ⟨mask, unit, gameObject, item, corpse, src, dest, str, none, none, none⟩

def read : Reader SpellCastTargets := do
  let mask ← uint16
  if mask = TARGET_FLAG_SELF then return self w else readNamed w mask

end

def writeGuid : Option Nat → List UInt8
  | some guid => pack 8 guid
  | none => [0]

def writeCoords (c : Coords) : List UInt8 := toBytes 4 c.1.toNat ++ (toBytes 4 c.2.1.toNat ++ toBytes 4 c.2.2.toNat)

def writeKind (t : SpellCastTargets) : List UInt8 :=
  if any t.targetMask (TARGET_FLAG_UNIT ||| TARGET_FLAG_PVP_CORPSE ||| TARGET_FLAG_OBJECT ||| TARGET_FLAG_CORPSE) then
    if any t.targetMask TARGET_FLAG_UNIT then writeGuid t.unitTarget
    else if any t.targetMask (TARGET_FLAG_OBJECT ||| TARGET_FLAG_OBJECT_UNK) then writeGuid t.GOTarget
    else if any t.targetMask (TARGET_FLAG_CORPSE ||| TARGET_FLAG_PVP_CORPSE) then pack 8 t.CorpseTargetGUID
    else [0]
  else []

def enc (named : Bool) (bytes : List UInt8) : List UInt8 := if named then bytes else []

def write (t : SpellCastTargets) : List UInt8 :=
  toBytes 2 t.targetMask.toNat ++ (t.writeKind ++
    (enc (any t.targetMask (TARGET_FLAG_ITEM ||| TARGET_FLAG_TRADE_ITEM)) (writeGuid t.itemTarget) ++
    (enc (any t.targetMask TARGET_FLAG_SOURCE_LOCATION) (writeCoords t.src) ++
    (enc (any t.targetMask TARGET_FLAG_DEST_LOCATION) (writeCoords t.dest) ++
    enc (any t.targetMask TARGET_FLAG_STRING) (t.strTarget ++ [0])))))

section

variable {w : Surroundings} {guid : Nat} {used bytes rest : List UInt8}

theorem clampPlayerGuid_cases (guid : Nat) :
    getHigh guid = 0 ∧ clampPlayerGuid guid = guid % 2 ^ 32 ∨ clampPlayerGuid guid = guid := by
  unfold clampPlayerGuid
  by_cases hhigh : getHigh guid = 0 <;> simp [hhigh]

theorem clampPlayerGuid_clamp (guid : Nat) : clampPlayerGuid (clampPlayerGuid guid) = clampPlayerGuid guid := by
  unfold clampPlayerGuid getHigh
  split_ifs <;> omega

theorem length_nonzero_clamp (guid : Nat) (h : guid < 256 ^ 8) :
    (nonzero (toBytes 8 (clampPlayerGuid guid))).length ≤ (nonzero (toBytes 8 guid)).length ∧
      ((nonzero (toBytes 8 (clampPlayerGuid guid))).length = (nonzero (toBytes 8 guid)).length →
        clampPlayerGuid guid = guid) := by
  rcases clampPlayerGuid_cases guid with ⟨-, hclamp⟩ | hclamp
  · have hzero : guid % 2 ^ 32 / 256 ^ 4 = 0 := by omega
    have hlow : nonzero (toBytes 8 (guid % 2 ^ 32)) = nonzero (toBytes 4 guid) := by
      rw [toBytes_add 4 4, hzero, toBytes_zero, nonzero_append, nonzero_replicate, append_nil,
        show (2 : Nat) ^ 32 = 256 ^ 4 by norm_num, toBytes_mod]
    rw [hclamp, hlow, toBytes_add 4 4 guid, nonzero_append, length_append]
    refine ⟨Nat.le_add_right _ _, fun hlength => ?_⟩
    have hnil : nonzero (toBytes 4 (guid / 256 ^ 4)) = [] := eq_nil_of_length_eq_zero (by omega)
    have hhigh : guid / 256 ^ 4 = 0 := by
      rw [← ofBytes_toBytes (show guid / 256 ^ 4 < 256 ^ 4 by omega)]
      exact ofBytes_eq_zero hnil
    omega
  · rw [hclamp]
    exact ⟨le_refl _, fun _ => rfl⟩

theorem reads_packedGuid (h : guid < 256 ^ 8) (hclamp : clampPlayerGuid guid = guid) :
    Reads packedGuid (pack 8 guid) guid := by
  have hread := (reads_packed h).map clampPlayerGuid
  rwa [hclamp] at hread

theorem local_packedGuid : Local packedGuid := (local_packed 8).map _

theorem packedGuid_taken (h : Reads packedGuid used guid) : ∃ (mask : UInt8) (taken bytes : List UInt8),
    used = mask :: taken ∧ bytes.length = 8 ∧ nonzero taken = nonzero bytes ∧
      (0 ∉ taken → Bytes.mask bytes = mask.toNat) ∧ guid = clampPlayerGuid (ofBytes bytes) := by
  have hrun := h.run
  rw [packedGuid, StateT.run_bind] at hrun
  obtain ⟨⟨raw, mid⟩, hpacked, heq⟩ := Option.bind_eq_some_iff.mp hrun
  cases heq
  rw [packed, StateT.run_bind] at hpacked
  obtain ⟨⟨mask, after⟩, hmask, hnext⟩ := Option.bind_eq_some_iff.mp hpacked
  rw [StateT.run_bind] at hnext
  obtain ⟨⟨bytes, last⟩, hunmask, heq⟩ := Option.bind_eq_some_iff.mp hnext
  cases heq
  obtain ⟨first, rfl, hfirst⟩ := local_uint8 used mask after hmask
  obtain ⟨taken, rfl, htaken⟩ := local_unmask 8 mask.toNat after bytes [] hunmask
  obtain ⟨hlength, hnonzero, hbits⟩ := unmask_used htaken
  refine ⟨mask, taken, bytes, by rw [eq_of_reads_uint8 hfirst]; simp, hlength, hnonzero, fun hzero => ?_, rfl⟩
  rw [hbits hzero]
  exact Nat.mod_eq_of_lt mask.toNat_lt

theorem packedGuid_used (h : Reads packedGuid used guid) :
    guid < 256 ^ 8 ∧ clampPlayerGuid guid = guid ∧ (used = pack 8 guid ∨ (pack 8 guid).length < used.length) := by
  obtain ⟨mask, taken, bytes, rfl, hlength, hnonzero, hmask, rfl⟩ := packedGuid_taken h
  have hraw : ofBytes bytes < 256 ^ 8 := hlength ▸ ofBytes_lt bytes
  have hbytes : toBytes 8 (ofBytes bytes) = bytes := hlength ▸ toBytes_ofBytes bytes
  refine ⟨?_, clampPlayerGuid_clamp _, ?_⟩
  · rcases clampPlayerGuid_cases (ofBytes bytes) with ⟨-, hclamp⟩ | hclamp <;> omega
  · obtain ⟨hle, heq⟩ := length_nonzero_clamp _ hraw
    have htaken := length_nonzero_le taken
    rw [hbytes, ← hnonzero] at hle heq
    by_cases hshort : (nonzero (toBytes 8 (clampPlayerGuid (ofBytes bytes)))).length = taken.length
    · left
      have hsame : (nonzero taken).length = taken.length := by omega
      have hfull : nonzero taken = taken := filter_eq_self.mpr (length_filter_eq_length_iff.mp hsame)
      have hzero : 0 ∉ taken := hfull ▸ zero_notMem_nonzero taken
      rw [heq (by omega), pack, hbytes, hmask hzero, ← hnonzero, hfull, UInt8.ofNat_toNat]
    · right
      simp only [pack, length_cons]
      omega

theorem one_le_length_pack (guid : Nat) : 1 ≤ (pack 8 guid).length := by simp [pack]

theorem reads_coords {c : Coords} (hvalid : w.validMapCoord c = true) : Reads (coords w) (writeCoords c) c := by
  have hread : Reads (coords w) (toBytes 4 c.1.toNat ++ (toBytes 4 c.2.1.toNat ++ (toBytes 4 c.2.2.toNat ++ []))) c := by
    refine (reads_uint32 c.1).bind ((reads_uint32 c.2.1).bind ((reads_uint32 c.2.2).bind ?_))
    rw [if_pos hvalid]
    exact reads_pure c
  rwa [append_nil] at hread

theorem coords_taken {c : Coords} (h : (coords w).run bytes = some (c, rest)) :
    w.validMapCoord c = true ∧ bytes = writeCoords c ++ rest := by
  rw [coords, StateT.run_bind] at h
  obtain ⟨⟨x, bytes1⟩, hx, h⟩ := Option.bind_eq_some_iff.mp h
  rw [StateT.run_bind] at h
  obtain ⟨⟨y, bytes2⟩, hy, h⟩ := Option.bind_eq_some_iff.mp h
  rw [StateT.run_bind] at h
  obtain ⟨⟨z, bytes3⟩, hz, h⟩ := Option.bind_eq_some_iff.mp h
  dsimp only at h
  split_ifs at h with hvalid
  · cases h
    obtain ⟨usedX, rfl, hX⟩ := local_uint32 bytes x bytes1 hx
    obtain ⟨usedY, rfl, hY⟩ := local_uint32 bytes1 y bytes2 hy
    obtain ⟨usedZ, rfl, hZ⟩ := local_uint32 bytes2 z rest hz
    refine ⟨hvalid, ?_⟩
    rw [writeCoords, eq_of_reads_uint32 hX, eq_of_reads_uint32 hY, eq_of_reads_uint32 hZ]
    simp only [append_assoc]
  · cases h

theorem local_coords : Local (coords w) := fun _ c _ h =>
  ⟨writeCoords c, (coords_taken h).2, reads_coords (coords_taken h).1⟩

theorem coords_used {c : Coords} (h : Reads (coords w) used c) : w.validMapCoord c = true ∧ used = writeCoords c := by
  have htaken := coords_taken h.run
  rwa [append_nil] at htaken

theorem reads_string {str : List UInt8} (h : 0 ∉ str) : Reads string (str ++ [0]) str := by
  intro rest
  change (if _ then _ else _) = _
  rw [if_neg (by simp)]
  exact reads_text h rest

theorem string_taken {str : List UInt8} (h : string.run bytes = some (str, rest)) :
    (0 ∉ str ∧ bytes = str ++ [0] ++ rest) ∨ (bytes = [] ∧ str = [] ∧ rest = []) := by
  change (if _ then _ else _) = _ at h
  split_ifs at h with hnil
  · cases h
    exact .inr ⟨hnil, rfl, rfl⟩
  · obtain ⟨used, rfl, hused⟩ := local_text bytes str rest h
    obtain ⟨hzero, rfl⟩ := eq_of_reads_text hused
    exact .inl ⟨hzero, rfl⟩

end

section

variable {α : Type} {reader : Reader α} {named : Bool} {default a : α} {used bytes rest : List UInt8}

theorem Local.optional (h : Local reader) (named : Bool) (default : α) : Local (optional named reader default) := by
  cases named with
  | false => exact local_pure default
  | true => exact h

theorem optional_false (h : Reads (optional false reader default) used a) : used = [] ∧ a = default := by
  have hrun := h.run
  cases hrun
  exact ⟨rfl, rfl⟩

theorem reads_optional (named : Bool) (htrue : named = true → Reads reader bytes a) (hfalse : named = false → a = default) :
    Reads (optional named reader default) (enc named bytes) a := by
  cases named with
  | false =>
    rw [hfalse rfl]
    exact reads_pure default
  | true => exact htrue rfl

end

structure Taken (w : Surroundings) (t : SpellCastTargets) (unit gameObject item src dest str corpse rest : List UInt8) :
    Prop where
  unit : Reads (optional (any t.targetMask TARGET_FLAG_UNIT) packedGuid 0) unit t.unitTargetGUID
  gameObject : Reads (optional (any t.targetMask (TARGET_FLAG_OBJECT ||| TARGET_FLAG_OBJECT_UNK)) packedGuid 0)
    gameObject t.GOTargetGUID
  item : Reads (optional (any t.targetMask (TARGET_FLAG_ITEM ||| TARGET_FLAG_TRADE_ITEM) && w.isPlayer) packedGuid 0)
    item t.itemTargetGUID
  src : Reads (optional (any t.targetMask TARGET_FLAG_SOURCE_LOCATION) (coords w) (0, 0, 0)) src t.src
  dest : Reads (optional (any t.targetMask TARGET_FLAG_DEST_LOCATION) (coords w) (0, 0, 0)) dest t.dest
  -- The string may be missing at the end of the packet.
  str : (0 ∉ t.strTarget ∧ str = enc (any t.targetMask TARGET_FLAG_STRING) (t.strTarget ++ [0])) ∨
    (any t.targetMask TARGET_FLAG_STRING = true ∧ str = [] ∧ t.strTarget = [] ∧ corpse ++ rest = [])
  strNone : any t.targetMask TARGET_FLAG_STRING = false → t.strTarget = []
  corpse : Reads (optional (any t.targetMask (TARGET_FLAG_CORPSE ||| TARGET_FLAG_PVP_CORPSE)) packedGuid 0) corpse
    t.CorpseTargetGUID
  updated : update w t = t

theorem readNamed_taken {w : Surroundings} {mask : UInt16} {bytes rest : List UInt8} {t : SpellCastTargets}
    (h : (readNamed w mask).run bytes = some (t, rest)) :
    t.targetMask = mask ∧ ∃ unit gameObject item src dest str corpse,
      bytes = unit ++ (gameObject ++ (item ++ (src ++ (dest ++ (str ++ (corpse ++ rest)))))) ∧
      Taken w t unit gameObject item src dest str corpse rest := by
  rw [readNamed, StateT.run_bind] at h
  obtain ⟨⟨unitGuid, bytes1⟩, hunit, h⟩ := Option.bind_eq_some_iff.mp h
  rw [StateT.run_bind] at h
  obtain ⟨⟨goGuid, bytes2⟩, hgo, h⟩ := Option.bind_eq_some_iff.mp h
  rw [StateT.run_bind] at h
  obtain ⟨⟨itemGuid, bytes3⟩, hitem, h⟩ := Option.bind_eq_some_iff.mp h
  rw [StateT.run_bind] at h
  obtain ⟨⟨src, bytes4⟩, hsrc, h⟩ := Option.bind_eq_some_iff.mp h
  rw [StateT.run_bind] at h
  obtain ⟨⟨dest, bytes5⟩, hdest, h⟩ := Option.bind_eq_some_iff.mp h
  rw [StateT.run_bind] at h
  obtain ⟨⟨str, bytes6⟩, hstr, h⟩ := Option.bind_eq_some_iff.mp h
  rw [StateT.run_bind] at h
  obtain ⟨⟨corpseGuid, bytes7⟩, hcorpse, h⟩ := Option.bind_eq_some_iff.mp h
  cases h
  obtain ⟨unitBytes, rfl, unitTaken⟩ := Local.optional local_packedGuid _ _ _ _ _ hunit
  obtain ⟨goBytes, rfl, goTaken⟩ := Local.optional local_packedGuid _ _ _ _ _ hgo
  obtain ⟨itemBytes, rfl, itemTaken⟩ := Local.optional local_packedGuid _ _ _ _ _ hitem
  obtain ⟨srcBytes, rfl, srcTaken⟩ := Local.optional local_coords _ _ _ _ _ hsrc
  obtain ⟨destBytes, rfl, destTaken⟩ := Local.optional local_coords _ _ _ _ _ hdest
  obtain ⟨corpseBytes, rfl, corpseTaken⟩ := Local.optional local_packedGuid _ _ _ _ _ hcorpse
  have hstr' : ∃ strBytes, bytes5 = strBytes ++ (corpseBytes ++ bytes7) ∧
      ((0 ∉ str ∧ strBytes = enc (any mask TARGET_FLAG_STRING) (str ++ [0])) ∨
        (any mask TARGET_FLAG_STRING = true ∧ strBytes = [] ∧ str = [] ∧ corpseBytes ++ bytes7 = [])) ∧
      (any mask TARGET_FLAG_STRING = false → str = []) := by
    cases hflag : any mask TARGET_FLAG_STRING with
    | false =>
      rw [hflag] at hstr
      cases hstr
      exact ⟨[], rfl, .inl ⟨not_mem_nil, rfl⟩, fun _ => rfl⟩
    | true =>
      rw [hflag] at hstr
      rcases string_taken hstr with ⟨hzero, hbytes⟩ | ⟨hbytes, hnone, hrest⟩
      · exact ⟨str ++ [0], hbytes, .inl ⟨hzero, rfl⟩, by simp⟩
      · exact ⟨[], hbytes.trans hrest.symm, .inr ⟨rfl, rfl, hnone, hrest⟩, by simp⟩
  obtain ⟨strBytes, rfl, hparts, hnone⟩ := hstr'
  exact ⟨rfl, unitBytes, goBytes, itemBytes, srcBytes, destBytes, strBytes, corpseBytes, rfl,
    { unit := unitTaken, gameObject := goTaken, item := itemTaken, src := srcTaken, dest := destTaken, str := hparts,
      strNone := hnone, corpse := corpseTaken, updated := rfl }⟩

-- The guid of an item is not that of a player, nor a trade slot.
section

variable (item : ItemGuid)

theorem raw_lt : item.raw < 256 ^ 8 := by
  have hcounter := item.counter.toNat_lt
  unfold ItemGuid.raw HIGHGUID_ITEM
  omega

theorem getHigh_raw : getHigh item.raw = HIGHGUID_ITEM := by
  have hcounter := item.counter.toNat_lt
  unfold getHigh ItemGuid.raw
  omega

theorem reads_raw : Reads packedGuid (pack 8 item.raw) item.raw := by
  apply reads_packedGuid (raw_lt item)
  rw [clampPlayerGuid, getHigh_raw]
  rfl

theorem slot_lt_raw : TRADE_SLOT_COUNT < item.raw := by
  unfold ItemGuid.raw HIGHGUID_ITEM TRADE_SLOT_COUNT
  omega

theorem three_le_length_pack : 3 ≤ (pack 8 item.raw).length := by
  have hcounter := item.counter.toNat_lt
  have hhigh : item.raw / 256 ^ 4 = 2 ^ 30 := by
    unfold ItemGuid.raw HIGHGUID_ITEM
    omega
  have hlow : nonzero (toBytes 4 item.raw) ≠ [] := by
    intro hnil
    have hzero := ofBytes_eq_zero hnil
    have hpos := item.pos
    rw [← toBytes_mod, ofBytes_toBytes (Nat.mod_lt _ (by norm_num))] at hzero
    unfold ItemGuid.raw HIGHGUID_ITEM at hzero
    omega
  have hlength := length_pos_iff.mpr hlow
  have hone : (nonzero (toBytes 4 (2 ^ 30))).length = 1 := by decide
  rw [pack, toBytes_add 4 4, nonzero_append, hhigh, length_cons, length_append, hone]
  omega

theorem zero_notMem_pack {guid : Nat} (h : guid < 256 ^ 8) (hne : guid ≠ 0) : 0 ∉ pack 8 guid := by
  have hmask : mask (toBytes 8 guid) ≠ 0 := by
    intro hzero
    have hnumber := ofBytes_eq_zero (nonzero_of_mask hzero)
    rw [ofBytes_toBytes h] at hnumber
    exact hne hnumber
  have hlt := mask_lt (toBytes 8 guid)
  rw [length_toBytes] at hlt
  rw [pack, mem_cons, not_or]
  refine ⟨fun hzero => hmask ?_, zero_notMem_nonzero _⟩
  have hbyte := congrArg UInt8.toNat hzero
  rw [UInt8.toNat_ofNat_of_lt' hlt] at hbyte
  exact hbyte.symm

theorem length_slot_le {used : List UInt8} {slot : Nat} (hslot : slot < TRADE_SLOT_COUNT) (h : Reads packedGuid used slot)
    (hzero : 0 ∉ used) : used.length ≤ 4 := by
  obtain ⟨mask, taken, bytes, rfl, hlength, hnonzero, -, rfl⟩ := packedGuid_taken h
  have hraw : ofBytes bytes < 256 ^ 8 := hlength ▸ ofBytes_lt bytes
  have hbytes : toBytes 8 (ofBytes bytes) = bytes := hlength ▸ toBytes_ofBytes bytes
  generalize ofBytes bytes = raw at *
  unfold TRADE_SLOT_COUNT clampPlayerGuid getHigh at hslot
  have hhigh : raw / 256 / 256 ^ 3 / 256 ^ 2 = 0 := by split_ifs at hslot <;> omega
  have hmid : raw / 256 % 256 ^ 3 = 0 := by split_ifs at hslot <;> omega
  have hsplit : toBytes 8 raw = toBytes 1 raw ++ (toBytes 3 (raw / 256) ++ (toBytes 2 (raw / 256 / 256 ^ 3) ++
      toBytes 2 (raw / 256 / 256 ^ 3 / 256 ^ 2))) := by
    rw [toBytes_add 1 7, toBytes_add 3 4, toBytes_add 2 2, Nat.pow_one]
  rw [mem_cons, not_or] at hzero
  rw [nonzero_eq_self hzero.2] at hnonzero
  rw [hnonzero, ← hbytes, hsplit, ← toBytes_mod 3, hmid, hhigh, toBytes_zero, toBytes_zero, length_cons]
  simp only [nonzero_append, nonzero_replicate, length_append, length_nil]
  have hfirst := length_nonzero_le (toBytes 1 raw)
  have hsecond := length_nonzero_le (toBytes 2 (raw / 256 / 256 ^ 3))
  rw [length_toBytes] at hfirst hsecond
  omega

theorem not_conjugate {between used : List UInt8} {slot : Nat} (hslot : slot < TRADE_SLOT_COUNT)
    (h : Reads packedGuid used slot) (hlength : 0 ∉ between → 12 ∣ between.length) :
    pack 8 item.raw ++ between ≠ between ++ used := by
  intro heq
  have hne : pack 8 item.raw ≠ [] := cons_ne_nil _ _
  have hzero : 0 ∉ pack 8 item.raw := zero_notMem_pack (raw_lt item) (by have := slot_lt_raw item; omega)
  obtain ⟨hmem, hdvd⟩ := Lists.mem_of_conjugate hne heq
  have hperm : (pack 8 item.raw).Perm used := by
    have hall : (between ++ pack 8 item.raw).Perm (between ++ used) :=
      perm_append_comm.trans (by rw [heq])
    exact (perm_append_left_iff between).mp hall
  have hthree := three_le_length_pack item
  have hfour := length_slot_le hslot h fun hmem => hzero (hperm.mem_iff.mpr hmem)
  rw [← hperm.length_eq] at hfour
  have htwelve := hlength fun hbetween => hzero (hmem 0 hbetween)
  have hsame : used = pack 8 item.raw := by
    apply hdvd
    refine dvd_trans ?_ htwelve
    have hcases : (pack 8 item.raw).length = 3 ∨ (pack 8 item.raw).length = 4 := by omega
    rcases hcases with hcase | hcase <;> rw [hcase] <;> decide
  rw [hsame] at h
  have hall : pack 8 item.raw ++ [] = pack 8 item.raw ++ [] := rfl
  have hguid := ((reads_raw item).inj h hall).1
  have hlt := slot_lt_raw item
  omega

end

def OneKind (mask : UInt16) : Prop :=
  (any mask TARGET_FLAG_UNIT = true → any mask (TARGET_FLAG_OBJECT ||| TARGET_FLAG_OBJECT_UNK) = false) ∧
  (any mask TARGET_FLAG_UNIT = true → any mask (TARGET_FLAG_CORPSE ||| TARGET_FLAG_PVP_CORPSE) = false) ∧
  (any mask (TARGET_FLAG_OBJECT ||| TARGET_FLAG_OBJECT_UNK) = true →
    any mask (TARGET_FLAG_CORPSE ||| TARGET_FLAG_PVP_CORPSE) = false)

structure Resolved (t : SpellCastTargets) : Prop where
  unit : any t.targetMask TARGET_FLAG_UNIT = true → t.unitTarget.isSome = true
  gameObject : any t.targetMask (TARGET_FLAG_OBJECT ||| TARGET_FLAG_OBJECT_UNK) = true → t.GOTarget.isSome = true
  item : any t.targetMask (TARGET_FLAG_ITEM ||| TARGET_FLAG_TRADE_ITEM) = true → t.itemTarget.isSome = true

structure Same (t t' : SpellCastTargets) : Prop where
  targetMask : t'.targetMask = t.targetMask
  unit : t'.unitTargetGUID = t.unitTargetGUID
  gameObject : t'.GOTargetGUID = t.GOTargetGUID
  item : t'.itemTargetGUID = t.itemTargetGUID
  corpse : t'.CorpseTargetGUID = t.CorpseTargetGUID
  src : t'.src = t.src
  dest : t'.dest = t.dest
  str : t'.strTarget = t.strTarget

def RoundTrips (w : Surroundings) (t : SpellCastTargets) : Prop :=
  ∃ t', (read w).run (write t) = some (t', []) ∧ Same t t'

-- The fields that the reader takes before the corpse
def places (t : SpellCastTargets) : List UInt8 :=
  enc (any t.targetMask TARGET_FLAG_SOURCE_LOCATION) (writeCoords t.src) ++
    (enc (any t.targetMask TARGET_FLAG_DEST_LOCATION) (writeCoords t.dest) ++
    enc (any t.targetMask TARGET_FLAG_STRING) (t.strTarget ++ [0]))

def beforeCorpse (t : SpellCastTargets) : List UInt8 :=
  enc (any t.targetMask (TARGET_FLAG_ITEM ||| TARGET_FLAG_TRADE_ITEM)) (pack 8 t.itemTargetGUID) ++ places t

-- When the writer's form is one the reader takes: its test for a kind has the flag,
-- the item is named by its guid, and the corpse may as well stand first.
structure Agrees (t : SpellCastTargets) : Prop where
  gameObject : any t.targetMask TARGET_FLAG_OBJECT_UNK = true → any t.targetMask TARGET_FLAG_OBJECT = true
  item : any t.targetMask TARGET_FLAG_TRADE_ITEM = true → any t.targetMask TARGET_FLAG_ITEM = true
  corpse : any t.targetMask (TARGET_FLAG_CORPSE ||| TARGET_FLAG_PVP_CORPSE) = true →
    pack 8 t.CorpseTargetGUID ++ beforeCorpse t = beforeCorpse t ++ pack 8 t.CorpseTargetGUID

section

variable {w : Surroundings} {t : SpellCastTargets} {unit gameObject item src dest str corpse rest : List UInt8}

theorem unitTarget_found (hupdate : update w t = t) {guid : Nat} (h : t.unitTarget = some guid) :
    guid = t.unitTargetGUID := by
  rw [← hupdate] at h
  dsimp only [update] at h
  split_ifs at h
  exact (Option.some.inj h).symm

theorem GOTarget_found (hupdate : update w t = t) {guid : Nat} (h : t.GOTarget = some guid) :
    guid = t.GOTargetGUID ∧ guid ≠ 0 ∧ w.gameObject guid = true := by
  rw [← hupdate] at h
  dsimp only [update] at h
  split_ifs at h with hfound
  cases h
  exact ⟨rfl, hfound⟩

theorem itemTarget_found (hupdate : update w t = t) {guid : Nat} (h : t.itemTarget = some guid) :
    (any t.targetMask TARGET_FLAG_ITEM = true ∧ guid = t.itemTargetGUID) ∨
      (any t.targetMask TARGET_FLAG_ITEM = false ∧ t.itemTargetGUID < TRADE_SLOT_COUNT ∧ ∃ item : ItemGuid, guid = item.raw) := by
  rw [← hupdate] at h
  dsimp only [update] at h
  split_ifs at h with hplayer hitem hfound htrade hslot
  · exact .inl ⟨hitem, (Option.some.inj h).symm⟩
  · obtain ⟨item, -, hraw⟩ := Option.map_eq_some_iff.mp h
    exact .inr ⟨by simpa using hitem, hslot, item, hraw.symm⟩

theorem reads_guid {named : Bool} {guid : Nat} {used : List UInt8} (h : Reads (optional named packedGuid 0) used guid) :
    Reads (optional named packedGuid 0) (enc named (pack 8 guid)) guid ∧
      (used = enc named (pack 8 guid) ∨ (enc named (pack 8 guid)).length < used.length) := by
  cases named with
  | false =>
    obtain ⟨rfl, rfl⟩ := optional_false h
    exact ⟨reads_pure 0, .inl rfl⟩
  | true =>
    obtain ⟨hlt, hclamp, hused⟩ := packedGuid_used h
    exact ⟨reads_packedGuid hlt hclamp, hused⟩

theorem reads_place {named : Bool} {c : Coords} {used : List UInt8}
    (h : Reads (optional named (coords w) (0, 0, 0)) used c) :
    Reads (optional named (coords w) (0, 0, 0)) (enc named (writeCoords c)) c ∧ used = enc named (writeCoords c) := by
  cases named with
  | false =>
    obtain ⟨rfl, rfl⟩ := optional_false h
    exact ⟨reads_pure (0, 0, 0), rfl⟩
  | true =>
    obtain ⟨hvalid, hused⟩ := coords_used h
    exact ⟨reads_coords hvalid, hused⟩

theorem reads_str (h : Taken w t unit gameObject item src dest str corpse rest) :
    Reads (optional (any t.targetMask TARGET_FLAG_STRING) string [])
      (enc (any t.targetMask TARGET_FLAG_STRING) (t.strTarget ++ [0])) t.strTarget := by
  apply reads_optional
  · intro _
    apply reads_string
    rcases h.str with ⟨hzero, -⟩ | ⟨-, -, hnone, -⟩
    · exact hzero
    · simp [hnone]
  · exact h.strNone

theorem reads_shortest (hplayer : w.isPlayer = true) (h : Taken w t unit gameObject item src dest str corpse rest) :
    Reads (readNamed w t.targetMask)
      (enc (any t.targetMask TARGET_FLAG_UNIT) (pack 8 t.unitTargetGUID) ++
        (enc (any t.targetMask (TARGET_FLAG_OBJECT ||| TARGET_FLAG_OBJECT_UNK)) (pack 8 t.GOTargetGUID) ++
        (beforeCorpse t ++
          enc (any t.targetMask (TARGET_FLAG_CORPSE ||| TARGET_FLAG_PVP_CORPSE)) (pack 8 t.CorpseTargetGUID)))) t := by
  have hitem := h.item
  rw [hplayer, Bool.and_true] at hitem
  rw [← append_nil (enc _ (pack 8 t.CorpseTargetGUID))]
  simp only [readNamed, hplayer, Bool.and_true, beforeCorpse, places, append_assoc]
  refine (reads_guid h.unit).1.bind ((reads_guid h.gameObject).1.bind ((reads_guid hitem).1.bind ?_))
  refine (reads_place h.src).1.bind ((reads_place h.dest).1.bind ((reads_str h).bind ((reads_guid h.corpse).1.bind ?_)))
  have hfound : update w ⟨t.targetMask, t.unitTargetGUID, t.GOTargetGUID, t.itemTargetGUID, t.CorpseTargetGUID, t.src,
      t.dest, t.strTarget, none, none, none⟩ = t := h.updated
  rw [hfound]
  exact reads_pure t

theorem writeKind_eq (hone : OneKind t.targetMask) (hresolved : Resolved t) (hupdate : update w t = t) :
    writeKind t = enc (any t.targetMask TARGET_FLAG_UNIT) (pack 8 t.unitTargetGUID) ++
      (enc (any t.targetMask TARGET_FLAG_OBJECT) (pack 8 t.GOTargetGUID) ++
      enc (any t.targetMask (TARGET_FLAG_CORPSE ||| TARGET_FLAG_PVP_CORPSE)) (pack 8 t.CorpseTargetGUID)) := by
  obtain ⟨hobject, hcorpse, hother⟩ := hone
  have hunit := hresolved.unit
  have hgo := hresolved.gameObject
  simp only [any_or, Bool.or_eq_false_iff, Bool.or_eq_true] at hobject hcorpse hother hgo
  cases hU : any t.targetMask TARGET_FLAG_UNIT with
  | true =>
    obtain ⟨guid, htarget⟩ := Option.isSome_iff_exists.mp (hunit hU)
    obtain rfl := unitTarget_found hupdate htarget
    obtain ⟨hO, -⟩ := hobject hU
    obtain ⟨hC, hP⟩ := hcorpse hU
    simp [writeKind, enc, writeGuid, hU, hO, hC, hP, htarget]
  | false =>
    cases hO : any t.targetMask TARGET_FLAG_OBJECT with
    | true =>
      obtain ⟨guid, htarget⟩ := Option.isSome_iff_exists.mp (hgo (.inl hO))
      obtain ⟨rfl, -⟩ := GOTarget_found hupdate htarget
      obtain ⟨hC, hP⟩ := hother (.inl hO)
      simp [writeKind, enc, writeGuid, hU, hO, hC, hP, htarget]
    | false =>
      cases hK : any t.targetMask TARGET_FLAG_OBJECT_UNK with
      | true =>
        obtain ⟨hC, hP⟩ := hother (.inr hK)
        simp [writeKind, enc, hU, hO, hC, hP]
      | false =>
        cases hC : any t.targetMask TARGET_FLAG_CORPSE <;> cases hP : any t.targetMask TARGET_FLAG_PVP_CORPSE <;>
          simp [writeKind, enc, hU, hO, hK, hC, hP]

-- The item as it is written: by its guid, which a trade slot is not
def writeItem (t : SpellCastTargets) : List UInt8 :=
  enc (any t.targetMask (TARGET_FLAG_ITEM ||| TARGET_FLAG_TRADE_ITEM)) (writeGuid t.itemTarget)

theorem writeItem_cases (hresolved : Resolved t) (hupdate : update w t = t) :
    ((any t.targetMask TARGET_FLAG_TRADE_ITEM = true → any t.targetMask TARGET_FLAG_ITEM = true) ∧
      writeItem t = enc (any t.targetMask (TARGET_FLAG_ITEM ||| TARGET_FLAG_TRADE_ITEM)) (pack 8 t.itemTargetGUID)) ∨
    (any t.targetMask TARGET_FLAG_TRADE_ITEM = true ∧ any t.targetMask TARGET_FLAG_ITEM = false ∧
      t.itemTargetGUID < TRADE_SLOT_COUNT ∧ ∃ item : ItemGuid, writeItem t = pack 8 item.raw) := by
  cases hflag : any t.targetMask (TARGET_FLAG_ITEM ||| TARGET_FLAG_TRADE_ITEM) with
  | false =>
    left
    rw [writeItem, hflag]
    rw [any_or, Bool.or_eq_false_iff] at hflag
    simp [enc, hflag]
  | true =>
    obtain ⟨guid, htarget⟩ := Option.isSome_iff_exists.mp (hresolved.item hflag)
    rw [writeItem, hflag, htarget]
    rcases itemTarget_found hupdate htarget with ⟨hitem, rfl⟩ | ⟨hitem, hslot, item, rfl⟩
    · exact .inl ⟨fun _ => hitem, rfl⟩
    · rw [any_or, hitem, Bool.false_or] at hflag
      exact .inr ⟨hflag, hitem, hslot, item, rfl⟩

theorem write_eq (hone : OneKind t.targetMask) (hresolved : Resolved t) (hupdate : update w t = t) :
    write t = toBytes 2 t.targetMask.toNat ++ (enc (any t.targetMask TARGET_FLAG_UNIT) (pack 8 t.unitTargetGUID) ++
      (enc (any t.targetMask TARGET_FLAG_OBJECT) (pack 8 t.GOTargetGUID) ++
      (enc (any t.targetMask (TARGET_FLAG_CORPSE ||| TARGET_FLAG_PVP_CORPSE)) (pack 8 t.CorpseTargetGUID) ++
      (writeItem t ++ places t)))) := by
  rw [write, writeKind_eq hone hresolved hupdate, writeItem, places]
  simp only [append_assoc]

theorem run_read {mask : UInt16} (hmask : mask ≠ 0) (bytes : List UInt8) :
    (read w).run (toBytes 2 mask.toNat ++ bytes) = (readNamed w mask).run bytes := by
  rw [read, StateT.run_bind, reads_uint16 mask bytes]
  change (if mask = 0 then _ else _ : Reader SpellCastTargets).run bytes = _
  rw [if_neg hmask]

theorem read_taken {bytes : List UInt8} (h : (read w).run bytes = some (t, rest)) :
    t = self w ∨ (t.targetMask ≠ 0 ∧ ∃ unit gameObject item src dest str corpse,
      Taken w t unit gameObject item src dest str corpse rest) := by
  rw [read, StateT.run_bind] at h
  obtain ⟨⟨mask, bytes1⟩, -, h⟩ := Option.bind_eq_some_iff.mp h
  split_ifs at h with hself
  · cases h
    exact .inl rfl
  · obtain ⟨rfl, unit, gameObject, item, src, dest, str, corpse, -, htaken⟩ := readNamed_taken h
    exact .inr ⟨hself, unit, gameObject, item, src, dest, str, corpse, htaken⟩

theorem Same.eq {t' : SpellCastTargets} (h : Same t t') (hupdate : update w t = t) (hupdate' : update w t' = t') :
    t' = t := by
  obtain ⟨hmask, hunit, hgo, hitem, hcorpse, hsrc, hdest, hstr⟩ := h
  rw [← hupdate, ← hupdate']
  simp only [update, hmask, hunit, hgo, hitem, hcorpse, hsrc, hdest, hstr]

theorem roundTrips_of_agrees (hplayer : w.isPlayer = true) (hmask : t.targetMask ≠ 0)
    (htaken : Taken w t unit gameObject item src dest str corpse rest) (hone : OneKind t.targetMask) (hresolved : Resolved t)
    (hagrees : Agrees t) : RoundTrips w t := by
  have hobject : any t.targetMask (TARGET_FLAG_OBJECT ||| TARGET_FLAG_OBJECT_UNK) = any t.targetMask TARGET_FLAG_OBJECT := by
    rw [any_or, Bool.or_eq_left_iff_imp]
    exact hagrees.gameObject
  have hitem : writeItem t ++ places t = beforeCorpse t := by
    rcases writeItem_cases hresolved htaken.updated with ⟨-, hwrite⟩ | ⟨htrade, hnone, -⟩
    · rw [hwrite, beforeCorpse]
    · rw [hagrees.item htrade] at hnone
      cases hnone
  have hcorpse : enc (any t.targetMask (TARGET_FLAG_CORPSE ||| TARGET_FLAG_PVP_CORPSE)) (pack 8 t.CorpseTargetGUID) ++
      beforeCorpse t =
      beforeCorpse t ++ enc (any t.targetMask (TARGET_FLAG_CORPSE ||| TARGET_FLAG_PVP_CORPSE)) (pack 8 t.CorpseTargetGUID) := by
    cases hflag : any t.targetMask (TARGET_FLAG_CORPSE ||| TARGET_FLAG_PVP_CORPSE) with
    | false => simp [enc]
    | true => exact hagrees.corpse hflag
  refine ⟨t, ?_, ⟨rfl, rfl, rfl, rfl, rfl, rfl, rfl, rfl⟩⟩
  rw [write_eq hone hresolved htaken.updated, run_read hmask, hitem, hcorpse, ← hobject]
  exact (reads_shortest hplayer htaken).run

theorem item_first (hplayer : w.isPlayer = true) (htaken : Taken w t unit gameObject item src dest str corpse rest)
    (hresolved : Resolved t) {after after' : List UInt8} (heq : writeItem t ++ after = item ++ after')
    (htrade : any t.targetMask TARGET_FLAG_TRADE_ITEM = true) : any t.targetMask TARGET_FLAG_ITEM = true := by
  rcases writeItem_cases hresolved htaken.updated with ⟨hagrees, -⟩ | ⟨-, -, hslot, found, hwrite⟩
  · exact hagrees htrade
  · have hread := htaken.item
    rw [any_or, htrade, Bool.or_true, hplayer, Bool.true_and] at hread
    rw [hwrite] at heq
    have hguid := ((reads_raw found).inj hread heq).1
    have hlt := slot_lt_raw found
    omega

-- Without the object flag the writer leaves out the game object, and its bytes are missing.
theorem gameObject_missing (hplayer : w.isPlayer = true) (htaken : Taken w t unit gameObject item src dest str corpse [])
    (hresolved : Resolved t) (hflag : any t.targetMask (TARGET_FLAG_OBJECT ||| TARGET_FLAG_OBJECT_UNK) = true) :
    writeItem t ++ places t ≠ gameObject ++ (item ++ (src ++ (dest ++ (str ++ (corpse ++ []))))) := by
  intro heq
  obtain ⟨guid, htarget⟩ := Option.isSome_iff_exists.mp (hresolved.gameObject hflag)
  obtain ⟨rfl, hne, hexists⟩ := GOTarget_found htaken.updated htarget
  have hread := htaken.gameObject
  rw [hflag] at hread
  obtain ⟨hlt, -, hused⟩ := packedGuid_used hread
  have htwo : 2 ≤ (pack 8 t.GOTargetGUID).length := by
    have hnonzero : nonzero (toBytes 8 t.GOTargetGUID) ≠ [] := by
      intro hnil
      have hnumber := ofBytes_eq_zero hnil
      rw [ofBytes_toBytes hlt] at hnumber
      exact hne hnumber
    have hpos := length_pos_iff.mpr hnonzero
    rw [pack, length_cons]
    omega
  rcases writeItem_cases hresolved htaken.updated with ⟨-, hwrite⟩ | ⟨-, -, -, found, hwrite⟩
  · have hitem := htaken.item
    rw [hplayer, Bool.and_true] at hitem
    have hshort := (reads_guid hitem).2
    have hsrc := (reads_place htaken.src).2
    have hdest := (reads_place htaken.dest).2
    have hlength := congrArg List.length heq
    have hitemLength : (writeItem t).length ≤ item.length := by
      rw [hwrite]
      rcases hshort with hsame | hless
      · rw [hsame]
      · omega
    have hgoLength : 2 ≤ gameObject.length := by
      rcases hused with hsame | hless
      · rwa [hsame]
      · omega
    have hstr : (enc (any t.targetMask TARGET_FLAG_STRING) (t.strTarget ++ [0])).length ≤ str.length + 1 := by
      rcases htaken.str with ⟨-, hsame⟩ | ⟨hstring, -, hnone, -⟩
      · rw [hsame]
        omega
      · rw [hstring, hnone]
        simp [enc]
    rw [places, ← hsrc, ← hdest] at hlength
    simp only [length_append] at hlength
    omega
  · rw [hwrite] at heq
    have hguid := ((reads_raw found).inj hread heq).1
    apply w.gameObjectHigh _ hexists
    rw [← hguid]
    exact getHigh_raw found

theorem places_dvd (t : SpellCastTargets) (h : 0 ∉ places t) : 12 ∣ (places t).length := by
  unfold places at h ⊢
  cases hstr : any t.targetMask TARGET_FLAG_STRING with
  | true => simp [enc, hstr] at h
  | false =>
    cases hsrc : any t.targetMask TARGET_FLAG_SOURCE_LOCATION <;> cases hdest : any t.targetMask TARGET_FLAG_DEST_LOCATION <;>
      simp [enc, writeCoords]

theorem corpse_moves (hplayer : w.isPlayer = true) (htaken : Taken w t unit gameObject item src dest str corpse [])
    (hresolved : Resolved t) (hflag : any t.targetMask (TARGET_FLAG_CORPSE ||| TARGET_FLAG_PVP_CORPSE) = true)
    (heq : pack 8 t.CorpseTargetGUID ++ (writeItem t ++ places t) = item ++ (src ++ (dest ++ (str ++ (corpse ++ []))))) :
    (any t.targetMask TARGET_FLAG_TRADE_ITEM = true → any t.targetMask TARGET_FLAG_ITEM = true) ∧
      pack 8 t.CorpseTargetGUID ++ beforeCorpse t = beforeCorpse t ++ pack 8 t.CorpseTargetGUID := by
  have hcorpse := htaken.corpse
  rw [hflag] at hcorpse
  obtain ⟨hlt, hclamp, hcorpseUsed⟩ := packedGuid_used hcorpse
  have hone := one_le_length_pack t.CorpseTargetGUID
  have hplaces : src ++ (dest ++ (str ++ (corpse ++ []))) = places t ++ corpse := by
    have hstr : str = enc (any t.targetMask TARGET_FLAG_STRING) (t.strTarget ++ [0]) := by
      rcases htaken.str with ⟨-, hsame⟩ | ⟨-, -, -, hnil⟩
      · exact hsame
      · rw [append_nil] at hnil
        rw [hnil] at hcorpseUsed
        rcases hcorpseUsed with hsame | hless
        · rw [← hsame] at hone
          simp at hone
        · simp at hless
    rw [(reads_place htaken.src).2, (reads_place htaken.dest).2, hstr, places]
    simp only [append_assoc, append_nil]
  rw [hplaces] at heq
  have hitem := htaken.item
  rw [hplayer, Bool.and_true] at hitem
  rcases writeItem_cases hresolved htaken.updated with ⟨hagrees, hwrite⟩ | ⟨htrade, -, hslot, found, hwrite⟩
  · refine ⟨hagrees, ?_⟩
    have hlength := congrArg List.length heq
    simp only [length_append] at hlength
    have hitemUsed := (reads_guid hitem).2
    rw [← hwrite] at hitemUsed
    have hitemSame : item = writeItem t := by
      rcases hitemUsed with hsame | hless
      · exact hsame
      · rcases hcorpseUsed with hsame | hmore
        · rw [hsame] at hlength
          omega
        · omega
    have hcorpseSame : corpse = pack 8 t.CorpseTargetGUID := by
      rcases hcorpseUsed with hsame | hmore
      · exact hsame
      · rw [hitemSame] at hlength
        omega
    rw [hitemSame, hcorpseSame, ← append_assoc (writeItem t), hwrite] at heq
    exact heq
  · rw [any_or, htrade, Bool.or_true] at hitem
    obtain ⟨hguid, hafter⟩ := (reads_packedGuid hlt hclamp).inj hitem heq
    rw [hguid] at hcorpse
    rw [hwrite] at hafter
    exact absurd hafter (not_conjugate found hslot hcorpse (places_dvd t))

theorem agrees_of_roundTrips (hplayer : w.isPlayer = true) (hmask : t.targetMask ≠ 0)
    (htaken : Taken w t unit gameObject item src dest str corpse rest) (hone : OneKind t.targetMask) (hresolved : Resolved t)
    (h : RoundTrips w t) : Agrees t := by
  obtain ⟨t', hrun, hsame⟩ := h
  rw [write_eq hone hresolved htaken.updated, run_read hmask] at hrun
  obtain ⟨-, unit', gameObject', item', src', dest', str', corpse', hbytes, htaken'⟩ := readNamed_taken hrun
  obtain rfl := hsame.eq htaken.updated htaken'.updated
  have hafterUnit := ((reads_guid htaken'.unit).1.inj htaken'.unit hbytes).2
  obtain ⟨-, -, hother⟩ := hone
  cases hobject : any t'.targetMask TARGET_FLAG_OBJECT with
  | true =>
    have hboth : any t'.targetMask (TARGET_FLAG_OBJECT ||| TARGET_FLAG_OBJECT_UNK) = true := by
      rw [any_or, hobject, Bool.true_or]
    have hread := (reads_guid htaken'.gameObject).1
    rw [hboth] at hread
    rw [hobject, hother hboth] at hafterUnit
    have hgo := htaken'.gameObject
    rw [hboth] at hgo
    have hafter := (hread.inj hgo hafterUnit).2
    refine ⟨fun _ => hobject, item_first hplayer htaken' hresolved hafter, fun hcorpse => ?_⟩
    rw [hother hboth] at hcorpse
    cases hcorpse
  | false =>
    cases hboth : any t'.targetMask (TARGET_FLAG_OBJECT ||| TARGET_FLAG_OBJECT_UNK) with
    | true =>
      rw [hobject, hother hboth] at hafterUnit
      exact absurd hafterUnit (gameObject_missing hplayer htaken' hresolved hboth)
    | false =>
      have hunk : any t'.targetMask TARGET_FLAG_OBJECT_UNK = false := by
        rw [any_or, hobject, Bool.false_or] at hboth
        exact hboth
      have hnone := htaken'.gameObject
      rw [hboth] at hnone
      rw [hobject, (optional_false hnone).1] at hafterUnit
      cases hflag : any t'.targetMask (TARGET_FLAG_CORPSE ||| TARGET_FLAG_PVP_CORPSE) with
      | true =>
        rw [hflag] at hafterUnit
        obtain ⟨hitem, hcorpse⟩ := corpse_moves hplayer htaken' hresolved hflag hafterUnit
        exact ⟨by simp [hunk], hitem, fun _ => hcorpse⟩
      | false =>
        rw [hflag] at hafterUnit
        exact ⟨by simp [hunk], item_first hplayer htaken' hresolved hafterUnit, by simp [hflag]⟩

end

theorem roundTrips_iff {w : Surroundings} {t : SpellCastTargets} {bytes rest : List UInt8} (hplayer : w.isPlayer = true)
    (hread : (read w).run bytes = some (t, rest)) (hone : OneKind t.targetMask) (hresolved : Resolved t) :
    RoundTrips w t ↔ Agrees t := by
  rcases read_taken hread with rfl | ⟨hmask, unit, gameObject, item, src, dest, str, corpse, htaken⟩
  · have hnone : ∀ flags, any TARGET_FLAG_SELF flags = false := by simp [any, TARGET_FLAG_SELF]
    have hmask : (self w).targetMask = TARGET_FLAG_SELF := rfl
    have hwrite : write (self w) = [0, 0] := by
      simp only [write, writeKind, hmask, hnone]
      rfl
    have hagrees : Agrees (self w) := by constructor <;> simp [hmask, hnone]
    refine iff_of_true ⟨self w, ?_, ⟨rfl, rfl, rfl, rfl, rfl, rfl, rfl, rfl⟩⟩ hagrees
    rw [hwrite]
    rfl
  · exact ⟨agrees_of_roundTrips hplayer hmask htaken hone hresolved,
      roundTrips_of_agrees hplayer hmask htaken hone hresolved⟩

def clearing : Surroundings where
  casterGuid := 1
  position := (0, 0, 0)
  isPlayer := true
  validMapCoord := fun _ => true
  unit := fun _ => false
  gameObject := fun guid => guid = 0xF110000000000001
  item := fun _ => false
  traderItem := fun _ => none
  gameObjectHigh := by simp [getHigh, HIGHGUID_ITEM]

def chest (mask : UInt16) : SpellCastTargets where
  targetMask := mask
  unitTargetGUID := 0
  GOTargetGUID := 0xF110000000000001
  itemTargetGUID := 0
  CorpseTargetGUID := 0
  src := (0, 0, 0)
  dest := (0, 0, 0)
  strTarget := []
  unitTarget := none
  GOTarget := some 0xF110000000000001
  itemTarget := none

theorem chest_roundTrips : RoundTrips clearing (chest TARGET_FLAG_OBJECT) := by
  have hread : (read clearing).run [0x00, 0x08, 0xC1, 0x01, 0x10, 0xF1] = some (chest TARGET_FLAG_OBJECT, []) := rfl
  have hone : OneKind TARGET_FLAG_OBJECT := by
    unfold OneKind
    decide
  have hresolved : Resolved (chest TARGET_FLAG_OBJECT) := by constructor <;> decide
  have hagrees : Agrees (chest TARGET_FLAG_OBJECT) := by constructor <;> decide
  exact (roundTrips_iff rfl hread hone hresolved).mpr hagrees

-- With the flag that the writer does not test, the chest is not written.
theorem chest_not_written : ∃ w bytes t rest, w.isPlayer = true ∧ (read w).run bytes = some (t, rest) ∧
    OneKind t.targetMask ∧ Resolved t ∧ ¬RoundTrips w t := by
  refine ⟨clearing, [0x80, 0x00, 0xC1, 0x01, 0x10, 0xF1], chest TARGET_FLAG_OBJECT_UNK, [], rfl, rfl, ?_, ?_, ?_⟩
  · unfold OneKind
    decide
  · constructor <;> decide
  · rintro ⟨t, hread, -⟩
    have hnone : (read clearing).run (write (chest TARGET_FLAG_OBJECT_UNK)) = none := rfl
    rw [hnone] at hread
    cases hread

end SpellCastTargets

end TurtleWow.Spells
