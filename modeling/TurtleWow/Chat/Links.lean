import TurtleWow.Shared.Util

namespace TurtleWow.Chat.Links

open Util List

-- Links in chat messages: `|cCOLOR|Htype:...|h[name]|h|r`, any other pipe is
-- escaped as `||`.

inductive LocaleConstant
  | enUS | koKR | frFR | deDE | zhCN | zhTW | esES | esMX
deriving DecidableEq, Repr

def LocaleConstant.all : List LocaleConstant := [.enUS, .koKR, .frFR, .deDE, .zhCN, .zhTW, .esES, .esMX]

-- DB_LOCALE_enUS is -1, the others index the names of an item's locale.
def dbLocales : List (Option Nat) := [none, some 0, some 1, some 2, some 3, some 4, some 5, some 6, some 7]

def getDbcLocaleFromDbLocale : Option Nat → LocaleConstant
  | some 0 => .frFR
  | some 1 => .deDE
  | some 2 => .koKR
  | some 3 => .zhCN
  | some 4 => .zhTW
  | some 5 => .esES
  | some 6 => .esMX
  | _ => .enUS

structure ItemPrototype where
  itemId : Nat
  name1 : Text
  quality : Nat
  randomProperty : Nat

structure ItemRandomPropertiesEntry where
  internalName : Text
  nameSuffix : LocaleConstant → Text

structure SpellEntry where
  spellName : LocaleConstant → Text

structure Stores where
  getItemPrototype : Nat → Option ItemPrototype
  getItemLocale : Nat → Option (List Text)
  getSpellEntry : Nat → Option SpellEntry
  spellItemEnchantment : Nat → Bool
  itemRandomProperties : Nat → Option ItemRandomPropertiesEntry

def itemQualityColors : List Nat :=
  [0xff9d9d9d, 0xffffffff, 0xff1eff00, 0xff0070dd, 0xffa335ee, 0xffff8000, 0xffe6cc80]

def chatLinkColorEnchant : Nat := 0xffffffff

def withSuffix (name nameSuffix : Text) (dbcLocale : LocaleConstant) : Text :=
  if nameSuffix = [] then name
  else
    match dbcLocale with
    | .koKR => nameSuffix ++ ' ' :: name
    | .zhCN => nameSuffix ++ name
    | .zhTW => nameSuffix ++ name
    | _ => name ++ ' ' :: nameSuffix

def getLocalizedNameWithSuffix (stores : Stores) (proto : ItemPrototype) (randomProp : Option ItemRandomPropertiesEntry)
    (dbLocale : Option Nat) (dbcLocale : LocaleConstant) : Text :=
  let localized := dbLocale.bind fun i => (stores.getItemLocale proto.itemId).bind fun names => names[i]?
  let name := if localized.getD [] = [] then proto.name1 else localized.getD []
  match randomProp with
  | none => name
  | some entry =>
    let nameSuffix := if entry.nameSuffix dbcLocale = [] then entry.internalName else entry.nameSuffix dbcLocale
    withSuffix name nameSuffix dbcLocale

-- The checks below severity 3
def simpleChecks (severity : Nat) : Nat → Text → Bool
  | _, [] => true
  | _, ['|'] => false
  | position, '|' :: commandChar :: rest =>
    if commandChar ∉ ['c', 'H', 'h', 'r', '|'] then false
    else if severity = 2 then
      if ['c', 'H', 'h', 'h', 'r'][position]? = some commandChar then simpleChecks severity ((position + 1) % 5) rest
      else if commandChar = '|' then simpleChecks severity position rest
      else false
    else simpleChecks severity position rest
  | position, _ :: rest => simpleChecks severity position rest

-- std::istream::getline, `none` where it meets the end
def getline (delim : Char) : Text → Option (Text × Text)
  | [] => none
  | c :: rest =>
    if c = delim then some ([], rest)
    else (getline delim rest).map fun result => (c :: result.1, result.2)

def hexDigit (c : Char) : Option Nat :=
  if '0' ≤ c ∧ c ≤ '9' then some (c.toNat - '0'.toNat)
  else if 'a' ≤ c ∧ c ≤ 'f' then some (10 + (c.toNat - 'a'.toNat))
  else none

def readColor (text : Text) : Option (Nat × Text) :=
  if 8 ≤ text.length then
    ((text.take 8).foldlM (fun color c => (hexDigit c).map (color * 16 + ·)) 0).map fun color => (color, text.drop 8)
  else none

def pushProperty (propertyId : Int) (negativeNumber : Bool) (properties : List Nat) : List Nat :=
  let propertyId := if negativeNumber then Word.i32 (propertyId * -1) else propertyId
  if 0 < propertyId then propertyId.toNat :: properties else properties

def readProperties : Int → Bool → Nat → Text → Option (List Nat × Text)
  | _, _, _, [] => some ([], [])
  | propertyId, negativeNumber, propCount, c :: rest =>
    if c = '|' ∨ propCount = 3 then some ([], c :: rest)
    else if c = ':' then
      (readProperties 0 false (propCount + 1) rest).map fun result => (pushProperty propertyId negativeNumber result.1, result.2)
    else
      match digit c with
      | some d => readProperties (Word.i32 (Word.i32 (propertyId * 10) + d)) negativeNumber propCount rest
      | none => if c = '-' then readProperties propertyId true propCount rest else none

def readNumber (text : Text) : Nat × Text :=
  ((digits text).foldl (fun spellid d => Word.u32 (spellid * 10 + d)) 0, text.dropWhile fun c => (digit c).isSome)

inductive Target
  | item (id : Text) (proto : ItemPrototype) (properties : List Nat)
  | enchant (spell : SpellEntry)

def readFields (text : Text) : Option (List Nat × Text) :=
  (readProperties 0 false 0 text).map fun result => (result.1, result.2.dropWhile fun c => (digit c).isSome || c = ':')

def readItem (stores : Stores) (color : Nat) (text : Text) : Option (Target × Text) := do
  let (id, text) ← getline ':' text
  let linkedItem ← stores.getItemPrototype (atoiU32 id)
  if itemQualityColors[linkedItem.quality]? = some color then
    (readFields text).map fun result => (.item id linkedItem result.1, result.2)
  else none

def readSpell (stores : Stores) (text : Text) : Option (SpellEntry × Text) :=
  (stores.getSpellEntry (readNumber text).1).map fun linkedSpell => (linkedSpell, (readNumber text).2)

def readTarget (stores : Stores) (color : Nat) (text : Text) : Option (Target × Text) := do
  let (kind, text) ← getline ':' text
  if kind = ['i', 't', 'e', 'm'] then readItem stores color text
  else if kind = ['e', 'n', 'c', 'h', 'a', 'n', 't'] ∧ color = chatLinkColorEnchant then
    (readSpell stores text).map fun result => (.enchant result.1, result.2)
  else none

-- What the links read so far leave to the next one
structure Carried where
  linkedSpell : Option SpellEntry := none
  properties : List Nat := []

structure Reading extends Carried where
  validSequence : Nat := 0
  color : Nat := 0
  linkedItem : Option ItemPrototype := none

def anyLocalizedName (stores : Stores) (proto : ItemPrototype) (iProp : Option ItemRandomPropertiesEntry) (name : Text) : Bool :=
  dbLocales.any fun i => getLocalizedNameWithSuffix stores proto iProp i (getDbcLocaleFromDbLocale i) = name

-- `hasValidRandomProperty` and `enchantCount` after one property
def checkProperty (stores : Stores) (proto : ItemPrototype) (name : Text) (found : Bool × Nat) (prop : Nat) : Option (Bool × Nat) :=
  let valid := found.1 || (decide (0 < proto.randomProperty) &&
    (stores.itemRandomProperties prop).any fun iProp => anyLocalizedName stores proto (some iProp) name)
  if valid then some (valid, found.2)
  else if stores.spellItemEnchantment prop ∧ found.2 + 1 ≤ 2 then some (valid, found.2 + 1)
  else none

def validName (stores : Stores) (linkedSpell : Option SpellEntry) (linkedItem : Option ItemPrototype) (properties : List Nat)
    (name : Text) : Bool :=
  match linkedSpell, linkedItem with
  | some spell, _ => LocaleConstant.all.any fun i => spell.spellName i ≠ [] ∧ spell.spellName i = name
  | none, some proto =>
    if proto.randomProperty = 0 ∧ 2 < properties.length then false
    else
      match properties.foldlM (checkProperty stores proto name) (false, 0) with
      | none => false
      | some found => if 0 < proto.randomProperty then found.1 else anyLocalizedName stores proto none name
  | none, none => false

def Carried.link (carried : Carried) : Target → Carried
  | .item _ _ properties => { carried with properties := carried.properties ++ properties }
  | .enchant spell => { carried with linkedSpell := some spell }

def Target.linkedItem : Target → Option ItemPrototype
  | .item _ proto _ => some proto
  | .enchant _ => none

def readName : Text → Option (Text × Text)
  | '[' :: rest => getline ']' rest
  | _ => none

-- A command in its place, after `validSequenceIterator` has moved on; `none`
-- where the message is refused
def payload (stores : Stores) (reading : Reading) (commandChar : Char) (text : Text) : Option (Reading × Text) :=
  match commandChar with
  | 'c' => (readColor text).map fun result => ({ reading with color := result.1 }, result.2)
  | 'H' => (readTarget stores reading.color text).map fun result =>
      ({ reading with toCarried := reading.link result.1, linkedItem := result.1.linkedItem.or reading.linkedItem }, result.2)
  | 'h' =>
    if reading.validSequence = 3 then do
      let (name, text) ← readName text
      if validName stores reading.linkedSpell reading.linkedItem reading.properties name then some (reading, text) else none
    else some (reading, text)
  | _ => some (reading, text)

def command (stores : Stores) (reading : Reading) (commandChar : Char) (text : Text) : Option (Reading × Text) :=
  if commandChar = '|' then
    if reading.validSequence = 0 then some (reading, text) else none
  else if ['c', 'H', 'h', 'h', 'r'][reading.validSequence]? = some commandChar then
    payload stores { reading with validSequence := (reading.validSequence + 1) % 5 } commandChar text
  else none

-- Up to the next pipe: anything before a link, nothing inside of one
def nextPipe (reading : Reading) (text : Text) : Option Text :=
  if reading.validSequence = 0 then some (text.dropWhile (· ≠ '|')).tail
  else
    match text with
    | '|' :: rest => some rest
    | _ => none

-- Each round of the loop takes two characters at least, or is the last.
def readLoop (stores : Stores) : Nat → Reading → Text → Bool
  | 0, _, _ => false
  | rounds + 1, reading, text =>
    match nextPipe reading text with
    | none => false
    | some [] => reading.validSequence = 0
    | some (commandChar :: rest) =>
      let reading := if reading.validSequence = 0 then { reading with linkedItem := none } else reading
      if commandChar = '\x00' then false
      else
        match command stores reading commandChar rest with
        | none => false
        | some (next, rest) => readLoop stores rounds next rest

def isValidChatMessage (stores : Stores) (severity : Nat) (message : Text) : Bool :=
  if 255 < message.length then false
  else if severity < 3 then simpleChecks severity 0 message
  else readLoop stores (message.length + 1) {} message

-- The reading of one link, without what the earlier ones have left

structure Link where
  color : Nat
  target : Target
  name : Text

def pipe (commandChar : Char) : Text → Option Text
  | '|' :: c :: rest => if c = commandChar then some rest else none
  | _ => none

def readLink (stores : Stores) (text : Text) : Option (Link × Text) := do
  let text ← pipe 'c' text
  let (color, text) ← readColor text
  let text ← pipe 'H' text
  let (target, text) ← readTarget stores color text
  let text ← pipe 'h' text
  let (name, text) ← readName text
  let text ← pipe 'h' text
  let text ← pipe 'r' text
  return (⟨color, target, name⟩, text)

-- The links of a message, and whether a lone pipe ends it
def readPieces (stores : Stores) : Nat → Text → Option (List Link × Bool)
  | 0, _ => none
  | _ + 1, [] => some ([], false)
  | _ + 1, ['|'] => some ([], true)
  | rounds + 1, '|' :: '|' :: rest => readPieces stores rounds rest
  | rounds + 1, '|' :: c :: rest => do
    let (link, rest) ← readLink stores ('|' :: c :: rest)
    let (links, lone) ← readPieces stores rounds rest
    return (link :: links, lone)
  | rounds + 1, _ :: rest => readPieces stores rounds rest

def Link.accepted (stores : Stores) (carried : Carried) (link : Link) : Bool :=
  let now := carried.link link.target
  validName stores now.linkedSpell link.target.linkedItem now.properties link.name

def Link.reading (carried : Carried) (link : Link) (validSequence : Nat) : Reading :=
  { toCarried := carried.link link.target, validSequence, color := link.color, linkedItem := link.target.linkedItem }

def allAccepted (stores : Stores) : Carried → List Link → Bool
  | _, [] => true
  | carried, link :: links => link.accepted stores carried && allAccepted stores (carried.link link.target) links

variable {stores : Stores}

variable {n : Nat} {reading : Reading} {text rest : Text}

theorem readLoop_inside {commandChar : Char}
    (hinside : reading.validSequence ≠ 0) (hcommand : ['c', 'H', 'h', 'h', 'r'][reading.validSequence]? = some commandChar) :
    readLoop stores n reading text = true ↔ ∃ m next rest, n = m + 1 ∧ (pipe commandChar text).bind
      (payload stores { reading with validSequence := (reading.validSequence + 1) % 5 } commandChar) = some (next, rest) ∧
      readLoop stores m next rest = true := by
  have hplain : commandChar ≠ '\x00' ∧ commandChar ≠ '|' := by
    have hmem := mem_of_getElem? hcommand
    constructor <;> rintro rfl <;> revert hmem <;> decide
  cases n with
  | zero => simp [readLoop]
  | succ n =>
    rw [readLoop]
    simp only [nextPipe, if_neg hinside]
    obtain _ | ⟨first, text⟩ := text
    · simp [pipe]
    by_cases hfirst : first = '|'
    · subst hfirst
      obtain _ | ⟨c, rest⟩ := text
      · simp [pipe, hinside]
      by_cases hc : c = commandChar
      · subst hc
        have hnext : command stores reading c rest =
            payload stores { reading with validSequence := (reading.validSequence + 1) % 5 } c rest := by
          rw [command, if_neg hplain.2, if_pos hcommand]
        cases hpayload : payload stores { reading with validSequence := (reading.validSequence + 1) % 5 } c rest <;>
          simp [pipe, hplain.1, hnext, hpayload, Prod.ext_iff]
      · have hnone : command stores reading c rest = none := by
          have hother : ¬some commandChar = some c := fun heq => hc (Option.some.inj heq).symm
          rw [command, hcommand, if_neg hother, if_neg hinside, ite_self]
        simp [pipe, hc, hnone]
    · simp [pipe, hfirst]

theorem readLoop_start (hstart : reading.validSequence = 0) :
    readLoop stores n reading ('|' :: 'c' :: text) = true ↔ ∃ m color rest, n = m + 1 ∧ readColor text = some (color, rest) ∧
      readLoop stores m { reading with validSequence := 1, color := color, linkedItem := none } rest = true := by
  cases n with
  | zero => simp [readLoop]
  | succ n => cases hcolor : readColor text <;> simp [readLoop, nextPipe, command, payload, hstart, hcolor, Prod.ext_iff]

theorem readLoop_link (hstart : reading.validSequence = 0) :
    readLoop stores n reading ('|' :: 'c' :: text) = true ↔ ∃ m link rest, n = m + 5 ∧
      readLink stores ('|' :: 'c' :: text) = some (link, rest) ∧ link.accepted stores reading.toCarried = true ∧
      readLoop stores m (link.reading reading.toCarried 0) rest = true := by
  rw [readLoop_start hstart]
  constructor
  · rintro ⟨m, color, t, rfl, hcolor, h⟩
    obtain ⟨m, next, t, rfl, hH, h⟩ := (readLoop_inside (show 1 ≠ 0 by decide) rfl).mp h
    simp [payload, Option.bind_eq_some_iff] at hH
    obtain ⟨_, hopen, target, htarget, rfl⟩ := hH
    obtain ⟨m, next, t, rfl, hh, h⟩ := (readLoop_inside (show 2 ≠ 0 by decide) rfl).mp h
    simp [payload, Option.bind_eq_some_iff] at hh
    obtain ⟨_, htext, name, hname, hvalid, rfl⟩ := hh
    obtain ⟨m, next, t, rfl, hh, h⟩ := (readLoop_inside (show 3 ≠ 0 by decide) rfl).mp h
    simp [payload, Option.bind_eq_some_iff] at hh
    obtain ⟨hclose, rfl⟩ := hh
    obtain ⟨m, next, t, rfl, hr, h⟩ := (readLoop_inside (show 4 ≠ 0 by decide) rfl).mp h
    simp [payload, Option.bind_eq_some_iff] at hr
    obtain ⟨hend, rfl⟩ := hr
    refine ⟨m, ⟨color, target, name⟩, t, rfl, ?_, hvalid, h⟩
    have hc : pipe 'c' ('|' :: 'c' :: text) = some text := rfl
    simp [readLink, hc, hcolor, hopen, htarget, htext, hname, hclose, hend]
  · rintro ⟨m, link, rest, rfl, hlink, haccepted, h⟩
    simp [readLink, Option.bind_eq_some_iff] at hlink
    obtain ⟨_, hc, color, t, hcolor, _, hopen, target, t₂, htarget, _, htext, name, t₃, hname, t₄, hclose, hend, rfl⟩ := hlink
    cases hc
    -- backwards from the text after the link
    have hr : readLoop stores (m + 1) (Link.reading reading.toCarried ⟨color, target, name⟩ 4) t₄ = true :=
      (readLoop_inside (show 4 ≠ 0 by decide) rfl).mpr ⟨m, _, _, rfl, by simp [payload, hend, Link.reading], h⟩
    have hh : readLoop stores (m + 2) (Link.reading reading.toCarried ⟨color, target, name⟩ 3) t₃ = true :=
      (readLoop_inside (show 3 ≠ 0 by decide) rfl).mpr ⟨m + 1, _, _, rfl, by simp [payload, hclose, Link.reading], hr⟩
    have hvalid : readLoop stores (m + 3) (Link.reading reading.toCarried ⟨color, target, name⟩ 2) t₂ = true := by
      refine (readLoop_inside (show 2 ≠ 0 by decide) rfl).mpr ⟨m + 2, _, _, rfl, ?_, hh⟩
      simp [payload, htext, hname, Link.reading]
      exact haccepted
    refine ⟨m + 4, color, t, rfl, hcolor, (readLoop_inside (show 1 ≠ 0 by decide) rfl).mpr ⟨m + 3, _, _, rfl, ?_, hvalid⟩⟩
    simp [payload, hopen, htarget, Link.reading]

-- What a message of accepted links is made of

inductive IsTarget : Text → Prop
  | item {id fields : Text} (hid : ':' ∉ id) (hfields : '|' ∉ fields) : IsTarget (['i', 't', 'e', 'm', ':'] ++ id ++ ':' :: fields)
  | enchant {id : Text} (hid : '|' ∉ id) : IsTarget (['e', 'n', 'c', 'h', 'a', 'n', 't', ':'] ++ id)

def linkText (color target name : Text) : Text :=
  ['|', 'c'] ++ color ++ ['|', 'H'] ++ target ++ ['|', 'h', '['] ++ name ++ [']', '|', 'h', '|', 'r']

inductive IsLink : Text → Prop
  | intro {color target name : Text} (hcolor : color.length = 8) (htarget : IsTarget target) (hplain : '|' ∉ target)
      (hname : ']' ∉ name) : IsLink (linkText color target name)

inductive Concatenation (stores : Stores) : Text → Prop
  | nil : Concatenation stores []
  | char {c : Char} {rest : Text} (hc : c ≠ '|') (hrest : Concatenation stores rest) : Concatenation stores (c :: rest)
  | escaped {rest : Text} (hrest : Concatenation stores rest) : Concatenation stores ('|' :: '|' :: rest)
  | link {text rest : Text} (hlink : IsLink text) (halone : isValidChatMessage stores 3 text = true)
      (hrest : Concatenation stores rest) : Concatenation stores (text ++ rest)

def Target.Plain : Target → Prop
  | .item id _ _ => '|' ∉ id
  | .enchant _ => True

-- Each link is judged with what the earlier ones have left as it is alone.
def Judged (stores : Stores) (message : Text) : Prop :=
  ∀ links lone, readPieces stores (message.length + 1) message = some (links, lone) →
    (allAccepted stores {} links = true ↔
      lone = false ∧ ∀ link ∈ links, link.target.Plain ∧ link.accepted stores {} = true)

theorem getline_append {delim : Char} {line : Text} (h : delim ∉ line) (rest : Text) :
    getline delim (line ++ delim :: rest) = some (line, rest) := by
  induction line with
  | nil => simp [getline]
  | cons c line ih =>
    obtain ⟨hc, hline⟩ := not_or.mp (mem_cons.not.mp h)
    simp [getline, Ne.symm hc, ih hline]

theorem getline_eq_some {delim : Char} {line : Text} :
    getline delim text = some (line, rest) ↔ delim ∉ line ∧ text = line ++ delim :: rest := by
  refine ⟨fun h => ?_, fun h => h.2 ▸ getline_append h.1 rest⟩
  fun_induction getline delim text generalizing line with
  | case1 => cases h
  | case2 text => cases h; simp
  | case3 c text hc ih =>
    obtain ⟨⟨line', rest'⟩, hread, heq⟩ := Option.map_eq_some_iff.mp h
    cases heq
    obtain ⟨hline, rfl⟩ := ih hread
    simp [hline, Ne.symm hc]

theorem cut_unique {delim : Char} {first second rest' : Text} (hfirst : delim ∉ first) (hsecond : delim ∉ second)
    (h : first ++ delim :: rest = second ++ delim :: rest') : first = second ∧ rest = rest' := by
  have hread := getline_append hfirst rest
  rw [h, getline_append hsecond] at hread
  simpa [eq_comm] using hread

theorem readColor_eq_some {color : Nat} (h : readColor text = some (color, rest)) :
    ∃ used, used.length = 8 ∧ text = used ++ rest ∧ ∀ after, readColor (used ++ after) = some (color, after) := by
  rw [readColor] at h
  split_ifs at h with hlength
  obtain ⟨value, hvalue, heq⟩ := Option.map_eq_some_iff.mp h
  cases heq
  have htake : (text.take 8).length = 8 := by simp [hlength]
  refine ⟨text.take 8, htake, (take_append_drop 8 text).symm, fun after => ?_⟩
  have hall : 8 ≤ (text.take 8 ++ after).length := by simp [hlength]
  rw [readColor, if_pos hall, take_left' htake, drop_left' htake, hvalue]
  rfl

-- A reader that stops at a pipe, if nothing has stopped it before
structure Stops {α : Type} (read : Text → Option (α × Text)) : Prop where
  append : ∀ {used after : Text}, '|' ∉ used →
    read (used ++ '|' :: after) = (read used).map fun result => (result.1, result.2 ++ '|' :: after)
  suffix : ∀ {text : Text} {result : α × Text}, read text = some result → result.2 <:+ text

theorem Stops.split {α : Type} {read : Text → Option (α × Text)} (hread : Stops read) {a : α}
    (h : read text = some (a, '|' :: rest)) :
    ∃ used, '|' ∉ used ∧ text = used ++ '|' :: rest ∧ ∀ after, read (used ++ '|' :: after) = some (a, '|' :: after) := by
  obtain ⟨used, tail, rfl, hused⟩ := eq_append_cons_of_mem ((hread.suffix h).mem mem_cons_self)
  rw [hread.append hused] at h
  obtain ⟨⟨a', left⟩, hleft, heq⟩ := Option.map_eq_some_iff.mp h
  obtain ⟨hvalue, hcut⟩ := Prod.mk.inj heq
  change a' = a at hvalue
  change left ++ '|' :: tail = '|' :: rest at hcut
  subst hvalue
  cases left with
  | nil =>
    obtain rfl := (List.cons.inj hcut).2
    exact ⟨used, hused, rfl, fun after => by rw [hread.append hused, hleft]; rfl⟩
  | cons c left =>
    obtain rfl := (List.cons.inj hcut).1
    exact absurd ((hread.suffix hleft).mem mem_cons_self) hused

theorem stops_readProperties (propertyId : Int) (negativeNumber : Bool) (propCount : Nat) :
    Stops (readProperties propertyId negativeNumber propCount) where
  append {used after} hused := by
    induction used generalizing propertyId negativeNumber propCount with
    | nil => simp [readProperties]
    | cons c used ih =>
      obtain ⟨hc, hused⟩ := not_or.mp (mem_cons.not.mp hused)
      rw [cons_append, readProperties, readProperties, ih _ _ _ hused]
      cases digit c <;> simp only [ih _ _ _ hused] <;> split_ifs <;> simp [Function.comp_def]
  suffix {text result} h := by
    fun_induction readProperties propertyId negativeNumber propCount text generalizing result with
    | case1 => cases h; exact suffix_refl []
    | case2 => cases h; exact suffix_refl _
    | case3 _ _ _ _ _ ih =>
      obtain ⟨next, hnext, rfl⟩ := Option.map_eq_some_iff.mp h
      exact (ih hnext).trans (suffix_cons ..)
    | case4 _ _ _ _ _ _ _ _ _ ih => exact (ih h).trans (suffix_cons ..)
    | case5 _ _ _ _ _ _ _ ih => exact (ih h).trans (suffix_cons ..)
    | case6 => cases h

theorem dropWhile_pipe (p : Char → Bool) (hp : p '|' = false) (text after : Text) :
    (text ++ '|' :: after).dropWhile p = text.dropWhile p ++ '|' :: after := by
  rw [dropWhile_append]
  split_ifs with hempty
  · rw [List.isEmpty_iff.mp hempty, dropWhile_cons_of_neg (by simp [hp])]
    rfl
  · rfl

theorem stops_readFields : Stops readFields where
  append {used after} hused := by
    rw [readFields, readFields, (stops_readProperties 0 false 0).append hused]
    have hpipe := dropWhile_pipe (fun c => (digit c).isSome || decide (c = ':')) (by decide)
    simp [Function.comp_def, hpipe]
  suffix {text result} h := by
    obtain ⟨next, hnext, rfl⟩ := Option.map_eq_some_iff.mp h
    exact (dropWhile_suffix _).trans ((stops_readProperties 0 false 0).suffix hnext)

theorem digits_pipe (text after : Text) : digits (text ++ '|' :: after) = digits text := by
  induction text with
  | nil => rfl
  | cons c text ih => cases h : digit c <;> simp [digits, h, ih]

theorem stops_readSpell : Stops (readSpell stores) where
  append {used after} _ := by
    have hpipe := dropWhile_pipe (fun c => (digit c).isSome) (by decide)
    simp [readSpell, readNumber, Function.comp_def, digits_pipe, hpipe]
  suffix {text result} h := by
    obtain ⟨next, hnext, rfl⟩ := Option.map_eq_some_iff.mp h
    exact dropWhile_suffix _

theorem readTarget_split {color : Nat} {target : Target}
    (h : readTarget stores color text = some (target, '|' :: rest)) :
    ∃ used, IsTarget used ∧ (target.Plain ↔ '|' ∉ used) ∧ text = used ++ '|' :: rest ∧
      ∀ after, readTarget stores color (used ++ '|' :: after) = some (target, '|' :: after) := by
  obtain ⟨⟨kind, tail⟩, hkind, hread⟩ := Option.bind_eq_some_iff.mp h
  obtain ⟨-, rfl⟩ := getline_eq_some.mp hkind
  clear h
  simp only at hread
  split_ifs at hread with hitem henchant
  · subst hitem
    obtain ⟨⟨id, fields⟩, hid, hread⟩ := Option.bind_eq_some_iff.mp hread
    obtain ⟨proto, hproto, hfields⟩ := Option.bind_eq_some_iff.mp hread
    obtain ⟨hcolon, rfl⟩ := getline_eq_some.mp hid
    split_ifs at hfields with hcolor
    obtain ⟨⟨properties, left⟩, hproperties, heq⟩ := Option.map_eq_some_iff.mp hfields
    cases heq
    obtain ⟨used, hused, rfl, hagain⟩ := stops_readFields.split hproperties
    refine ⟨_, .item hcolon hused, ?_, by simp, fun after => ?_⟩
    · simp [Target.Plain, hused]
    · simp [readTarget, getline, readItem, getline_append hcolon, hproto, hcolor, hagain]
  · obtain ⟨rfl, hcolor⟩ := henchant
    obtain ⟨⟨spell, left⟩, hspell, heq⟩ := Option.map_eq_some_iff.mp hread
    cases heq
    obtain ⟨used, hused, rfl, hagain⟩ := stops_readSpell.split hspell
    refine ⟨_, .enchant hused, ?_, by simp, fun after => ?_⟩
    · simp [Target.Plain, hused]
    · simp [readTarget, getline, hcolor, hagain]

theorem IsTarget.unique {first second rest' : Text} (hfirst : IsTarget first) (hsecond : IsTarget second)
    (h : first ++ '|' :: rest = second ++ '|' :: rest') : first = second ∧ rest = rest' := by
  cases hfirst with
  | item hid hfields =>
    cases hsecond with
    | item hid' hfields' =>
      simp at h
      obtain ⟨rfl, htail⟩ := cut_unique hid hid' h
      obtain ⟨rfl, rfl⟩ := cut_unique hfields hfields' htail
      exact ⟨rfl, rfl⟩
    | enchant => simp at h
  | enchant hid =>
    cases hsecond with
    | item => simp at h
    | enchant hid' =>
      simp at h
      obtain ⟨rfl, rfl⟩ := cut_unique hid hid' h
      exact ⟨rfl, rfl⟩

theorem pipe_eq_some {c : Char} : pipe c text = some rest ↔ text = '|' :: c :: rest := by
  rw [pipe.eq_def]
  split
  · simp [ite_eq_iff]
  · rename_i hother
    simpa using hother c rest

theorem readName_eq_some {name : Text} :
    readName text = some (name, rest) ↔ ']' ∉ name ∧ text = '[' :: (name ++ ']' :: rest) := by
  match text with
  | [] => simp [readName]
  | c :: tail =>
    by_cases hc : c = '['
    · simp [hc, readName, getline_eq_some]
    · simp [readName, hc]

theorem readLink_split {link : Link} (h : readLink stores text = some (link, rest)) :
    ∃ color target name, color.length = 8 ∧ IsTarget target ∧ (link.target.Plain ↔ '|' ∉ target) ∧ ']' ∉ name ∧
      text = linkText color target name ++ rest ∧
      ∀ after, readLink stores (linkText color target name ++ after) = some (link, after) := by
  simp only [readLink, Option.bind_eq_bind, Option.bind_eq_some_iff, Prod.exists, pipe_eq_some, readName_eq_some] at h
  obtain ⟨t₁, rfl, color, t₂, hcolor, t₃, rfl, target, t₄, htarget, t₅, rfl, name, t₆, ⟨hname, rfl⟩, t₇, rfl, t₈, rfl, heq⟩ := h
  cases heq
  obtain ⟨used, hlength, rfl, hused⟩ := readColor_eq_some hcolor
  obtain ⟨text, hshape, hplain, rfl, htext⟩ := readTarget_split htarget
  refine ⟨used, text, name, hlength, hshape, hplain, hname, by simp [linkText], fun after => ?_⟩
  simp [readLink, linkText, pipe, hused, htext, readName, getline_append hname]

theorem linkText_unique {color target name color' target' name' rest' : Text} (hcolor : color.length = 8)
    (hcolor' : color'.length = 8) (htarget : IsTarget target) (htarget' : IsTarget target') (hname : ']' ∉ name) (hname' : ']' ∉ name')
    (h : linkText color target name ++ rest = linkText color' target' name' ++ rest') : target = target' ∧ rest = rest' := by
  simp only [linkText, append_assoc, append_cancel_left_eq] at h
  obtain ⟨rfl, hlink⟩ := append_inj h (by rw [hcolor, hcolor'])
  simp at hlink
  obtain ⟨rfl, htail⟩ := htarget.unique htarget' hlink
  simp at htail
  obtain ⟨rfl, hrest⟩ := cut_unique hname hname' htail
  exact ⟨rfl, by simpa using hrest⟩

theorem readLink_of_ne {c : Char} (hc : c ≠ 'c') : readLink stores ('|' :: c :: text) = none := by
  simp [readLink, pipe, hc]

theorem length_readLink {link : Link} (h : readLink stores text = some (link, rest)) :
    rest.length + 13 ≤ text.length := by
  obtain ⟨color, target, name, hcolor, -, -, -, rfl, -⟩ := readLink_split h
  simp [linkText]
  omega

theorem readLoop_iff {m : Nat} (hstart : reading.validSequence = 0)
    (hn : text.length < n) (hm : text.length < m) : readLoop stores m reading text = true ↔
      ∃ links lone, readPieces stores n text = some (links, lone) ∧ allAccepted stores reading.toCarried links = true := by
  obtain ⟨m, rfl⟩ := Nat.exists_eq_succ_of_ne_zero (Nat.ne_zero_of_lt hm)
  fun_induction readPieces stores n text generalizing m reading with
  | case1 => exact absurd hn (Nat.not_lt_zero _)
  | case2 => simp [readLoop, nextPipe, hstart, allAccepted]
  | case3 => simp [readLoop, nextPipe, hstart, allAccepted]
  | case4 n rest ih =>
    simp only [length_cons] at hn hm
    obtain ⟨m, rfl⟩ := Nat.exists_eq_succ_of_ne_zero (show m ≠ 0 by omega)
    rw [← @ih { reading with linkedItem := none } hstart (by omega) m (by omega)]
    simp [readLoop, nextPipe, command, hstart]
  | case5 n c rest hc ih =>
    simp only [length_cons] at hn hm
    by_cases hlink : c = 'c'
    · subst hlink
      rw [readLoop_link hstart]
      constructor
      · rintro ⟨k, link, left, heq, hread, haccepted, hloop⟩
        have hshort := length_readLink hread
        simp only [length_cons] at hshort
        obtain ⟨k, rfl⟩ := Nat.exists_eq_succ_of_ne_zero (show k ≠ 0 by omega)
        obtain ⟨links, lone, hpieces, hall⟩ := (@ih left (link.reading reading.toCarried 0) rfl (by omega) k (by omega)).mp hloop
        refine ⟨link :: links, lone, ?_, ?_⟩
        · simp [hread, hpieces]
        · rw [allAccepted, haccepted]
          exact hall
      · rintro ⟨links, lone, hpieces, hall⟩
        simp only [Option.bind_eq_bind, Option.bind_eq_some_iff, Prod.exists] at hpieces
        obtain ⟨link, left, hread, links', lone', hrest, heq⟩ := hpieces
        obtain ⟨rfl, rfl⟩ := Prod.mk.inj (Option.some.inj heq)
        have hshort := length_readLink hread
        simp only [length_cons] at hshort
        obtain ⟨k, rfl⟩ := Nat.exists_eq_add_of_le (show 5 ≤ m by omega)
        rw [allAccepted, Bool.and_eq_true] at hall
        refine ⟨k + 1, link, left, by omega, hread, hall.1, ?_⟩
        exact (@ih left (link.reading reading.toCarried 0) rfl (by omega) k (by omega)).mpr ⟨links', lone', hrest, hall.2⟩
    · have hnone : ∀ reading' : Reading, reading'.validSequence = 0 → command stores reading' c rest = none := by
        intro reading' hstart'
        rw [command, if_neg hc, hstart']
        simp [Ne.symm hlink]
      simp [readLoop, nextPipe, hstart, hnone, readLink_of_ne hlink]
  | case6 n c rest hlone hescaped hpipe ih =>
    simp only [length_cons] at hn hm
    have hc : c ≠ '|' := by
      rintro rfl
      cases rest with
      | nil => exact hlone rfl rfl
      | cons d rest => exact hpipe d rest rfl rfl
    rw [← ih hstart (by omega) m (by omega)]
    simp [readLoop, nextPipe, hstart, hc]

theorem isValidChatMessage_iff {message : Text} (hlength : message.length ≤ 255) : isValidChatMessage stores 3 message = true ↔
    ∃ links lone, readPieces stores (message.length + 1) message = some (links, lone) ∧ allAccepted stores {} links = true := by
  rw [isValidChatMessage, if_neg (by omega), if_neg (by decide)]
  exact readLoop_iff rfl (Nat.lt_succ_self _) (Nat.lt_succ_self _)

theorem readPieces_link : readPieces stores (n + 1) ('|' :: 'c' :: text) = do
    let (link, rest) ← readLink stores ('|' :: 'c' :: text)
    let (links, lone) ← readPieces stores n rest
    return (link :: links, lone) := by
  rw [readPieces]
  decide

theorem IsLink.readLink {left : Text} {link : Link} (hlink : IsLink text)
    (h : readLink stores (text ++ rest) = some (link, left)) : left = rest ∧ link.target.Plain := by
  obtain ⟨hcolor, htarget, hplain, hname⟩ := hlink
  obtain ⟨color', target', name', hcolor', htarget', hiff, hname', htext, -⟩ := readLink_split h
  obtain ⟨rfl, rfl⟩ := linkText_unique hcolor hcolor' htarget htarget' hname hname' htext
  exact ⟨rfl, hiff.mpr hplain⟩

theorem isValidChatMessage_link (hlink : IsLink text) (hlength : text.length ≤ 255) :
    isValidChatMessage stores 3 text = true ↔ ∃ link, readLink stores text = some (link, []) ∧ link.target.Plain ∧
      link.accepted stores {} = true := by
  obtain ⟨tail, rfl⟩ : ∃ tail, text = '|' :: 'c' :: tail := by
    cases hlink
    exact ⟨_, rfl⟩
  rw [isValidChatMessage_iff hlength, readPieces_link]
  constructor
  · rintro ⟨links, lone, hpieces, hall⟩
    simp only [Option.bind_eq_bind, Option.bind_eq_some_iff, Prod.exists] at hpieces
    obtain ⟨link, left, hread, links', lone', -, heq⟩ := hpieces
    cases heq
    rw [allAccepted, Bool.and_eq_true] at hall
    rw [← append_nil ('|' :: 'c' :: tail)] at hread
    obtain ⟨rfl, hplain⟩ := hlink.readLink hread
    rw [append_nil] at hread
    exact ⟨link, hread, hplain, hall.1⟩
  · rintro ⟨link, hread, -, haccepted⟩
    exact ⟨[link], false, by simp [hread, readPieces], by simp [allAccepted, haccepted]⟩

theorem readPieces_of_concatenation {message : Text} (h : Concatenation stores message) (hlength : message.length ≤ 255)
    (hn : message.length < n) : ∃ links, readPieces stores n message = some (links, false) ∧
      ∀ link ∈ links, link.target.Plain ∧ link.accepted stores {} = true := by
  obtain ⟨n, rfl⟩ := Nat.exists_eq_succ_of_ne_zero (Nat.ne_zero_of_lt hn)
  induction h generalizing n with
  | nil => exact ⟨[], rfl, by simp⟩
  | char hc hrest ih =>
    simp only [length_cons] at hlength hn
    obtain ⟨n, rfl⟩ := Nat.exists_eq_succ_of_ne_zero (show n ≠ 0 by omega)
    obtain ⟨links, hread, hall⟩ := ih (by omega) n (by omega)
    refine ⟨links, ?_, hall⟩
    rw [← hread, readPieces] <;> simp [hc]
  | escaped hrest ih =>
    simp only [length_cons] at hlength hn
    obtain ⟨n, rfl⟩ := Nat.exists_eq_succ_of_ne_zero (show n ≠ 0 by omega)
    obtain ⟨links, hread, hall⟩ := ih (by omega) n (by omega)
    exact ⟨links, hread, hall⟩
  | @link text rest hlink halone hrest ih =>
    simp only [length_append] at hlength hn
    obtain ⟨link, hread, hplain, haccepted⟩ := (isValidChatMessage_link hlink (by omega)).mp halone
    obtain ⟨color, target, name, -, -, -, -, htext, hafter⟩ := readLink_split hread
    have hshort := length_readLink hread
    obtain ⟨n, rfl⟩ := Nat.exists_eq_succ_of_ne_zero (show n ≠ 0 by omega)
    obtain ⟨links, hrest, hall⟩ := ih (by omega) n (by omega)
    refine ⟨link :: links, ?_, forall_mem_cons.mpr ⟨⟨hplain, haccepted⟩, hall⟩⟩
    rw [append_nil] at htext
    subst htext
    obtain ⟨tail, htail⟩ : ∃ tail, linkText color target name ++ rest = '|' :: 'c' :: tail := ⟨_, rfl⟩
    have hpieces := hafter rest
    rw [htail] at hpieces ⊢
    rw [readPieces_link, hpieces]
    simp [hrest]

theorem concatenation_of_readPieces {message : Text} {links : List Link} (hlength : message.length ≤ 255)
    (h : readPieces stores n message = some (links, false))
    (hall : ∀ link ∈ links, link.target.Plain ∧ link.accepted stores {} = true) : Concatenation stores message := by
  fun_induction readPieces stores n message generalizing links with
  | case1 => cases h
  | case2 => exact .nil
  | case3 => cases h
  | case4 n rest ih =>
    simp only [length_cons] at hlength
    exact .escaped (ih (by omega) h hall)
  | case5 n c rest hc ih =>
    simp only [Option.bind_eq_bind, Option.bind_eq_some_iff, Prod.exists] at h
    obtain ⟨link, left, hread, links', lone', hrest, heq⟩ := h
    cases heq
    obtain ⟨⟨hplain, haccepted⟩, hall⟩ := forall_mem_cons.mp hall
    obtain ⟨color, target, name, hcolor, htarget, hiff, hname, htext, hafter⟩ := readLink_split hread
    have hlink : IsLink (linkText color target name) := ⟨hcolor, htarget, hiff.mp hplain, hname⟩
    rw [htext, length_append] at hlength
    rw [htext]
    have hread := hafter []
    rw [append_nil] at hread
    refine .link hlink ?_ (ih left (by omega) hrest hall)
    exact (isValidChatMessage_link hlink (by omega)).mpr ⟨link, hread, hplain, haccepted⟩
  | case6 n c rest hlone hescaped hpipe ih =>
    simp only [length_cons] at hlength
    have hc : c ≠ '|' := by
      rintro rfl
      cases rest with
      | nil => exact hlone rfl rfl
      | cons d rest => exact hpipe d rest rfl rfl
    exact .char hc (ih (by omega) h hall)

def oneItem : Stores where
  getItemPrototype id := if id = 1 then some ⟨1, "b".toList, 0, 0⟩ else none
  getItemLocale _ := none
  getSpellEntry id := if id = 1 then some ⟨fun _ => "a".toList⟩ else none
  spellItemEnchantment _ := false
  itemRandomProperties _ := none

def twoLinks : Text := "|cffffffff|Henchant:1|h[a]|h|r|cff9d9d9d|Hitem:1:|h[b]|h|r".toList

end TurtleWow.Chat.Links
