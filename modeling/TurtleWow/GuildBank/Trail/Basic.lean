import TurtleWow.GuildBank.Messages
import TurtleWow.Lib.Lists

namespace TurtleWow.GuildBank

open Util Objects

-- What an item message can do to the entries: a chain of edits, each with the
-- snapshots it queues, and of saves. `Fits` holds of every entry written, and
-- `taken` are the guids in the bank when an entry is created, `none` where no
-- entry may be; `forgets` allows removals from the table alone.

structure SameSlot (new old : BankItem) : Prop where
  guid : new.guid = old.guid
  guildid : new.guildid = old.guildid
  tab : new.tab = old.tab
  slot : new.slot = old.slot

structure Rewritten (new old : BankItem) : Prop extends SameSlot new old where
  state : new.state = .changed
  kind : new.isInferno = old.isInferno

theorem rewritten_count (item : BankItem) (count : Nat) :
    Rewritten { item with count := count, state := .changed } item := ⟨⟨rfl, rfl, rfl, rfl⟩, rfl, rfl⟩

inductive Edit (Fits : BankItem → Prop) (taken : Option (List Nat)) (forgets : Bool) (b : Bank) :
    List BankItem → List BankItem → Prop
  | refill (i : Nat) (old new : BankItem) (hi : b.items[i]? = some old) (hslot : SameSlot new old)
      (hstate : new.state = .changed) (hkind : new.isInferno = old.isInferno ∨ new.isInferno = b.inferno)
      (hfits : Fits new) : Edit Fits taken forgets b (b.items.set i new) [new]
  | move (i : Nat) (old : BankItem) (slot : Nat) (hi : b.items[i]? = some old)
      (hfree : ∀ item ∈ b.items, ¬(item.tab = old.tab ∧ item.slot = slot))
      (hfits : Fits { old with slot := slot, state := .changed }) :
      Edit Fits taken forgets b (b.items.set i { old with slot := slot, state := .changed })
        [{ old with slot := slot, state := .changed }]
  | exchange (i j : Nat) (old other : BankItem) (hi : b.items[i]? = some old)
      (hj : b.items[j]? = some other) (hne : i ≠ j) (htab : old.tab = other.tab)
      (hold : Fits { old with slot := other.slot, state := .changed })
      (hother : Fits { other with slot := old.slot, state := .changed }) :
      Edit Fits taken forgets b
        ((b.items.set i { old with slot := other.slot, state := .changed }).set j
          { other with slot := old.slot, state := .changed })
        [{ old with slot := other.slot, state := .changed }, { other with slot := old.slot, state := .changed }]
  | remove (i : Nat) (old : BankItem) (hi : b.items[i]? = some old) :
      Edit Fits taken forgets b (b.items.eraseIdx i) [{ old with state := .removed }]
  | put (new : BankItem) (hguid : new.guid = b.getNewGuid)
      (htaken : taken = some (b.items.map fun item => item.guid))
      (hguildid : new.guildid = b.guildid)
      (hkind : new.isInferno = b.inferno ∨ ∃ item ∈ b.items, new.isInferno = item.isInferno)
      (hstate : new.state = .new)
      (hfree : ∀ item ∈ b.items, ¬(item.tab = new.tab ∧ item.slot = new.slot)) (hfits : Fits new) :
      Edit Fits taken forgets b (b.items ++ [new]) [new]
  | forget (aux : BankItem) (hforgets : forgets = true) :
      Edit Fits taken forgets b b.items [{ aux with state := .removed }]

def Takes (taken : Option (List Nat)) (s : Session) : Prop :=
  ∀ guids, taken = some guids → s.bank.items.map (fun item => item.guid) = guids

structure Becomes (s s' : Session) (items queue : List BankItem) : Prop where
  items : s'.bank.items = items
  queue : s'.bank.updateQueue = queue
  db : s'.db = s.db
  guildid : s'.bank.guildid = s.bank.guildid
  inferno : s'.bank.inferno = s.bank.inferno
  tabs : s'.bank.tabs = s.bank.tabs

inductive Trail (Fits : BankItem → Prop) (taken : Option (List Nat)) (forgets : Bool) : Session → Session → Prop
  | aside {s s' : Session} (h : Becomes s s' s.bank.items s.bank.updateQueue) : Trail Fits taken forgets s s'
  | edit {s s' : Session} {items snaps : List BankItem} (h : Edit Fits taken forgets s.bank items snaps)
      (hs : Becomes s s' items (s.bank.updateQueue ++ snaps)) : Trail Fits taken forgets s s'
  | save (s : Session) : Trail Fits taken forgets s s.saveToDB
  | trans {s t u : Session} (first : Trail Fits taken forgets s t) (second : Trail Fits taken forgets t u) :
      Trail Fits taken forgets s u

theorem Becomes.reply (s : Session) (r : Reply) : Becomes s (s.reply r) s.bank.items s.bank.updateQueue :=
  ⟨rfl, rfl, rfl, rfl, rfl, rfl⟩

theorem Trail.invariant {Fits : BankItem → Prop} {taken : Option (List Nat)} {forgets : Bool} {P : Session → Prop}
    (haside : ∀ s s', P s → Becomes s s' s.bank.items s.bank.updateQueue → P s')
    (hedit : ∀ s s' items snaps, P s → Edit Fits taken forgets s.bank items snaps →
      Becomes s s' items (s.bank.updateQueue ++ snaps) → P s')
    (hsave : ∀ s, P s → P s.saveToDB) {s s' : Session} (h : Trail Fits taken forgets s s') (hs : P s) : P s' := by
  induction h with
  | aside h => exact haside _ _ hs h
  | edit h hb => exact hedit _ _ _ _ hs h hb
  | save s => exact hsave s hs
  | trans _ _ ih ih' => exact ih' (ih hs)

section

variable {Fits : BankItem → Prop} {taken : Option (List Nat)} {forgets : Bool}

theorem Trail.reply (s : Session) (r : Reply) : Trail Fits taken forgets s (s.reply r) := .aside (.reply s r)

variable {s : Session}

theorem Trail.sameBank {s' : Session} (hbank : s'.bank = s.bank) (hdb : s'.db = s.db) :
    Trail Fits taken forgets s s' :=
  .aside ⟨by rw [hbank], by rw [hbank], hdb, by rw [hbank], by rw [hbank], by rw [hbank]⟩

theorem Trail.ite {t u : Session} {c : Prop} [Decidable c] (ht : c → Trail Fits taken forgets s t)
    (hu : ¬c → Trail Fits taken forgets s u) : Trail Fits taken forgets s (if c then t else u) := by
  split_ifs with h
  · exact ht h
  · exact hu h

theorem Trail.inventory (s : Session) (inv : Inventory) : Trail Fits taken forgets s (s.setInventory inv) :=
  .sameBank rfl rfl

@[simp] theorem Bank.logAction_guildid (b : Bank) (env : Env) (player : Nat) (action : GuildBankAction)
    (tab itemId count : Nat) (bItem : Option BankItem) :
    (b.logAction env player action tab itemId count bItem).guildid = b.guildid := by
  unfold Bank.logAction
  split_ifs <;> rfl

@[simp] theorem Bank.logAction_inferno (b : Bank) (env : Env) (player : Nat) (action : GuildBankAction)
    (tab itemId count : Nat) (bItem : Option BankItem) :
    (b.logAction env player action tab itemId count bItem).inferno = b.inferno := by
  unfold Bank.logAction
  split_ifs <;> rfl

theorem Becomes.logAction (s : Session) (env : Env) (action : GuildBankAction) (tab itemId count : Nat)
    (bItem : Option BankItem) :
    Becomes s (s.logAction env action tab itemId count bItem) s.bank.items s.bank.updateQueue :=
  ⟨by simp, by simp, rfl, by simp, by simp, by simp⟩

theorem Trail.finish {t : Session} (h : Trail Fits taken forgets s t) (env : Env) (action : GuildBankAction)
    (tab itemId count : Nat) (bItem : Option BankItem) :
    Trail Fits taken forgets s (t.logAction env action tab itemId count bItem).saveToDB :=
  .trans (.trans h (.aside (.logAction t env action tab itemId count bItem))) (.save _)

theorem putDeposit_changed {ref : EntryRef} {i : Nat} (hindex : ref.index = some i)
    (hstate : ref.item.state = .changed) :
    Becomes s (s.putDeposit ref) (s.bank.items.set i ref.item) (s.bank.updateQueue ++ [ref.item]) := by
  unfold Session.putDeposit
  dsimp only
  rw [if_neg (by rw [hstate]; decide)]
  unfold Bank.write
  rw [hindex]
  exact ⟨rfl, rfl, rfl, rfl, rfl, rfl⟩

theorem putDeposit_new {item : BankItem} (hstate : item.state = .new) :
    Becomes s (s.putDeposit { index := none, item := item }) (s.bank.items ++ [item])
      (s.bank.updateQueue ++ [item]) := by
  unfold Session.putDeposit
  dsimp only
  rw [if_pos hstate]
  exact ⟨rfl, rfl, rfl, rfl, rfl, rfl⟩

theorem guids_set {items : List BankItem} {i : Nat} {old new : BankItem} (hi : items[i]? = some old)
    (hguid : new.guid = old.guid) :
    (items.set i new).map (fun item => item.guid) = items.map fun item => item.guid :=
  Lists.map_set_same _ hi hguid

theorem Takes.of_guids {s' : Session} (h : Takes taken s)
    (hsame : s'.bank.items.map (fun item => item.guid) = s.bank.items.map fun item => item.guid) :
    Takes taken s' := fun guids htaken => hsame.trans (h guids htaken)

theorem Takes.eq (h : Takes taken s) (hsome : taken.isSome) :
    taken = some (s.bank.items.map fun item => item.guid) := by
  obtain ⟨guids, rfl⟩ := Option.isSome_iff_exists.mp hsome
  rw [h guids rfl]

theorem takes_none (s : Session) : Takes none s := fun _ h => by cases h

theorem takes_self (s : Session) : Takes (some (s.bank.items.map fun item => item.guid)) s :=
  fun _ h => Option.some.inj h

theorem Trail.write {found : EntryRef} {i : Nat} (new : BankItem)
    (hindex : found.index = some i) (hi : s.bank.items[i]? = some found.item)
    (hnew : Rewritten new found.item) (hfits : Fits new) :
    Trail Fits taken forgets s (s.updateBank ((s.bank.write { found with item := new }).enqueue new)) := by
  refine .edit (.refill i found.item new hi hnew.toSameSlot hnew.state (.inl hnew.kind) hfits) ?_
  simp only [Bank.write, hindex]
  exact ⟨rfl, rfl, rfl, rfl, rfl, rfl⟩

theorem Trail.writeBoth {first second : EntryRef} {i j : Nat} (new new' : BankItem)
    (hindex : first.index = some i) (hjndex : second.index = some j)
    (hi : s.bank.items[i]? = some first.item) (hj : s.bank.items[j]? = some second.item) (hne : i ≠ j)
    (hnew : Rewritten new first.item) (hnew' : Rewritten new' second.item) (hfits : Fits new)
    (hfits' : Fits new') :
    Trail Fits taken forgets s (s.updateBank
      ((((s.bank.write { first with item := new }).enqueue new).write { second with item := new' }).enqueue
        new')) := by
  refine (Trail.write new hindex hi hnew hfits).trans ?_
  have hj' : ((s.bank.write { first with item := new }).enqueue new).items[j]? = some second.item := by
    rw [Bank.enqueue_items, Bank.write_item_items hindex, List.getElem?_set_ne hne]
    exact hj
  exact Trail.write (s := s.updateBank ((s.bank.write { first with item := new }).enqueue new)) new' hjndex
    hj' hnew' hfits'

theorem Trail.writeThenRemove {first second : EntryRef} {i j : Nat} (new : BankItem)
    (hindex : first.index = some i) (hjndex : second.index = some j)
    (hi : s.bank.items[i]? = some first.item) (hj : s.bank.items[j]? = some second.item) (hne : i ≠ j)
    (hnew : Rewritten new first.item) (hfits : Fits new) :
    Trail Fits taken forgets s (s.updateBank
      (((((s.bank.write { first with item := new }).enqueue new).write
        { second with item := { second.item with state := .removed } }).enqueue
          { second.item with state := .removed }).deleteItem
            { second with item := { second.item with state := .removed } })) := by
  refine (Trail.write new hindex hi hnew hfits).trans ?_
  have hj' : ((s.bank.write { first with item := new }).enqueue new).items[j]? = some second.item := by
    rw [Bank.enqueue_items, Bank.write_item_items hindex, List.getElem?_set_ne hne]
    exact hj
  refine .edit (.remove j second.item hj') ?_
  simp only [Bank.write, Bank.deleteItem, hindex, hjndex]
  refine ⟨?_, rfl, rfl, rfl, rfl, rfl⟩
  exact List.eraseIdx_set_eq

end

-- Closure of `Fits` under each way an item message computes an entry. `Good`
-- is asked of the items that leave the player's bags, `Amount` of the numbers
-- that a deposit or a split names, `Tab` of the tab of a deposit. Results of
-- fixed-width arithmetic are variables with an equation, as unification would
-- unfold them.
structure Rules (env : Env) (Fits : BankItem → Prop) (Good : Item → Prop) (Amount Tab : Nat → Prop) :
    Prop where
  stackAll : ∀ inferno pItem entry total, Good pItem → Fits entry → entry.itemTemplate = pItem.entry →
    entry.count < entry.maxStackSize → Word.add32 pItem.count entry.count ≤ entry.maxStackSize →
    total = Word.add32 entry.count pItem.count →
    Fits (cloneFromItem env.store inferno { entry with count := total, state := .changed } pItem)
  stackSome : ∀ inferno pItem entry count total, Fits entry → count < 256 →
    entry.itemTemplate = pItem.entry → Word.add32 entry.count count ≤ entry.maxStackSize →
    total = Word.add32 entry.count count →
    Fits (cloneFromItem env.store inferno { entry with count := total, state := .changed } pItem)
  fillUp : ∀ inferno pItem entry total, Fits entry → entry.itemTemplate = pItem.entry →
    total = Word.add32 entry.count (Word.sub32 entry.maxStackSize entry.count) →
    Fits (cloneFromItem env.store inferno { entry with count := total, state := .changed } pItem)
  rest : ∀ pItem entry, Good pItem → Fits entry → entry.itemTemplate = pItem.entry →
    entry.count < entry.maxStackSize → ¬Word.add32 pItem.count entry.count ≤ entry.maxStackSize →
    Good (pItem.setCount (Word.sub32 pItem.count (Word.sub32 entry.maxStackSize entry.count)))
  create : ∀ inferno pItem entry, Tab entry.tab → 1 ≤ entry.slot → entry.slot ≤ bankTabSize →
    (Good pItem ∧ entry.count = pItem.count) ∨
      (Amount entry.count ∧ entry.count ≤ pItem.getMaxStackCount env.store) →
    Fits (cloneFromItem env.store inferno entry pItem)
  swapIn : ∀ inferno pItem entry, Good pItem → Fits entry →
    Fits (cloneFromItem env.store inferno { entry with count := pItem.count, state := .changed } pItem)
  withdrawSome : ∀ entry count left, Fits entry → count ≤ entry.count →
    left = Word.sub32 entry.count count → left ≠ 0 → Fits { entry with count := left, state := .changed }
  withdrawFew : ∀ (pItem : Item) (entry : BankItem) (wanted left : Nat), Fits entry → entry.itemTemplate = pItem.entry →
    wanted ≤ entry.count → pItem.count < (pItem.proto env.store).getMaxStackSize →
    (pItem.proto env.store).getMaxStackSize < Word.add32 wanted pItem.count →
    left = Word.sub32 entry.count (Word.sub32 (pItem.proto env.store).getMaxStackSize pItem.count) →
    left ≠ 0 → Fits { entry with count := left, state := .changed }
  withdrawOver : ∀ entry count left, Fits entry → count < entry.count → entry.count = entry.maxStackSize →
    left = Word.sub32 entry.maxStackSize (Word.sub32 entry.maxStackSize count) → left ≠ 0 →
    Fits { entry with count := left, state := .changed }
  move : ∀ entry slot, Fits entry → 1 ≤ slot → slot ≤ bankTabSize →
    Fits { entry with slot := slot, state := .changed }
  mergeAll : ∀ sItem dItem total, Fits sItem → Fits dItem → sItem.itemTemplate = dItem.itemTemplate →
    Word.add32 sItem.count dItem.count ≤ sItem.maxStackSize →
    total = Word.add32 sItem.count dItem.count → Fits { dItem with count := total, state := .changed }
  mergeFew : ∀ sItem dItem left, Fits sItem → Fits dItem → sItem.itemTemplate = dItem.itemTemplate →
    sItem.count ≠ sItem.maxStackSize → ¬Word.add32 sItem.count dItem.count ≤ sItem.maxStackSize →
    left = Word.sub32 sItem.count (Word.sub32 sItem.maxStackSize dItem.count) →
    Fits { sItem with count := left, state := .changed }
  mergeFull : ∀ dItem, Fits dItem → Fits { dItem with count := dItem.maxStackSize, state := .changed }
  splitOff : ∀ sItem split left, Fits sItem → Amount split → split < 256 →
    0 < Word.i32 (Word.i32 sItem.count - split) → left = Word.toU32 (Word.i32 (Word.i32 sItem.count - split)) →
    Fits { sItem with count := left, state := .changed }
  splitNew : ∀ (sItem : BankItem) (guildid guid slot split : Nat), Fits sItem → Amount split →
    split < sItem.maxStackSize → 1 ≤ slot → slot ≤ bankTabSize →
    Fits { sItem with guildid := guildid, guid := guid, slot := slot, count := split, state := .new }
  splitOver : ∀ sItem dItem left, Fits sItem → Fits dItem → sItem.itemTemplate = dItem.itemTemplate →
    left ≠ 0 → left ≤ sItem.maxStackSize →
    Fits { sItem with count := left, state := .changed } ∧ Fits { dItem with count := left, state := .changed }

theorem Rules.trivial (env : Env) :
    Rules env (fun _ => True) (fun _ => True) (fun _ => True) (fun _ => True) := by
  constructor <;> intros <;> simp

end TurtleWow.GuildBank
