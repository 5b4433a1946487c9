import TurtleWow.Lib.Run

namespace TurtleWow.Shop

-- The shop coins of one account. One step is a request, one statement of the
-- shop worker, one task run by the world, or one statement run by a delay
-- thread of the login database.

structure ShopRequest where
  guidLow : Nat
  itemId : Nat
deriving DecidableEq

structure ShopLogEntry where
  id : Nat
  charGuid : Nat
  itemEntry : Nat
  itemPrice : Nat
  refunded : Bool
deriving DecidableEq

structure ShopSendItemTask where
  guidLow : Nat
  itemId : Nat
  shopId : Nat
  price : Nat
deriving DecidableEq

inductive Answer
  | balance (coins : Int)
  | buyResult (message : String)
deriving DecidableEq

inductive Statement
  | insertCoins
  | addCoins (purchase : ShopSendItemTask)
  | setRefunded (shopId : Nat)
deriving DecidableEq

inductive Worker
  | idle
  | balance
  | reading (request : ShopRequest) (price : Nat)
  | updating (purchase : ShopSendItemTask) (newBalance : Int)
  | inserting (purchase : ShopSendItemTask) (newBalance : Int)
  | checking (purchase : ShopSendItemTask) (newBalance : Int)
deriving DecidableEq

-- `coins` is the row of shop_coins. The last three fields are a record of what
-- happened: the purchases that were paid, the items stored, the refunds done.
structure ShopMgr where
  coins : Option Int
  shopLogs : List ShopLogEntry
  shopLogsLookup : Nat → Option ShopLogEntry
  maxShopEntry : Nat
  pendingRequests : List ShopRequest
  requests : List ShopRequest
  worker : Worker
  tasks : List ShopSendItemTask
  delayQueue : List Statement
  answers : List Answer
  paid : List ShopSendItemTask
  delivered : List ShopSendItemTask
  refunded : List ShopSendItemTask

-- What a task meets in the world: the session, its player in the world, and
-- the answer of CanStoreNewItem
structure View where
  session : Bool
  inWorld : Bool
  guidLow : Nat
  canStore : Bool
  noSpaceForCount : Nat
  destEmpty : Bool

inductive Step
  | requestBalance
  | requestPurchase (guidLow itemId : Nat) (refused : Bool)
  | swapRequests
  | nextRequest
  | statement (ok : Bool)
  | sendItem (i : Nat) (view : View)
  | execute (i : Nat) (ok : Bool)

def intMax : Int := 2147483647

namespace ShopMgr

def initialized (coins : Option Int) (shopLogs : List ShopLogEntry) (shopLogsLookup : Nat → Option ShopLogEntry)
    (maxShopEntry : Nat) : ShopMgr where
  coins := coins
  shopLogs := shopLogs
  shopLogsLookup := shopLogsLookup
  maxShopEntry := maxShopEntry
  pendingRequests := []
  requests := []
  worker := .idle
  tasks := []
  delayQueue := []
  answers := []
  paid := []
  delivered := []
  refunded := []

def answer (c : ShopMgr) (message : Answer) : ShopMgr := { c with answers := c.answers ++ [message] }

def request (c : ShopMgr) (wanted : ShopRequest) : ShopMgr :=
  if wanted ∈ c.pendingRequests then c else { c with pendingRequests := c.pendingRequests ++ [wanted] }

-- A balance request has no item; another one waiting is enough.
def requestBalance (c : ShopMgr) : ShopMgr :=
  if c.pendingRequests.any fun waiting => waiting.itemId = 0 then c
  else { c with pendingRequests := c.pendingRequests ++ [⟨0, 0⟩] }

-- `refused` is the answer of the checks on the player that buys an egg.
def requestPurchase (c : ShopMgr) (guidLow itemId : Nat) (refused : Bool) : ShopMgr :=
  if itemId = 92010 ∧ refused then c else c.request ⟨guidLow, itemId⟩

-- The value GetBalance returns; a query that fails gives no row either.
def getBalance (c : ShopMgr) (ok : Bool) : Int := if ok then c.coins.getD 0 else 0

def queryBalance (c : ShopMgr) (ok : Bool) : ShopMgr :=
  if ok ∧ c.coins.isSome then c else { c with delayQueue := c.delayQueue ++ [.insertCoins] }

def entry (purchase : ShopSendItemTask) : ShopLogEntry :=
  ⟨purchase.shopId, purchase.guidLow, purchase.itemId, purchase.price, false⟩

def done (c : ShopMgr) (message : String) : ShopMgr := { c.answer (.buyResult message) with worker := .idle }

-- BuyItem from one statement to the next
def statement (c : ShopMgr) (ok : Bool) : ShopMgr :=
  match c.worker with
  | .idle => c
  | .balance => { (c.queryBalance ok).answer (.balance (c.getBalance ok)) with worker := .idle }
  | .reading request price =>
    let coins := c.getBalance ok
    let c := c.queryBalance ok
    if coins > 0 then
      let newBalance := coins - price
      if newBalance ≥ 0 ∧ newBalance < intMax then
        { c with
          maxShopEntry := c.maxShopEntry + 1
          worker := .updating ⟨request.guidLow, request.itemId, c.maxShopEntry + 1, price⟩ newBalance }
      else c.done "notenoughtokens"
    else c.done "notenoughtokens"
  | .updating purchase newBalance =>
    if ok then
      { c with
        coins := c.coins.map fun _ => newBalance
        worker := .inserting purchase newBalance
        paid := c.paid ++ [purchase] }
    else c.done "dberrorcantprocess"
  | .inserting purchase newBalance =>
    if ok ∧ ∀ row ∈ c.shopLogs, row.id ≠ purchase.shopId then
      { c with shopLogs := c.shopLogs ++ [entry purchase], worker := .checking purchase newBalance }
    else c.done "dberrorcantprocess"
  | .checking purchase newBalance =>
    if c.getBalance ok ≠ newBalance then (c.queryBalance ok).done "dberrorcantprocess"
    else
      { c.queryBalance ok with
        shopLogsLookup := fun id => if id = purchase.shopId then some (entry purchase) else c.shopLogsLookup id
        worker := .idle
        tasks := c.tasks ++ [purchase] }

-- None is a failed assertion, which ends the server.
def refundPurchase (c : ShopMgr) (purchase : ShopSendItemTask) : Option ShopMgr :=
  match c.shopLogsLookup purchase.shopId with
  | none => none
  | some entry =>
    if entry.refunded then none
    else some
      { c with
        shopLogsLookup := fun id =>
          if id = purchase.shopId then some { entry with refunded := true } else c.shopLogsLookup id
        delayQueue := c.delayQueue ++ [.addCoins purchase, .setRefunded purchase.shopId] }

def reaches (purchase : ShopSendItemTask) (view : View) : Bool :=
  view.session && view.inWorld && view.guidLow = purchase.guidLow

def stores (view : View) : Bool :=
  let count : Int := if view.canStore then 1 else 1 - view.noSpaceForCount
  !(count = 0 || view.destEmpty)

def sendItem (c : ShopMgr) (purchase : ShopSendItemTask) (view : View) : Option ShopMgr :=
  if reaches purchase view then
    if stores view then some ({ c with delivered := c.delivered ++ [purchase] }.answer (.buyResult "ok"))
    else (c.refundPurchase purchase).map (·.answer (.buyResult "bagsfulloralreadyhaveitem"))
  else c.refundPurchase purchase

def perform (c : ShopMgr) : Statement → ShopMgr
  | .insertCoins => { c with coins := some (c.coins.getD 0) }
  | .addCoins purchase =>
    match c.coins with
    | none => c
    | some coins => { c with coins := some (coins + purchase.price), refunded := c.refunded ++ [purchase] }
  | .setRefunded shopId =>
    { c with shopLogs := c.shopLogs.map fun row => if row.id = shopId then { row with refunded := true } else row }

variable (prices : Nat → Option Nat)

section

variable (c : ShopMgr)

def buyItem (request : ShopRequest) : ShopMgr :=
  match prices request.itemId with
  | none => c.answer (.buyResult "itemnotinshop")
  | some price => { c with worker := .reading request price }

def nextRequest : ShopMgr :=
  match c.worker, c.requests with
  | .idle, request :: rest =>
    let c := { c with requests := rest }
    if request.itemId ≠ 0 then c.buyItem prices request else { c with worker := .balance }
  | _, _ => c

def swapRequests : ShopMgr :=
  if c.worker = .idle ∧ c.requests = [] then { c with requests := c.pendingRequests, pendingRequests := [] } else c

def step : Step → ShopMgr
  | .requestBalance => c.requestBalance
  | .requestPurchase guidLow itemId refused => c.requestPurchase guidLow itemId refused
  | .swapRequests => c.swapRequests
  | .nextRequest => c.nextRequest prices
  | .statement ok => c.statement ok
  | .sendItem i view =>
    match c.tasks[i]? with
    | none => c
    | some purchase => ({ c with tasks := c.tasks.eraseIdx i }.sendItem purchase view).getD c
  | .execute i ok =>
    match c.delayQueue[i]? with
    | none => c
    | some waiting =>
      let c := { c with delayQueue := c.delayQueue.eraseIdx i }
      if ok then c.perform waiting else c

def Processed : Prop :=
  c.pendingRequests = [] ∧ c.requests = [] ∧ c.worker = .idle ∧ c.tasks = [] ∧ c.delayQueue = []

end

instance (c : ShopMgr) : Decidable c.Processed := by unfold Processed; infer_instance

def balance (c : ShopMgr) : Int := c.coins.getD 0

def spent (purchases : List ShopSendItemTask) : Int := (purchases.map fun purchase => (purchase.price : Int)).sum

end ShopMgr

end TurtleWow.Shop
