import TurtleWow.Auction.AuctionEntry
import TurtleWow.Objects.Item

namespace TurtleWow.Auction

open Objects

-- The auction handlers of a session and the manager's update, with the money of
-- the players, the items they carry and the mails that are sent.

inductive MailAuctionAnswers where
  | outbidded
  | won
  | successful
  | expired
  | cancelledToBidder
  | canceled
deriving DecidableEq

structure Mail where
  receiver : Nat
  auctionId : Nat
  itemTemplate : Nat
  answer : MailAuctionAnswers
  money : Nat
  item : Option Nat
deriving DecidableEq

inductive AuctionError where
  | inventory
  | database
  | notEnoughMoney
  | itemNotFound
  | higherBid
  | bidIncrement
  | bidOwn
deriving DecidableEq

-- What a handler finds outside the auctions: accounts and sessions, the checks
-- on the session, the auctioneer and the item, and the clocks
structure Env where
  playerAccount : Nat → Nat
  online : Nat → Bool
  hardcore : Nat → Bool
  suspicious : Bool
  tradesAllowed : Bool
  auctionHouseEntry : Option AuctionHouseEntry
  sellable : Bool
  remoteAddress : String
  time : Nat
  gameTime : Nat

structure World (n : Nat) where
  money : OrderedMap Nat Nat
  -- Whose inventory an item lies in
  carried : Nat → Option (Nat × Item)
  aItems : Nat → Option Item
  houses : Fin n → AuctionHouseObject
  auctionsIds : OrderedMap Nat Unit
  nextAuctionId : Nat
  mails : List Mail

def Env.receives (env : Env) (player : Nat) : Bool :=
  (env.online player || env.playerAccount player ≠ 0) && !env.hardcore player

-- ObjectMgr::GenerateAuctionID, over the ids in use from the next one on
def skipUsed : List Nat → Nat → Nat
  | [], next => next
  | id :: rest, next => if id = next then skipUsed rest (next + 1) else next

namespace World

variable {n : Nat} (w : World n)

def getMoney (player : Nat) : Nat := (w.money.find player).getD 0

def modifyMoney (player : Nat) (d : Int) : World n :=
  { w with money := w.money.insert player (Objects.modifyMoney (w.getMoney player) d) }

def generateAuctionId : Nat := skipUsed (w.auctionsIds.keys.filter fun id => w.nextAuctionId ≤ id) w.nextAuctionId

def send (mail : Mail) : World n := { w with mails := w.mails ++ [mail] }

def addAItem (guid : Nat) (item : Item) : World n := { w with aItems := Function.update w.aItems guid (some item) }

def removeAItem (guid : Nat) : World n := { w with aItems := Function.update w.aItems guid none }

def setHouse (index : Fin n) (house : AuctionHouseObject) : World n :=
  { w with houses := Function.update w.houses index house }

def getAuction (index : Fin n) (id : Nat) : Option AuctionEntry := (w.houses index).getAuction id

def setAuction (index : Fin n) (auction : AuctionEntry) : World n :=
  w.setHouse index { w.houses index with auctionsMap := (w.houses index).auctionsMap.insert auction.id auction }

def addAuction (index : Fin n) (auction : AuctionEntry) : World n :=
  { w.setHouse index ((w.houses index).addAuction auction) with
    auctionsIds := w.auctionsIds.insert auction.id ()
    nextAuctionId := auction.id + 1 }

def removeAuction (index : Fin n) (auction : AuctionEntry) : World n :=
  { w.setHouse index ((w.houses index).removeAuction auction) with
    auctionsIds := if (w.getAuction index auction.id).isSome then w.auctionsIds.erase auction.id else w.auctionsIds }

def sendAuctionMail (env : Env) (auction : AuctionEntry) (receiver : Nat) (answer : MailAuctionAnswers)
    (money : Nat) : World n :=
  if env.receives receiver then
    w.send ⟨receiver, auction.id, auction.itemTemplate, answer, money, none⟩
  else w

def sendAuctionOutbiddedMail (env : Env) (auction : AuctionEntry) : World n :=
  w.sendAuctionMail env auction auction.bidder .outbidded auction.bid

def sendAuctionCancelledToBidderMail (env : Env) (auction : AuctionEntry) : World n :=
  w.sendAuctionMail env auction auction.bidder .cancelledToBidder auction.bid

def sendAuctionSuccessfulMail (s : Settings n) (env : Env) (auction : AuctionEntry) : World n :=
  w.sendAuctionMail env auction auction.owner .successful (auction.profit s.rateAuctionCut)

def sendAuctionItem (env : Env) (auction : AuctionEntry) (receiver : Nat) (answer : MailAuctionAnswers) : World n :=
  match w.aItems auction.itemGuidLow with
  | none => w
  | some _ =>
    if env.receives receiver then
      let w := if env.online receiver then w else w.removeAItem auction.itemGuidLow
      w.send ⟨receiver, auction.id, auction.itemTemplate, answer, 0, some auction.itemGuidLow⟩
    else w.removeAItem auction.itemGuidLow

def sendAuctionWonMail (env : Env) (auction : AuctionEntry) : World n :=
  w.sendAuctionItem env auction auction.bidder .won

def sendAuctionExpiredMail (env : Env) (auction : AuctionEntry) : World n :=
  w.sendAuctionItem env auction auction.owner .expired

end World

def auctionTimes : List Nat := [minAuctionTime, 4 * minAuctionTime, 12 * minAuctionTime]

namespace World

variable {n : Nat} (s : Settings n) (w : World n) (env : Env)

def listAuction (player : Nat) (index : Fin n) (entry : AuctionHouseEntry) (itemGuid : Nat) (item : Item)
    (bid buyout etime : Nat) : World n :=
  let deposit := getAuctionDeposit s entry etime item
  let auction : AuctionEntry :=
    { id := w.generateAuctionId, itemGuidLow := itemGuid, itemTemplate := item.proto.itemId, owner := player,
      ownerAccount := env.playerAccount player, startbid := bid, bid := 0, buyout := buyout,
      lockedIpAddress := env.remoteAddress, depositTime := env.time,
      expireTime := env.time + toUint32 (etime * s.rateAuctionTime), bidder := 0, deposit := deposit,
      auctionHouseEntry := entry }
  let w := w.modifyMoney player (-(Word.i32 deposit))
  let w := (w.addAuction index auction).addAItem itemGuid item
  { w with carried := Function.update w.carried itemGuid none }

def handleAuctionSellItem (player itemGuid bid buyout etime : Nat) : Except (Option AuctionError) (World n) :=
  if bid = 0 ∨ etime = 0 ∨ env.suspicious then .error none
  else if 2000000000 < bid ∨ 2000000000 < buyout then .error none
  else if buyout ≠ 0 ∧ buyout < bid then .error none
  else if env.tradesAllowed = false then .error none
  else
    match env.auctionHouseEntry with
    | none => .error none
    | some entry =>
      let index := s.auctionHouses entry.houseId
      let limit := s.accountConcurrentAuctionLimit
      if limit ≠ 0 ∧ limit ≤ (w.houses index).getAccountAuctionCount (env.playerAccount player) then
        .error (some .database)
      else
        let etime := Word.u32 (etime * 60)
        if etime ∉ auctionTimes then .error none
        else if (w.aItems itemGuid).isSome then .error (some .inventory)
        else
          match w.carried itemGuid with
          | none => .error (some .inventory)
          | some (holder, item) =>
            if holder ≠ player then .error (some .inventory)
            else if env.sellable = false then .error (some .inventory)
            else if w.getMoney player < getAuctionDeposit s entry etime item then .error (some .notEnoughMoney)
            else .ok (w.listAuction s env player index entry itemGuid item bid buyout etime)

end World

namespace AuctionEntry

variable (auction : AuctionEntry)

-- What HandleAuctionPlaceBid answers to a price, `none` where it takes it
def bidRefused (money price : Nat) : Option (Option AuctionError) :=
  if price < auction.startbid then some none
  else if price ≤ auction.bid then some (some .higherBid)
  else if (price < auction.buyout ∨ auction.buyout = 0) ∧
      price < Word.add32 auction.bid auction.getAuctionOutBid then some (some .bidIncrement)
  else if money < price then some none
  else none

def isBid (price : Nat) : Bool := price < auction.buyout ∨ auction.buyout = 0

def placed (player price : Nat) : AuctionEntry :=
  { auction with bidder := player, bid := if auction.isBid price then price else auction.buyout }

end AuctionEntry

namespace World

variable {n : Nat} (s : Settings n) (w : World n) (env : Env)

def payBid (player : Nat) (auction : AuctionEntry) (bid : Nat) : World n :=
  if player = auction.bidder then w.modifyMoney player (-(Word.i32 (Word.sub32 bid auction.bid)))
  else
    let w := w.modifyMoney player (-(Word.i32 bid))
    if auction.bidder ≠ 0 then w.sendAuctionOutbiddedMail env auction else w

def sellAuction (index : Fin n) (auction : AuctionEntry) : World n :=
  let w := (w.sendAuctionSuccessfulMail s env auction).sendAuctionWonMail env auction
  (w.removeAItem auction.itemGuidLow).removeAuction index auction

def placeBid (player : Nat) (index : Fin n) (auction : AuctionEntry) (price : Nat) : World n :=
  let placed := auction.placed player price
  let w := (w.payBid env player auction placed.bid).setAuction index placed
  if auction.isBid price then w else w.sellAuction s env index placed

def handleAuctionPlaceBid (player auctionId price : Nat) : Except (Option AuctionError) (World n) :=
  if env.tradesAllowed = false then .error none
  else if auctionId = 0 ∨ price = 0 then .error none
  else
    match env.auctionHouseEntry with
    | none => .error none
    | some entry =>
      if env.suspicious then .error none
      else
        let index := s.auctionHouses entry.houseId
        match w.getAuction index auctionId with
        | none => .error (some .itemNotFound)
        | some auction =>
          if auction.owner = player then .error (some .bidOwn)
          else if env.online auction.owner = false ∧
              env.playerAccount auction.owner = env.playerAccount player then .error (some .bidOwn)
          else
            match auction.bidRefused (w.getMoney player) price with
            | some error => .error error
            | none => .ok (w.placeBid s env player index auction price)

-- The owner pays the cut of the bid that is returned, and has his item back.
def cancelAuction (player : Nat) (index : Fin n) (auction : AuctionEntry) : World n :=
  let w :=
    if 0 < auction.bidder then
      (w.sendAuctionCancelledToBidderMail env auction).modifyMoney player
        (-(Word.i32 (auction.getAuctionCut s.rateAuctionCut)))
    else w
  let w := w.send ⟨player, auction.id, auction.itemTemplate, .canceled, 0, some auction.itemGuidLow⟩
  (w.removeAItem auction.itemGuidLow).removeAuction index auction

def handleAuctionRemoveItem (player auctionId : Nat) : Except (Option AuctionError) (World n) :=
  match env.auctionHouseEntry with
  | none => .error none
  | some entry =>
    let index := s.auctionHouses entry.houseId
    match w.getAuction index auctionId with
    | none => .error (some .database)
    | some auction =>
      if auction.owner ≠ player then .error (some .database)
      else
        match w.aItems auction.itemGuidLow with
        | none => .error (some .inventory)
        | some _ =>
          if 0 < auction.bidder ∧ w.getMoney player < auction.getAuctionCut s.rateAuctionCut then .error none
          else .ok (w.cancelAuction s env player index auction)

-- One auction's part of AuctionHouseObject::Update. An auction is locked on an
-- address for its first five minutes.
def expireAuction (index : Fin n) (w : World n) (auction : AuctionEntry) : World n :=
  let auction :=
    if auction.depositTime + 300 < env.gameTime then { auction with lockedIpAddress := "" } else auction
  let w := w.setAuction index auction
  if auction.expireTime < env.gameTime then
    if auction.bidder = 0 then
      ((w.sendAuctionExpiredMail env auction).removeAItem auction.itemGuidLow).removeAuction index auction
    else w.sellAuction s env index auction
  else w

def updateHouse (w : World n) (index : Fin n) : World n :=
  ((w.houses index).auctionsMap.entries.map Prod.snd).foldl (expireAuction s env index) w

def update : World n := (List.finRange n).foldl (updateHouse s env) w

end World

inductive Step where
  | sellItem (env : Env) (player itemGuid bid buyout etime : Nat)
  | placeBid (env : Env) (player auctionId price : Nat)
  | removeItem (env : Env) (player auctionId : Nat)
  | update (env : Env)

namespace World

variable {n : Nat}

def answered (w : World n) : Except (Option AuctionError) (World n) → World n
  | .ok after => after
  | .error _ => w

def step (s : Settings n) (w : World n) : Step → World n
  | .sellItem env player itemGuid bid buyout etime =>
    w.answered (w.handleAuctionSellItem s env player itemGuid bid buyout etime)
  | .placeBid env player auctionId price => w.answered (w.handleAuctionPlaceBid s env player auctionId price)
  | .removeItem env player auctionId => w.answered (w.handleAuctionRemoveItem s env player auctionId)
  | .update env => w.update s env

end World

end TurtleWow.Auction
