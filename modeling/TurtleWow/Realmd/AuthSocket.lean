import TurtleWow.Lib.Run

namespace TurtleWow.Realmd

-- One connection of the realm daemon. One step is one packet with what the
-- handler reads from the database when it comes, or a login elsewhere.

inductive Status
  | challenge
  | logonProof
  | reconProof
  | patch
  | authed
  | closed
deriving DecidableEq

inductive Command
  | logonChallenge
  | logonProof
  | reconnectChallenge
  | reconnectProof
  | realmList
  | xferAccept
  | xferResume
  | xferCancel
deriving DecidableEq

-- The command table of OnRead
def Command.status : Command → Status
  | .logonChallenge => .challenge
  | .logonProof => .logonProof
  | .reconnectChallenge => .challenge
  | .reconnectProof => .reconProof
  | .realmList => .authed
  | .xferAccept => .patch
  | .xferResume => .patch
  | .xferCancel => .patch

-- A packet that is refused stays at the head of the buffer.
inductive Input
  | «open»
  | stuck
  | closed
deriving DecidableEq

def lockIp : Nat := 0x01
def lockFixedPin : Nat := 0x02
def lockTotp : Nat := 0x04
def lockAlwaysEnforce : Nat := 0x08

def has (flags flag : Nat) : Bool := flags &&& flag = flag

structure Account where
  id : Nat
  shaPassHash : String
  locked : Nat
  lastIp : String
  vs : Option (Nat × Nat)
  security : String
  emailVerif : Bool
  geolockPin : Nat
  joindate : Nat
  rank : Nat
  active : Bool

structure IpBan where
  ip : String
  bandate : Nat
  unbandate : Nat

structure AccountBan where
  id : Nat
  bandate : Nat
  unbandate : Nat
  active : Bool

-- The login database at one moment. `accounts` looks a name up as the collation
-- of the table does, `vs` are the stored v and s when both have their length.
structure Tables where
  now : Nat
  accounts : String → Option Account
  ipBanned : List IpBan
  accountBanned : List AccountBan
  recentLogins : String → Nat
  negativeCoins : Nat → Bool
  twofactorAllowed : String → Nat → Option Nat

namespace Tables

-- The WHERE clauses of the two ban queries
def bansIp (tables : Tables) (address : String) : Bool :=
  tables.ipBanned.any fun ban => (ban.unbandate = ban.bandate || tables.now < ban.unbandate) && ban.ip = address

def bansAccount (tables : Tables) (id : Nat) : Option AccountBan :=
  tables.accountBanned.find? fun ban =>
    ban.id = id && ban.active && (tables.now < ban.unbandate || ban.unbandate = ban.bandate)

end Tables

structure Config where
  cn : Bool
  reqEmailVerification : Bool
  reqEmailSince : Int
  forcePinAccountRank : Int
  validBuild : Nat → Bool

-- The group operations of SRP and the digests, as the handlers compose them
structure Crypto where
  N : Nat
  verifier (shaPassHash : String) (s : Nat) : Nat
  publicKey (v b : Nat) : Nat
  sessionKey (A B v b : Nat) : Nat
  proof (login : String) (s A B K : Nat) : List UInt8
  reconnect (login : String) (R1 : List UInt8) (reconnectProof K : Nat) : List UInt8
  pinHash (serverSalt : Nat) (pin clientSalt : List UInt8) : List UInt8
  token (secret : String) (time : Nat) : Nat

structure LogonChallenge where
  login : String
  build : Nat

structure PinData where
  salt : List UInt8
  hash : List UInt8

-- No PIN data is a packet with the security flags at zero.
structure LogonProof where
  A : Nat
  M1 : List UInt8
  pinData : Option PinData

structure ReconnectProof where
  R1 : List UInt8
  R2 : List UInt8

structure Rand where
  s : Nat
  b : Nat
  gridSeed : Nat
  serverSecuritySalt : Nat

-- `behind` is the memory behind the bytes of M and behind a decimal string.
structure ProofView where
  now : Nat
  patchFound : Bool
  patchSized : Bool
  versionMatches : Bool
  geoLocked : Bool
  behindM : List UInt8
  behindPin : List Char
  behindHash : List Char

inductive Answer
  | logonChallenge (results : List Nat)
  | pinPrompt
  | logonProof (result : Nat)
  | xferInitiate
  | reconnectChallenge
  | reconnectProof (result : Nat)
  | realmList
deriving DecidableEq

def wowSuccess : Nat := 0x00
def wowFailBanned : Nat := 0x03
def wowFailUnknownAccount : Nat := 0x04
def wowFailIncorrectPassword : Nat := 0x05
def wowFailNoTime : Nat := 0x07
def wowFailDbBusy : Nat := 0x08
def wowFailVersionInvalid : Nat := 0x09
def wowFailVersionUpdate : Nat := 0x0A
def wowFailSuspended : Nat := 0x0C
def wowFailParentcontrol : Nat := 0x0F

-- `keyCache` is shared by all connections of the daemon; `sessionkey` is the
-- column of the account table, which only a successful login writes.
structure AuthSocket where
  input : Input
  status : Status
  login : String
  build : Nat
  lockFlags : Nat
  securityInfo : String
  lastIp : String
  geoUnlockPin : Nat
  promptPin : Bool
  gridSeed : Nat
  serverSecuritySalt : Nat
  s : Nat
  v : Nat
  b : Nat
  B : Nat
  K : Nat
  reconnectProof : Nat
  accountId : Nat
  patchOpen : Bool
  answers : List Answer
  keyCache : String → Option (Nat × Nat)
  sessionkey : Nat → Option Nat

inductive Step
  | logonChallenge (packet : LogonChallenge) (tables : Tables) (rand : Rand)
  | logonProof (packet : LogonProof) (view : ProofView)
  | reconnectChallenge (packet : LogonChallenge) (tables : Tables) (rand : Nat)
  | reconnectProof (packet : ReconnectProof) (versionMatches : Bool)
  | realmList (tooSoon : Bool)
  | xferAccept
  | xferResume (inFile : Bool)
  | xferCancel
  | short (command : Command)
  | unknown
  | elsewhere (login : String) (accountId K : Nat)

namespace AuthSocket

-- The address of the peer is known before the first packet.
variable (config : Config) (crypto : Crypto) (address : String)

def accepted (keyCache : String → Option (Nat × Nat)) (sessionkey : Nat → Option Nat) : AuthSocket where
  input := .open
  status := .challenge
  login := ""
  build := 0
  lockFlags := 0
  securityInfo := ""
  lastIp := ""
  geoUnlockPin := 0
  promptPin := false
  gridSeed := 0
  serverSecuritySalt := 0
  s := 0
  v := 0
  b := 0
  B := 0
  K := 0
  reconnectProof := 0
  accountId := 0
  patchOpen := false
  answers := []
  keyCache := keyCache
  sessionkey := sessionkey

section

variable (c : AuthSocket)

def send (answer : Answer) : AuthSocket := { c with answers := c.answers ++ [answer] }

def requiresVerification (account : Account) : Bool :=
  config.reqEmailVerification && (config.reqEmailSince ≤ 0 || config.reqEmailSince ≤ account.joindate)

-- Staff accounts get a PIN.
def enforced (account : Account) : Nat :=
  if config.forcePinAccountRank ≤ account.rank then
    let flags := account.locked ||| lockAlwaysEnforce
    if !has flags lockTotp && !has flags lockFixedPin then flags ||| lockFixedPin else flags
  else account.locked

def prompts (tables : Tables) (account : Account) (lockFlags : Nat) (locked : Bool) : Bool :=
  if config.forcePinAccountRank ≤ account.rank ∨ lockFlags = lockFixedPin then
    match tables.twofactorAllowed address account.id with
    | some expiresAt => expiresAt < tables.now
    | none => true
  else locked || (has lockFlags lockAlwaysEnforce || account.geolockPin ≠ 0)

-- The account part of _HandleLogonChallenge
def challengeAccount (tables : Tables) (rand : Rand) (account : Account) : AuthSocket :=
  if requiresVerification config account && !account.emailVerif then c.send (.logonChallenge [wowFailParentcontrol])
  else
    let lockFlags := enforced config account
    let c := { c with
      lockFlags := lockFlags
      securityInfo := account.security
      lastIp := account.lastIp
      geoUnlockPin := account.geolockPin }
    if !account.active then c.send (.logonChallenge [wowFailIncorrectPassword])
    else if tables.negativeCoins account.id then c.send (.logonChallenge [wowFailNoTime])
    else
      let locked := has lockFlags lockIp && account.lastIp ≠ address
      let secondFactor := has lockFlags lockTotp || has lockFlags lockFixedPin
      if !locked || secondFactor then
        match tables.bansAccount account.id with
        | some ban => c.send (.logonChallenge [if ban.bandate = ban.unbandate then wowFailBanned else wowFailSuspended])
        | none =>
          let (v, s) := account.vs.getD (crypto.verifier account.shaPassHash rand.s, rand.s)
          let promptPin := prompts config address tables account lockFlags locked
          let c := { c with
            s := s
            v := v
            b := rand.b
            B := crypto.publicKey v rand.b
            promptPin := promptPin
            gridSeed := if promptPin then rand.gridSeed else c.gridSeed
            serverSecuritySalt := if promptPin then rand.serverSecuritySalt else c.serverSecuritySalt
            accountId := account.id
            status := .logonProof }
          let c := c.send (.logonChallenge [wowSuccess])
          if promptPin then c.send .pinPrompt else c
      else c.send (.logonChallenge [wowFailSuspended])

def throttleCount : Nat := 15

def handleLogonChallenge (packet : LogonChallenge) (tables : Tables) (rand : Rand) : AuthSocket :=
  let c := { c with status := .closed, login := packet.login, build := packet.build }
  let forbidden := if packet.build = 7070 && config.cn then [wowFailVersionInvalid] else []
  let banned := if tables.bansIp address then [wowFailDbBusy] else []
  if forbidden ++ banned ≠ [] then c.send (.logonChallenge (forbidden ++ banned))
  else if throttleCount ≤ tables.recentLogins address + 1 then c.send (.logonChallenge [wowFailDbBusy])
  else
    match tables.accounts packet.login with
    | none => c.send (.logonChallenge [wowFailUnknownAccount])
    | some account => c.challengeAccount config crypto address tables rand account

-- The grid of the PIN prompt, as the client lays it out
def remapGrid : Nat → Nat → List Nat → List Nat
  | 0, _, _ => []
  | size + 1, seed, grid =>
    let remainder := seed % (size + 1)
    grid.getD remainder 0 :: remapGrid size (seed / (size + 1)) (grid.eraseIdx remainder)

-- The digits of the PIN, as the keys that show them
def pinBytes (gridSeed pin : Nat) : List UInt8 :=
  let grid := remapGrid 10 gridSeed (List.range 10)
  (Nat.toDigits 10 pin).map fun digit => UInt8.ofNat (grid.idxOf (digit.toNat - '0'.toNat) + 0x30)

def validLength (pin : Nat) : Bool := pin ≠ 0 && 4 ≤ (Nat.toDigits 10 pin).length && (Nat.toDigits 10 pin).length ≤ 10

-- The number a BigNumber makes of bytes
def ofBytes (bytes : List UInt8) : Nat := bytes.foldr (fun byte rest => byte.toNat + 256 * rest) 0

def pinNumber (pin : Nat) (data : PinData) : Nat :=
  ofBytes (crypto.pinHash c.serverSecuritySalt (pinBytes c.gridSeed pin) data.salt)

-- AsDecStr, with what lies behind it
def decimals (number : Nat) (behind : List Char) : List Char := Nat.toDigits 10 number ++ Char.ofNat 0 :: behind

def verifyPinData (pin : Nat) (data : PinData) (view : ProofView) : Bool :=
  validLength pin &&
    (decimals (c.pinNumber crypto pin data) view.behindPin).take 20 = (decimals (ofBytes data.hash) view.behindHash).take 20

-- The PINs that the account may enter now. The one of the authenticator is never
-- computed.
def pins (now : Nat) : List Nat :=
  if has c.lockFlags lockFixedPin then
    [crypto.token c.securityInfo (now - 30), crypto.token c.securityInfo now, crypto.token c.securityInfo (now + 30)]
  else if has c.lockFlags lockTotp then [0]
  else if c.geoUnlockPin ≠ 0 then [c.geoUnlockPin]
  else []

def pinResult (packet : LogonProof) (view : ProofView) : Bool :=
  !c.promptPin ||
    match packet.pinData with
    | none => false
    | some data => (c.pins crypto view.now).any fun pin => c.verifyPinData crypto pin data view

-- AsByteArray loses the zeros at the end of a digest.
def asByteArray (digest : List UInt8) : List UInt8 := (digest.reverse.dropWhile (· = 0)).reverse

def sessionKey (packet : LogonProof) : Nat := crypto.sessionKey packet.A c.B c.v c.b

-- The M of the server
def serverM (packet : LogonProof) : List UInt8 :=
  crypto.proof c.login c.s packet.A c.B (c.sessionKey crypto packet)

def matchesM (packet : LogonProof) (view : ProofView) : Bool :=
  (asByteArray (c.serverM crypto packet) ++ view.behindM).take 20 = packet.M1

def loggedIn (login : String) (accountId K : Nat) : AuthSocket :=
  { c with
    keyCache := fun other => if other = login then some (K, accountId) else c.keyCache other
    sessionkey := fun id => if id = accountId then some K else c.sessionkey id }

def handleLogonProof (packet : LogonProof) (view : ProofView) : AuthSocket × Bool :=
  let c := { c with status := .closed }
  if !config.validBuild c.build then
    if c.patchOpen then (c, false)
    else if !view.patchFound then (c.send (.logonChallenge [wowFailVersionInvalid]), true)
    else if !view.patchSized then ({ c with patchOpen := true }, false)
    else
      ({ (c.send (.logonProof wowFailVersionUpdate)).send .xferInitiate with patchOpen := true, status := .patch }, true)
  else if packet.A % crypto.N = 0 then (c, false)
  else
    let K := c.sessionKey crypto packet
    let c := { c with K := K }
    if c.matchesM crypto packet view && c.pinResult crypto packet view then
      if !view.versionMatches then (c.send (.logonProof wowFailVersionInvalid), true)
      else if c.geoUnlockPin = 0 && view.geoLocked then (c.send (.logonProof wowFailParentcontrol), true)
      else ({ (c.loggedIn c.login c.accountId K).send (.logonProof wowSuccess) with status := .authed }, true)
    else (c.send (.logonProof wowFailUnknownAccount), true)

-- The reconnect takes the key from the cache and asks no table.
def handleReconnectChallenge (packet : LogonChallenge) (rand : Nat) : AuthSocket × Bool :=
  let c := { c with status := .closed, login := packet.login, build := packet.build }
  match c.keyCache packet.login with
  | none => (c, false)
  | some (K, accountId) =>
    ({ c.send .reconnectChallenge with
      K := K
      accountId := accountId
      reconnectProof := rand
      status := .reconProof }, true)

def handleReconnectProof (packet : ReconnectProof) (versionMatches : Bool) : AuthSocket × Bool :=
  let c := { c with status := .closed }
  if c.login = "" ∨ c.reconnectProof = 0 ∨ c.K = 0 then (c, false)
  else if crypto.reconnect c.login packet.R1 c.reconnectProof c.K = packet.R2 then
    if !versionMatches then (c.send (.reconnectProof wowFailVersionInvalid), true)
    else ({ c.send (.reconnectProof wowSuccess) with status := .authed }, true)
  else (c, false)

def handleRealmList (tooSoon : Bool) : AuthSocket × Bool :=
  if c.accountId = 0 ∨ tooSoon then (c, false) else (c.send .realmList, true)

-- InitPatch gives the file away. When that fails it closes the connection, as
-- XferCancel does, and what is in the buffer is still read.
def initPatch : AuthSocket × Bool := ({ c with patchOpen := false }, true)

def handleXferResume (inFile : Bool) : AuthSocket × Bool :=
  if !c.patchOpen || !inFile then (c, false) else c.initPatch

-- OnRead for one packet
def read (command : Command) (handler : AuthSocket → AuthSocket × Bool) : AuthSocket :=
  if c.input ≠ .open then c
  else if command.status ≠ c.status then { c with input := .stuck }
  else if (handler c).2 then (handler c).1
  else { (handler c).1 with input := .closed }

def step : Step → AuthSocket
  | .logonChallenge packet tables rand =>
    c.read .logonChallenge fun c => (c.handleLogonChallenge config crypto address packet tables rand, true)
  | .logonProof packet view => c.read .logonProof fun c => c.handleLogonProof config crypto packet view
  | .reconnectChallenge packet _ rand => c.read .reconnectChallenge fun c => c.handleReconnectChallenge packet rand
  | .reconnectProof packet versionMatches =>
    c.read .reconnectProof fun c => c.handleReconnectProof crypto packet versionMatches
  | .realmList tooSoon => c.read .realmList fun c => c.handleRealmList tooSoon
  | .xferAccept => c.read .xferAccept initPatch
  | .xferResume inFile => c.read .xferResume fun c => c.handleXferResume inFile
  | .xferCancel => c.read .xferCancel fun c => (c, true)
  | .short command => c.read command fun c => (c, false)
  | .unknown => if c.input = .open then { c with input := .stuck } else c
  | .elsewhere login accountId K => c.loggedIn login accountId K

end

end AuthSocket

end TurtleWow.Realmd
