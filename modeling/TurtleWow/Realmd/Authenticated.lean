import TurtleWow.Realmd.Handlers

namespace TurtleWow.Realmd

open Run

-- How a connection comes to be authenticated

namespace AuthSocket

variable (config : Config) (crypto : Crypto) (address : String)

def ValidPin (c : AuthSocket) (packet : LogonProof) (view : ProofView) : Prop :=
  ∃ data, packet.pinData = some data ∧
    ∃ pin ∈ c.pins crypto view.now, validLength pin = true ∧ c.pinNumber crypto pin data = ofBytes data.hash

-- The digest and the PIN are compared as a whole: the memory behind M holds the
-- zeros it lost, and numbers that agree in twenty digits are one.
structure Exact (c : AuthSocket) (packet : LogonProof) (view : ProofView) : Prop where
  digest : (asByteArray (c.serverM crypto packet) ++ view.behindM).take 20 = c.serverM crypto packet
  pin : c.promptPin = true → ∀ data, packet.pinData = some data → ∀ pin ∈ c.pins crypto view.now,
    c.verifyPinData crypto pin data view = true → c.pinNumber crypto pin data = ofBytes data.hash

-- The cache has the key of the last login of an account that is not banned.
def Cleared (c : AuthSocket) (tables : Tables) (login : String) : Prop :=
  ∀ K accountId, c.keyCache login = some (K, accountId) →
    tables.bansAccount accountId = none ∧ tables.bansIp address = false ∧ c.sessionkey accountId = some K

def Meets (c : AuthSocket) : Step → Prop
  | .logonProof packet view => c.input = .open → c.status = .logonProof → c.Exact crypto packet view
  | .reconnectChallenge packet tables _ =>
    c.input = .open → c.status = .challenge → c.Cleared address tables packet.login
  | _ => True

section

variable (start : AuthSocket)

-- The challenge was for an account that is not banned, and the proof that followed
-- had the M of the server and the PIN it asked for.
def ByLogon (steps : List Step) : Prop :=
  ∃ before challenge tables rand middle proof view after,
    steps = before ++ .logonChallenge challenge tables rand :: (middle ++ .logonProof proof view :: after) ∧
      ∃ account, tables.accounts challenge.login = some account ∧ tables.bansAccount account.id = none ∧
        tables.bansIp address = false ∧
        let asked := run (step config crypto address) start (before ++ .logonChallenge challenge tables rand :: middle)
        asked.login = challenge.login ∧ asked.accountId = account.id ∧ proof.M1 = asked.serverM crypto proof ∧
          (asked.promptPin = true → asked.ValidPin crypto proof view)

-- The reconnect challenge was for an account that is not banned, and the proof
-- that followed was the digest over the key of its last login.
def ByReconnect (steps : List Step) : Prop :=
  ∃ before challenge tables rand middle proof versionMatches after,
    steps = before ++ .reconnectChallenge challenge tables rand :: (middle ++ .reconnectProof proof versionMatches :: after) ∧
      ∃ K accountId, (run (step config crypto address) start before).keyCache challenge.login = some (K, accountId) ∧
        (run (step config crypto address) start before).sessionkey accountId = some K ∧
        tables.bansAccount accountId = none ∧ tables.bansIp address = false ∧
        let asked := run (step config crypto address) start (before ++ .reconnectChallenge challenge tables rand :: middle)
        asked.login = challenge.login ∧ asked.accountId = accountId ∧
          proof.R2 = crypto.reconnect challenge.login proof.R1 asked.reconnectProof K

-- What a challenge leaves for the proof to come
def Challenged (steps : List Step) (c : AuthSocket) : Prop :=
  ∃ before challenge tables rand middle account, steps = before ++ .logonChallenge challenge tables rand :: middle ∧
    tables.accounts challenge.login = some account ∧ tables.bansAccount account.id = none ∧
    tables.bansIp address = false ∧ c.login = challenge.login ∧ c.accountId = account.id

def Reconnecting (steps : List Step) (c : AuthSocket) : Prop :=
  ∃ before challenge tables rand middle K accountId,
    steps = before ++ .reconnectChallenge challenge tables rand :: middle ∧
      (run (step config crypto address) start before).keyCache challenge.login = some (K, accountId) ∧
      (run (step config crypto address) start before).sessionkey accountId = some K ∧
      tables.bansAccount accountId = none ∧ tables.bansIp address = false ∧
      c.login = challenge.login ∧ c.accountId = accountId ∧ c.K = K

def Authenticated (steps : List Step) : Prop :=
  ByLogon config crypto address start steps ∨ ByReconnect config crypto address start steps

end

-- Each status has its past in the run.
structure Traced (start : AuthSocket) (steps : List Step) (c : AuthSocket) : Prop where
  logonProof : c.status = .logonProof → Challenged address steps c
  reconProof : c.status = .reconProof → Reconnecting config crypto address start steps c
  authed : c.status = .authed → Authenticated config crypto address start steps
  realmList : .realmList ∈ c.answers → Authenticated config crypto address start steps

variable {config crypto address} {c : AuthSocket} {steps : List Step} {start : AuthSocket}

theorem ofPin {packet : LogonProof} {view : ProofView} (hexact : c.Exact crypto packet view)
    (h : c.pinResult crypto packet view = true) (hprompt : c.promptPin = true) : c.ValidPin crypto packet view := by
  rw [pinResult, hprompt] at h
  cases hdata : packet.pinData with
  | none => rw [hdata] at h; cases h
  | some data =>
    rw [hdata] at h
    obtain ⟨pin, hpin, hverify⟩ := List.any_eq_true.mp (by simpa using h)
    refine ⟨data, hdata, pin, hpin, ?_, hexact.pin hprompt data hdata pin hpin hverify⟩
    rw [verifyPinData, Bool.and_eq_true] at hverify
    exact hverify.1

-- A logon proof leads to the authenticated status with the M of the server and a
-- valid PIN only.
theorem handleLogonProof_cases (packet : LogonProof) (view : ProofView) (hexact : c.Exact crypto packet view) :
    (c.handleLogonProof config crypto packet view).1.status = .closed ∨
      (c.handleLogonProof config crypto packet view).1.status = .patch ∨
      (c.handleLogonProof config crypto packet view).1.status = .authed ∧
        packet.M1 = c.serverM crypto packet ∧ (c.promptPin = true → c.ValidPin crypto packet view) := by
  unfold handleLogonProof
  dsimp only
  split
  · split
    · exact .inl rfl
    · split
      · exact .inl rfl
      · split
        · exact .inl rfl
        · exact .inr (.inl rfl)
  · split
    · exact .inl rfl
    · split
      · next hmatch =>
          split
          · exact .inl rfl
          · split
            · exact .inl rfl
            · rw [Bool.and_eq_true] at hmatch
              refine .inr (.inr ⟨rfl, ?_, fun hprompt => ofPin hexact hmatch.2 hprompt⟩)
              have hM : (asByteArray (c.serverM crypto packet) ++ view.behindM).take 20 = packet.M1 :=
                of_decide_eq_true hmatch.1
              rw [← hM, hexact.digest]
      · exact .inl rfl

theorem ByLogon.append (h : ByLogon config crypto address start steps) (input : Step) :
    ByLogon config crypto address start (steps ++ [input]) := by
  obtain ⟨before, challenge, tables, rand, middle, proof, view, after, rfl, hrest⟩ := h
  exact ⟨before, challenge, tables, rand, middle, proof, view, after ++ [input], by simp, hrest⟩

theorem ByReconnect.append (h : ByReconnect config crypto address start steps) (input : Step) :
    ByReconnect config crypto address start (steps ++ [input]) := by
  obtain ⟨before, challenge, tables, rand, middle, proof, versionMatches, after, rfl, hrest⟩ := h
  exact ⟨before, challenge, tables, rand, middle, proof, versionMatches, after ++ [input], by simp, hrest⟩

theorem Authenticated.append (h : Authenticated config crypto address start steps) (input : Step) :
    Authenticated config crypto address start (steps ++ [input]) :=
  h.imp (fun hlogon => hlogon.append input) fun hreconnect => hreconnect.append input

theorem Challenged.append {after : AuthSocket} (h : Challenged address steps c) (hmoved : c.Unmoved after)
    (input : Step) : Challenged address (steps ++ [input]) after := by
  obtain ⟨before, challenge, tables, rand, middle, account, rfl, haccount, hban, hip, hlogin, hid⟩ := h
  exact ⟨before, challenge, tables, rand, middle ++ [input], account, by simp, haccount, hban, hip,
    hmoved.login.trans hlogin, hmoved.accountId.trans hid⟩

theorem Reconnecting.append {after : AuthSocket} (h : Reconnecting config crypto address start steps c)
    (hmoved : c.Unmoved after) (input : Step) : Reconnecting config crypto address start (steps ++ [input]) after := by
  obtain ⟨before, challenge, tables, rand, middle, K, accountId, rfl, hcache, hkey, hban, hip, hlogin, hid, hK⟩ := h
  exact ⟨before, challenge, tables, rand, middle ++ [input], K, accountId, by simp, hcache, hkey, hban, hip,
    hmoved.login.trans hlogin, hmoved.accountId.trans hid, hmoved.K.trans hK⟩

namespace Traced

section

variable (ht : Traced config crypto address start steps c)

include ht

theorem served (input : Step)
    (h : .realmList ∈ (c.step config crypto address input).answers) :
    Authenticated config crypto address start (steps ++ [input]) := by
  rcases realmList_step input h with hbefore | hstatus
  · exact (ht.realmList hbefore).append input
  · exact (ht.authed hstatus).append input

theorem unmoved {input : Step}
    (h : c.Unmoved (c.step config crypto address input)) :
    Traced config crypto address start (steps ++ [input]) (c.step config crypto address input) where
  logonProof hstatus := (ht.logonProof (h.status ▸ hstatus)).append h input
  reconProof hstatus := (ht.reconProof (h.status ▸ hstatus)).append h input
  authed hstatus := (ht.authed (h.status ▸ hstatus)).append input
  realmList := ht.served input

theorem ended {input : Step}
    (h : (c.step config crypto address input).status = .closed ∨ (c.step config crypto address input).status = .patch) :
    Traced config crypto address start (steps ++ [input]) (c.step config crypto address input) where
  logonProof hstatus := by rw [hstatus] at h; rcases h with h | h <;> cases h
  reconProof hstatus := by rw [hstatus] at h; rcases h with h | h <;> cases h
  authed hstatus := by rw [hstatus] at h; rcases h with h | h <;> cases h
  realmList := ht.served input

theorem authenticated {input : Step}
    (hstatus : (c.step config crypto address input).status = .authed)
    (h : Authenticated config crypto address start (steps ++ [input])) :
    Traced config crypto address start (steps ++ [input]) (c.step config crypto address input) where
  logonProof hproof := by rw [hstatus] at hproof; cases hproof
  reconProof hproof := by rw [hstatus] at hproof; cases hproof
  authed _ := h
  realmList := ht.served input

end

end Traced

theorem traced_logonChallenge (packet : LogonChallenge) (tables : Tables) (rand : Rand)
    (ht : Traced config crypto address start steps (run (step config crypto address) start steps)) :
    Traced config crypto address start (steps ++ [.logonChallenge packet tables rand])
      ((run (step config crypto address) start steps).step config crypto address (.logonChallenge packet tables rand)) := by
  rcases read_cases (run (step config crypto address) start steps) .logonChallenge
    fun c => (c.handleLogonChallenge config crypto address packet tables rand, true) with hkept | ⟨-, -, hmoved⟩
  · exact ht.unmoved hkept
  · rcases handleLogonChallenge_cases packet tables rand with
      hclosed | ⟨account, haccount, hban, hip, hstatus, hlogin, hid⟩
    · exact ht.ended (.inl (hmoved.status.trans hclosed))
    · have hnow := hmoved.status.trans hstatus
      exact {
        logonProof := fun _ => ⟨steps, packet, tables, rand, [], account, rfl, haccount, hban, hip,
          hmoved.login.trans hlogin, hmoved.accountId.trans hid⟩
        reconProof := fun h => by rw [step, hnow] at h; cases h
        authed := fun h => by rw [step, hnow] at h; cases h
        realmList := ht.served _ }

theorem traced_logonProof (packet : LogonProof) (view : ProofView)
    (ht : Traced config crypto address start steps (run (step config crypto address) start steps))
    (hmeets : Meets crypto address (run (step config crypto address) start steps) (.logonProof packet view)) :
    Traced config crypto address start (steps ++ [.logonProof packet view])
      ((run (step config crypto address) start steps).step config crypto address (.logonProof packet view)) := by
  rcases read_cases (run (step config crypto address) start steps) .logonProof
    fun c => c.handleLogonProof config crypto packet view with hkept | ⟨hopen, hbefore, hmoved⟩
  · exact ht.unmoved hkept
  · rcases handleLogonProof_cases packet view (hmeets hopen hbefore) with
      hclosed | hpatch | ⟨hstatus, hM, hpin⟩
    · exact ht.ended (.inl (hmoved.status.trans hclosed))
    · exact ht.ended (.inr (hmoved.status.trans hpatch))
    · refine ht.authenticated (hmoved.status.trans hstatus) (.inl ?_)
      obtain ⟨before, challenge, tables, rand, middle, account, rfl, haccount, hban, hip, hlogin, hid⟩ :=
        ht.logonProof hbefore
      exact ⟨before, challenge, tables, rand, middle, packet, view, [], by simp,
        account, haccount, hban, hip, hlogin, hid, hM, hpin⟩

theorem traced_reconnectChallenge (packet : LogonChallenge) (tables : Tables) (rand : Nat)
    (ht : Traced config crypto address start steps (run (step config crypto address) start steps))
    (hmeets : Meets crypto address (run (step config crypto address) start steps)
      (.reconnectChallenge packet tables rand)) :
    Traced config crypto address start (steps ++ [.reconnectChallenge packet tables rand])
      ((run (step config crypto address) start steps).step config crypto address
        (.reconnectChallenge packet tables rand)) := by
  rcases read_cases (run (step config crypto address) start steps) .reconnectChallenge
    fun c => c.handleReconnectChallenge packet rand with hkept | ⟨hopen, hbefore, hmoved⟩
  · exact ht.unmoved hkept
  · rcases handleReconnectChallenge_cases packet rand with
      hclosed | ⟨K, accountId, hcache, hstatus, hlogin, hid, hK⟩
    · exact ht.ended (.inl (hmoved.status.trans hclosed))
    · have hnow := hmoved.status.trans hstatus
      obtain ⟨hban, hip, hkey⟩ := hmeets hopen hbefore K accountId hcache
      exact {
        logonProof := fun h => by rw [step, hnow] at h; cases h
        reconProof := fun _ => ⟨steps, packet, tables, rand, [], K, accountId, rfl, hcache, hkey, hban, hip,
          hmoved.login.trans hlogin, hmoved.accountId.trans hid, hmoved.K.trans hK⟩
        authed := fun h => by rw [step, hnow] at h; cases h
        realmList := ht.served _ }

theorem traced_reconnectProof (packet : ReconnectProof) (versionMatches : Bool)
    (ht : Traced config crypto address start steps (run (step config crypto address) start steps)) :
    Traced config crypto address start (steps ++ [.reconnectProof packet versionMatches])
      ((run (step config crypto address) start steps).step config crypto address
        (.reconnectProof packet versionMatches)) := by
  rcases read_cases (run (step config crypto address) start steps) .reconnectProof
    fun c => c.handleReconnectProof crypto packet versionMatches with hkept | ⟨-, hbefore, hmoved⟩
  · exact ht.unmoved hkept
  · rcases handleReconnectProof_cases packet versionMatches with hclosed | ⟨hstatus, hR2⟩
    · exact ht.ended (.inl (hmoved.status.trans hclosed))
    · refine ht.authenticated (hmoved.status.trans hstatus) (.inr ?_)
      obtain ⟨before, challenge, tables, rand, middle, K, accountId, rfl, hcache, hkey, hban, hip, hlogin, hid, hK⟩ :=
        ht.reconProof hbefore
      rw [hlogin, hK] at hR2
      exact ⟨before, challenge, tables, rand, middle, packet, versionMatches, [], by simp,
        K, accountId, hcache, hkey, hban, hip, hlogin, hid, hR2⟩

theorem traced_step (input : Step)
    (ht : Traced config crypto address start steps (run (step config crypto address) start steps))
    (hmeets : Meets crypto address (run (step config crypto address) start steps) input) :
    Traced config crypto address start (steps ++ [input])
      ((run (step config crypto address) start steps).step config crypto address input) := by
  cases input with
  | logonChallenge packet tables rand => exact traced_logonChallenge packet tables rand ht
  | logonProof packet view => exact traced_logonProof packet view ht hmeets
  | reconnectChallenge packet tables rand => exact traced_reconnectChallenge packet tables rand ht hmeets
  | reconnectProof packet versionMatches => exact traced_reconnectProof packet versionMatches ht
  | realmList tooSoon =>
    exact ht.unmoved (read_unmoved .realmList (fun c => c.handleRealmList tooSoon) (handleRealmList_unmoved _ tooSoon))
  | xferAccept => exact ht.unmoved (read_unmoved .xferAccept initPatch (initPatch_unmoved _))
  | xferResume inFile =>
    exact ht.unmoved (read_unmoved .xferResume (fun c => c.handleXferResume inFile) (handleXferResume_unmoved _ inFile))
  | xferCancel => exact ht.unmoved (read_unmoved .xferCancel (fun c => (c, true)) ⟨rfl, rfl, rfl, rfl⟩)
  | short command => exact ht.unmoved (read_unmoved command (fun c => (c, false)) ⟨rfl, rfl, rfl, rfl⟩)
  | unknown =>
    refine ht.unmoved ?_
    dsimp only [step]
    split
    · exact ⟨rfl, rfl, rfl, rfl⟩
    · exact ⟨rfl, rfl, rfl, rfl⟩
  | elsewhere login accountId K => exact ht.unmoved ⟨rfl, rfl, rfl, rfl⟩

theorem traced_accepted (keyCache : String → Option (Nat × Nat)) (sessionkey : Nat → Option Nat) :
    Traced config crypto address (accepted keyCache sessionkey) [] (accepted keyCache sessionkey) where
  logonProof := nofun
  reconProof := nofun
  authed := nofun
  realmList := nofun

-- Whatever the packets and their order, a connection that is authenticated or was
-- served a realm list has passed one of the two ways in.
theorem authenticated_run (config : Config) (crypto : Crypto) (address : String)
    (keyCache : String → Option (Nat × Nat)) (sessionkey : Nat → Option Nat) (steps : List Step)
    (h : Guarded (step config crypto address) (Meets crypto address) (accepted keyCache sessionkey) steps) :
    ((run (step config crypto address) (accepted keyCache sessionkey) steps).status = .authed →
      Authenticated config crypto address (accepted keyCache sessionkey) steps) ∧
    (.realmList ∈ (run (step config crypto address) (accepted keyCache sessionkey) steps).answers →
      Authenticated config crypto address (accepted keyCache sessionkey) steps) := by
  have ht : Traced config crypto address (accepted keyCache sessionkey) steps
      (run (step config crypto address) (accepted keyCache sessionkey) steps) :=
    run_trace_invariant _ _ (fun inputs c => Traced config crypto address (accepted keyCache sessionkey) inputs c)
      (fun _ input ht hmeets => traced_step input ht hmeets) (traced_accepted keyCache sessionkey) h
  exact ⟨ht.authed, ht.realmList⟩

def openConfig : Config where
  cn := false
  reqEmailVerification := false
  reqEmailSince := 0
  forcePinAccountRank := 2
  validBuild := fun build => build = 7272

def smallCrypto : Crypto where
  N := 7
  verifier _ s := s + 1
  publicKey v b := 3 * v + b
  sessionKey A B v b := A + B + v + b
  proof login s A B K := List.replicate 20 (UInt8.ofNat (login.length + s + A + B + K))
  reconnect login R1 reconnectProof K := R1 ++ List.replicate 4 (UInt8.ofNat (login.length + reconnectProof + K))
  pinHash serverSalt pin clientSalt := UInt8.ofNat serverSalt :: (pin ++ clientSalt)
  token _ time := time

def player : Account where
  id := 5
  shaPassHash := "hash"
  locked := 0
  lastIp := "10.0.0.2"
  vs := some (3, 4)
  security := ""
  emailVerif := true
  geolockPin := 0
  joindate := 0
  rank := 0
  active := true

def loginTables (banned : List AccountBan) : Tables where
  now := 1000
  accounts := fun login => if login = "PLAYER" then some player else none
  ipBanned := []
  accountBanned := banned
  recentLogins := fun _ => 0
  negativeCoins := fun _ => false
  twofactorAllowed := fun _ _ => none

def playerChallenge : LogonChallenge where
  login := "PLAYER"
  build := 7272

def quietView : ProofView where
  now := 1000
  patchFound := false
  patchSized := false
  versionMatches := true
  geoLocked := false
  behindM := []
  behindPin := []
  behindHash := []

def playerProof : LogonProof where
  A := 1
  M1 := List.replicate 20 39
  pinData := none

def logonSteps : List Step :=
  [.logonChallenge playerChallenge (loginTables []) ⟨0, 2, 0, 0⟩, .logonProof playerProof quietView, .realmList false]

theorem authenticated_logon :
    (run (step openConfig smallCrypto "10.0.0.1") (accepted (fun _ => none) fun _ => none) logonSteps).status = .authed ∧
      Authenticated openConfig smallCrypto "10.0.0.1" (accepted (fun _ => none) fun _ => none) logonSteps := by
  have hstatus : (run (step openConfig smallCrypto "10.0.0.1") (accepted (fun _ => none) fun _ => none)
    logonSteps).status = .authed := by decide
  refine ⟨hstatus, (authenticated_run openConfig smallCrypto "10.0.0.1" _ _ logonSteps
    ⟨trivial, fun _ _ => ⟨by decide, ?_⟩, trivial, trivial⟩).1 hstatus⟩
  intro hprompt
  exact absurd hprompt (by decide)

-- A banned account comes back with the key of its last login.
def reconnectSteps : List Step :=
  [.reconnectChallenge playerChallenge (loginTables [⟨5, 10, 10, true⟩]) 9,
    .reconnectProof ⟨[1], [1, 32, 32, 32, 32]⟩ true, .realmList false]

def cachedKey (login : String) : Option (Nat × Nat) := if login = "PLAYER" then some (17, 5) else none

def storedKey (id : Nat) : Option Nat := if id = 5 then some 17 else none

theorem reconnectSteps_split {before after : List Step} {challenge : LogonChallenge} {tables : Tables} {rand : Nat}
    (h : reconnectSteps = before ++ .reconnectChallenge challenge tables rand :: after) :
    before = [] ∧ challenge = playerChallenge ∧ tables = loginTables [⟨5, 10, 10, true⟩] := by
  cases before with
  | nil => injection h with hhead; injection hhead with hchallenge htables; exact ⟨rfl, hchallenge.symm, htables.symm⟩
  | cons first before =>
    injection h with _ h
    cases before with
    | nil => injection h with hhead; cases hhead
    | cons second before =>
      injection h with _ h
      cases before with
      | nil => injection h with hhead; cases hhead
      | cons third before => injection h with _ h; cases before <;> cases h

theorem not_authenticated_reconnect :
    (run (step openConfig smallCrypto "10.0.0.1") (accepted cachedKey storedKey) reconnectSteps).status = .authed ∧
      .realmList ∈ (run (step openConfig smallCrypto "10.0.0.1") (accepted cachedKey storedKey) reconnectSteps).answers ∧
      ¬ Authenticated openConfig smallCrypto "10.0.0.1" (accepted cachedKey storedKey) reconnectSteps := by
  refine ⟨by decide, by decide, ?_⟩
  rintro (⟨before, challenge, tables, rand, middle, proof, view, after, hsteps, -⟩ |
    ⟨before, challenge, tables, rand, middle, proof, versionMatches, after, hsteps, K, accountId, hcache, -, hban, -⟩)
  · have hmem : .logonChallenge challenge tables rand ∈ reconnectSteps := by
      rw [hsteps]
      exact List.mem_append_right _ List.mem_cons_self
    simp [reconnectSteps] at hmem
  · obtain ⟨rfl, rfl, rfl⟩ := reconnectSteps_split hsteps
    have hid : accountId = 5 := (congrArg Prod.snd (Option.some.inj hcache)).symm
    subst hid
    cases hban

end AuthSocket

end TurtleWow.Realmd
