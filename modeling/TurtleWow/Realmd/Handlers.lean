import TurtleWow.Realmd.AuthSocket

namespace TurtleWow.Realmd

-- What each packet does to the connection

namespace AuthSocket

variable {config : Config} {crypto : Crypto} {address : String} {c : AuthSocket}

theorem challengeAccount_cases (tables : Tables) (rand : Rand) (account : Account) (hclosed : c.status = .closed) :
    (c.challengeAccount config crypto address tables rand account).status = .closed ∨
      tables.bansAccount account.id = none ∧
        (c.challengeAccount config crypto address tables rand account).status = .logonProof ∧
        (c.challengeAccount config crypto address tables rand account).login = c.login ∧
        (c.challengeAccount config crypto address tables rand account).accountId = account.id := by
  unfold challengeAccount
  split
  · exact .inl hclosed
  · dsimp only
    split
    · exact .inl hclosed
    · split
      · exact .inl hclosed
      · split
        · split
          · exact .inl hclosed
          · next hban =>
              refine .inr ⟨hban, ?_⟩
              split
              · exact ⟨rfl, rfl, rfl⟩
              · exact ⟨rfl, rfl, rfl⟩
        · exact .inl hclosed

theorem handleLogonChallenge_cases (packet : LogonChallenge) (tables : Tables) (rand : Rand) :
    (c.handleLogonChallenge config crypto address packet tables rand).status = .closed ∨
      ∃ account, tables.accounts packet.login = some account ∧ tables.bansAccount account.id = none ∧
        tables.bansIp address = false ∧
        (c.handleLogonChallenge config crypto address packet tables rand).status = .logonProof ∧
        (c.handleLogonChallenge config crypto address packet tables rand).login = packet.login ∧
        (c.handleLogonChallenge config crypto address packet tables rand).accountId = account.id := by
  unfold handleLogonChallenge
  dsimp only
  generalize (if (packet.build = 7070 && config.cn) = true then [wowFailVersionInvalid] else []) = forbidden
  cases hip : tables.bansIp address with
  | true =>
    refine .inl ?_
    rw [if_pos rfl, if_pos (List.append_ne_nil_of_right_ne_nil _ (List.cons_ne_nil _ _))]
    rfl
  | false =>
    rw [if_neg Bool.false_ne_true]
    split
    · exact .inl rfl
    · split
      · exact .inl rfl
      · split
        · exact .inl rfl
        · next account haccount =>
            rcases challengeAccount_cases (c := { c with status := .closed, login := packet.login, build := packet.build })
              tables rand account rfl with hclosed | ⟨hban, hstatus, hlogin, hid⟩
            · exact .inl hclosed
            · exact .inr ⟨account, haccount, hban, rfl, hstatus, hlogin, hid⟩

theorem handleReconnectChallenge_cases (packet : LogonChallenge) (rand : Nat) :
    (c.handleReconnectChallenge packet rand).1.status = .closed ∨
      ∃ K accountId, c.keyCache packet.login = some (K, accountId) ∧
        (c.handleReconnectChallenge packet rand).1.status = .reconProof ∧
        (c.handleReconnectChallenge packet rand).1.login = packet.login ∧
        (c.handleReconnectChallenge packet rand).1.accountId = accountId ∧
        (c.handleReconnectChallenge packet rand).1.K = K := by
  unfold handleReconnectChallenge
  dsimp only
  split
  · exact .inl rfl
  · next K accountId hkey => exact .inr ⟨K, accountId, hkey, rfl, rfl, rfl, rfl⟩

theorem handleReconnectProof_cases (packet : ReconnectProof) (versionMatches : Bool) :
    (c.handleReconnectProof crypto packet versionMatches).1.status = .closed ∨
      (c.handleReconnectProof crypto packet versionMatches).1.status = .authed ∧
        packet.R2 = crypto.reconnect c.login packet.R1 c.reconnectProof c.K := by
  unfold handleReconnectProof
  dsimp only
  split
  · exact .inl rfl
  · split
    · next hproof =>
        split
        · exact .inl rfl
        · exact .inr ⟨rfl, hproof.symm⟩
    · exact .inl rfl

-- What stays when a packet is refused, or belongs to another connection
structure Unmoved (c after : AuthSocket) : Prop where
  status : after.status = c.status
  login : after.login = c.login
  accountId : after.accountId = c.accountId
  K : after.K = c.K

theorem read_cases (c : AuthSocket) (command : Command) (handler : AuthSocket → AuthSocket × Bool) :
    c.Unmoved (c.read command handler) ∨
      c.input = .open ∧ c.status = command.status ∧ (handler c).1.Unmoved (c.read command handler) := by
  unfold read
  split
  · exact .inl ⟨rfl, rfl, rfl, rfl⟩
  · next hopen =>
      split
      · exact .inl ⟨rfl, rfl, rfl, rfl⟩
      · next hstatus =>
          refine .inr ⟨by simpa using hopen, (by simpa using hstatus : command.status = c.status).symm, ?_⟩
          split
          · exact ⟨rfl, rfl, rfl, rfl⟩
          · exact ⟨rfl, rfl, rfl, rfl⟩

theorem Unmoved.trans {second third : AuthSocket} (h : c.Unmoved second) (h' : second.Unmoved third) :
    c.Unmoved third where
  status := h'.status.trans h.status
  login := h'.login.trans h.login
  accountId := h'.accountId.trans h.accountId
  K := h'.K.trans h.K

theorem read_unmoved (command : Command) (handler : AuthSocket → AuthSocket × Bool) (h : c.Unmoved (handler c).1) :
    c.Unmoved (c.read command handler) := by
  rcases read_cases c command handler with hkept | ⟨-, -, hmoved⟩
  · exact hkept
  · exact h.trans hmoved

section

variable (c : AuthSocket)

theorem handleRealmList_unmoved (tooSoon : Bool) : c.Unmoved (c.handleRealmList tooSoon).1 := by
  unfold handleRealmList
  split
  · exact ⟨rfl, rfl, rfl, rfl⟩
  · exact ⟨rfl, rfl, rfl, rfl⟩

theorem initPatch_unmoved : c.Unmoved c.initPatch.1 := ⟨rfl, rfl, rfl, rfl⟩

theorem handleXferResume_unmoved (inFile : Bool) : c.Unmoved (c.handleXferResume inFile).1 := by
  unfold handleXferResume
  split
  · exact ⟨rfl, rfl, rfl, rfl⟩
  · exact initPatch_unmoved c

theorem mem_send_realmList {answer : Answer} (hanswer : answer ≠ .realmList) :
    .realmList ∈ (c.send answer).answers ↔ .realmList ∈ c.answers := by
  rw [send, List.mem_append, List.mem_singleton]
  exact or_iff_left fun h => hanswer h.symm

theorem mem_send_send_realmList {answer second : Answer} (hanswer : answer ≠ .realmList)
    (hsecond : second ≠ .realmList) :
    .realmList ∈ ((c.send answer).send second).answers ↔ .realmList ∈ c.answers :=
  (mem_send_realmList _ hsecond).trans (mem_send_realmList _ hanswer)

end

theorem challengeAccount_realmList (tables : Tables) (rand : Rand) (account : Account) :
    .realmList ∈ (c.challengeAccount config crypto address tables rand account).answers ↔ .realmList ∈ c.answers := by
  unfold challengeAccount
  split
  · exact mem_send_realmList _ nofun
  · dsimp only
    split
    · exact mem_send_realmList _ nofun
    · split
      · exact mem_send_realmList _ nofun
      · split
        · split
          · exact mem_send_realmList _ nofun
          · split
            · exact mem_send_send_realmList _ nofun nofun
            · exact mem_send_realmList _ nofun
        · exact mem_send_realmList _ nofun

theorem handleLogonChallenge_realmList (packet : LogonChallenge) (tables : Tables) (rand : Rand) :
    .realmList ∈ (c.handleLogonChallenge config crypto address packet tables rand).answers ↔
      .realmList ∈ c.answers := by
  unfold handleLogonChallenge
  dsimp only
  generalize (if (packet.build = 7070 && config.cn) = true then [wowFailVersionInvalid] else []) = forbidden
  generalize forbidden ++ (if tables.bansIp address = true then [wowFailDbBusy] else []) = refused
  split
  · exact mem_send_realmList _ nofun
  · split
    · exact mem_send_realmList _ nofun
    · split
      · exact mem_send_realmList _ nofun
      · exact challengeAccount_realmList _ _ _

theorem handleLogonProof_realmList (packet : LogonProof) (view : ProofView) :
    .realmList ∈ (c.handleLogonProof config crypto packet view).1.answers ↔ .realmList ∈ c.answers := by
  unfold handleLogonProof
  dsimp only
  split
  · split
    · exact Iff.rfl
    · split
      · exact mem_send_realmList _ nofun
      · split
        · exact Iff.rfl
        · exact mem_send_send_realmList _ nofun nofun
  · split
    · exact Iff.rfl
    · split
      · split
        · exact mem_send_realmList _ nofun
        · split
          · exact mem_send_realmList _ nofun
          · exact mem_send_realmList _ nofun
      · exact mem_send_realmList _ nofun

theorem handleReconnectChallenge_realmList (packet : LogonChallenge) (rand : Nat) :
    .realmList ∈ (c.handleReconnectChallenge packet rand).1.answers ↔ .realmList ∈ c.answers := by
  unfold handleReconnectChallenge
  dsimp only
  split
  · exact Iff.rfl
  · exact mem_send_realmList _ nofun

theorem handleReconnectProof_realmList (packet : ReconnectProof) (versionMatches : Bool) :
    .realmList ∈ (c.handleReconnectProof crypto packet versionMatches).1.answers ↔ .realmList ∈ c.answers := by
  unfold handleReconnectProof
  dsimp only
  split
  · exact Iff.rfl
  · split
    · split
      · exact mem_send_realmList _ nofun
      · exact mem_send_realmList _ nofun
    · exact Iff.rfl

theorem handleXferResume_realmList (inFile : Bool) :
    .realmList ∈ (c.handleXferResume inFile).1.answers ↔ .realmList ∈ c.answers := by
  unfold handleXferResume
  split
  · exact Iff.rfl
  · exact Iff.rfl

theorem read_answers (c : AuthSocket) (command : Command) (handler : AuthSocket → AuthSocket × Bool) :
    (c.read command handler).answers = c.answers ∨
      c.status = command.status ∧ (c.read command handler).answers = (handler c).1.answers := by
  unfold read
  split
  · exact .inl rfl
  · split
    · exact .inl rfl
    · next hstatus =>
        refine .inr ⟨(not_not.mp hstatus).symm, ?_⟩
        split
        · rfl
        · rfl

theorem read_realmList (command : Command) {handler : AuthSocket → AuthSocket × Bool}
    (hhandler : .realmList ∈ (handler c).1.answers ↔ .realmList ∈ c.answers) :
    .realmList ∈ (c.read command handler).answers ↔ .realmList ∈ c.answers := by
  rcases read_answers c command handler with hkept | ⟨-, hanswers⟩
  · rw [hkept]
  · rw [hanswers, hhandler]

theorem realmList_step (input : Step) (h : .realmList ∈ (c.step config crypto address input).answers) :
    .realmList ∈ c.answers ∨ c.status = .authed := by
  cases input with
  | logonChallenge packet tables rand =>
    dsimp only [step] at h
    exact .inl ((read_realmList _ (handleLogonChallenge_realmList packet tables rand)).mp h)
  | logonProof packet view =>
    dsimp only [step] at h
    exact .inl ((read_realmList _ (handleLogonProof_realmList packet view)).mp h)
  | reconnectChallenge packet tables rand =>
    exact .inl ((read_realmList _ (handleReconnectChallenge_realmList packet rand)).mp h)
  | reconnectProof packet versionMatches =>
    exact .inl ((read_realmList _ (handleReconnectProof_realmList packet versionMatches)).mp h)
  | realmList tooSoon =>
    rcases read_answers c .realmList fun c => c.handleRealmList tooSoon with hkept | ⟨hstatus, -⟩
    · dsimp only [step] at h
      rw [hkept] at h
      exact .inl h
    · exact .inr hstatus
  | xferAccept => exact .inl ((read_realmList .xferAccept Iff.rfl).mp h)
  | xferResume inFile => exact .inl ((read_realmList _ (handleXferResume_realmList inFile)).mp h)
  | xferCancel => exact .inl ((read_realmList .xferCancel Iff.rfl).mp h)
  | short command => exact .inl ((read_realmList command Iff.rfl).mp h)
  | unknown =>
    dsimp only [step] at h
    split at h
    · exact .inl h
    · exact .inl h
  | elsewhere login accountId K => exact .inl h

end AuthSocket

end TurtleWow.Realmd
