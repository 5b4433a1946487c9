import Mathlib.Data.Nat.ModEq
import TurtleWow.Realmd.Authenticated
import TurtleWow.Realmd.BigNumber

namespace TurtleWow.Realmd

open Bytes (toBytes)

open AuthSocket (asByteArray ofBytes)

-- The logon proof: what the server hashes through its BigNumbers, and what the
-- protocol hashes, at fixed widths.

def prime : Nat := 0x894B645E89E1535BBDAD5B8B290650530801B18EBFBF5E8FAB3C82872A3E9BB7

def evens (t : List UInt8) : List UInt8 := (List.range 16).map fun i => t.getD (i * 2) 0

def odds (t : List UInt8) : List UInt8 := (List.range 16).map fun i => t.getD (i * 2 + 1) 0

def interleave (first second : List UInt8) : List UInt8 := (List.range 20).flatMap fun i => [first.getD i 0, second.getD i 0]

section

variable (sha1 : List UInt8 → List UInt8)

-- The 40 bytes of K
def vK (S : Nat) : List UInt8 := interleave (sha1 (evens (toBytes 32 S))) (sha1 (odds (toBytes 32 S)))

def serverS (A v b u : Nat) : Nat := (A * (v ^ u % prime)) ^ b % prime

-- What the handler feeds to the digest of u, of M and of M2

def uBytes (A B : Nat) : List UInt8 := asByteArray (toBytes 32 A) ++ asByteArray (toBytes 32 B)

def hash : List UInt8 :=
  (sha1 (asByteArray (toBytes 32 prime))).zipWith (fun n g => n ^^^ g) (sha1 (asByteArray (toBytes 4 7)))

def MBytes (login : String) (s A B K : Nat) : List UInt8 :=
  asByteArray (hash sha1) ++ sha1 login.toUTF8.toList ++ asByteArray (toBytes 32 s) ++ asByteArray (toBytes 32 A) ++
    asByteArray (toBytes 32 B) ++ asByteArray (toBytes 40 K)

def M2Bytes (A : Nat) (M : List UInt8) (K : Nat) : List UInt8 :=
  asByteArray (toBytes 32 A) ++ asByteArray M ++ asByteArray (toBytes 40 K)

def Crypto.withSrp (crypto : Crypto) : Crypto := { crypto with
  N := prime
  publicKey := fun v b => (v * 3 + 7 ^ b % prime) % prime
  sessionKey := fun A B v b => ofBytes (vK sha1 (serverS A v b (ofBytes (sha1 (uBytes A B)))))
  proof := fun login s A B K => sha1 (MBytes sha1 login s A B K) }

def fixedU (A B : Nat) : Nat := ofBytes (sha1 (toBytes 32 A ++ toBytes 32 B))

def fixedHash : List UInt8 := (sha1 (toBytes 32 prime)).zipWith (fun n g => n ^^^ g) (sha1 [7])

def fixedMBytes (login : String) (s A B : Nat) (K : List UInt8) : List UInt8 :=
  fixedHash sha1 ++ sha1 login.toUTF8.toList ++ toBytes 32 s ++ toBytes 32 A ++ toBytes 32 B ++ K

-- A client knows its secret a, and x from the salt and the password.
def clientS (A B a x : Nat) : Nat := (B + 3 * (prime - 7 ^ x % prime)) ^ (a + fixedU sha1 A B * x) % prime

def clientM (login : String) (s A B a x : Nat) : List UInt8 :=
  sha1 (fixedMBytes sha1 login s A B (vK sha1 (clientS sha1 A B a x)))

end

theorem publicKey_modEq (N v k : Nat) (hv : v < N) : ((v * 3 + k % N) % N + 3 * (N - v)) ≡ k [MOD N] := by
  have hsum : v * 3 + k % N + 3 * (N - v) = k % N + N * 3 := by
    have hcancel : v * 3 + 3 * (N - v) = N * 3 := by omega
    omega
  calc ((v * 3 + k % N) % N + 3 * (N - v))
      ≡ v * 3 + k % N + 3 * (N - v) [MOD N] := (Nat.mod_modEq _ _).add_right _
    _ = k % N + N * 3 := hsum
    _ ≡ k % N [MOD N] := Nat.add_mul_mod_self_left _ _ _
    _ ≡ k [MOD N] := Nat.mod_modEq _ _

theorem prime_pos : 0 < prime := by decide

theorem clientS_eq {sha1 : List UInt8 → List UInt8} {A B v a b x : Nat} (hA : A = 7 ^ a % prime) (hv : v = 7 ^ x % prime)
    (hB : B = (v * 3 + 7 ^ b % prime) % prime) : clientS sha1 A B a x = serverS A v b (fixedU sha1 A B) := by
  have hbase : B + 3 * (prime - 7 ^ x % prime) ≡ 7 ^ b [MOD prime] := by
    rw [hB, ← hv]
    apply publicKey_modEq
    rw [hv]
    exact Nat.mod_lt _ prime_pos
  have hfactor : A * (v ^ fixedU sha1 A B % prime) ≡ 7 ^ (a + fixedU sha1 A B * x) [MOD prime] := by
    have hpow : v ^ fixedU sha1 A B % prime ≡ 7 ^ (fixedU sha1 A B * x) [MOD prime] := by
      rw [hv, Nat.mul_comm, Nat.pow_mul]
      exact (Nat.mod_modEq _ _).trans ((Nat.mod_modEq _ _).pow _)
    rw [Nat.pow_add]
    refine Nat.ModEq.mul ?_ hpow
    rw [hA]
    exact Nat.mod_modEq _ _
  have hpowers : (B + 3 * (prime - 7 ^ x % prime)) ^ (a + fixedU sha1 A B * x) ≡
      (A * (v ^ fixedU sha1 A B % prime)) ^ b [MOD prime] := by
    refine (hbase.pow _).trans (Nat.ModEq.trans ?_ (hfactor.pow _).symm)
    rw [← Nat.pow_mul, ← Nat.pow_mul, Nat.mul_comm]
  exact hpowers

-- What the claim of an honest login comes to, for one challenge and one A
structure HonestLogin (sha1 : List UInt8 → List UInt8) (config : Config) (crypto : Crypto) (c : AuthSocket) (A : Nat) : Prop where
  u : uBytes A c.B = toBytes 32 A ++ toBytes 32 c.B
  M : MBytes sha1 c.login c.s A c.B ((crypto.withSrp sha1).sessionKey A c.B c.v c.b) =
    fixedMBytes sha1 c.login c.s A c.B (vK sha1 (serverS A c.v c.b (ofBytes (sha1 (uBytes A c.B)))))
  comparison : ∀ packet view, packet.A = A → packet.M1.length = 20 →
    (c.matchesM (crypto.withSrp sha1) packet view = true ↔ packet.M1 = c.serverM (crypto.withSrp sha1) packet)
  digests : ∀ packet, (c.serverM (crypto.withSrp sha1) packet).length = 20 ∧
    (sha1 (M2Bytes packet.A (c.serverM (crypto.withSrp sha1) packet) (c.sessionKey (crypto.withSrp sha1) packet))).length = 20
  accepted : ∀ a x packet view, A = 7 ^ a % prime → c.v = 7 ^ x % prime → packet.A = A →
    packet.M1 = clientM sha1 c.login c.s A c.B a x → config.validBuild c.build = true →
    c.pinResult (crypto.withSrp sha1) packet view = true → view.versionMatches = true →
    (c.geoUnlockPin = 0 → view.geoLocked = false) →
      (c.handleLogonProof config (crypto.withSrp sha1) packet view).1.status = .authed

-- No value of the protocol ends in a zero byte.
structure Unshortened (sha1 : List UInt8 → List UInt8) (c : AuthSocket) (A : Nat) : Prop where
  client : Full (toBytes 32 A)
  server : Full (toBytes 32 c.B)
  salt : Full (toBytes 32 c.s)
  constants : Full (fixedHash sha1)
  session : Full (vK sha1 (serverS A c.v c.b (fixedU sha1 A c.B)))
  proof : Full (sha1 (fixedMBytes sha1 c.login c.s A c.B (vK sha1 (serverS A c.v c.b (fixedU sha1 A c.B)))))

section

variable {sha1 : List UInt8 → List UInt8} {config : Config} {crypto : Crypto} {c : AuthSocket} {A : Nat}

theorem length_vK (sha1 : List UInt8 → List UInt8) (S : Nat) : (vK sha1 S).length = 40 := by
  simp [vK, interleave, List.length_flatMap]

theorem toBytes_ofBytes {bytes : List UInt8} {width : Nat} (h : bytes.length = width) : toBytes width (ofBytes bytes) = bytes := by
  rw [AuthSocket.ofBytes_eq]
  induction bytes generalizing width with
  | nil =>
    subst h
    rfl
  | cons byte rest ih =>
    subst h
    have hbyte := byte.toNat_lt
    have hrest : (byte.toNat + 256 * Bytes.ofBytes rest) / 256 = Bytes.ofBytes rest := by omega
    have hlow : (byte.toNat + 256 * Bytes.ofBytes rest) % 256 = byte.toNat := by omega
    rw [List.length_cons, toBytes, Bytes.ofBytes, hrest, hlow, ih rfl, UInt8.ofNat_toNat]

theorem hash_eq : hash sha1 = fixedHash sha1 := by
  have hprime : asByteArray (toBytes 32 prime) = toBytes 32 prime := AuthSocket.asByteArray_eq_iff.mpr (by decide)
  have hgenerator : asByteArray (toBytes 4 7) = [7] := by decide
  unfold hash fixedHash
  rw [hprime, hgenerator]

theorem MBytes_eq (sha1 : List UInt8 → List UInt8) (login : String) (s A B : Nat) {K : List UInt8} (hlength : K.length = 40) :
    MBytes sha1 login s A B (ofBytes K) = fixedMBytes sha1 login s A B K ↔
      Full (fixedHash sha1) ∧ Full (toBytes 32 s) ∧ Full (toBytes 32 A) ∧ Full (toBytes 32 B) ∧ Full K := by
  unfold MBytes fixedMBytes
  rw [hash_eq, toBytes_ofBytes hlength]
  constructor
  · intro heq
    have hsum := congrArg List.length heq
    simp only [List.length_append] at hsum
    have hhash := AuthSocket.length_asByteArray_le (fixedHash sha1)
    have hs := AuthSocket.length_asByteArray_le (toBytes 32 s)
    have hA := AuthSocket.length_asByteArray_le (toBytes 32 A)
    have hB := AuthSocket.length_asByteArray_le (toBytes 32 B)
    have hK := AuthSocket.length_asByteArray_le K
    exact ⟨AuthSocket.full_of_length (by omega), AuthSocket.full_of_length (by omega), AuthSocket.full_of_length (by omega),
      AuthSocket.full_of_length (by omega), AuthSocket.full_of_length (by omega)⟩
  · rintro ⟨hhash, hs, hA, hB, hK⟩
    rw [AuthSocket.asByteArray_eq_iff.mpr hhash, AuthSocket.asByteArray_eq_iff.mpr hs, AuthSocket.asByteArray_eq_iff.mpr hA,
      AuthSocket.asByteArray_eq_iff.mpr hB, AuthSocket.asByteArray_eq_iff.mpr hK]

theorem uBytes_eq (A B : Nat) : uBytes A B = toBytes 32 A ++ toBytes 32 B ↔ Full (toBytes 32 A) ∧ Full (toBytes 32 B) := by
  unfold uBytes
  constructor
  · intro heq
    have hsum := congrArg List.length heq
    simp only [List.length_append] at hsum
    have hA := AuthSocket.length_asByteArray_le (toBytes 32 A)
    have hB := AuthSocket.length_asByteArray_le (toBytes 32 B)
    exact ⟨AuthSocket.full_of_length (by omega), AuthSocket.full_of_length (by omega)⟩
  · rintro ⟨hA, hB⟩
    rw [AuthSocket.asByteArray_eq_iff.mpr hA, AuthSocket.asByteArray_eq_iff.mpr hB]

theorem matchesM_iff (hlength : ∀ packet, (c.serverM crypto packet).length = 20) (A : Nat) :
    (∀ packet view, packet.A = A → packet.M1.length = 20 →
      (c.matchesM crypto packet view = true ↔ packet.M1 = c.serverM crypto packet)) ↔
      Full (c.serverM crypto ⟨A, [], none⟩) := by
  have hsame : ∀ packet : LogonProof, packet.A = A → c.serverM crypto packet = c.serverM crypto ⟨A, [], none⟩ := by
    rintro packet rfl
    rfl
  constructor
  · intro hall
    have hmatch := (hall ⟨A, c.serverM crypto ⟨A, [], none⟩, none⟩ ⟨0, false, false, false, false, [], [], []⟩ rfl
      (hlength _)).mpr (hsame _ rfl).symm
    apply AuthSocket.full_of_length
    simp only [AuthSocket.matchesM, List.append_nil, decide_eq_true_eq] at hmatch
    have htaken := congrArg List.length hmatch
    rw [hsame _ rfl, List.length_take] at htaken
    omega
  · intro hfull packet view hA _
    have hwhole : asByteArray (c.serverM crypto packet) = c.serverM crypto packet := by
      rw [hsame packet hA]
      exact AuthSocket.asByteArray_eq_iff.mpr hfull
    unfold AuthSocket.matchesM
    rw [hwhole, List.take_left' (hlength packet), decide_eq_true_iff]
    exact eq_comm

theorem handleLogonProof_authed {packet : LogonProof} {view : ProofView} (hbuild : config.validBuild c.build = true)
    (hA : packet.A % crypto.N ≠ 0) (hmatch : c.matchesM crypto packet view = true) (hpin : c.pinResult crypto packet view = true)
    (hversion : view.versionMatches = true) (hgeo : c.geoUnlockPin = 0 → view.geoLocked = false) :
    (c.handleLogonProof config crypto packet view).1.status = .authed := by
  have hopen : ¬ (c.geoUnlockPin = 0 && view.geoLocked) = true := by
    by_cases hpinless : c.geoUnlockPin = 0 <;> simp [hpinless, hgeo]
  change (show AuthSocket × Bool from if (!config.validBuild c.build) = true then _ else if packet.A % crypto.N = 0 then _
    else if (c.matchesM crypto packet view && c.pinResult crypto packet view) = true then
      if (!view.versionMatches) = true then _ else if (c.geoUnlockPin = 0 && view.geoLocked) = true then _ else _
    else _).1.status = _
  rw [if_neg (by simp [hbuild]), if_neg hA, if_pos (by simp [hmatch, hpin]), if_neg (by simp [hversion]), if_neg hopen]

theorem honestLogin_iff (hsha1 : ∀ bytes, (sha1 bytes).length = 20) (config : Config) (crypto : Crypto) (c : AuthSocket)
    (hA : A % prime ≠ 0) (hB : c.B = (crypto.withSrp sha1).publicKey c.v c.b) :
    HonestLogin sha1 config crypto c A ↔ Unshortened sha1 c A := by
  have hM := MBytes_eq sha1 c.login c.s A c.B (length_vK sha1 (serverS A c.v c.b (ofBytes (sha1 (uBytes A c.B)))))
  have hlength : ∀ packet, (c.serverM (crypto.withSrp sha1) packet).length = 20 := fun packet => hsha1 _
  have hcomparison := matchesM_iff hlength A
  constructor
  · intro h
    obtain ⟨hclient, hserver⟩ := (uBytes_eq A c.B).mp h.u
    obtain ⟨hconstants, hsalt, _, _, hsession⟩ := hM.mp h.M
    have hproof : Full (sha1 (MBytes sha1 c.login c.s A c.B ((crypto.withSrp sha1).sessionKey A c.B c.v c.b))) :=
      hcomparison.mp h.comparison
    rw [h.M] at hproof
    rw [h.u] at hsession hproof
    exact ⟨hclient, hserver, hsalt, hconstants, hsession, hproof⟩
  · intro h
    have hu : uBytes A c.B = toBytes 32 A ++ toBytes 32 c.B := (uBytes_eq A c.B).mpr ⟨h.client, h.server⟩
    have hS : serverS A c.v c.b (ofBytes (sha1 (uBytes A c.B))) = serverS A c.v c.b (fixedU sha1 A c.B) := by
      rw [hu]
      rfl
    have hbytes : MBytes sha1 c.login c.s A c.B ((crypto.withSrp sha1).sessionKey A c.B c.v c.b) =
        fixedMBytes sha1 c.login c.s A c.B (vK sha1 (serverS A c.v c.b (ofBytes (sha1 (uBytes A c.B))))) := by
      apply hM.mpr
      rw [hS]
      exact ⟨h.constants, h.salt, h.client, h.server, h.session⟩
    have hproof : Full (c.serverM (crypto.withSrp sha1) ⟨A, [], none⟩) := by
      change Full (sha1 (MBytes sha1 c.login c.s A c.B ((crypto.withSrp sha1).sessionKey A c.B c.v c.b)))
      rw [hbytes, hS]
      exact h.proof
    have hmatches := hcomparison.mpr hproof
    refine ⟨hu, hbytes, hmatches, fun packet => ⟨hsha1 _, hsha1 _⟩, ?_⟩
    intro a x packet view ha hx hpacket hM1 hbuild hpin hversion hgeo
    have hright : packet.M1 = c.serverM (crypto.withSrp sha1) packet := by
      have hclient : clientS sha1 A c.B a x = _ := clientS_eq ha hx hB
      rw [hM1, clientM, hclient]
      subst hpacket
      exact congrArg sha1 (hbytes.trans (by rw [hS])).symm
    have hmatch := (hmatches packet view hpacket (by rw [hright]; exact hlength packet)).mpr hright
    exact handleLogonProof_authed hbuild (by rw [hpacket]; exact hA) hmatch hpin hversion hgeo

end

-- An account whose values have their highest bytes

def fullAccount : AuthSocket := { AuthSocket.accepted (fun _ => none) fun _ => none with
  login := "PLAYER"
  s := 2 ^ 255
  v := 2 ^ 250
  b := 0
  B := 3 * 2 ^ 250 + 1 }

theorem fullAccount_B : fullAccount.B = (AuthSocket.smallCrypto.withSrp parityDigest).publicKey fullAccount.v fullAccount.b := by
  decide +kernel

theorem honestLogin_full : HonestLogin parityDigest AuthSocket.openConfig AuthSocket.smallCrypto fullAccount (2 ^ 255) := by
  have hsession : ∀ S, Full (vK parityDigest S) := by
    intro S
    have hevens : (evens (toBytes 32 S)).length = 16 := by simp [evens]
    have hodds : (odds (toBytes 32 S)).length = 16 := by simp [odds]
    unfold vK parityDigest
    rw [hevens, hodds]
    decide
  refine (honestLogin_iff length_parityDigest _ _ fullAccount (by decide +kernel) fullAccount_B).mpr ?_
  exact ⟨by decide +kernel, by decide +kernel, by decide +kernel, by decide +kernel, hsession _, full_parityDigest _⟩

-- The A that is 1 has 31 zero bytes, which the digest of u leaves out.
theorem not_honestLogin : ¬ ∀ (sha1 : List UInt8 → List UInt8) (config : Config) (crypto : Crypto) (c : AuthSocket) (A : Nat),
    (∀ bytes, (sha1 bytes).length = 20) → A % prime ≠ 0 → c.B = (crypto.withSrp sha1).publicKey c.v c.b →
      HonestLogin sha1 config crypto c A := by
  intro hall
  have hlogin := hall parityDigest AuthSocket.openConfig AuthSocket.smallCrypto fullAccount 1 length_parityDigest
    (by decide +kernel) fullAccount_B
  have hclient := ((uBytes_eq 1 fullAccount.B).mp hlogin.u).1
  exact absurd hclient (by decide)

end TurtleWow.Realmd
