import Mathlib.Data.List.Perm.Basic
import Mathlib.Tactic.IntervalCases
import TurtleWow.Realmd.Authenticated
import TurtleWow.Realmd.BigNumber

namespace TurtleWow.Realmd

open Bytes List

-- The PIN of a second factor: what the server hashes, and what a client sends.

-- VerifyPinData, from the digits on. The salt of the server is a BigNumber, and so
-- is the inner digest.
def serverPinHash (sha1 : List UInt8 → List UInt8) (serverSecuritySalt : Nat) (pin clientSalt : List UInt8) : List UInt8 :=
  sha1 (clientSalt ++ AuthSocket.asByteArray (sha1 (AuthSocket.asByteArray (toBytes 16 serverSecuritySalt) ++ pin)))

def Crypto.withPin (crypto : Crypto) (sha1 : List UInt8 → List UInt8) : Crypto := { crypto with pinHash := serverPinHash sha1 }

-- H(client salt | H(server salt | digits)), as the client computes it
def pinProof (sha1 : List UInt8 → List UInt8) (serverSecuritySalt : Nat) (pin clientSalt : List UInt8) : List UInt8 :=
  sha1 (clientSalt ++ sha1 (toBytes 16 serverSecuritySalt ++ pin))

-- The keys a user presses for the six digits of a token
def sixDigits (token : Nat) : List Nat :=
  [token / 100000 % 10, token / 10000 % 10, token / 1000 % 10, token / 100 % 10, token / 10 % 10, token % 10]

def tokenBytes (gridSeed token : Nat) : List UInt8 :=
  let grid := AuthSocket.remapGrid 10 gridSeed (List.range 10)
  (sixDigits token).map fun digit => UInt8.ofNat (grid.idxOf digit + 0x30)

def leading (number : Nat) : List Char := (Nat.toDigits 10 number).take 20

namespace AuthSocket

section

variable {m n : Nat}

theorem remapGrid_perm (size seed : Nat) (grid : List Nat) (hlength : grid.length = size) :
    (remapGrid size seed grid).Perm grid := by
  induction size generalizing seed grid with
  | zero =>
    rw [length_eq_zero_iff.mp hlength]
    exact .nil
  | succ size ih =>
    have hlt : seed % (size + 1) < grid.length := by
      rw [hlength]
      exact Nat.mod_lt _ (by omega)
    have hrest := ih (seed / (size + 1)) (grid.eraseIdx (seed % (size + 1))) (by
      rw [length_eraseIdx_of_lt hlt]
      omega)
    have hhead : grid.getD (seed % (size + 1)) 0 = grid[seed % (size + 1)] := getD_eq_getElem _ _ hlt
    simp only [remapGrid, hhead]
    exact (hrest.cons _).trans (getElem_cons_eraseIdx_perm hlt)

theorem toDigits_inj (h : Nat.toDigits 10 m = Nat.toDigits 10 n) : m = n := by
  rw [← Nat.ofDigitChars_ten_toDigits (n := m), h, Nat.ofDigitChars_ten_toDigits]

theorem zero_notMem_toDigits (n : Nat) : Char.ofNat 0 ∉ Nat.toDigits 10 n := by
  intro hmem
  have hdigit := Nat.isDigit_of_mem_toDigits (by omega) (by omega) hmem
  exact absurd hdigit (by decide)

theorem length_of_leading (h : leading m = leading n) (hne : m ≠ n) : 20 ≤ (Nat.toDigits 10 m).length := by
  by_contra hshort
  have hlength := congrArg List.length h
  unfold leading at h hlength
  rw [length_take, length_take] at hlength
  rw [take_of_length_le (by omega), take_of_length_le (by omega)] at h
  exact hne (toDigits_inj h)

theorem decimals_long (h : 19 ≤ (Nat.toDigits 10 n).length) (behind : List Char) :
    (decimals n behind).take 20 = (Nat.toDigits 10 n ++ [Char.ofNat 0]).take 20 := by
  unfold decimals
  rw [append_cons, take_append_of_le_length]
  simp
  omega

theorem leading_of_decimals {behind behind' : List Char} (h : (decimals m behind).take 20 = (decimals n behind').take 20) :
    leading m = leading n := by
  have htext : ∀ k behind, leading k = ((decimals k behind).take 20).takeWhile fun char => char ≠ Char.ofNat 0 := by
    intro k behind
    have hdigits : ∀ char ∈ (Nat.toDigits 10 k).take 20, decide (char ≠ Char.ofNat 0) = true := by
      intro char hchar
      rw [decide_eq_true_iff]
      rintro rfl
      exact zero_notMem_toDigits k (mem_of_mem_take hchar)
    have hrest : ((Char.ofNat 0 :: behind).take (20 - (Nat.toDigits 10 k).length)).takeWhile (fun char => char ≠ Char.ofNat 0) = [] := by
      cases 20 - (Nat.toDigits 10 k).length with
      | zero => rfl
      | succ room => simp [take_succ_cons]
    unfold decimals leading
    rw [take_append, takeWhile_append_of_pos hdigits, hrest, append_nil]
  rw [htext m behind, h, ← htext n behind']

theorem decimals_iff_of_ne (hne : m ≠ n) (behind behind' : List Char) :
    (decimals m behind).take 20 = (decimals n behind').take 20 ↔ leading m = leading n := by
  constructor
  · exact leading_of_decimals
  · intro h
    have hm := length_of_leading h hne
    have hn := length_of_leading h.symm (Ne.symm hne)
    rw [decimals_long (by omega), decimals_long (by omega), take_append_of_le_length hm,
      take_append_of_le_length hn]
    exact h

theorem decimals_self_iff (n : Nat) :
    (∀ behind behind', (decimals n behind).take 20 = (decimals n behind').take 20) ↔ 10 ^ 18 ≤ n := by
  have hlength : 19 ≤ (Nat.toDigits 10 n).length ↔ 10 ^ 18 ≤ n := by
    have hle := Nat.length_toDigits_le_iff (n := n) (k := 18) (b := 10) (by omega) (by omega)
    omega
  rw [← hlength]
  constructor
  · intro hall
    by_contra hshort
    have hheap := hall ['a'] ['b']
    unfold decimals at hheap
    rw [take_of_length_le (by simp; omega), take_of_length_le (by simp; omega)] at hheap
    exact absurd (append_cancel_left hheap) (by decide)
  · intro hlong behind behind'
    rw [decimals_long hlong, decimals_long hlong]

end

-- Six digits without a leading zero are those of the number.

theorem digitChar_sub {digit : Nat} (h : digit < 10) : digit.digitChar.toNat - '0'.toNat = digit := by
  interval_cases digit <;> decide

theorem pinBytes_of_token {token : Nat} (hlow : 100000 ≤ token) (hlt : token < 1000000) (gridSeed : Nat) :
    pinBytes gridSeed token = tokenBytes gridSeed token := by
  have htext : Nat.toDigits 10 token = (sixDigits token).map Nat.digitChar := by
    have hstep : ∀ n, 10 ≤ n → Nat.toDigits 10 n = Nat.toDigits 10 (n / 10) ++ [(n % 10).digitChar] :=
      fun n hn => Nat.toDigits_of_base_le (by omega) hn
    rw [hstep token (by omega), hstep (token / 10) (by omega), hstep (token / 10 / 10) (by omega),
      hstep (token / 10 / 10 / 10) (by omega), hstep (token / 10 / 10 / 10 / 10) (by omega),
      Nat.toDigits_of_lt_base (by omega)]
    simp only [Nat.div_div_eq_div_mul, sixDigits, map_cons, map_nil, cons_append, nil_append]
    rw [Nat.mod_eq_of_lt (show token / 100000 < 10 by omega)]
  have hdigits : ∀ digit ∈ sixDigits token, digit.digitChar.toNat - '0'.toNat = digit := by
    intro digit hdigit
    apply digitChar_sub
    simp only [sixDigits, mem_cons, not_mem_nil, or_false] at hdigit
    omega
  unfold pinBytes tokenBytes
  rw [htext, map_map]
  apply map_congr_left
  intro digit hdigit
  rw [Function.comp_apply, hdigits digit hdigit]

theorem length_pin {pin : Nat} (hlow : 1000 ≤ pin) (hlt : pin < 10 ^ 10) : validLength pin = true := by
  have hfew := Nat.length_toDigits_le_iff (n := pin) (k := 10) (b := 10) (by omega) (by omega)
  have hmany := Nat.length_toDigits_le_iff (n := pin) (k := 3) (b := 10) (by omega) (by omega)
  simp only [validLength, Bool.and_eq_true, decide_eq_true_eq]
  omega

theorem short_pin {pin : Nat} (h : pin < 1000) : validLength pin = false := by
  have hmany := Nat.length_toDigits_le_iff (n := pin) (k := 3) (b := 10) (by omega) (by omega)
  have hshort : ¬ 4 ≤ (Nat.toDigits 10 pin).length := by omega
  simp [validLength, hshort]

-- The two hashes agree when nothing is shortened.

section

variable {sha1 : List UInt8 → List UInt8} {crypto : Crypto} {c : AuthSocket} {pin : Nat} {data : PinData}

structure Whole (sha1 : List UInt8 → List UInt8) (c : AuthSocket) (pin : List UInt8) : Prop where
  salt : Full (toBytes 16 c.serverSecuritySalt)
  inner : Full (sha1 (toBytes 16 c.serverSecuritySalt ++ pin))

theorem serverPinHash_eq {pin : List UInt8} (h : c.Whole sha1 pin) (clientSalt : List UInt8) :
    serverPinHash sha1 c.serverSecuritySalt pin clientSalt = pinProof sha1 c.serverSecuritySalt pin clientSalt := by
  unfold serverPinHash pinProof
  rw [asByteArray_eq_iff.mpr h.salt, asByteArray_eq_iff.mpr h.inner]

theorem verify_iff (hsha1 : ∀ bytes, (sha1 bytes).length = 20) (hdata : data.hash.length = 20)
    (h : c.Whole sha1 (pinBytes c.gridSeed pin)) :
    (∀ view, c.verifyPinData (crypto.withPin sha1) pin data view = true ↔
        data.hash = pinProof sha1 c.serverSecuritySalt (pinBytes c.gridSeed pin) data.salt) ↔
      if validLength pin = true then
        if data.hash = pinProof sha1 c.serverSecuritySalt (pinBytes c.gridSeed pin) data.salt then 10 ^ 18 ≤ ofBytes data.hash
        else leading (ofBytes data.hash) ≠ leading (ofBytes (pinProof sha1 c.serverSecuritySalt (pinBytes c.gridSeed pin) data.salt))
      else data.hash ≠ pinProof sha1 c.serverSecuritySalt (pinBytes c.gridSeed pin) data.salt := by
  have hnumber : c.pinNumber (crypto.withPin sha1) pin data =
      ofBytes (pinProof sha1 c.serverSecuritySalt (pinBytes c.gridSeed pin) data.salt) :=
    congrArg ofBytes (serverPinHash_eq h data.salt)
  have hlength : data.hash.length = (pinProof sha1 c.serverSecuritySalt (pinBytes c.gridSeed pin) data.salt).length := by
    rw [hdata]
    exact (hsha1 _).symm
  have hinj := ofBytes_inj hlength
  unfold verifyPinData
  rw [hnumber]
  generalize pinProof sha1 c.serverSecuritySalt (pinBytes c.gridSeed pin) data.salt = expected at hinj ⊢
  -- any two texts may follow
  have hview : ∀ P : List Char → List Char → Prop, (∀ view : ProofView, P view.behindPin view.behindHash) ↔ ∀ behind behind', P behind behind' := by
    intro P
    exact ⟨fun hall behind behind' => hall ⟨0, false, false, false, false, [], behind, behind'⟩, fun hall view => hall _ _⟩
  rw [hview fun behind behind' => (validLength pin && decide ((decimals (ofBytes expected) behind).take 20 =
    (decimals (ofBytes data.hash) behind').take 20)) = true ↔ data.hash = expected]
  cases hvalid : validLength pin with
  | false => simp [Ne]
  | true =>
    simp only [Bool.true_and, decide_eq_true_eq, if_true]
    by_cases hright : data.hash = expected
    · rw [if_pos hright, ← hright, ← decimals_self_iff]
      simp only [iff_true]
    · have hne : ofBytes expected ≠ ofBytes data.hash := fun heq => hright (hinj.mp heq.symm)
      rw [if_neg hright]
      simp only [decimals_iff_of_ne hne, hright, iff_false]
      exact ⟨fun hall heq => hall [] [] heq.symm, fun hdiffer _ _ heq => hdiffer heq.symm⟩

-- A client that types the six digits of a token
def Accepts (sha1 : List UInt8 → List UInt8) (crypto : Crypto) (c : AuthSocket) (token : Nat) (clientSalt : List UInt8) : Prop :=
  ∀ view, c.verifyPinData (crypto.withPin sha1) token
    ⟨clientSalt, pinProof sha1 c.serverSecuritySalt (tokenBytes c.gridSeed token) clientSalt⟩ view = true

theorem accepts_iff (hsha1 : ∀ bytes, (sha1 bytes).length = 20) {token : Nat} (hlow : 100000 ≤ token) (hlt : token < 1000000)
    (h : c.Whole sha1 (tokenBytes c.gridSeed token)) (clientSalt : List UInt8) :
    c.Accepts sha1 crypto token clientSalt ↔
      10 ^ 18 ≤ ofBytes (pinProof sha1 c.serverSecuritySalt (tokenBytes c.gridSeed token) clientSalt) := by
  unfold Accepts
  rw [← pinBytes_of_token hlow hlt] at h ⊢
  have hverify := @verify_iff sha1 crypto c token
    ⟨clientSalt, pinProof sha1 c.serverSecuritySalt (pinBytes c.gridSeed token) clientSalt⟩ hsha1 (hsha1 _) h
  rw [if_pos (length_pin (by omega) (by omega)), if_pos rfl] at hverify
  simpa only [iff_true] using hverify

theorem verifyPinData_exact (hsha1 : ∀ bytes, (sha1 bytes).length = 20) (crypto : Crypto) (c : AuthSocket) :
    (∀ seed, (remapGrid 10 seed (List.range 10)).Perm (List.range 10)) ∧
    (∀ pin data, data.hash.length = 20 → c.Whole sha1 (pinBytes c.gridSeed pin) →
      ((∀ view, c.verifyPinData (crypto.withPin sha1) pin data view = true ↔
          data.hash = pinProof sha1 c.serverSecuritySalt (pinBytes c.gridSeed pin) data.salt) ↔
        if validLength pin = true then
          if data.hash = pinProof sha1 c.serverSecuritySalt (pinBytes c.gridSeed pin) data.salt then 10 ^ 18 ≤ ofBytes data.hash
          else leading (ofBytes data.hash) ≠ leading (ofBytes (pinProof sha1 c.serverSecuritySalt (pinBytes c.gridSeed pin) data.salt))
        else data.hash ≠ pinProof sha1 c.serverSecuritySalt (pinBytes c.gridSeed pin) data.salt)) ∧
    (∀ token, 100000 ≤ token → token < 1000000 → c.Whole sha1 (tokenBytes c.gridSeed token) → ∀ clientSalt,
      (c.Accepts sha1 crypto token clientSalt ↔
        10 ^ 18 ≤ ofBytes (pinProof sha1 c.serverSecuritySalt (tokenBytes c.gridSeed token) clientSalt))) ∧
    ∀ token, token < 1000 → ∀ clientSalt, ¬ c.Accepts sha1 crypto token clientSalt := by
  refine ⟨fun seed => remapGrid_perm 10 seed _ rfl, fun pin data hdata h => verify_iff hsha1 hdata h,
    fun token hlow hlt h clientSalt => accepts_iff hsha1 hlow hlt h clientSalt, fun token hlow clientSalt haccepts => ?_⟩
  have hverify := haccepts ⟨0, false, false, false, false, [], [], []⟩
  rw [verifyPinData, short_pin hlow] at hverify
  cases hverify

end

-- A salt with its highest bit set
def prompted : AuthSocket := { accepted (fun _ => none) fun _ => none with
  promptPin := true
  gridSeed := 123456789
  serverSecuritySalt := 2 ^ 127 + 1 }

theorem verifyPinData_exact_prompted : prompted.Accepts parityDigest smallCrypto 123456 [7, 7] ∧
    ∀ view, prompted.verifyPinData (smallCrypto.withPin parityDigest) 1234 ⟨[7, 7], List.replicate 20 1⟩ view = true := by
  have hwhole : ∀ pin, prompted.Whole parityDigest pin := fun _ => ⟨by decide, full_parityDigest _⟩
  have hexact := verifyPinData_exact length_parityDigest smallCrypto prompted
  refine ⟨(hexact.2.2.1 123456 (by omega) (by omega) (hwhole _) [7, 7]).mpr (by decide), fun view => ?_⟩
  exact ((hexact.2.1 1234 ⟨[7, 7], List.replicate 20 1⟩ rfl (hwhole _)).mpr (by decide) view).mpr rfl

-- The token 000123 has three digits.
theorem not_verifyPinData_exact : ¬ ∀ (sha1 : List UInt8 → List UInt8) (crypto : Crypto) (c : AuthSocket) (token : Nat)
    (clientSalt : List UInt8), (∀ bytes, (sha1 bytes).length = 20) → token < 1000000 → c.Accepts sha1 crypto token clientSalt := by
  intro hall
  have hverify := hall parityDigest smallCrypto prompted 123 [] length_parityDigest (by omega)
    ⟨0, false, false, false, false, [], [], []⟩
  rw [verifyPinData, short_pin (by omega)] at hverify
  cases hverify

end AuthSocket

end TurtleWow.Realmd
