import VcStack.IdentityTokens
import VcStack.TextEncodings

/-!
Service accounts of internal/management/identity/service_account.go: key pairs
are generated and stored by CreateServiceAccount and RotateServiceAccountKey,
and requests signed with HMAC-SHA-256 are checked by AuthenticateByAPIKey.
-/

namespace VcStack.ServiceAccounts

open IdentityTables IdentityTokens TextEncodings

/-- A key that HMAC-SHA-256 takes as it is: at most one block, and without the
bytes it pads with. -/
def PlainKey (key : String) : Prop :=
  key.length ≤ 64 ∧ ∀ char ∈ key.toList, '\x00' < char ∧ char < '\x80'

/-- HMAC-SHA-256, bcrypt, and the first 32 bytes that HKDF-SHA-256 derives
from a secret without salt. HKDF can give 255 such blocks, so reading one never
fails. No tag is valid under two keys: signatures cannot be forged. -/
structure Cryptography where
  hmac : String → String → List UInt8
  hkdf : String → String → Except String (Vector UInt8 32)
  generateFromPassword : String → Except String String
  hkdf_reads : ∀ secret info, ∃ derived, hkdf secret info = .ok derived
  hmac_keyed : ∀ key other message text, PlainKey key → PlainKey other →
    hmac key message = hmac other text → key = other

structure ServiceAccount where
  id : Nat
  name : String
  projectID : Option Nat := none
  createdByID : Nat := 0
  accessKeyID : String
  secretHash : String := ""
  isActive : Bool := true
  lastUsedAt : Option Int := none
  expiresAt : Option Int := none

def ServiceAccount.isExpired (account : ServiceAccount) (now : Int) : Bool :=
  account.expiresAt.any fun expiresAt => now > expiresAt

structure State where
  db : Database := {}
  accounts : List ServiceAccount := []

def generateAccessKeyID (drawn : Except String (Vector UInt8 8)) : Except String String :=
  match drawn with
  | .error reason => .error ("generate access key: " ++ reason)
  | .ok bytes => .ok ("VC-AKIA-" ++ hexEncode bytes.toList)

def generateSecretKey (drawn : Except String (Vector UInt8 32)) : Except String String :=
  match drawn with
  | .error reason => .error ("generate secret key: " ++ reason)
  | .ok bytes => .ok (urlEncode bytes.toList)

section Handlers

variable (crypto : Cryptography)

def computeHMAC (secretKey accessKeyID timestamp method path : String) : String :=
  hexEncode (crypto.hmac secretKey
    (accessKeyID ++ "\n" ++ timestamp ++ "\n" ++ method ++ "\n" ++ path))

def deriveHMACKey (serverSecret accessKeyID : String) : String :=
  match crypto.hkdf serverSecret ("vc-hmac-apikey:" ++ accessKeyID) with
  | .error _ => accessKeyID ++ ":" ++ serverSecret
  | .ok derived => hexEncode derived.toList

structure CreateServiceAccountRequest where
  name : String
  projectID : Option Nat := none
  expiresIn : Option (Except String Int) := none

structure CreateServiceAccountResponse where
  serviceAccount : ServiceAccount
  accessKeyID : String
  secretKey : String

structure Drawn where
  accessKey : Except String (Vector UInt8 8)
  secretKey : Except String (Vector UInt8 32)
  stored : Except String Nat := .ok 0

def createServiceAccount (state : State) (now : Int) (createdByID : Nat)
    (request : CreateServiceAccountRequest) (drawn : Drawn) :
    Except String CreateServiceAccountResponse × State :=
  match generateAccessKeyID drawn.accessKey with
  | .error reason => (.error ("generate access key: " ++ reason), state)
  | .ok accessKeyID =>
  match generateSecretKey drawn.secretKey with
  | .error reason => (.error ("generate secret key: " ++ reason), state)
  | .ok secretKey =>
  match crypto.generateFromPassword secretKey with
  | .error reason => (.error ("hash secret key: " ++ reason), state)
  | .ok hash =>
  match request.expiresIn with
  | some (.error reason) => (.error ("invalid expires_in duration: " ++ reason), state)
  | expiresIn =>
  match drawn.stored with
  | .error reason => (.error ("create service account: " ++ reason), state)
  | .ok id =>
    let account : ServiceAccount := {
      id := id
      name := request.name
      projectID := request.projectID
      createdByID := createdByID
      accessKeyID := accessKeyID
      secretHash := hash
      isActive := true
      expiresAt := expiresIn.bind fun duration => duration.toOption.map (now + ·) }
    (.ok ⟨account, accessKeyID, secretKey⟩, {state with accounts := state.accounts ++ [account]})

def rotateServiceAccountKey (state : State) (id : Nat) (drawn : Drawn) :
    Except String CreateServiceAccountResponse × State :=
  match state.accounts.find? fun account => account.id == id with
  | none => (.error "record not found", state)
  | some account =>
  match generateAccessKeyID drawn.accessKey with
  | .error reason => (.error reason, state)
  | .ok accessKeyID =>
  match generateSecretKey drawn.secretKey with
  | .error reason => (.error reason, state)
  | .ok secretKey =>
  match crypto.generateFromPassword secretKey with
  | .error reason => (.error reason, state)
  | .ok hash =>
  match drawn.stored with
  | .error reason => (.error reason, state)
  | .ok _ =>
    let rotated := {account with accessKeyID := accessKeyID, secretHash := hash}
    (.ok ⟨rotated, accessKeyID, secretKey⟩,
      {state with accounts := state.accounts.map fun row => if row.id = id then rotated else row})

/-- `time.Unix`: seconds are kept from the year 1 on, in 64 bits. -/
def unixTime (seconds : Int64) : Int :=
  ((seconds + 62135596800).toInt - 62135596800) * second

/-- `time.Since`, whose result is a saturated 64-bit duration. -/
def since (now time : Int) : Int64 :=
  if now - time > 9223372036854775807 then Int64.maxValue
  else if now - time < -9223372036854775808 then Int64.minValue
  else Int64.ofInt (now - time)

/-- The deviation of the request's time; the negation wraps around at the least
duration, so a time centuries ahead counts as no deviation. -/
def skew (now : Int) (seconds : Int64) : Int64 :=
  let elapsed := since now (unixTime seconds)
  if elapsed < 0 then -elapsed else elapsed

def maxSkew : Int64 := 300000000000

structure AccountClaims where
  userID : String
  username : String
  isAdmin : Bool := false
  isServiceAccount : Bool := true
  serviceAccountID : Nat
  accessKeyID : String
  permissions : List String
  projectID : Option Nat

/-- The keys of a Go map, in no particular order. -/
def collectServiceAccountPermissions (db : Database) (account : ServiceAccount) : List String :=
  ((db.rolesJoined db.serviceAccountRoles account.id).flatMap fun role =>
    (db.permissionsOf role).map (·.name)).dedup

def authenticateByAPIKey (serverSecret : String) (state : State) (now : Int)
    (accessKeyID signature timestamp method path : String) :
    Except String AccountClaims × State :=
  match state.accounts.find? fun account => account.accessKeyID == accessKeyID with
  | none => (.error "invalid access key", state)
  | some account =>
  if account.isActive = false then (.error "service account is inactive", state)
  else if account.isExpired now then (.error "service account has expired", state)
  else
  match parseInt timestamp with
  | none => (.error "invalid timestamp", state)
  | some seconds =>
  if skew now seconds > maxSkew then
    (.error "request timestamp too old or too far in the future", state)
  else
  -- The key is derived from the secret of the server; the account's is not read.
  let hmacKey := deriveHMACKey crypto serverSecret accessKeyID
  let expectedSig := computeHMAC crypto hmacKey accessKeyID timestamp method path
  if signature ≠ expectedSig then (.error "invalid signature", state)
  else
    (.ok {
      userID := "sa-" ++ toString account.id
      username := "sa:" ++ account.name
      serviceAccountID := account.id
      accessKeyID := account.accessKeyID
      permissions := collectServiceAccountPermissions state.db account
      projectID := account.projectID },
    {state with accounts := state.accounts.map fun row =>
      if row.id = account.id then {row with lastUsedAt := some now} else row})

end Handlers

theorem alphabet_plain {text : String} (alphabet : List Char)
    (plain : (alphabet.all fun char => '\x00' < char ∧ char < '\x80') = true)
    (short : text.length ≤ 64) (listed : ∀ char ∈ text.toList, char ∈ alphabet) :
    PlainKey text := by
  refine ⟨short, fun char member => ?_⟩
  exact of_decide_eq_true (List.all_eq_true.mp plain char (listed char member))

variable {bytes : Vector UInt8 32} {accessKeyID timestamp method path : String} {state : State}
  {now : Int}

theorem secret_key_length : (urlEncode bytes.toList).length = 43 := by
  rw [url_encode_length, Vector.length_toList]

theorem secret_key_plain : PlainKey (urlEncode bytes.toList) := by
  apply alphabet_plain urlAlphabet (by decide)
  · rw [secret_key_length]
    decide
  · exact url_encode_listed bytes.toList

section Issued

variable {crypto : Cryptography} {serverSecret : String}

theorem derived_key : ∃ derived : Vector UInt8 32,
    deriveHMACKey crypto serverSecret accessKeyID = hexEncode derived.toList := by
  obtain ⟨derived, read⟩ := crypto.hkdf_reads serverSecret ("vc-hmac-apikey:" ++ accessKeyID)
  refine ⟨derived, ?_⟩
  rw [deriveHMACKey, read]

theorem derived_key_plain {derived : Vector UInt8 32} : PlainKey (hexEncode derived.toList) := by
  apply alphabet_plain hexAlphabet (by decide)
  · rw [hex_encode_length, Vector.length_toList]
  · exact hex_encode_listed derived.toList

/-- A derived key has 64 characters and a generated secret 43, so no signature
made with a generated secret is the expected one, whatever either signs. -/
theorem signature_unexpected {signedKeyID : String}
    (signed presented : String × String × String) :
    computeHMAC crypto (urlEncode bytes.toList) signedKeyID signed.1 signed.2.1 signed.2.2 ≠
      computeHMAC crypto (deriveHMACKey crypto serverSecret accessKeyID) accessKeyID presented.1
        presented.2.1 presented.2.2 := by
  intro same
  obtain ⟨derived, key⟩ := derived_key
  rw [key] at same
  have tags := hex_encode_injective same
  have keys := crypto.hmac_keyed _ _ _ _ secret_key_plain derived_key_plain tags
  have lengths := congrArg String.length keys
  rw [secret_key_length, hex_encode_length, Vector.length_toList] at lengths
  contradiction

theorem accepted_signature
    {signature : String} {claims : AccountClaims}
    (accepted : (authenticateByAPIKey crypto serverSecret state now accessKeyID signature timestamp
      method path).1 = .ok claims) :
    signature = computeHMAC crypto (deriveHMACKey crypto serverSecret accessKeyID) accessKeyID
      timestamp method path := by
  unfold authenticateByAPIKey at accepted
  split at accepted
  · contradiction
  · split_ifs at accepted
    split at accepted
    · contradiction
    · dsimp only at accepted
      split_ifs at accepted with late other
      exact Classical.not_not.mp other

theorem unexpected_refused {account : ServiceAccount} {seconds : Int64}
    {signature : String}
    (found : (state.accounts.find? fun account => account.accessKeyID == accessKeyID) =
      some account)
    (active : account.isActive = true) (unexpired : account.isExpired now = false)
    (read : parseInt timestamp = some seconds) (onTime : skew now seconds ≤ maxSkew)
    (other : signature ≠ computeHMAC crypto (deriveHMACKey crypto serverSecret accessKeyID)
      accessKeyID timestamp method path) :
    (authenticateByAPIKey crypto serverSecret state now accessKeyID signature timestamp method
      path).1 = .error "invalid signature" := by
  have notLate : ¬ skew now seconds > maxSkew := Int64.not_lt.mpr onTime
  simp only [authenticateByAPIKey, found, active, unexpired, read, Bool.true_eq_false,
    Bool.false_eq_true, if_neg notLate, if_pos other, if_false]

theorem generated_secret_refused
    {signedKeyID : String} (signed : String × String × String)
    {claims : AccountClaims} :
    (authenticateByAPIKey crypto serverSecret state now accessKeyID
      (computeHMAC crypto (urlEncode bytes.toList) signedKeyID signed.1 signed.2.1 signed.2.2)
      timestamp method path).1 ≠ .ok claims := by
  intro accepted
  have expected := accepted_signature accepted
  exact signature_unexpected signed (timestamp, method, path) expected

end Issued

inductive Issue where
  | create (now : Int) (createdByID : Nat) (request : CreateServiceAccountRequest) (drawn : Drawn)
  | rotate (id : Nat) (drawn : Drawn)

def Issue.run (crypto : Cryptography) (state : State) : Issue → Except String CreateServiceAccountResponse × State
  | .create now createdByID request drawn =>
    createServiceAccount crypto state now createdByID request drawn
  | .rotate id drawn => rotateServiceAccountKey crypto state id drawn

theorem generated_secret {drawn : Except String (Vector UInt8 32)} {secretKey : String}
    (generated : generateSecretKey drawn = .ok secretKey) :
    ∃ bytes : Vector UInt8 32, secretKey = urlEncode bytes.toList := by
  cases drawn with
  | error reason => contradiction
  | ok bytes =>
    cases generated
    exact ⟨bytes, rfl⟩

theorem issued_secret {crypto : Cryptography} (issue : Issue) {response : CreateServiceAccountResponse}
    (issued : (issue.run crypto state).1 = .ok response) :
    ∃ bytes : Vector UInt8 32, response.secretKey = urlEncode bytes.toList := by
  revert issued
  cases issue with
  | create now createdByID request drawn =>
    simp only [Issue.run]
    fun_cases createServiceAccount
    case case6 =>
      rintro ⟨⟩
      exact generated_secret (by assumption)
    all_goals
      intro issued
      cases issued
  | rotate id drawn =>
    simp only [Issue.run]
    fun_cases rotateServiceAccountKey
    case case6 =>
      rintro ⟨⟩
      exact generated_secret (by assumption)
    all_goals
      intro issued
      cases issued

/-- No request signed with an issued key pair is accepted, in whatever state the
accounts are then. -/
theorem issued_keys_refused (crypto : Cryptography) (serverSecret : String) (state later : State)
    (issue : Issue) (response : CreateServiceAccountResponse)
    (issued : (issue.run crypto state).1 = .ok response) (now : Int)
    (timestamp method path : String) (claims : AccountClaims) :
    (authenticateByAPIKey crypto serverSecret later now response.accessKeyID
      (computeHMAC crypto response.secretKey response.accessKeyID timestamp method path)
      timestamp method path).1 ≠ .ok claims := by
  obtain ⟨bytes, shape⟩ := issued_secret issue issued
  rw [shape]
  exact generated_secret_refused (timestamp, method, path)

theorem spelled_out_inj {key other message text : String} (plain : PlainKey key)
    (otherPlain : PlainKey other)
    (same : (key ++ String.singleton '\x00' ++ message).toUTF8.data.toList =
      (other ++ String.singleton '\x00' ++ text).toUTF8.data.toList) :
    key = other ∧ message = text := by
  have free : ∀ key, PlainKey key → '\x00' ∉ key.toList := by
    intro key plain member
    exact absurd (plain.2 _ member).1 (by decide)
  have bytes := ByteArray.ext (Array.toList_inj.mp same)
  have texts := String.toByteArray_inj.mp bytes
  exact Text.joined_inj (free key plain) (free other otherPlain) texts

def spelledOut : Cryptography where
  hmac key message := (key ++ String.singleton '\x00' ++ message).toUTF8.data.toList
  hkdf _ _ := .ok (Vector.replicate 32 0)
  generateFromPassword secret := .ok ("hash of " ++ secret)
  hkdf_reads _ _ := ⟨_, rfl⟩
  hmac_keyed _ _ _ _ plain otherPlain same :=
    (spelled_out_inj plain otherPlain same).1

def firstAccount : Issue :=
  .create 0 1 {name := "ci"} {
    accessKey := .ok (Vector.replicate 8 0)
    secretKey := .ok (Vector.replicate 32 0)
    stored := .ok 1 }

theorem first_account_refused :
    ∃ response, (firstAccount.run spelledOut {}).1 = .ok response ∧ ∀ claims,
      (authenticateByAPIKey spelledOut "server" (firstAccount.run spelledOut {}).2 0
        response.accessKeyID
        (computeHMAC spelledOut response.secretKey response.accessKeyID "0" "GET" "/v1/hosts") "0"
        "GET" "/v1/hosts").1 ≠ .ok claims :=
  ⟨_, rfl, issued_keys_refused spelledOut "server" {} _ firstAccount _ rfl 0 "0" "GET" "/v1/hosts"⟩

/-- The account is active and does not expire, and the request is on time. -/
theorem fresh_account_refused :
    ∃ response, (firstAccount.run spelledOut {}).1 = .ok response ∧
      (firstAccount.run spelledOut {}).2.accounts = [response.serviceAccount] ∧
      response.serviceAccount.accessKeyID = response.accessKeyID ∧
      response.serviceAccount.isActive = true ∧ response.serviceAccount.isExpired 0 = false ∧
      parseInt "0" = some 0 ∧ skew 0 0 ≤ maxSkew ∧
      (authenticateByAPIKey spelledOut "server" (firstAccount.run spelledOut {}).2 0
        response.accessKeyID
        (computeHMAC spelledOut response.secretKey response.accessKeyID "0" "GET" "/v1/hosts") "0"
        "GET" "/v1/hosts").1 = .error "invalid signature" := by
  have onTime : skew 0 0 ≤ maxSkew := by decide
  have found (account : ServiceAccount)
      (stored : (firstAccount.run spelledOut {}).2.accounts = [account]) :
      ((firstAccount.run spelledOut {}).2.accounts.find? fun other =>
        other.accessKeyID == account.accessKeyID) = some account := by
    rw [stored]
    exact List.find?_cons_of_pos (beq_self_eq_true _)
  have lookup := found _ rfl
  refine ⟨_, rfl, rfl, rfl, rfl, rfl, by decide, onTime, ?_⟩
  exact unexpected_refused lookup rfl rfl (by decide) onTime
    (signature_unexpected ("0", "GET", "/v1/hosts") ("0", "GET", "/v1/hosts"))

end VcStack.ServiceAccounts
