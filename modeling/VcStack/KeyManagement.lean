import VcStack.KeyedTables
import VcStack.Runs
import VcStack.TextEncodings

/-!
The managed keys of internal/management/kms: their lifecycle, and the encryption
and decryption under them, by request and by other services. Key material is
stored encrypted under the master key. Deleted keys are not among the rows; the
outcome of a database write whose error the source ignores is part of the
request. Times are nanoseconds.
-/

namespace VcStack.KeyManagement

open KeyedTables Runs TextEncodings

abbrev Bytes := List UInt8

/-- What the service rests on. The laws are all that is assumed of AES-GCM and of
base64. -/
structure Library where
  /-- `gcm.Seal` and `gcm.Open` for a key and a nonce -/
  sealed : Bytes → Bytes → Bytes → Bytes
  opened : Bytes → Bytes → Bytes → Option Bytes
  opened_sealed : ∀ key nonce plaintext,
    opened key nonce (sealed key nonce plaintext) = some plaintext
  /-- `base64.StdEncoding` -/
  encode : Bytes → String
  decode : String → Option Bytes
  decode_encode : ∀ bytes, decode (encode bytes) = some bytes
  decode_empty : decode "" = some []
  parseRFC3339 : String → Option Int
  toLower : String → String

inductive CryptoError where
  | invalidKeySize (size : Nat)
  | tooShort
  | unauthentic
deriving DecidableEq, Repr

def CryptoError.text : CryptoError → String
  | .invalidKeySize size => "crypto/aes: invalid key size " ++ toString size
  | .tooShort => "kms: ciphertext too short"
  | .unauthentic => "cipher: message authentication failed"

def nonceSize : Nat := 12

def draw (entropy : Nat → UInt8) (count : Nat) : Bytes := (List.range count).map entropy

def ValidKeySize (key : Bytes) : Prop := key.length = 16 ∨ key.length = 24 ∨ key.length = 32

instance (key : Bytes) : Decidable (ValidKeySize key) := by
  unfold ValidKeySize
  infer_instance

section Encryption

variable (lib : Library)

def encryptWithKey (keyMaterial plaintext : Bytes) (entropy : Nat → UInt8) :
    Except CryptoError Bytes :=
  if ValidKeySize keyMaterial then
    let nonce := draw entropy nonceSize
    .ok (nonce ++ lib.sealed keyMaterial nonce plaintext)
  else .error (.invalidKeySize keyMaterial.length)

def decryptWithKey (keyMaterial ciphertext : Bytes) : Except CryptoError Bytes :=
  if ValidKeySize keyMaterial then
    if ciphertext.length < nonceSize then .error .tooShort
    else match lib.opened keyMaterial (ciphertext.take nonceSize) (ciphertext.drop nonceSize) with
      | none => .error .unauthentic
      | some plaintext => .ok plaintext
  else .error (.invalidKeySize keyMaterial.length)

/-- `none` for the panic of `make` on a negative length. -/
def generateKeyMaterial (bits : Int) (entropy : Nat → UInt8) : Option Bytes :=
  let bytes := bits.tdiv 8
  if bytes < 0 then none
  else some (draw entropy (if bytes = 0 then 32 else bytes.toNat))

end Encryption

inductive KeyStatus where
  | active | preActive | deactivated | destroyed | compromised
deriving DecidableEq, Repr

structure EncryptionKey where
  id : Nat
  uuid : String
  name : String
  projectID : String := ""
  algorithm : String := "aes"
  bitLength : Int := 256
  mode : String := "gcm"
  status : KeyStatus := .active
  keyMaterial : Bytes
  usageCount : Int := 0
  expiration : Option Int := none
  rotatedFrom : Option Nat := none
  rotatedAt : Option Int := none
  description : String := ""
deriving DecidableEq, Repr

structure Store where
  table : Table EncryptionKey.id
  uuids : (table.rows.map EncryptionKey.uuid).Nodup
  sequence : Nat
  assigned : ∀ key ∈ table.rows, key.id ≤ sequence

def Store.empty : Store where
  table := ⟨[], List.nodup_nil⟩
  uuids := List.nodup_nil
  sequence := 0
  assigned _ member := absurd member List.not_mem_nil

def Store.rows (store : Store) : List EncryptionKey := store.table.rows

def Store.change (store : Store) (id : Nat) (write : EncryptionKey → EncryptionKey)
    (keepsID : ∀ key, (write key).id = key.id) (keepsUUID : ∀ key, (write key).uuid = key.uuid) :
    Store where
  table := store.table.update id write keepsID
  uuids := by
    have same : (store.table.update id write keepsID).rows.map EncryptionKey.uuid =
        store.table.rows.map EncryptionKey.uuid := by
      simp only [Table.update, Table.change, List.map_map]
      apply List.map_congr_left
      intro key _
      simp only [Function.comp_apply]
      split_ifs
      · exact keepsUUID key
      · rfl
    rw [same]
    exact store.uuids
  sequence := store.sequence
  assigned := by
    intro key member
    obtain ⟨before, listed, rfl⟩ := List.mem_map.mp member
    split_ifs
    · rw [keepsID]
      exact store.assigned before listed
    · exact store.assigned before listed

def Store.remove (store : Store) (id : Nat) : Store where
  table := ⟨store.table.rows.filter (·.id ≠ id),
    store.table.distinct.sublist (List.filter_sublist.map _)⟩
  uuids := store.uuids.sublist (List.filter_sublist.map _)
  sequence := store.sequence
  assigned key member := store.assigned key (List.mem_of_mem_filter member)

/-- The next identifier of the sequence, and a row for it; the unique index
refuses a UUID that is taken. -/
def Store.create (store : Store) (row : Nat → EncryptionKey) (assigns : ∀ id, (row id).id = id) :
    Option Store :=
  if taken : (row (store.sequence + 1)).uuid ∈ store.table.rows.map EncryptionKey.uuid then none
  else
    have fresh : (row (store.sequence + 1)).id ∉ store.table.rows.map EncryptionKey.id := by
      intro member
      obtain ⟨key, listed, same⟩ := List.mem_map.mp member
      have bound := store.assigned key listed
      rw [assigns] at same
      omega
    some {
      table := store.table.insert (row (store.sequence + 1)) fresh
      uuids := by
        simp only [Table.insert, List.map_append, List.nodup_append]
        refine ⟨store.uuids, List.nodup_singleton _, ?_⟩
        intro uuid member other last same
        rw [List.map_singleton, List.mem_singleton] at last
        exact taken (last ▸ same ▸ member)
      sequence := store.sequence + 1
      assigned := by
        intro key member
        rcases List.mem_append.mp member with old | new
        · exact Nat.le_succ_of_le (store.assigned key old)
        · exact Nat.le_of_eq (by rw [List.mem_singleton.mp new, assigns]) }

def Store.use (store : Store) (id : Nat) : Store :=
  store.change id (fun key => {key with usageCount := key.usageCount + 1}) (fun _ => rfl)
    fun _ => rfl

def Store.retire (store : Store) (id : Nat) : Store :=
  store.change id (fun key => {key with status := .deactivated}) (fun _ => rfl) fun _ => rfl

def Store.wipe (store : Store) (id : Nat) : Store :=
  store.change id (fun key => {key with status := .destroyed, keyMaterial := []}) (fun _ => rfl)
    fun _ => rfl

def findKeyByUUID (store : Store) (uuid : String) : Option EncryptionKey :=
  store.rows.find? fun key => key.uuid = uuid

def findKey (store : Store) (idStr : String) : Option EncryptionKey :=
  match parseInt idStr with
  | some id => store.rows.find? fun key => (key.id : Int) = id.toInt
  | none => findKeyByUUID store idStr

inductive Failure where
  | unbound
  | answer (status : Nat) (error : String)
  | database
  | panicked
deriving DecidableEq, Repr

structure CreateRequest where
  name : String
  projectID : String := ""
  algorithm : String := ""
  bitLength : Int := 0
  mode : String := ""
  expiration : String := ""
  description : String := ""
deriving DecidableEq, Repr

def CreateRequest.defaults (req : CreateRequest) : CreateRequest :=
  {req with
    algorithm := if req.algorithm = "" then "aes" else req.algorithm
    bitLength := if req.bitLength = 0 then 256 else req.bitLength
    mode := if req.mode = "" then "gcm" else req.mode}

structure EncryptionRequest where
  keyID : String
  plaintext : String
deriving DecidableEq, Repr

structure EncryptionResponse where
  keyID : String
  ciphertext : String
deriving DecidableEq, Repr

structure DecryptionRequest where
  keyID : String
  ciphertext : String
deriving DecidableEq, Repr

structure DecryptionResponse where
  keyID : String
  plaintext : String
deriving DecidableEq, Repr

structure DEKResponse where
  keyID : String
  plaintext : String
  ciphertext : String
  bitLength : Int
  algorithm : String := "aes"
  keyIDHex : String
deriving DecidableEq, Repr

structure Entropy where
  material : Nat → UInt8
  nonce : Nat → UInt8

def validBits : List Int := [128, 192, 256]

variable {entropy : Nat → UInt8} {uuid idStr : String} {key : EncryptionKey}

section Handlers

variable (lib : Library) (masterKey : Bytes)

def encryptInternal (plaintext : Bytes) (entropy : Nat → UInt8) : Except CryptoError Bytes :=
  encryptWithKey lib masterKey plaintext entropy

def decryptInternal (ciphertext : Bytes) : Except CryptoError Bytes :=
  decryptWithKey lib masterKey ciphertext

def protectedMaterial (bits : Int) (entropy : Entropy) (error : String) : Except Failure Bytes :=
  match generateKeyMaterial bits entropy.material with
  | none => .error .panicked
  | some keyMaterial =>
    match encryptInternal lib masterKey keyMaterial entropy.nonce with
    | .error _ => .error (.answer 500 error)
    | .ok encKey => .ok encKey

def requestExpiration (text : String) : Option (Option Int) :=
  if text = "" then some none else (lib.parseRFC3339 text).map some

def createKey (store : Store) (req : CreateRequest) (uuid : String) (entropy : Entropy) :
    Except Failure EncryptionKey × Store :=
  let req := req.defaults
  if req.name = "" then (.error .unbound, store)
  else if lib.toLower req.algorithm ≠ "aes" then
    (.error (.answer 400 ("unsupported algorithm: " ++ req.algorithm ++ " (supported: aes)")), store)
  else if req.bitLength ∉ validBits then
    (.error (.answer 400 ("invalid bit_length " ++ toString req.bitLength ++ " for " ++
      req.algorithm ++ " (supported: [128 192 256])")), store)
  else match protectedMaterial lib masterKey req.bitLength entropy
      "failed to protect key material" with
    | .error failure => (.error failure, store)
    | .ok encKey =>
      match requestExpiration lib req.expiration with
      | none => (.error (.answer 400 "expiration must be RFC3339 format"), store)
      | some expiration =>
        let row (id : Nat) : EncryptionKey := {
          id := id, uuid := uuid, name := req.name, projectID := req.projectID,
          algorithm := lib.toLower req.algorithm, bitLength := req.bitLength,
          mode := lib.toLower req.mode, status := .active, keyMaterial := encKey,
          expiration := expiration, description := req.description }
        match store.create row fun _ => rfl with
        | none => (.error .database, store)
        | some created => (.ok (row created.sequence), created)

/-- The old and the new key. `deactivates` tells whether the write that retires
the old one succeeds. -/
def rotateKey (store : Store) (now : Int) (idStr uuid : String) (entropy : Entropy)
    (deactivates : Bool) : Except Failure (EncryptionKey × EncryptionKey) × Store :=
  match findKey store idStr with
  | none => (.error (.answer 404 "encryption key not found"), store)
  | some oldKey =>
    if oldKey.status ≠ .active then
      (.error (.answer 400 "can only rotate active keys"), store)
    else match protectedMaterial lib masterKey oldKey.bitLength entropy
        "failed to protect new key material" with
      | .error failure => (.error failure, store)
      | .ok encNewKey =>
        let marked := if deactivates then store.retire oldKey.id else store
        -- The expiration of the old key is not taken over.
        let row (id : Nat) : EncryptionKey := {
          id := id, uuid := uuid, name := oldKey.name, projectID := oldKey.projectID,
          algorithm := oldKey.algorithm, bitLength := oldKey.bitLength, mode := oldKey.mode,
          status := .active, keyMaterial := encNewKey, rotatedFrom := some oldKey.id,
          rotatedAt := some now, description := "Rotated from " ++ oldKey.uuid }
        match marked.create row fun _ => rfl with
        | none => (.error .database, marked)
        | some created => (.ok (oldKey, row created.sequence), created)

/-- `wipes` and `deletes` tell whether the two writes succeed. -/
def deleteKey (store : Store) (idStr : String) (wipes deletes : Bool) :
    Except Failure EncryptionKey × Store :=
  match findKey store idStr with
  | none => (.error (.answer 404 "encryption key not found"), store)
  | some key =>
    let wiped := if wipes then store.wipe key.id else store
    (.ok key, if deletes then wiped.remove key.id else wiped)

def usableKey (store : Store) (keyID : String) (admits : KeyStatus → Bool) (error : String) :
    Except Failure EncryptionKey :=
  match findKey store keyID with
  | none => .error (.answer 404 "encryption key not found")
  | some key => if admits key.status then .ok key else .error (.answer 400 error)

def serve {Failed Answer Response : Type} (store : Store)
    (answer : Except Failed (EncryptionKey × Answer))
    (respond : EncryptionKey → Answer → Response) : Except Failed Response × Store :=
  match answer with
  | .error failure => (.error failure, store)
  | .ok (key, result) => (.ok (respond key result), store.use key.id)

def encryptAnswer (store : Store) (req : EncryptionRequest) (entropy : Nat → UInt8) :
    Except Failure (EncryptionKey × Bytes) :=
  if req.keyID = "" ∨ req.plaintext = "" then .error .unbound
  else match usableKey store req.keyID (· == .active) "key is not active" with
    | .error failure => .error failure
    | .ok key =>
      match decryptInternal lib masterKey key.keyMaterial with
      | .error _ => .error (.answer 500 "failed to access key material")
      | .ok keyMaterial =>
        match lib.decode req.plaintext with
        | none => .error (.answer 400 "plaintext must be base64-encoded")
        | some plaintext =>
          match encryptWithKey lib keyMaterial plaintext entropy with
          | .error _ => .error (.answer 500 "encryption failed")
          | .ok ciphertext => .ok (key, ciphertext)

def encrypt (store : Store) (req : EncryptionRequest) (entropy : Nat → UInt8) :
    Except Failure EncryptionResponse × Store :=
  serve store (encryptAnswer lib masterKey store req entropy) fun key ciphertext =>
    {keyID := key.uuid, ciphertext := lib.encode ciphertext}

def decryptAnswer (store : Store) (req : DecryptionRequest) :
    Except Failure (EncryptionKey × Bytes) :=
  if req.keyID = "" ∨ req.ciphertext = "" then .error .unbound
  else match usableKey store req.keyID (fun status => status == .active || status == .deactivated)
      "key is not available for decryption" with
    | .error failure => .error failure
    | .ok key =>
      match decryptInternal lib masterKey key.keyMaterial with
      | .error _ => .error (.answer 500 "failed to access key material")
      | .ok keyMaterial =>
        match lib.decode req.ciphertext with
        | none => .error (.answer 400 "ciphertext must be base64-encoded")
        | some ciphertext =>
          match decryptWithKey lib keyMaterial ciphertext with
          | .error _ =>
            .error (.answer 400 "decryption failed — invalid ciphertext or wrong key")
          | .ok plaintext => .ok (key, plaintext)

def decrypt (store : Store) (req : DecryptionRequest) :
    Except Failure DecryptionResponse × Store :=
  serve store (decryptAnswer lib masterKey store req) fun key plaintext =>
    {keyID := key.uuid, plaintext := lib.encode plaintext}

def dekAnswer (store : Store) (keyID : String) (bits : Int) (entropy : Entropy) :
    Except Failure (EncryptionKey × Bytes × Bytes) :=
  if keyID = "" then .error .unbound
  else match usableKey store keyID (· == .active) "key is not active" with
    | .error failure => .error failure
    | .ok key =>
      match generateKeyMaterial bits entropy.material with
      | none => .error .panicked
      | some dek =>
        match decryptInternal lib masterKey key.keyMaterial with
        | .error _ => .error (.answer 500 "failed to access key material")
        | .ok keyMaterial =>
          match encryptWithKey lib keyMaterial dek entropy.nonce with
          | .error _ => .error (.answer 500 "failed to wrap DEK")
          | .ok wrappedDEK => .ok (key, dek, wrappedDEK)

def generateDEK (store : Store) (keyID : String) (bitLength : Int) (entropy : Entropy) :
    Except Failure DEKResponse × Store :=
  let bits := if bitLength = 0 then 256 else bitLength
  match dekAnswer lib masterKey store keyID bits entropy with
  | .error failure => (.error failure, store)
  | .ok (key, dek, wrappedDEK) =>
    -- `dek[:8]` panics on a shorter key, after the use has been counted.
    if dek.length < 8 then (.error .panicked, store.use key.id)
    else
      (.ok {
        keyID := key.uuid, plaintext := lib.encode dek, ciphertext := lib.encode wrappedDEK,
        bitLength := bits, keyIDHex := hexEncode (dek.take 8) }, store.use key.id)

def encryptDataAnswer (store : Store) (keyUUID : String) (data : Bytes) (entropy : Nat → UInt8) :
    Except String (EncryptionKey × Bytes) :=
  match findKeyByUUID store keyUUID with
  | none => .error ("key not found: " ++ keyUUID)
  | some key =>
    match decryptInternal lib masterKey key.keyMaterial with
    | .error reason => .error ("access key material: " ++ reason.text)
    | .ok keyMaterial =>
      match encryptWithKey lib keyMaterial data entropy with
      | .error reason => .error ("encrypt: " ++ reason.text)
      | .ok ciphertext => .ok (key, ciphertext)

/-- Neither the status nor the expiration of the key is looked at. -/
def encryptData (store : Store) (keyUUID : String) (data : Bytes) (entropy : Nat → UInt8) :
    Except String Bytes × Store :=
  serve store (encryptDataAnswer lib masterKey store keyUUID data entropy) fun _ ciphertext =>
    ciphertext

def decryptDataAnswer (store : Store) (keyUUID : String) (ciphertext : Bytes) :
    Except String (EncryptionKey × Bytes) :=
  match findKeyByUUID store keyUUID with
  | none => .error ("key not found: " ++ keyUUID)
  | some key =>
    match decryptInternal lib masterKey key.keyMaterial with
    | .error reason => .error ("access key material: " ++ reason.text)
    | .ok keyMaterial =>
      match decryptWithKey lib keyMaterial ciphertext with
      | .error reason => .error ("decrypt: " ++ reason.text)
      | .ok plaintext => .ok (key, plaintext)

def decryptData (store : Store) (keyUUID : String) (ciphertext : Bytes) :
    Except String Bytes × Store :=
  serve store (decryptDataAnswer lib masterKey store keyUUID ciphertext) fun _ plaintext =>
    plaintext

structure State where
  store : Store := Store.empty
  now : Int := 0

inductive Request where
  | createKey (req : CreateRequest) (uuid : String) (entropy : Entropy)
  | rotateKey (idStr uuid : String) (entropy : Entropy) (deactivates : Bool)
  | deleteKey (idStr : String) (wipes deletes : Bool)
  | encrypt (req : EncryptionRequest) (entropy : Nat → UInt8)
  | decrypt (req : DecryptionRequest)
  | generateDEK (keyID : String) (bitLength : Int) (entropy : Entropy)
  | encryptData (keyUUID : String) (data : Bytes) (entropy : Nat → UInt8)
  | decryptData (keyUUID : String) (ciphertext : Bytes)
  | advance (elapsed : Nat)

def storeAfter (state : State) : Request → Store
  | .createKey req uuid entropy => (createKey lib masterKey state.store req uuid entropy).2
  | .rotateKey idStr uuid entropy deactivates =>
    (rotateKey lib masterKey state.store state.now idStr uuid entropy deactivates).2
  | .deleteKey idStr wipes deletes => (deleteKey state.store idStr wipes deletes).2
  | .encrypt req entropy => (encrypt lib masterKey state.store req entropy).2
  | .decrypt req => (decrypt lib masterKey state.store req).2
  | .generateDEK keyID bitLength entropy =>
    (generateDEK lib masterKey state.store keyID bitLength entropy).2
  | .encryptData keyUUID data entropy =>
    (encryptData lib masterKey state.store keyUUID data entropy).2
  | .decryptData keyUUID ciphertext =>
    (decryptData lib masterKey state.store keyUUID ciphertext).2
  | .advance _ => state.store

def step (state : State) (request : Request) : Option State :=
  some {
    store := storeAfter lib masterKey state request
    now := match request with
      | .advance elapsed => state.now + elapsed
      | _ => state.now }

variable {lib masterKey}

theorem draw_length {count : Nat} :
    (draw entropy count).length = count := by
  rw [draw, List.length_map, List.length_range]

theorem decrypt_encrypted {key plaintext ciphertext : Bytes}
    (encrypted : encryptWithKey lib key plaintext entropy = .ok ciphertext) :
    decryptWithKey lib key ciphertext = .ok plaintext := by
  unfold encryptWithKey at encrypted
  split_ifs at encrypted with valid
  cases encrypted
  have size : (draw entropy nonceSize).length = nonceSize := draw_length
  have long : ¬ (draw entropy nonceSize ++
      lib.sealed key (draw entropy nonceSize) plaintext).length < nonceSize := by
    rw [List.length_append, size]
    omega
  rw [decryptWithKey, if_pos valid, if_neg long, List.take_left' size, List.drop_left' size,
    lib.opened_sealed]

theorem encrypted_long {key plaintext ciphertext : Bytes}
    (encrypted : encryptWithKey lib key plaintext entropy = .ok ciphertext) : ciphertext ≠ [] := by
  unfold encryptWithKey at encrypted
  split_ifs at encrypted with valid
  cases encrypted
  intro empty
  have length := congrArg List.length empty
  rw [List.length_append, draw_length, List.length_nil, nonceSize] at length
  omega

theorem encode_ne_empty {bytes : Bytes} (some : bytes ≠ []) : lib.encode bytes ≠ "" := by
  intro empty
  have decoded := lib.decode_encode bytes
  rw [empty, lib.decode_empty, Option.some.injEq] at decoded
  exact some decoded.symm

theorem encrypt_with_key_ok (key plaintext : Bytes) (entropy : Nat → UInt8)
    (valid : ValidKeySize key) : ∃ ciphertext,
      encryptWithKey lib key plaintext entropy = .ok ciphertext :=
  ⟨_, if_pos valid⟩

theorem find_uuid_iff {store : Store} :
    findKeyByUUID store uuid = some key ↔ key ∈ store.rows ∧ key.uuid = uuid :=
  find_iff (⟨store.rows, store.uuids⟩ : Table EncryptionKey.uuid)

theorem find_key_mem {store : Store}
    (found : findKey store idStr = some key) : key ∈ store.rows := by
  unfold findKey at found
  split at found
  · exact List.mem_of_find?_eq_some found
  · exact (find_uuid_iff.mp found).1

theorem same_key {store : Store} {first second : EncryptionKey} (listed : first ∈ store.rows)
    (also : second ∈ store.rows) (same : first.id = second.id) : first = second :=
  List.inj_on_of_nodup_map store.table.distinct listed also same

structure New (lib : Library) (masterKey : Bytes) (store : Store) (key : EncryptionKey) :
    Prop where
  active : key.status = .active
  size : key.bitLength ∈ validBits ∨ ∃ old ∈ store.rows, key.bitLength = old.bitLength
  material : ∃ entropy error,
    protectedMaterial lib masterKey key.bitLength entropy error = .ok key.keyMaterial

inductive Writes (lib : Library) (masterKey : Bytes) (deletes : Nat → Prop) (store : Store) :
    Store → Prop
  | none : Writes lib masterKey deletes store store
  | use (before : Store) (id : Nat) (earlier : Writes lib masterKey deletes store before) :
      Writes lib masterKey deletes store (before.use id)
  | retire (before : Store) (id : Nat) (earlier : Writes lib masterKey deletes store before)
      (active : ∀ key ∈ before.rows, key.id = id → key.status = .active) :
      Writes lib masterKey deletes store (before.retire id)
  | create (before after : Store) (row : Nat → EncryptionKey) (assigns : ∀ id, (row id).id = id)
      (earlier : Writes lib masterKey deletes store before)
      (made : before.create row assigns = some after)
      (new : ∀ id, New lib masterKey store (row id)) : Writes lib masterKey deletes store after
  | wipe (before : Store) (id : Nat) (earlier : Writes lib masterKey deletes store before)
      (chosen : deletes id) : Writes lib masterKey deletes store (before.wipe id)
  | remove (before : Store) (id : Nat) (earlier : Writes lib masterKey deletes store before)
      (chosen : deletes id) : Writes lib masterKey deletes store (before.remove id)

def Deletes (state : State) (request : Request) (id : Nat) : Prop :=
  match request with
  | .deleteKey idStr _ _ => ∃ key, findKey state.store idStr = some key ∧ key.id = id
  | _ => False

variable (lib masterKey)

variable (deletes : Nat → Prop) (store : Store)

theorem create_key_writes {req : CreateRequest} {entropy : Entropy} :
    Writes lib masterKey deletes store (createKey lib masterKey store req uuid entropy).2 := by
  unfold createKey
  dsimp only
  split_ifs with unnamed unsupported size
  · exact .none
  · exact .none
  · split
    · exact .none
    · rename_i encKey made
      split
      · exact .none
      · split
        · exact .none
        · rename_i created
          exact .create store _ _ _ .none created fun id => ⟨rfl, Or.inl size, _, _, made⟩
  · exact .none

theorem rotate_key_writes {now : Int} {entropy : Entropy} {deactivates : Bool} :
    Writes lib masterKey deletes store
      (rotateKey lib masterKey store now idStr uuid entropy deactivates).2 := by
  unfold rotateKey
  split
  · exact .none
  · rename_i oldKey found
    have listed := find_key_mem found
    by_cases active : oldKey.status = .active
    · rw [if_neg (not_not.mpr active)]
      split
      · exact .none
      · rename_i encNewKey made
        have marks : Writes lib masterKey deletes store
            (if deactivates then store.retire oldKey.id else store) := by
          split_ifs
          · refine .retire store oldKey.id .none fun key member same => ?_
            rw [same_key member listed same]
            exact active
          · exact .none
        dsimp only
        split
        · exact marks
        · rename_i created
          exact .create _ _ _ _ marks created fun id =>
            ⟨rfl, Or.inr ⟨oldKey, listed, rfl⟩, _, _, made⟩
    · rw [if_pos active]
      exact .none

theorem delete_key_writes {wipes removes : Bool}
    (chosen : ∀ key, findKey store idStr = some key → deletes key.id) :
    Writes lib masterKey deletes store (deleteKey store idStr wipes removes).2 := by
  unfold deleteKey
  split
  · exact .none
  · rename_i key found
    have wiped : Writes lib masterKey deletes store
        (if wipes then store.wipe key.id else store) := by
      split_ifs
      · exact .wipe store key.id .none (chosen key found)
      · exact .none
    cases removes with
    | true => exact .remove _ key.id wiped (chosen key found)
    | false => exact wiped

theorem serve_writes {Failed Answer Response : Type} {deletes : Nat → Prop} {store : Store}
    {answer : Except Failed (EncryptionKey × Answer)}
    {respond : EncryptionKey → Answer → Response} :
    Writes lib masterKey deletes store (serve store answer respond).2 := by
  unfold serve
  split
  · exact .none
  · exact .use store _ .none

theorem generate_dek_writes {keyID : String} {bitLength : Int} {entropy : Entropy} :
    Writes lib masterKey deletes store
      (generateDEK lib masterKey store keyID bitLength entropy).2 := by
  unfold generateDEK
  dsimp only
  split
  · exact .none
  · split
    · exact .use store _ .none
    · exact .use store _ .none

theorem request_writes {state : State} {request : Request} :
    Writes lib masterKey (Deletes state request) state.store
      (storeAfter lib masterKey state request) := by
  cases request with
  | createKey req uuid entropy => exact create_key_writes lib masterKey _ _
  | rotateKey idStr uuid entropy deactivates => exact rotate_key_writes lib masterKey _ _
  | deleteKey idStr wipes deletes =>
    exact delete_key_writes lib masterKey _ _ fun key found => ⟨key, found, rfl⟩
  | encrypt req entropy => exact serve_writes lib masterKey
  | decrypt req => exact serve_writes lib masterKey
  | generateDEK keyID bitLength entropy => exact generate_dek_writes lib masterKey _ _
  | encryptData keyUUID data entropy => exact serve_writes lib masterKey
  | decryptData keyUUID ciphertext => exact serve_writes lib masterKey
  | advance elapsed => exact .none

variable {lib masterKey}

structure Kept (before after : EncryptionKey) : Prop where
  id : after.id = before.id
  uuid : after.uuid = before.uuid
  keyMaterial : after.keyMaterial = before.keyMaterial

def Survives (key : EncryptionKey) (store : Store) : Prop := ∃ after ∈ store.rows, Kept key after

theorem change_survives {store : Store} {id : Nat}
    {write : EncryptionKey → EncryptionKey} (keepsID : ∀ row, (write row).id = row.id)
    (keepsUUID : ∀ row, (write row).uuid = row.uuid) (survives : Survives key store)
    (kept : key.id = id → ∀ row, (write row).keyMaterial = row.keyMaterial) :
    Survives key (store.change id write keepsID keepsUUID) := by
  obtain ⟨after, listed, same⟩ := survives
  refine ⟨_, List.mem_map_of_mem listed, ?_⟩
  split_ifs with chosen
  · have own : key.id = id := same.id.symm.trans chosen
    exact ⟨(keepsID after).trans same.id, (keepsUUID after).trans same.uuid,
      (kept own after).trans same.keyMaterial⟩
  · exact same

theorem create_rows {store created : Store} {row : Nat → EncryptionKey}
    (assigns : ∀ id, (row id).id = id) (made : store.create row assigns = some created) :
    created.rows = store.rows ++ [row created.sequence] := by
  unfold Store.create at made
  split_ifs at made
  cases made
  rfl

theorem writes_survive {deletes : Nat → Prop} {store after : Store}
    (writes : Writes lib masterKey deletes store after) (spared : ¬ deletes key.id)
    (survives : Survives key store) : Survives key after := by
  induction writes with
  | none => exact survives
  | use before id _ ih => exact change_survives _ _ ih fun _ _ => rfl
  | retire before id _ _ ih => exact change_survives _ _ ih fun _ _ => rfl
  | create before after row assigns _ made _ ih =>
    obtain ⟨kept, listed, same⟩ := ih
    refine ⟨kept, ?_, same⟩
    rw [create_rows assigns made]
    exact List.mem_append_left _ listed
  | wipe before id _ chosen ih =>
    exact change_survives _ _ ih fun own => absurd (own ▸ chosen) spared
  | remove before id _ chosen ih =>
    obtain ⟨kept, listed, same⟩ := ih
    refine ⟨kept, List.mem_filter.mpr ⟨listed, decide_eq_true ?_⟩, same⟩
    rw [same.id]
    rintro rfl
    exact spared chosen

def Opens (lib : Library) (masterKey : Bytes) (key : EncryptionKey) : Prop :=
  ∃ keyMaterial, decryptInternal lib masterKey key.keyMaterial = .ok keyMaterial ∧
    ValidKeySize keyMaterial

structure Sound (lib : Library) (masterKey : Bytes) (key : EncryptionKey) : Prop where
  size : key.bitLength ∈ validBits
  usable : key.status = .destroyed ∧ key.keyMaterial = [] ∨
    (key.status = .active ∨ key.status = .deactivated) ∧ Opens lib masterKey key

def Minted (lib : Library) (masterKey : Bytes) (store : Store) : Prop :=
  ∀ key ∈ store.rows, Sound lib masterKey key

theorem material_length {bits : Int} {keyMaterial : Bytes}
    (size : bits ∈ validBits)
    (generated : generateKeyMaterial bits entropy = some keyMaterial) :
    ValidKeySize keyMaterial := by
  simp only [validBits, List.mem_cons, List.not_mem_nil, or_false] at size
  rcases size with rfl | rfl | rfl
  all_goals
    cases generated
    rw [ValidKeySize, draw_length]
    decide

theorem protected_material_opens {bits : Int} {entropy : Entropy} {error : String}
    {encKey : Bytes} (size : bits ∈ validBits)
    (made : protectedMaterial lib masterKey bits entropy error = .ok encKey) :
    ∃ keyMaterial, decryptInternal lib masterKey encKey = .ok keyMaterial ∧
      ValidKeySize keyMaterial := by
  unfold protectedMaterial at made
  split at made
  · contradiction
  · rename_i keyMaterial generated
    split at made
    · contradiction
    · rename_i encrypted
      cases made
      exact ⟨keyMaterial, decrypt_encrypted encrypted, material_length size generated⟩

theorem change_minted {store : Store} {id : Nat} {write : EncryptionKey → EncryptionKey}
    (keepsID : ∀ row, (write row).id = row.id) (keepsUUID : ∀ row, (write row).uuid = row.uuid)
    (minted : Minted lib masterKey store)
    (sound : ∀ row ∈ store.rows, row.id = id → Sound lib masterKey (write row)) :
    Minted lib masterKey (store.change id write keepsID keepsUUID) := by
  intro key member
  obtain ⟨before, listed, rfl⟩ := List.mem_map.mp member
  split_ifs with chosen
  · exact sound before listed chosen
  · exact minted before listed

theorem writes_minted {deletes : Nat → Prop} {store after : Store}
    (writes : Writes lib masterKey deletes store after) (minted : Minted lib masterKey store) :
    Minted lib masterKey after := by
  induction writes with
  | none => exact minted
  | use before id _ ih =>
    refine change_minted _ _ ih fun row listed _ => ?_
    exact ⟨(ih row listed).size, (ih row listed).usable⟩
  | retire before id _ active ih =>
    refine change_minted _ _ ih fun row listed chosen => ?_
    refine ⟨(ih row listed).size, Or.inr ⟨Or.inr rfl, ?_⟩⟩
    rcases (ih row listed).usable with ⟨destroyed, _⟩ | ⟨_, opens⟩
    · exact absurd (destroyed.symm.trans (active row listed chosen)) (by decide)
    · exact opens
  | create before after row assigns _ made new ih =>
    intro key member
    rw [create_rows assigns made] at member
    rcases List.mem_append.mp member with old | added
    · exact ih key old
    · rw [List.mem_singleton.mp added]
      obtain ⟨active, sized, entropy, error, protects⟩ := new after.sequence
      have size : (row after.sequence).bitLength ∈ validBits := by
        rcases sized with checked | ⟨old, listed, same⟩
        · exact checked
        · rw [same]
          exact (minted old listed).size
      exact ⟨size, Or.inr ⟨Or.inl active, protected_material_opens size protects⟩⟩
  | wipe before id _ _ ih =>
    refine change_minted _ _ ih fun row listed _ => ?_
    exact ⟨(ih row listed).size, Or.inl ⟨rfl, rfl⟩⟩
  | remove before id _ _ ih =>
    intro key member
    exact ih key (List.mem_of_mem_filter member)

theorem step_minted (state : State) (request : Request) (next : State)
    (minted : Minted lib masterKey state.store)
    (taken : step lib masterKey state request = some next) :
    Minted lib masterKey next.store := by
  cases taken
  exact writes_minted (request_writes lib masterKey) minted

theorem empty_minted : Minted lib masterKey Store.empty :=
  fun _ member => absurd member List.not_mem_nil

end Handlers

end VcStack.KeyManagement
