import VcStack.KeyManagement

/-!
What the managed keys are good for over time: what was encrypted under a key
stays readable until the key is deleted, and which requests still encrypt under a
key that is retired.
-/

namespace VcStack.KeyUsage

open Runs TextEncodings KeyManagement

variable {entropy : Nat → UInt8} {ciphertext : Bytes} {state : State}

section Keys

variable {lib : Library} {masterKey : Bytes}

def Names (keyID : String) (key : EncryptionKey) : Prop :=
  match parseInt keyID with
  | some id => (key.id : Int) = id.toInt
  | none => key.uuid = keyID

variable (store : Store) (keyID : String) (key : EncryptionKey)

theorem find_key_iff :
    findKey store keyID = some key ↔ key ∈ store.rows ∧ Names keyID key := by
  unfold findKey Names
  cases parseInt keyID with
  | none => exact find_uuid_iff
  | some id =>
    constructor
    · intro found
      exact ⟨List.mem_of_find?_eq_some found, by simpa using List.find?_some found⟩
    · rintro ⟨listed, same⟩
      have present : (store.rows.find? fun row => (row.id : Int) = id.toInt).isSome :=
        List.find?_isSome.mpr ⟨key, listed, decide_eq_true same⟩
      obtain ⟨other, found⟩ := Option.isSome_iff_exists.mp present
      have matched : (other.id : Int) = id.toInt := by simpa using List.find?_some found
      have equal := same_key (List.mem_of_find?_eq_some found) listed (by omega)
      rw [← equal]
      exact found

theorem encode_inj {first second : Bytes} (same : lib.encode first = lib.encode second) :
    first = second := by
  have decoded := lib.decode_encode first
  rw [same, lib.decode_encode, Option.some.injEq] at decoded
  exact decoded.symm

theorem serve_ok {Failed Answer Response : Type} {store : Store}
    {answer : Except Failed (EncryptionKey × Answer)}
    {respond : EncryptionKey → Answer → Response} {response : Response}
    (served : (serve store answer respond).1 = .ok response) :
    ∃ key result, answer = .ok (key, result) ∧ respond key result = response := by
  unfold serve at served
  split at served
  · contradiction
  · rename_i key result
    cases served
    exact ⟨key, result, rfl, rfl⟩

theorem usable_key_iff {admits : KeyStatus → Bool} {error : String} {key : EncryptionKey} :
    usableKey store keyID admits error = .ok key ↔
      findKey store keyID = some key ∧ admits key.status = true := by
  unfold usableKey
  cases found : findKey store keyID with
  | none => simp
  | some other =>
    by_cases admitted : admits other.status = true
    · simp only [admitted, if_true, Except.ok.injEq, Option.some.injEq]
      constructor
      · rintro rfl
        exact ⟨rfl, admitted⟩
      · exact And.left
    · simp only [admitted, Bool.false_eq_true, if_false, Option.some.injEq]
      constructor
      · intro failed
        contradiction
      · rintro ⟨rfl, admits⟩
        exact absurd admits admitted

theorem active_key_iff (error : String) (key : EncryptionKey) :
    usableKey store keyID (· == .active) error = .ok key ↔
      findKey store keyID = some key ∧ key.status = .active := by
  rw [usable_key_iff, beq_iff_eq]

theorem encrypt_answer_iff {req : EncryptionRequest} {key : EncryptionKey} :
    encryptAnswer lib masterKey store req entropy = .ok (key, ciphertext) ↔
      (req.keyID ≠ "" ∧ req.plaintext ≠ "") ∧
      (findKey store req.keyID = some key ∧ key.status = .active) ∧
      ∃ keyMaterial plaintext, decryptInternal lib masterKey key.keyMaterial = .ok keyMaterial ∧
        lib.decode req.plaintext = some plaintext ∧
        encryptWithKey lib keyMaterial plaintext entropy = .ok ciphertext := by
  have usable := active_key_iff store req.keyID "key is not active"
  unfold encryptAnswer
  split_ifs with unbound
  · simp only [false_iff]
    rintro ⟨⟨first, second⟩, _⟩
    rcases unbound with empty | empty
    · exact first empty
    · exact second empty
  · rw [not_or] at unbound
    simp only [ne_eq, unbound, not_false_eq_true, and_self, true_and]
    cases admitted : usableKey store req.keyID (· == .active) "key is not active" with
    | error failure =>
      simp only [reduceCtorEq, false_iff]
      rintro ⟨active, _⟩
      rw [(usable key).mpr active] at admitted
      contradiction
    | ok other =>
      obtain ⟨found, active⟩ := (usable other).mp admitted
      dsimp only
      constructor
      · intro answered
        split at answered
        · contradiction
        · rename_i keyMaterial opened
          split at answered
          · contradiction
          · rename_i plaintext decoded
            split at answered
            · contradiction
            · rename_i encrypted
              cases answered
              exact ⟨⟨found, active⟩, keyMaterial, plaintext, opened, decoded, encrypted⟩
      · rintro ⟨⟨same, _⟩, keyMaterial, plaintext, opened, decoded, encrypted⟩
        obtain rfl := Option.some.inj (found.symm.trans same)
        simp only [opened, decoded, encrypted]

theorem dek_answer_iff {bits : Int} {entropy : Entropy} {key : EncryptionKey}
    {dek wrappedDEK : Bytes} :
    dekAnswer lib masterKey store keyID bits entropy = .ok (key, dek, wrappedDEK) ↔
      keyID ≠ "" ∧ (findKey store keyID = some key ∧ key.status = .active) ∧
      generateKeyMaterial bits entropy.material = some dek ∧
      ∃ keyMaterial, decryptInternal lib masterKey key.keyMaterial = .ok keyMaterial ∧
        encryptWithKey lib keyMaterial dek entropy.nonce = .ok wrappedDEK := by
  have usable := active_key_iff store keyID "key is not active"
  unfold dekAnswer
  split_ifs with unbound
  · simp [unbound]
  · simp only [ne_eq, unbound, not_false_eq_true, true_and]
    cases admitted : usableKey store keyID (· == .active) "key is not active" with
    | error failure =>
      simp only [reduceCtorEq, false_iff]
      rintro ⟨active, _⟩
      rw [(usable key).mpr active] at admitted
      contradiction
    | ok other =>
      obtain ⟨found, active⟩ := (usable other).mp admitted
      dsimp only
      constructor
      · intro answered
        split at answered
        · contradiction
        · rename_i made generated
          split at answered
          · contradiction
          · rename_i keyMaterial opened
            split at answered
            · contradiction
            · rename_i encrypted
              cases answered
              exact ⟨⟨found, active⟩, generated, keyMaterial, opened, encrypted⟩
      · rintro ⟨⟨same, _⟩, generated, keyMaterial, opened, encrypted⟩
        obtain rfl := Option.some.inj (found.symm.trans same)
        simp only [generated, opened, encrypted]

theorem encrypt_data_answer_iff {keyUUID : String} {data : Bytes}
    {key : EncryptionKey} :
    encryptDataAnswer lib masterKey store keyUUID data entropy = .ok (key, ciphertext) ↔
      findKeyByUUID store keyUUID = some key ∧
      ∃ keyMaterial, decryptInternal lib masterKey key.keyMaterial = .ok keyMaterial ∧
        encryptWithKey lib keyMaterial data entropy = .ok ciphertext := by
  unfold encryptDataAnswer
  cases found : findKeyByUUID store keyUUID with
  | none => simp
  | some other =>
    dsimp only
    constructor
    · intro answered
      split at answered
      · contradiction
      · rename_i keyMaterial opened
        split at answered
        · contradiction
        · rename_i encrypted
          cases answered
          exact ⟨rfl, keyMaterial, opened, encrypted⟩
    · rintro ⟨same, keyMaterial, opened, encrypted⟩
      obtain rfl := Option.some.inj same
      simp only [opened, encrypted]

/-- The response of a generateDEK that does not panic. -/
theorem generate_dek_ok_iff {bitLength : Int} {entropy : Entropy} {response : DEKResponse} :
    (generateDEK lib masterKey store keyID bitLength entropy).1 = .ok response ↔
      ∃ key dek wrappedDEK, dekAnswer lib masterKey store keyID
          (if bitLength = 0 then 256 else bitLength) entropy = .ok (key, dek, wrappedDEK) ∧
        8 ≤ dek.length ∧
        response = {
          keyID := key.uuid, plaintext := lib.encode dek, ciphertext := lib.encode wrappedDEK,
          bitLength := if bitLength = 0 then 256 else bitLength,
          keyIDHex := hexEncode (dek.take 8) } := by
  unfold generateDEK
  dsimp only
  generalize (if bitLength = 0 then (256 : Int) else bitLength) = bits
  cases answer : dekAnswer lib masterKey store keyID bits entropy with
  | error failure => simp
  | ok parts =>
    obtain ⟨key, dek, wrappedDEK⟩ := parts
    dsimp only
    split_ifs with short
    · simp only [false_iff]
      rintro ⟨_, _, _, same, long, _⟩
      cases same
      omega
    · simp only [Except.ok.injEq]
      constructor
      · rintro rfl
        exact ⟨key, dek, wrappedDEK, rfl, by omega, rfl⟩
      · rintro ⟨_, _, _, same, _, rfl⟩
        cases same
        rfl

inductive Returned (lib : Library) (masterKey : Bytes) (state : State) (key : EncryptionKey)
    (plaintext ciphertext : Bytes) : Request → Prop
  | encrypt (req : EncryptionRequest) (entropy : Nat → UInt8)
      (found : findKey state.store req.keyID = some key)
      (plain : lib.decode req.plaintext = some plaintext)
      (answered : (encrypt lib masterKey state.store req entropy).1 =
        .ok {keyID := key.uuid, ciphertext := lib.encode ciphertext}) :
      Returned lib masterKey state key plaintext ciphertext (.encrypt req entropy)
  | encryptData (entropy : Nat → UInt8) (listed : key ∈ state.store.rows)
      (answered : (encryptData lib masterKey state.store key.uuid plaintext entropy).1 =
        .ok ciphertext) :
      Returned lib masterKey state key plaintext ciphertext
        (.encryptData key.uuid plaintext entropy)
  | generateDEK (keyID : String) (bitLength : Int) (entropy : Entropy) (response : DEKResponse)
      (found : findKey state.store keyID = some key)
      (answered : (generateDEK lib masterKey state.store keyID bitLength entropy).1 = .ok response)
      (plain : response.plaintext = lib.encode plaintext)
      (wrapped : response.ciphertext = lib.encode ciphertext) :
      Returned lib masterKey state key plaintext ciphertext (.generateDEK keyID bitLength entropy)

theorem returned_encrypted {key : EncryptionKey} {plaintext : Bytes}
    {request : Request}
    (returned : Returned lib masterKey state key plaintext ciphertext request) :
    key ∈ state.store.rows ∧ ∃ keyMaterial entropy,
      decryptInternal lib masterKey key.keyMaterial = .ok keyMaterial ∧
        encryptWithKey lib keyMaterial plaintext entropy = .ok ciphertext := by
  cases returned with
  | encrypt req entropy found plain answered =>
    obtain ⟨other, result, served, response⟩ := serve_ok answered
    obtain ⟨_, ⟨again, _⟩, keyMaterial, decoded, opened, decodes, encrypted⟩ :=
      (encrypt_answer_iff _).mp served
    obtain rfl := Option.some.inj (found.symm.trans again)
    obtain rfl := Option.some.inj (plain.symm.trans decodes)
    obtain rfl := encode_inj (congrArg EncryptionResponse.ciphertext response)
    exact ⟨find_key_mem found, keyMaterial, entropy, opened, encrypted⟩
  | encryptData entropy listed answered =>
    obtain ⟨other, result, served, rfl⟩ := serve_ok answered
    obtain ⟨found, keyMaterial, opened, encrypted⟩ := (encrypt_data_answer_iff _).mp served
    have again := find_uuid_iff.mpr ⟨listed, rfl⟩
    obtain rfl := Option.some.inj (again.symm.trans found)
    exact ⟨listed, keyMaterial, entropy, opened, encrypted⟩
  | generateDEK keyID bitLength entropy response found answered plain wrapped =>
    obtain ⟨other, dek, wrappedDEK, answer, _, rfl⟩ := (generate_dek_ok_iff _ _).mp answered
    obtain ⟨_, ⟨again, _⟩, _, keyMaterial, opened, encrypted⟩ := (dek_answer_iff _ _).mp answer
    obtain rfl := Option.some.inj (found.symm.trans again)
    obtain rfl := encode_inj plain
    obtain rfl := encode_inj wrapped
    exact ⟨find_key_mem found, keyMaterial, entropy.nonce, opened, encrypted⟩

def Readable (lib : Library) (masterKey : Bytes) (store : Store) (key : EncryptionKey)
    (plaintext ciphertext : Bytes) : Prop :=
  (∀ keyID, keyID ≠ "" → Names keyID key →
    (decrypt lib masterKey store {keyID := keyID, ciphertext := lib.encode ciphertext}).1 =
      .ok {keyID := key.uuid, plaintext := lib.encode plaintext}) ∧
  (decryptData lib masterKey store key.uuid ciphertext).1 = .ok plaintext

theorem survivor_usable {after : EncryptionKey} {keyMaterial : Bytes}
    (minted : Minted lib masterKey store) (listed : after ∈ store.rows) (kept : Kept key after)
    (opened : decryptInternal lib masterKey key.keyMaterial = .ok keyMaterial) :
    after.status = .active ∨ after.status = .deactivated := by
  rcases (minted after listed).usable with ⟨_, wiped⟩ | ⟨status, _⟩
  · rw [kept.keyMaterial] at wiped
    rw [wiped, decryptInternal, decryptWithKey] at opened
    split_ifs at opened
    contradiction
  · exact status

theorem survivor_readable {plaintext keyMaterial : Bytes}
    (minted : Minted lib masterKey store) (survives : Survives key store)
    (opened : decryptInternal lib masterKey key.keyMaterial = .ok keyMaterial)
    (encrypted : encryptWithKey lib keyMaterial plaintext entropy = .ok ciphertext) :
    Readable lib masterKey store key plaintext ciphertext := by
  obtain ⟨after, listed, kept⟩ := survives
  have decrypts := decrypt_encrypted encrypted
  have stillOpened : decryptInternal lib masterKey after.keyMaterial = .ok keyMaterial := by
    rw [kept.keyMaterial]
    exact opened
  constructor
  · intro keyID filled names
    have later : Names keyID after := by
      unfold Names at names ⊢
      rw [kept.id, kept.uuid]
      exact names
    have found := (find_key_iff store keyID after).mpr ⟨listed, later⟩
    have admitted : usableKey store keyID
        (fun status => status == .active || status == .deactivated)
        "key is not available for decryption" = .ok after := by
      refine (usable_key_iff _ _).mpr ⟨found, ?_⟩
      simpa using survivor_usable store key minted listed kept opened
    have bound : ¬ (keyID = "" ∨ lib.encode ciphertext = "") := by
      rintro (empty | empty)
      · exact filled empty
      · exact encode_ne_empty (encrypted_long encrypted) empty
    rw [decrypt, decryptAnswer, if_neg bound]
    simp only [admitted, stillOpened, lib.decode_encode, decrypts, serve, kept.uuid]
  · have found := find_uuid_iff.mpr ⟨listed, kept.uuid⟩
    rw [decryptData, decryptDataAnswer, found]
    simp only [stillOpened, decrypts, serve]

theorem step_survives {request : Request} {next : State}
    (survives : Survives key state.store) (spared : ¬ Deletes state request key.id)
    (taken : step lib masterKey state request = some next) : Survives key next.store := by
  cases taken
  exact writes_survive (request_writes lib masterKey) spared survives

end Keys

/-- From an empty table: what encrypt, EncryptData or generateDEK returns under a
key is decrypted to its plaintext by decrypt and by DecryptData after any later
requests, as long as none of them deletes the key. -/
theorem encrypted_data_stays_readable (lib : Library) (masterKey : Bytes)
    (history later : List Request) (state last : State) (request : Request)
    (key : EncryptionKey) (plaintext ciphertext : Bytes)
    (reached : run (step lib masterKey) {} history = some state)
    (returned : Returned lib masterKey state key plaintext ciphertext request)
    (ran : run (step lib masterKey) state (request :: later) = some last)
    (spared : Guarded (step lib masterKey) (fun state request => ¬ Deletes state request key.id)
      state (request :: later)) :
    Readable lib masterKey last.store key plaintext ciphertext := by
  obtain ⟨listed, keyMaterial, entropy, opened, encrypted⟩ := returned_encrypted returned
  have minted : Minted lib masterKey state.store := by
    have always : Always (step lib masterKey) (fun state => Minted lib masterKey state.store)
        {} history :=
      always_of_invariant _ (fun _ holds => holds) step_minted history {} empty_minted
    exact always_last {} state always reached
  have kept : Always (step lib masterKey)
      (fun state => Minted lib masterKey state.store ∧ Survives key state.store)
      state (request :: later) := by
    refine always_of_guarded (fun _ holds => holds) ?_ state ⟨minted, ?_⟩ spared
    · rintro state request next ⟨sound, survives⟩ granted taken
      exact ⟨step_minted state request next sound taken, step_survives key survives granted taken⟩
    · exact ⟨key, listed, rfl, rfl, rfl⟩
  obtain ⟨sound, survives⟩ := always_last _ _ kept ran
  exact survivor_readable last.store key sound survives opened encrypted

def plainLibrary : Library where
  sealed _ _ plaintext := plaintext
  opened _ _ ciphertext := some ciphertext
  opened_sealed _ _ _ := rfl
  encode bytes := String.ofList (bytes.map fun byte => Char.ofNat byte.toNat)
  decode text := some (text.toList.map fun char => UInt8.ofNat char.toNat)
  decode_encode := by
    intro bytes
    have codes : ∀ code : Fin 256, (Char.ofNat code).toNat = code := by decide +kernel
    have back (byte : UInt8) : UInt8.ofNat (Char.ofNat byte.toNat).toNat = byte := by
      rw [codes ⟨byte.toNat, byte.toNat_lt⟩]
      exact UInt8.ofNat_toNat
    simp [Function.comp_def, back]
  decode_empty := rfl
  parseRFC3339 text := if text = "1970-01-01T00:00:01Z" then some 1000000000 else none
  toLower := id

def zeroKey : Bytes := List.replicate 32 0

def zeros : Entropy where
  material _ := 0
  nonce _ := 0

theorem rotated_key_still_decrypts :
    ∃ state last key, run (step plainLibrary zeroKey) {}
        [.createKey {name := "disk"} "k-1" zeros] = some state ∧
      findKey state.store "1" = some key ∧
      run (step plainLibrary zeroKey) state
        [.encrypt {keyID := "k-1", plaintext := "data"} (fun _ => 7),
          .rotateKey "1" "k-2" zeros true] = some last ∧
      Readable plainLibrary zeroKey last.store key [100, 97, 116, 97]
        (List.replicate 12 7 ++ [100, 97, 116, 97]) := by
  refine ⟨_, _, _, rfl, rfl, rfl, ?_⟩
  apply encrypted_data_stays_readable plainLibrary zeroKey
    [.createKey {name := "disk"} "k-1" zeros] [.rotateKey "1" "k-2" zeros true] _ _
    (.encrypt {keyID := "k-1", plaintext := "data"} (fun _ => 7)) _ _ _ rfl ?_ rfl
  · exact ⟨id, fun _ _ => ⟨id, fun _ _ => trivial⟩⟩
  · exact .encrypt _ _ (by decide +kernel) (by decide +kernel) (by decide +kernel)

section Retired

variable (lib : Library) (masterKey : Bytes)

def Expired (now : Int) (key : EncryptionKey) : Prop :=
  key.expiration.any (fun expiration => expiration < now) = true

instance (now : Int) (key : EncryptionKey) : Decidable (Expired now key) :=
  inferInstanceAs (Decidable (_ = true))

def EncryptsUnder (state : State) (key : EncryptionKey) : Request → Prop
  | .encrypt req entropy => findKey state.store req.keyID = some key ∧
      ∃ response, (encrypt lib masterKey state.store req entropy).1 = .ok response
  | .generateDEK keyID bitLength entropy => findKey state.store keyID = some key ∧
      ∃ response, (generateDEK lib masterKey state.store keyID bitLength entropy).1 = .ok response
  | .encryptData keyUUID data entropy => findKeyByUUID state.store keyUUID = some key ∧
      ∃ ciphertext, (encryptData lib masterKey state.store keyUUID data entropy).1 = .ok ciphertext
  | _ => False

def RetiredEncryptNothing (state : State) (request : Request) : Prop :=
  ∀ key, EncryptsUnder lib masterKey state key request →
    key.status = .active ∧ ¬ Expired state.now key

/-- A well-formed request to encrypt or to make a data key names no active key
that has expired, and EncryptData is given no key that is retired or expired. -/
def NamesUnexpired (state : State) : Request → Prop
  | .encrypt req _ => ∀ key, findKey state.store req.keyID = some key → key.status = .active →
      req.keyID ≠ "" → req.plaintext ≠ "" → lib.decode req.plaintext ≠ none →
        ¬ Expired state.now key
  | .generateDEK keyID bitLength entropy => ∀ key, findKey state.store keyID = some key →
      key.status = .active → keyID ≠ "" →
        (∃ dek, generateKeyMaterial (if bitLength = 0 then 256 else bitLength) entropy.material =
          some dek ∧ 8 ≤ dek.length) → ¬ Expired state.now key
  | .encryptData keyUUID _ _ => ∀ key, findKeyByUUID state.store keyUUID = some key →
      key.status ≠ .destroyed → key.status ≠ .deactivated ∧ ¬ Expired state.now key
  | _ => True

variable {lib masterKey}

theorem active_opens {key : EncryptionKey} (sound : Sound lib masterKey key)
    (active : key.status = .active) : Opens lib masterKey key := by
  rcases sound.usable with ⟨destroyed, _⟩ | ⟨_, opens⟩
  · exact absurd (active.symm.trans destroyed) (by decide)
  · exact opens

theorem encrypt_under_iff {req : EncryptionRequest}
    {key : EncryptionKey} (minted : Minted lib masterKey state.store) :
    EncryptsUnder lib masterKey state key (.encrypt req entropy) ↔
      findKey state.store req.keyID = some key ∧ key.status = .active ∧ req.keyID ≠ "" ∧
        req.plaintext ≠ "" ∧ lib.decode req.plaintext ≠ none := by
  constructor
  · rintro ⟨found, response, answered⟩
    obtain ⟨other, result, served, _⟩ := serve_ok answered
    obtain ⟨bound, ⟨again, active⟩, _, plaintext, _, decoded, _⟩ := (encrypt_answer_iff _).mp served
    obtain rfl := Option.some.inj (found.symm.trans again)
    exact ⟨found, active, bound.1, bound.2, by simp [decoded]⟩
  · rintro ⟨found, active, named, filled, decodes⟩
    obtain ⟨plaintext, decoded⟩ := Option.ne_none_iff_exists'.mp decodes
    obtain ⟨keyMaterial, opened, valid⟩ := active_opens (minted key (find_key_mem found)) active
    obtain ⟨ciphertext, encrypted⟩ := @encrypt_with_key_ok lib keyMaterial plaintext entropy valid
    have served := (encrypt_answer_iff state.store).mpr
      ⟨⟨named, filled⟩, ⟨found, active⟩, keyMaterial, plaintext, opened, decoded, encrypted⟩
    exact ⟨found, _, by rw [encrypt, served]; rfl⟩

theorem dek_under_iff {keyID : String} {bitLength : Int} {entropy : Entropy}
    {key : EncryptionKey} (minted : Minted lib masterKey state.store) :
    EncryptsUnder lib masterKey state key (.generateDEK keyID bitLength entropy) ↔
      findKey state.store keyID = some key ∧ key.status = .active ∧ keyID ≠ "" ∧
        ∃ dek, generateKeyMaterial (if bitLength = 0 then 256 else bitLength) entropy.material =
          some dek ∧ 8 ≤ dek.length := by
  constructor
  · rintro ⟨found, response, answered⟩
    obtain ⟨other, dek, _, answer, long, _⟩ := (generate_dek_ok_iff _ _).mp answered
    obtain ⟨named, ⟨again, active⟩, generated, _⟩ := (dek_answer_iff _ _).mp answer
    obtain rfl := Option.some.inj (found.symm.trans again)
    exact ⟨found, active, named, dek, generated, long⟩
  · rintro ⟨found, active, named, dek, generated, long⟩
    obtain ⟨keyMaterial, opened, valid⟩ := active_opens (minted key (find_key_mem found)) active
    obtain ⟨wrappedDEK, encrypted⟩ := @encrypt_with_key_ok lib keyMaterial dek entropy.nonce valid
    have answer := (dek_answer_iff state.store keyID).mpr
      ⟨named, ⟨found, active⟩, generated, keyMaterial, opened, encrypted⟩
    exact ⟨found, _, (generate_dek_ok_iff _ _).mpr ⟨key, dek, wrappedDEK, answer, long, rfl⟩⟩

/-- EncryptData succeeds under any key that still has its material. -/
theorem encrypt_data_under_iff {keyUUID : String} {data : Bytes} {key : EncryptionKey}
    (minted : Minted lib masterKey state.store) :
    EncryptsUnder lib masterKey state key (.encryptData keyUUID data entropy) ↔
      findKeyByUUID state.store keyUUID = some key ∧ key.status ≠ .destroyed := by
  constructor
  · rintro ⟨found, ciphertext, answered⟩
    obtain ⟨other, result, served, _⟩ := serve_ok answered
    obtain ⟨again, keyMaterial, opened, _⟩ := (encrypt_data_answer_iff _).mp served
    obtain rfl := Option.some.inj (found.symm.trans again)
    refine ⟨found, fun destroyed => ?_⟩
    have listed := (find_uuid_iff.mp found).1
    rcases survivor_usable state.store key minted listed ⟨rfl, rfl, rfl⟩ opened
      with active | retired
    · exact absurd (active.symm.trans destroyed) (by decide)
    · exact absurd (retired.symm.trans destroyed) (by decide)
  · rintro ⟨found, whole⟩
    have listed := (find_uuid_iff.mp found).1
    rcases (minted key listed).usable with ⟨destroyed, _⟩ | ⟨_, keyMaterial, opened, valid⟩
    · exact absurd destroyed whole
    · obtain ⟨ciphertext, encrypted⟩ := @encrypt_with_key_ok lib keyMaterial data entropy valid
      have served := (encrypt_data_answer_iff state.store).mpr
        ⟨found, keyMaterial, opened, encrypted⟩
      exact ⟨found, _, by rw [encryptData, served]; rfl⟩

theorem retired_encrypt_nothing_iff (state : State) (request : Request)
    (minted : Minted lib masterKey state.store) :
    RetiredEncryptNothing lib masterKey state request ↔ NamesUnexpired lib state request := by
  cases request with
  | encrypt req entropy =>
    simp only [RetiredEncryptNothing, encrypt_under_iff minted, NamesUnexpired]
    constructor
    · intro only key found active named filled decodes
      exact (only key ⟨found, active, named, filled, decodes⟩).2
    · rintro unexpired key ⟨found, active, named, filled, decodes⟩
      exact ⟨active, unexpired key found active named filled decodes⟩
  | generateDEK keyID bitLength entropy =>
    simp only [RetiredEncryptNothing, dek_under_iff minted, NamesUnexpired]
    constructor
    · intro only key found active named made
      exact (only key ⟨found, active, named, made⟩).2
    · rintro unexpired key ⟨found, active, named, made⟩
      exact ⟨active, unexpired key found active named made⟩
  | encryptData keyUUID data entropy =>
    simp only [RetiredEncryptNothing, encrypt_data_under_iff minted, NamesUnexpired]
    constructor
    · intro only key found whole
      obtain ⟨active, unexpired⟩ := only key ⟨found, whole⟩
      exact ⟨by simp [active], unexpired⟩
    · rintro live key ⟨found, whole⟩
      obtain ⟨unretired, unexpired⟩ := live key found whole
      refine ⟨?_, unexpired⟩
      have listed := (find_uuid_iff.mp found).1
      rcases (minted key listed).usable with ⟨destroyed, _⟩ | ⟨active | retired, _⟩
      · exact absurd destroyed whole
      · exact active
      · exact absurd retired unretired
  | _ => exact iff_of_true (fun _ encrypts => encrypts.elim) trivial

end Retired

/-- From an empty table, in any run of requests and clock advances: no ciphertext
is returned under a key that is retired or expired exactly when no request asks
for one under an expired key, and EncryptData under no retired one. -/
theorem retired_keys_encrypt_nothing_iff (lib : Library) (masterKey : Bytes)
    (requests : List Request) :
    Guarded (step lib masterKey) (RetiredEncryptNothing lib masterKey) {} requests ↔
      Guarded (step lib masterKey) (NamesUnexpired lib) {} requests :=
  guarded_iff retired_encrypt_nothing_iff step_minted empty_minted

/-- EncryptData under a key that was rotated out, and encrypt under a key that
expired a second ago. -/
theorem retired_keys_encrypt :
    (∃ state key, run (step plainLibrary zeroKey) {}
        [.createKey {name := "disk"} "k-1" zeros, .rotateKey "k-1" "k-2" zeros true] = some state ∧
      findKeyByUUID state.store "k-1" = some key ∧ key.status = .deactivated ∧
      (encryptData plainLibrary zeroKey state.store "k-1" [1, 2] fun _ => 7).1 =
        .ok (List.replicate 12 7 ++ [1, 2])) ∧
    ∃ state key, run (step plainLibrary zeroKey) {}
        [.createKey {name := "disk", expiration := "1970-01-01T00:00:01Z"} "k-1" zeros,
          .advance 2000000000] = some state ∧
      findKey state.store "k-1" = some key ∧ Expired state.now key ∧
      (encrypt plainLibrary zeroKey state.store {keyID := "k-1", plaintext := "data"}
        fun _ => 7).1.isOk = true := by
  refine ⟨⟨_, _, rfl, rfl, ?_⟩, _, _, rfl, rfl, ?_⟩
  · decide +kernel
  · decide +kernel

end VcStack.KeyUsage
