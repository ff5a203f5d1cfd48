import VcStack.KeyUsage
import VcStack.Pools

/-!
Rotations of one key at once, one statement on the table of keys at a time. The
status of the old key is tested when it is read; the write that retires it and the
insertion of its successor follow, and each of them may fail.
-/

namespace VcStack.KeyRotations

open KeyedTables Runs Pools KeyManagement KeyUsage

def successor (oldKey : EncryptionKey) (uuid : String) (encNewKey : Bytes) (now : Int) (id : Nat) :
    EncryptionKey where
  id := id
  uuid := uuid
  name := oldKey.name
  projectID := oldKey.projectID
  algorithm := oldKey.algorithm
  bitLength := oldKey.bitLength
  mode := oldKey.mode
  status := .active
  keyMaterial := encNewKey
  rotatedFrom := some oldKey.id
  rotatedAt := some now
  description := "Rotated from " ++ oldKey.uuid

structure Rotation where
  idStr : String
  uuid : String
  entropy : Entropy

/-- What a rotation is about to do, with what it has read. `retired` tells whether
its write to the old key was carried out. -/
inductive Stage where
  | finding (rotation : Rotation)
  | retiring (oldKey : EncryptionKey) (uuid : String) (encNewKey : Bytes) (now : Int)
  | creating (oldKey : EncryptionKey) (uuid : String) (encNewKey : Bytes) (now : Int)
      (retired : Bool)
  | finished (answer : Except Failure (EncryptionKey × EncryptionKey)) (retired : Bool)

structure Input where
  now : Int := 0
  succeeds : Bool := true

variable {oldKey : EncryptionKey} {uuid : String} {encNewKey : Bytes} {now : Int}
  {stage after : Stage} {count : Nat} {front back : List Stage}

section Rotations

variable (lib : Library) (masterKey : Bytes)

def findOldKey (store : Store) (rotation : Rotation) (now : Int) : Stage :=
  match findKey store rotation.idStr with
  | none => .finished (.error (.answer 404 "encryption key not found")) false
  | some oldKey =>
    if oldKey.status ≠ .active then
      .finished (.error (.answer 400 "can only rotate active keys")) false
    else match protectedMaterial lib masterKey oldKey.bitLength rotation.entropy
        "failed to protect new key material" with
      | .error failure => .finished (.error failure) false
      | .ok encNewKey => .retiring oldKey rotation.uuid encNewKey now

def createNewKey (store : Store) (oldKey : EncryptionKey) (uuid : String) (encNewKey : Bytes)
    (now : Int) (retired succeeds : Bool) : Store × Stage :=
  match if succeeds then store.create (successor oldKey uuid encNewKey now) fun _ => rfl
      else none with
  | none => (store, .finished (.error .database) retired)
  | some created =>
    (created, .finished
      (.ok (oldKey, successor oldKey uuid encNewKey now created.sequence)) retired)

def proceed (store : Store) (stage : Stage) (input : Input) : Option (Store × Stage) :=
  match stage with
  | .finding rotation => some (store, findOldKey lib masterKey store rotation input.now)
  | .retiring oldKey uuid encNewKey now =>
    some (if input.succeeds then store.retire oldKey.id else store,
      .creating oldKey uuid encNewKey now input.succeeds)
  | .creating oldKey uuid encNewKey now retired =>
    some (createNewKey store oldKey uuid encNewKey now retired input.succeeds)
  | .finished _ _ => none

def program : Program Store Stage Rotation Input where
  enter _ rotation := .finding rotation
  proceed := proceed lib masterKey

variable {lib masterKey}

variable (key : EncryptionKey) (store : Store)

theorem create_new_key_refused {retired : Bool}
    (refused : store.create (successor oldKey uuid encNewKey now) (fun _ => rfl) = none) :
    createNewKey store oldKey uuid encNewKey now retired true =
      (store, .finished (.error .database) retired) := by
  rw [createNewKey, if_pos rfl, refused]

theorem create_new_key_done {created : Store} {retired : Bool}
    (made : store.create (successor oldKey uuid encNewKey now) (fun _ => rfl) = some created) :
    createNewKey store oldKey uuid encNewKey now retired true =
      (created, .finished
        (.ok (oldKey, successor oldKey uuid encNewKey now created.sequence)) retired) := by
  rw [createNewKey, if_pos rfl, made]

/-- The steps of a rotation that is left alone are rotateKey: the read at the time of
the call, the write with its outcome, and the insertion, as far as it comes. -/
theorem rotation_in_steps {rotation : Rotation} {deactivates : Bool} :
    ∃ made retired, run (program lib masterKey).alone (store, .finding rotation)
        ([{now := now}, {succeeds := deactivates}, {}].take made) =
      some ((rotateKey lib masterKey store now rotation.idStr rotation.uuid rotation.entropy
          deactivates).2,
        .finished (rotateKey lib masterKey store now rotation.idStr rotation.uuid rotation.entropy
          deactivates).1 retired) := by
  have finds : run (program lib masterKey).alone (store, .finding rotation)
      ([{now := now}, {succeeds := deactivates}, {}].take 1) =
        some (store, findOldKey lib masterKey store rotation now) := rfl
  unfold rotateKey
  unfold findOldKey at finds
  cases found : findKey store rotation.idStr with
  | none =>
    rw [found] at finds
    exact ⟨1, false, finds⟩
  | some oldKey =>
    rw [found] at finds
    dsimp only at finds ⊢
    by_cases active : oldKey.status = .active
    · rw [if_neg (not_not.mpr active)] at finds ⊢
      cases made : protectedMaterial lib masterKey oldKey.bitLength rotation.entropy
          "failed to protect new key material" with
      | error failure =>
        rw [made] at finds
        exact ⟨1, false, finds⟩
      | ok encNewKey =>
        have first : (program lib masterKey).alone (store, .finding rotation) {now := now} =
            some (store, .retiring oldKey rotation.uuid encNewKey now) := by
          rw [made] at finds
          exact finds
        refine ⟨3, deactivates, ?_⟩
        change ((program lib masterKey).alone _ _).bind _ = _
        rw [first]
        change some (createNewKey (if deactivates then store.retire oldKey.id else store) oldKey
          rotation.uuid encNewKey now deactivates true) = _
        dsimp only
        generalize (if deactivates then store.retire oldKey.id else store) = marked
        split
        · rename_i refused
          rw [create_new_key_refused marked refused]
        · rename_i created
          rw [create_new_key_done marked created]
          rfl
    · rw [if_pos active] at finds ⊢
      exact ⟨1, false, finds⟩

def InLine (id : Nat) (key : EncryptionKey) : Prop :=
  (key.id = id ∨ key.rotatedFrom = some id) ∧ key.status = .active

instance (id : Nat) (key : EncryptionKey) : Decidable (InLine id key) :=
  inferInstanceAs (Decidable (_ ∧ _))

def activeKeys (store : Store) (id : Nat) : List EncryptionKey :=
  store.rows.filter fun key => InLine id key

def Stage.retired : Stage → Bool
  | .creating _ _ _ _ retired | .finished _ retired => retired
  | _ => false

def Stage.busy : Stage → Bool
  | .retiring _ _ _ _ | .creating _ _ _ _ _ => true
  | _ => false

def Finished : Stage → Prop
  | .finished _ _ => True
  | _ => False

def Concerns (key : EncryptionKey) : Stage → Prop
  | .finding rotation => Names rotation.idStr key
  | .retiring oldKey _ _ _ => oldKey.id = key.id
  | .creating oldKey _ _ _ _ => oldKey.id = key.id
  | .finished _ _ => True

def Lands (store : Store) (uuid : String) (input : Input) : Prop :=
  input.succeeds = true ∧ uuid ∉ store.table.rows.map EncryptionKey.uuid

instance (store : Store) (uuid : String) (input : Input) : Decidable (Lands store uuid input) :=
  inferInstanceAs (Decidable (_ ∧ _))

theorem lands_iff (oldKey : EncryptionKey) (uuid : String) (encNewKey : Bytes) (now : Int)
    (input : Input) :
    (if input.succeeds then store.create (successor oldKey uuid encNewKey now) fun _ => rfl
      else none).isSome = true ↔ Lands store uuid input := by
  unfold Lands Store.create
  cases input.succeeds with
  | false => simp
  | true =>
    by_cases taken : uuid ∈ store.table.rows.map EncryptionKey.uuid
    · simp [successor, taken]
    · simp [successor, taken]

theorem find_old_key_cases (rotation : Rotation) :
    (∃ failure, findOldKey lib masterKey store rotation now = .finished (.error failure) false) ∨
    ∃ oldKey encNewKey, findKey store rotation.idStr = some oldKey ∧ oldKey.status = .active ∧
      findOldKey lib masterKey store rotation now =
        .retiring oldKey rotation.uuid encNewKey now := by
  unfold findOldKey
  split
  · exact Or.inl ⟨_, rfl⟩
  · rename_i oldKey found
    split_ifs with other
    · exact Or.inl ⟨_, rfl⟩
    · split
      · exact Or.inl ⟨_, rfl⟩
      · exact Or.inr ⟨oldKey, _, found, not_not.mp other, rfl⟩

theorem create_new_key_cases (retired : Bool) (input : Input) :
    (∃ failure, createNewKey store oldKey uuid encNewKey now retired input.succeeds =
        (store, .finished (.error failure) retired) ∧ ¬ Lands store uuid input) ∨
    ∃ created keys, createNewKey store oldKey uuid encNewKey now retired input.succeeds =
        (created, .finished (.ok keys) retired) ∧
      store.create (successor oldKey uuid encNewKey now) (fun _ => rfl) = some created ∧
      Lands store uuid input := by
  have lands := lands_iff store oldKey uuid encNewKey now input
  unfold createNewKey
  split
  · rename_i refused
    rw [refused] at lands
    exact Or.inl ⟨_, rfl, fun landed => by cases lands.mpr landed⟩
  · rename_i created
    obtain ⟨_, inserted⟩ := Option.ite_none_right_eq_some.mp created
    exact Or.inr ⟨_, _, rfl, inserted, lands.mp (by rw [created]; rfl)⟩

structure Line (key : EncryptionKey) (store : Store) (retired : Bool) (count : Nat) : Prop where
  row : ∃ row ∈ store.rows, row.id = key.id ∧ row.uuid = key.uuid ∧
    row.status = if retired then .deactivated else .active
  active : (activeKeys store key.id).length = (if retired then 0 else 1) + count

theorem line_retire {retired : Bool} (line : Line key store retired count) :
    Line key (store.retire key.id) true count := by
  obtain ⟨row, listed, id, uuid, status⟩ := line.row
  constructor
  · refine ⟨_, List.mem_map_of_mem listed, ?_⟩
    rw [if_pos id]
    exact ⟨id, uuid, rfl⟩
  · have counted := length_filter_update
      (fun key => {key with status := .deactivated}) (fun _ => rfl)
      ((find_iff _).mpr ⟨listed, id⟩) fun key' => InLine key.id key'
    have gone : ¬ InLine key.id {row with status := .deactivated} := fun inLine => by
      cases inLine.2
    have counts : InLine key.id row ↔ retired = false := by
      unfold InLine
      rw [status, and_iff_right (Or.inl id)]
      cases retired <;> decide
    have before := line.active
    simp only [gone, counts, decide_false, decide_eq_true_eq, Bool.false_eq_true, if_false,
      Nat.add_zero] at counted
    change (activeKeys (store.retire key.id) key.id).length + _ =
      (activeKeys store key.id).length at counted
    rw [if_pos rfl]
    cases retired with
    | true =>
      simp only [Bool.true_eq_false, if_false, if_true] at counted before
      omega
    | false =>
      simp only [Bool.false_eq_true, if_false, if_true] at counted before
      omega

theorem line_create {store created : Store} {retired : Bool} (same : oldKey.id = key.id)
    (made : store.create (successor oldKey uuid encNewKey now) (fun _ => rfl) = some created)
    (line : Line key store retired count) : Line key created retired (count + 1) := by
  have rows := create_rows _ made
  constructor
  · obtain ⟨row, listed, kept⟩ := line.row
    refine ⟨row, ?_, kept⟩
    rw [rows]
    exact List.mem_append_left _ listed
  · have new : InLine key.id (successor oldKey uuid encNewKey now created.sequence) :=
      ⟨Or.inr (congrArg some same), rfl⟩
    have before := line.active
    rw [activeKeys] at before ⊢
    rw [rows, List.filter_append, List.length_append, before, List.filter_singleton,
      decide_eq_true new, cond_true, List.length_singleton, Nat.add_assoc]

theorem found_same {store : Store} {idStr : String} {retired : Bool}
    (line : Line key store retired count) (names : Names idStr key)
    (found : findKey store idStr = some oldKey) :
    oldKey.id = key.id ∧ oldKey.status = if retired then .deactivated else .active := by
  obtain ⟨row, listed, id, uuid, status⟩ := line.row
  obtain ⟨member, also⟩ := (find_key_iff store idStr oldKey).mp found
  have row_names : Names idStr row := by
    unfold Names at names ⊢
    rw [id, uuid]
    exact names
  have again := (find_key_iff store idStr row).mpr ⟨listed, row_names⟩
  obtain rfl := Option.some.inj (again.symm.trans found)
  exact ⟨id, status⟩

def Requests (key : EncryptionKey) (_ : Pool Store Stage) : Turn Rotation Input → Prop
  | .enter rotation => Names rotation.idStr key
  | .advance _ _ => True

instance (keyID : String) (key : EncryptionKey) : Decidable (Names keyID key) := by
  unfold Names
  cases TextEncodings.parseInt keyID <;> infer_instance

instance (key : EncryptionKey) (pool : Pool Store Stage) (turn : Turn Rotation Input) :
    Decidable (Requests key pool turn) := by
  cases turn <;> unfold Requests <;> infer_instance

/-- A rotation reads the key while no other is between its read and its insertion, and
its insertion is carried out exactly when its write to the old key was. -/
def InTurn (tasks : List Stage) (store : Store) (stage : Stage) (input : Input) : Prop :=
  match stage with
  | .finding _ => ∀ other ∈ tasks, other.busy = false
  | .creating _ uuid _ _ retired => retired = true ↔ Lands store uuid input
  | _ => True

instance (tasks : List Stage) (store : Store) (stage : Stage) (input : Input) :
    Decidable (InTurn tasks store stage input) := by
  unfold InTurn
  split <;> infer_instance

def Orderly (pool : Pool Store Stage) (turn : Turn Rotation Input) : Prop :=
  Steps (InTurn pool.tasks) pool turn

instance (pool : Pool Store Stage) (turn : Turn Rotation Input) : Decidable (Orderly pool turn) :=
  inferInstanceAs (Decidable (Steps _ _ _))

/-- One rotation at most is on its way, with the key as it found or left it; when none
is, a retired key has one successor. -/
structure Ordered (key : EncryptionKey) (pool : Pool Store Stage) : Prop where
  concerns : ∀ stage ∈ pool.tasks, Concerns key stage
  alone : pool.tasks.countP Stage.busy ≤ 1
  line : ∃ retired count, Line key pool.shared retired count ∧
    (pool.tasks.countP Stage.busy = 0 → count = if retired then 1 else 0) ∧
    ∀ stage ∈ pool.tasks, stage.busy = true → count = 0 ∧ retired = stage.retired

theorem ordered_replaced {retired : Bool}
    (quiet : ∀ other ∈ front ++ back, other.busy = false)
    (concerns : ∀ other ∈ front ++ after :: back, Concerns key other)
    (line : Line key store retired count)
    (waits : after.busy = false → count = if retired then 1 else 0)
    (goes : after.busy = true → count = 0 ∧ retired = after.retired) :
    Ordered key ⟨store, front ++ after :: back⟩ := by
  have none : front.countP Stage.busy = 0 ∧ back.countP Stage.busy = 0 := by
    rw [← Nat.add_eq_zero_iff, ← List.countP_append, List.countP_eq_zero]
    exact fun other member => Bool.eq_false_iff.mp (quiet other member)
  refine ⟨concerns, ?_, retired, count, line, ?_, ?_⟩
  · rw [List.countP_append, List.countP_cons, none.1, none.2]
    split <;> omega
  · rw [List.countP_append, List.countP_cons, none.1, none.2]
    cases own : after.busy with
    | true => simp
    | false => exact fun _ => waits own
  · intro other member busy
    rcases List.mem_append.mp member with earlier | later
    · rw [quiet other (List.mem_append_left _ earlier)] at busy
      contradiction
    · rcases List.mem_cons.mp later with same | behind
      · rw [same] at busy ⊢
        exact goes busy
      · rw [quiet other (List.mem_append_right _ behind)] at busy
        contradiction

theorem quiet_of_busy (alone : (front ++ stage :: back).countP Stage.busy ≤ 1)
    (busy : stage.busy = true) : ∀ other ∈ front ++ back, other.busy = false := by
  rw [List.countP_append, List.countP_cons, if_pos busy] at alone
  have none : (front ++ back).countP Stage.busy = 0 := by
    rw [List.countP_append]
    omega
  intro other member
  exact Bool.eq_false_iff.mpr (List.countP_eq_zero.mp none other member)

theorem quiet_of_all (all : ∀ other ∈ front ++ stage :: back, other.busy = false) :
    (∀ other ∈ front ++ back, other.busy = false) ∧
      (front ++ stage :: back).countP Stage.busy = 0 := by
  refine ⟨fun other member => all other ?_, ?_⟩
  · rw [List.mem_append] at member ⊢
    exact member.imp_right (List.mem_cons_of_mem _)
  · rw [List.countP_eq_zero]
    exact fun other member => Bool.eq_false_iff.mp (all other member)

theorem ordered_enter {pool : Pool Store Stage} {rotation : Rotation} (ordered : Ordered key pool)
    (concerned : Concerns key (.finding rotation)) :
    Ordered key ⟨pool.shared, pool.tasks ++ [.finding rotation]⟩ := by
  have same : (pool.tasks ++ [Stage.finding rotation]).countP Stage.busy =
      pool.tasks.countP Stage.busy := by
    rw [List.countP_append]
    rfl
  obtain ⟨retired, count, line, waits, goes⟩ := ordered.line
  refine ⟨?_, same ▸ ordered.alone, retired, count, line, same ▸ waits, ?_⟩
  · intro stage member
    rcases List.mem_append.mp member with old | new
    · exact ordered.concerns stage old
    · rw [List.mem_singleton.mp new]
      exact concerned
  · intro stage member busy
    rcases List.mem_append.mp member with old | new
    · exact goes stage old busy
    · rw [List.mem_singleton.mp new] at busy
      contradiction

theorem ordered_step (pool : Pool Store Stage) (turn : Turn Rotation Input)
    (next : Pool Store Stage) (ordered : Ordered key pool)
    (guarded : Requests key pool turn ∧ Orderly pool turn)
    (stepped : (program lib masterKey).step pool turn = some next) : Ordered key next := by
  cases taken_of_step stepped with
  | enter rotation => exact ordered_enter key ordered guarded.1
  | advance input front back stage after store split moved =>
    have orderly := guarded.2 stage (task_at split)
    obtain ⟨shared, tasks⟩ := pool
    subst split
    obtain ⟨concerns, alone, retired, count, line, waits, goes⟩ := ordered
    have member : stage ∈ front ++ stage :: back := List.mem_append_right _ List.mem_cons_self
    have concerned := concerns stage member
    have replaced (holds : Concerns key after) := forall_replaced _ concerns (fun _ => id) holds
    cases stage with
    | finding rotation =>
      obtain ⟨quiet, idle⟩ := quiet_of_all orderly
      cases moved
      rcases find_old_key_cases shared rotation with
        ⟨failure, failed⟩ | ⟨oldKey, encNewKey, found, active, reads⟩
      · rw [failed] at replaced ⊢
        exact ordered_replaced key _ quiet (replaced trivial) line (fun _ => waits idle)
          (fun busy => by contradiction)
      · rw [reads] at replaced ⊢
        obtain ⟨same, status⟩ := found_same key line concerned found
        have unretired : retired = false := by
          cases retired with
          | false => rfl
          | true =>
            rw [active] at status
            contradiction
        refine ordered_replaced key _ quiet (replaced same) line (fun busy => by contradiction)
          fun _ => ⟨?_, unretired⟩
        rw [waits idle, unretired]
        rfl
    | retiring oldKey uuid encNewKey now =>
      have same : oldKey.id = key.id := concerned
      have quiet := quiet_of_busy alone rfl
      obtain ⟨none, own⟩ := goes _ member rfl
      rcases input with ⟨_, _ | _⟩
      · cases moved
        exact ordered_replaced key _ quiet (replaced same) line (fun busy => by contradiction)
          fun _ => ⟨none, own⟩
      · cases moved
        rw [if_pos rfl, same]
        exact ordered_replaced key _ quiet (replaced same) (line_retire key shared line)
          (fun busy => by contradiction) fun _ => ⟨none, rfl⟩
    | creating oldKey uuid encNewKey now own =>
      obtain ⟨none, same⟩ := goes _ member rfl
      have quiet := quiet_of_busy alone rfl
      have made := Option.some.inj moved
      rcases create_new_key_cases shared own input with
        ⟨failure, refused, lost⟩ | ⟨created, keys, done, inserted, landed⟩
      · cases refused.symm.trans made
        have spared : own = false := Bool.eq_false_iff.mpr (mt orderly.mp lost)
        refine ordered_replaced key _ quiet (replaced trivial) line
          (fun _ => ?_) (fun busy => by contradiction)
        rw [none, same, show Stage.retired _ = own from rfl, spared]
        rfl
      · cases done.symm.trans made
        refine ordered_replaced key _ quiet (replaced trivial)
          (line_create key concerned inserted line) (fun _ => ?_) (fun busy => by contradiction)
        rw [none, same, show Stage.retired _ = own from rfl, orderly.mpr landed]
        rfl
    | finished answer own => contradiction

end Rotations

/-- From one active key, in any interleaving of the steps of any number of rotations
of it whose writes may fail: if no rotation reads the key while another is between its
read and its insertion, and no rotation has one of its two writes carried out without
the other, exactly one of the key and its successors is active when all have ended. -/
theorem rotations_keep_one (lib : Library) (masterKey : Bytes) (store : Store)
    (key : EncryptionKey) (turns : List (Turn Rotation Input)) (last : Pool Store Stage)
    (only : activeKeys store key.id = [key])
    (guarded : Guarded (program lib masterKey).step
      (fun pool turn => Requests key pool turn ∧ Orderly pool turn) {shared := store} turns)
    (ran : run (program lib masterKey).step {shared := store} turns = some last)
    (quiescent : Quiescent Finished last) :
    (activeKeys last.shared key.id).length = 1 := by
  have listed : key ∈ activeKeys store key.id := only ▸ List.mem_cons_self
  obtain ⟨member, inLine⟩ := List.mem_filter.mp listed
  have initial : Ordered key {shared := store} :=
    ⟨fun _ member => absurd member List.not_mem_nil, Nat.zero_le _, false, 0,
      ⟨⟨key, member, rfl, rfl, (of_decide_eq_true inLine).2⟩, by rw [only]; rfl⟩,
      fun _ => rfl, fun _ member => absurd member List.not_mem_nil⟩
  have ordered : Ordered key last := by
    apply always_last _ last _ ran
    exact always_of_guarded (fun _ holds => holds) (ordered_step key) _ initial guarded
  obtain ⟨retired, count, line, waits, _⟩ := ordered.line
  have none : last.tasks.countP Stage.busy = 0 := by
    rw [List.countP_eq_zero]
    intro stage inside busy
    have finished := quiescent stage inside
    cases stage with
    | finished answer retired => contradiction
    | _ => exact finished
  rw [line.active, waits none]
  cases retired <;> rfl

def diskStore : Store := (createKey plainLibrary zeroKey Store.empty {name := "disk"} "k-1" zeros).2

def diskKey : EncryptionKey :=
  {id := 1, uuid := "k-1", name := "disk", keyMaterial := List.replicate 44 0}

def rotationsInTurn : List (Turn Rotation Input) :=
  [.enter ⟨"k-1", "k-2", zeros⟩, .advance 0 {}, .advance 0 {}, .advance 0 {},
    .enter ⟨"1", "k-3", zeros⟩, .advance 1 {}]

theorem rotated_once : ∃ last,
    run (program plainLibrary zeroKey).step {shared := diskStore} rotationsInTurn = some last ∧
    (activeKeys last.shared diskKey.id).length = 1 := by
  refine ⟨_, rfl, rotations_keep_one plainLibrary zeroKey diskStore diskKey rotationsInTurn _
    (by decide +kernel) (by decide +kernel) rfl ?_⟩
  intro stage member
  simp only [List.set, List.nil_append, List.cons_append, List.mem_cons, List.not_mem_nil,
    or_false] at member
  rcases member with rfl | rfl
  all_goals trivial

/-- Both rotations read the key before either retires it: two successors are active.
And one rotation whose insertion fails: no key is active. -/
theorem rotation_forks_or_loses :
    (∃ last, run (program plainLibrary zeroKey).step {shared := diskStore}
        [.enter ⟨"k-1", "k-2", zeros⟩, .enter ⟨"1", "k-3", zeros⟩, .advance 0 {}, .advance 1 {},
          .advance 0 {}, .advance 0 {}, .advance 1 {}, .advance 1 {}] = some last ∧
      Quiescent Finished last ∧ (activeKeys last.shared 1).map (·.uuid) = ["k-2", "k-3"]) ∧
    ∃ last, run (program plainLibrary zeroKey).step {shared := diskStore}
        [.enter ⟨"k-1", "k-2", zeros⟩, .advance 0 {}, .advance 0 {},
          .advance 0 {succeeds := false}] = some last ∧
      Quiescent Finished last ∧ activeKeys last.shared 1 = [] := by
  refine ⟨⟨_, rfl, ?_, by decide +kernel⟩, _, rfl, ?_, by decide +kernel⟩
  · intro stage member
    simp only [List.set, List.nil_append, List.cons_append, List.mem_cons, List.not_mem_nil,
      or_false] at member
    rcases member with rfl | rfl
    all_goals trivial
  · intro stage member
    simp only [List.set, List.nil_append, List.mem_cons, List.not_mem_nil, or_false] at member
    rw [member]
    trivial

end VcStack.KeyRotations
