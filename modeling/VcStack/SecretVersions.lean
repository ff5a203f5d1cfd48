import Mathlib.Data.List.Range
import VcStack.KeyedTables
import VcStack.Pools
import VcStack.TextEncodings

/-!
The values of internal/management/secretsmanager and their versions. PutValue and
Rotate read the secret and then store the new version in one transaction; the
transactions of all calls are serial. The rows of a table are listed in the order
of their primary keys, the order in which `First` looks for one.
-/

namespace VcStack.SecretVersions

open KeyedTables Runs Pools TextEncodings

structure Secret where
  id : Nat
  name : String
  description : String := ""
  projectID : Nat := 0
  versionID : Nat := 1
  rotateAfter : Int := 0
  lastRotated : Option Int := none
deriving DecidableEq, Repr

inductive VersionStatus where
  | current | previous | deprecated
deriving DecidableEq, Repr

structure SecretVersion where
  secretID : Nat
  version : Nat
  value : String
  status : VersionStatus := .current
deriving DecidableEq, Repr

structure State where
  secrets : Table Secret.id := ⟨[], List.nodup_nil⟩
  versions : List SecretVersion := []
  /-- the values that were committed for each secret, the latest at the end -/
  committed : Nat → List String := fun _ => []

def commit (committed : Nat → List String) (id : Nat) (value : String) : Nat → List String :=
  fun other => if other = id then committed other ++ [value] else committed other

/-- The primary key and the unique index on the name may refuse the row. -/
def create (state : State) (sec : Secret) (value : String) : Option State :=
  if fresh : sec.id ∉ state.secrets.rows.map Secret.id then
    if sec.name ∈ state.secrets.rows.map Secret.name then none
    else some {
      secrets := state.secrets.insert sec fresh
      versions := state.versions ++ [{secretID := sec.id, version := 1, value := value}]
      committed := commit state.committed sec.id value }
  else none

def getValue (state : State) (id : Nat) : Option (String × Nat) :=
  (state.versions.find? fun row => row.secretID = id ∧ row.status = .current).map fun row =>
    (row.value, row.version)

def supersede (id : Nat) (row : SecretVersion) : SecretVersion :=
  if row.secretID = id ∧ row.status = .current then {row with status := .previous} else row

def newVersion (id : Nat) (newValue : String) (sec : Secret) : SecretVersion :=
  {secretID := id, version := sec.versionID + 1, value := newValue}

def putVersion (state : State) (id : Nat) (newValue : String) (sec : Secret) (now : Int) :
    State where
  secrets := state.secrets.update id
    (fun row => {row with versionID := sec.versionID + 1, lastRotated := some now}) fun _ => rfl
  versions := state.versions.map (supersede id) ++ [newVersion id newValue sec]
  committed := commit state.committed id newValue

inductive Failure where
  | notFound
  | database
deriving DecidableEq, Repr

inductive Call where
  | create (projectID : Nat) (name description value : String) (rotateDays : Int)
  | putValue (id : Nat) (newValue : String)
  | rotate (id : Nat) (bytes : List UInt8)

inductive Stage where
  | creating (projectID : Nat) (name description value : String) (rotateDays : Int)
  | reading (id : Nat) (newValue : String)
  | storing (id : Nat) (newValue : String) (sec : Secret)
  | finished (answer : Except Failure SecretVersion)

structure Input where
  id : Nat := 0
  now : Int := 0
  commits : Bool := true

def enter (_ : State) : Call → Stage
  | .create projectID name description value rotateDays =>
    .creating projectID name description value rotateDays
  | .putValue id newValue => .reading id newValue
  | .rotate id bytes => .reading id (hexEncode bytes)

def proceed (state : State) (stage : Stage) (input : Input) : Option (State × Stage) :=
  match stage with
  | .creating projectID name description value rotateDays =>
    let sec : Secret := {
      id := input.id, name := name, description := description, projectID := projectID,
      rotateAfter := rotateDays }
    match if input.commits then create state sec value else none with
    | none => some (state, .finished (.error .database))
    | some next =>
      some (next, .finished (.ok {secretID := input.id, version := 1, value := value}))
  | .reading id newValue =>
    match state.secrets.find id with
    | none => some (state, .finished (.error .notFound))
    | some sec => some (state, .storing id newValue sec)
  | .storing id newValue sec =>
    if input.commits then
      some (putVersion state id newValue sec input.now,
        .finished (.ok (newVersion id newValue sec)))
    else some (state, .finished (.error .database))
  | .finished _ => none

def program : Program State Stage Call Input where
  enter := enter
  proceed := proceed

def versionsOf (state : State) (id : Nat) : List SecretVersion :=
  state.versions.filter fun row => row.secretID = id

def numbers (state : State) (id : Nat) : List Nat := (versionsOf state id).map (·.version)

def currentVersions (state : State) (id : Nat) : List SecretVersion :=
  state.versions.filter fun row => row.secretID = id ∧ row.status = .current

structure Consistent (state : State) (secret : Secret) : Prop where
  current : ∃ row, currentVersions state secret.id = [row] ∧ row.version = secret.versionID
  distinct : (numbers state secret.id).Nodup
  latest : (getValue state secret.id).map (·.1) = (state.committed secret.id).getLast?

def Fresh (state : State) (stage : Stage) (input : Input) : Prop :=
  match stage with
  | .storing id _ sec => input.commits = true →
      ∀ row ∈ state.secrets.find id, row.versionID = sec.versionID
  | _ => True

instance (state : State) (stage : Stage) (input : Input) :
    Decidable (Fresh state stage input) := by
  unfold Fresh
  cases stage <;> infer_instance

variable (pool : Pool State Stage) (state next : State) (id : Nat) (newValue : String)
  (sec : Secret)

theorem supersede_secret {row : SecretVersion} :
    (supersede id row).secretID = row.secretID := by
  unfold supersede
  split <;> rfl

theorem supersede_version (row : SecretVersion) :
    (supersede id row).version = row.version := by
  unfold supersede
  split <;> rfl

theorem supersede_current_iff {row : SecretVersion} :
    (supersede id row).status = .current ↔ row.status = .current ∧ row.secretID ≠ id := by
  unfold supersede
  split_ifs with own
  · simp [own.1]
  · constructor
    · intro current
      exact ⟨current, fun same => own ⟨same, current⟩⟩
    · exact And.left

theorem numbers_append (versions : List SecretVersion) (row : SecretVersion)
    (secrets : Table Secret.id) (committed : Nat → List String) (id : Nat)
    (same : (versions.filter fun row => row.secretID = id).map (·.version) = numbers state id) :
    numbers ⟨secrets, versions ++ [row], committed⟩ id =
      numbers state id ++ if row.secretID = id then [row.version] else [] := by
  simp only [numbers, versionsOf, List.filter_append, List.map_append, same]
  congr 1
  split_ifs with own
  · simp [own]
  · simp [own]

variable {now : Int} {other : Nat} {value : String}

theorem put_numbers :
    numbers (putVersion state id newValue sec now) other =
      numbers state other ++ if id = other then [sec.versionID + 1] else [] := by
  apply numbers_append
  have owner : (fun row => decide (row.secretID = other)) ∘ supersede id =
      fun row => decide (row.secretID = other) := by
    funext row
    rw [Function.comp_apply, supersede_secret]
  have number : (·.version) ∘ supersede id = (·.version) := funext (supersede_version id)
  rw [List.filter_map, owner, List.map_map, number]
  rfl

theorem put_current :
    currentVersions (putVersion state id newValue sec now) other =
      if id = other then [newVersion id newValue sec] else currentVersions state other := by
  simp only [currentVersions, putVersion, List.filter_append, List.filter_map]
  by_cases own : id = other
  · subst own
    rw [if_pos rfl, List.filter_eq_nil_iff.mpr]
    · simp [newVersion]
    · intro row _
      simp only [Function.comp_apply, supersede_secret, supersede_current_iff, decide_eq_true_eq]
      tauto
  · rw [if_neg own]
    have kept : ∀ row : SecretVersion, row.secretID = other → supersede id row = row := by
      intro row mine
      exact if_neg fun chosen => own (chosen.1.symm.trans mine)
    have unchosen : (newVersion id newValue sec).secretID ≠ other := own
    rw [List.filter_singleton]
    simp only [unchosen, false_and, decide_false, cond_false, List.append_nil]
    have chooses : (fun row => decide (row.secretID = other ∧ row.status = .current)) ∘
        supersede id = fun row => decide (row.secretID = other ∧ row.status = .current) := by
      funext row
      simp only [Function.comp_apply, supersede_secret, supersede_current_iff]
      congr 1
      apply propext
      constructor
      · exact fun both => ⟨both.1, both.2.1⟩
      · exact fun both => ⟨both.1, both.2, fun same => own (same.symm.trans both.1)⟩
    rw [chooses]
    apply (List.map_congr_left _).trans (List.map_id _)
    intro row member
    exact kept row (of_decide_eq_true (List.mem_filter.mp member).2).1

theorem put_find {secret : Secret}
    (found : (putVersion state id newValue sec now).secrets.find other = some secret) :
    ∃ row, state.secrets.find other = some row ∧
      secret.versionID = if id = other then sec.versionID + 1 else row.versionID := by
  by_cases own : id = other
  · subst own
    rw [putVersion, find_update_same] at found
    obtain ⟨row, before, rfl⟩ := Option.map_eq_some_iff.mp found
    exact ⟨row, before, (if_pos rfl).symm⟩
  · rw [putVersion, find_update_other _ _ _ _ (Ne.symm own)] at found
    exact ⟨secret, found, (if_neg own).symm⟩

theorem put_find_none :
    (putVersion state id newValue sec now).secrets.find other = none ↔
      state.secrets.find other = none := by
  rw [find_none_iff, find_none_iff, putVersion, keys_update]

theorem create_spec (created : create state sec value = some next) :
    state.secrets.find sec.id = none ∧ next.secrets.find sec.id = some sec ∧
      (∀ other, other ≠ sec.id → next.secrets.find other = state.secrets.find other) ∧
      next.secrets.rows = state.secrets.rows ++ [sec] ∧
      next.versions = state.versions ++ [{secretID := sec.id, version := 1, value := value}] ∧
      next.committed = commit state.committed sec.id value := by
  unfold create at created
  split_ifs at created with fresh taken
  cases created
  refine ⟨(find_none_iff _).mpr fresh, ?_, ?_, rfl, rfl, rfl⟩
  · exact find_of_mem _ sec (List.mem_append_right _ List.mem_cons_self)
  · exact fun other different => find_insert_other _ _ fresh different

theorem create_numbers {id : Nat} (created : create state sec value = some next) :
    numbers next id = numbers state id ++ if sec.id = id then [1] else [] := by
  obtain ⟨_, _, _, _, versions, _⟩ := create_spec state next sec created
  have appended := numbers_append state state.versions
    {secretID := sec.id, version := 1, value := value} next.secrets next.committed id rfl
  rw [← versions] at appended
  exact appended

inductive Moves (state : State) : Stage → Input → State → Stage → Prop
  | fail (stage : Stage) (input : Input) (failure : Failure) :
      Moves state stage input state (.finished (.error failure))
  | create (projectID : Nat) (name description value : String) (rotateDays : Int) (input : Input)
      (sec : Secret) (next : State) (answer : Except Failure SecretVersion)
      (made : create state sec value = some next) (first : sec.versionID = 1) :
      Moves state (.creating projectID name description value rotateDays) input next
        (.finished answer)
  | read (id : Nat) (newValue : String) (input : Input) (sec : Secret)
      (found : state.secrets.find id = some sec) :
      Moves state (.reading id newValue) input state (.storing id newValue sec)
  | store (id : Nat) (newValue : String) (sec : Secret) (input : Input)
      (commits : input.commits = true) :
      Moves state (.storing id newValue sec) input (putVersion state id newValue sec input.now)
        (.finished (.ok (newVersion id newValue sec)))

theorem proceed_moves {stage after : Stage} {input : Input}
    (moved : proceed state stage input = some (next, after)) :
    Moves state stage input next after := by
  cases stage with
  | creating projectID name description value rotateDays =>
    simp only [proceed] at moved
    split at moved
    · cases moved
      exact .fail _ _ _
    · rename_i created
      cases moved
      obtain ⟨_, made⟩ := Option.ite_none_right_eq_some.mp created
      exact .create _ _ _ _ _ _ _ _ _ made rfl
  | reading id newValue =>
    simp only [proceed] at moved
    split at moved
    · cases moved
      exact .fail _ _ _
    · rename_i found
      cases moved
      exact .read _ _ _ _ found
  | storing id newValue sec =>
    simp only [proceed] at moved
    split_ifs at moved with commits
    · cases moved
      exact .store _ _ _ _ commits
    · cases moved
      exact .fail _ _ _
  | finished answer => contradiction

structure Settled (state : State) : Prop where
  owned : ∀ row ∈ state.versions, state.secrets.find row.secretID ≠ none
  current : ∀ id secret, state.secrets.find id = some secret →
    ∃ value, (state.committed id).getLast? = some value ∧
      currentVersions state id =
        [{secretID := id, version := secret.versionID, value := value}]

theorem numbers_absent (settled : Settled state) {id : Nat} (absent : state.secrets.find id = none) :
    numbers state id = [] := by
  rw [numbers, versionsOf, List.filter_eq_nil_iff.mpr, List.map_nil]
  intro row member
  rw [decide_eq_true_eq]
  rintro rfl
  exact settled.owned row member absent

theorem create_settled (first : sec.versionID = 1)
    (created : create state sec value = some next) (settled : Settled state) : Settled next := by
  obtain ⟨absent, present, others, _, versions, committed⟩ := create_spec state next sec created
  have unowned : ∀ row ∈ state.versions, row.secretID ≠ sec.id := by
    intro row member same
    exact settled.owned row member (same ▸ absent)
  constructor
  · intro row member
    rw [versions] at member
    rcases List.mem_append.mp member with old | new
    · rw [others _ (unowned row old)]
      exact settled.owned row old
    · rw [List.mem_singleton.mp new, present]
      exact Option.some_ne_none _
  · intro id secret found
    simp only [currentVersions, versions, committed, commit, List.filter_append]
    by_cases own : id = sec.id
    · subst own
      obtain rfl := Option.some.inj (present.symm.trans found)
      refine ⟨value, by rw [if_pos rfl, List.getLast?_append, List.getLast?_singleton]; rfl, ?_⟩
      rw [List.filter_eq_nil_iff.mpr]
      · simp [first]
      · intro row member
        simp [unowned row member]
    · rw [others id own] at found
      obtain ⟨last, latest, current⟩ := settled.current id secret found
      refine ⟨last, by rw [if_neg own]; exact latest, ?_⟩
      rw [List.filter_singleton]
      simp only [Ne.symm own, false_and, decide_false, cond_false, List.append_nil]
      exact current

theorem put_settled (present : state.secrets.find id ≠ none) (settled : Settled state) :
    Settled (putVersion state id newValue sec now) := by
  constructor
  · intro row member
    rw [Ne, put_find_none]
    rcases List.mem_append.mp member with old | new
    · obtain ⟨before, listed, rfl⟩ := List.mem_map.mp old
      rw [supersede_secret]
      exact settled.owned before listed
    · rw [List.mem_singleton.mp new]
      exact present
  · intro other secret found
    obtain ⟨row, before, version⟩ := put_find state id newValue sec found
    rw [put_current]
    simp only [putVersion, commit]
    by_cases own : id = other
    · subst own
      rw [if_pos rfl] at version
      refine ⟨newValue, by rw [if_pos rfl, List.getLast?_append, List.getLast?_singleton]; rfl, ?_⟩
      rw [if_pos rfl, newVersion, version]
    · rw [if_neg own] at version
      rw [if_neg (Ne.symm own), if_neg own, version]
      exact settled.current other row before

def Found (state : State) : Stage → Prop
  | .storing id _ _ => state.secrets.find id ≠ none
  | _ => True

theorem create_keeps_find {id : Nat} (created : create state sec value = some next)
    (found : state.secrets.find id ≠ none) :
    next.secrets.find id = state.secrets.find id := by
  obtain ⟨absent, _, others, _⟩ := create_spec state next sec created
  apply others
  rintro rfl
  exact found absent

theorem settled_step (turn : Turn Call Input) (next : Pool State Stage)
    (holds : Holds Settled Found pool) (stepped : program.step pool turn = some next) :
    Holds Settled Found next := by
  apply holds_step_free _ _ _ holds stepped
  · intro state call _
    cases call <;> trivial
  · intro state stage input next after settled found moved
    cases proceed_moves _ _ moved with
    | fail failure => exact ⟨settled, trivial⟩
    | create _ _ _ value _ _ sec next answer made first =>
      exact ⟨create_settled _ _ sec first made settled, trivial⟩
    | read id newValue input sec present =>
      refine ⟨settled, ?_⟩
      rw [Found, present]
      exact Option.some_ne_none _
    | store id newValue sec input commits =>
      exact ⟨put_settled _ _ _ _ found settled, trivial⟩
  · intro state stage input next after other settled found moved others
    cases other with
    | storing id newValue sec =>
      cases proceed_moves _ _ moved with
      | fail failure => exact others
      | create _ _ _ value _ _ sec next answer made first =>
        rw [Found, create_keeps_find _ _ _ made others]
        exact others
      | read => exact others
      | store stored newValue sec input commits =>
        rw [Found, Ne, put_find_none]
        exact others
    | _ => trivial

structure Numbered (state : State) : Prop extends Settled state where
  numbered : ∀ id secret, state.secrets.find id = some secret →
    1 ≤ secret.versionID ∧ numbers state id = List.range' 1 secret.versionID

def Read (state : State) : Stage → Prop
  | .storing id _ sec => ∃ row, state.secrets.find id = some row ∧
      1 ≤ sec.versionID ∧ sec.versionID ≤ row.versionID
  | _ => True

theorem create_numbered (first : sec.versionID = 1)
    (created : create state sec value = some next) (numbered : Numbered state) : Numbered next := by
  refine ⟨create_settled _ _ sec first created numbered.toSettled, ?_⟩
  obtain ⟨absent, present, others, _⟩ := create_spec state next sec created
  intro id secret found
  rw [create_numbers state next sec created]
  by_cases own : id = sec.id
  · subst own
    obtain rfl := Option.some.inj (present.symm.trans found)
    rw [numbers_absent state numbered.toSettled absent, if_pos rfl, first]
    exact ⟨Nat.le_refl _, rfl⟩
  · rw [others id own] at found
    rw [if_neg (Ne.symm own), List.append_nil]
    exact numbered.numbered id secret found

theorem put_numbered {row : Secret} (present : state.secrets.find id = some row)
    (fresh : row.versionID = sec.versionID) (numbered : Numbered state) :
    Numbered (putVersion state id newValue sec now) := by
  refine ⟨put_settled _ _ _ _ (by simp [present]) numbered.toSettled, ?_⟩
  intro other secret found
  obtain ⟨before, listed, version⟩ := put_find state id newValue sec found
  obtain ⟨positive, counted⟩ := numbered.numbered other before listed
  rw [put_numbers, counted]
  by_cases own : id = other
  · subst own
    obtain rfl := Option.some.inj (present.symm.trans listed)
    rw [if_pos rfl] at version ⊢
    rw [version, ← fresh, List.range'_concat]
    exact ⟨Nat.le_add_left _ _, by rw [Nat.one_mul, Nat.add_comm]⟩
  · rw [if_neg own] at version ⊢
    rw [version, List.append_nil]
    exact ⟨positive, rfl⟩

theorem numbered_step {turn : Turn Call Input} {next : Pool State Stage}
    (holds : Holds Numbered Read pool) (fresh : Steps Fresh pool turn)
    (stepped : program.step pool turn = some next) : Holds Numbered Read next := by
  apply holds_step _ _ _ holds fresh stepped
  · intro state call _
    cases call <;> trivial
  · intro state stage input next after numbered read fresh moved
    cases proceed_moves _ _ moved with
    | fail failure => exact ⟨numbered, trivial⟩
    | create _ _ _ value _ _ sec next answer made first =>
      exact ⟨create_numbered _ _ sec first made numbered, trivial⟩
    | read id newValue input sec present =>
      exact ⟨numbered, sec, present, (numbered.numbered id sec present).1, Nat.le_refl _⟩
    | store id newValue sec input commits =>
      obtain ⟨row, present, _, _⟩ := read
      exact ⟨put_numbered _ _ _ _ present (fresh commits row present) numbered, trivial⟩
  · intro state stage input next after other numbered read fresh moved others
    cases other with
    | storing id newValue sec =>
      obtain ⟨row, present, positive, below⟩ := others
      cases proceed_moves _ _ moved with
      | fail failure => exact ⟨row, present, positive, below⟩
      | create _ _ _ value _ _ created next answer made first =>
        refine ⟨row, ?_, positive, below⟩
        rw [create_keeps_find _ _ _ made (by simp [present])]
        exact present
      | read => exact ⟨row, present, positive, below⟩
      | store stored newValue written input commits =>
        have kept : (putVersion state stored newValue written input.now).secrets.find id ≠
            none := by
          rw [Ne, put_find_none, present]
          exact Option.some_ne_none _
        obtain ⟨secret, found⟩ := Option.ne_none_iff_exists'.mp kept
        obtain ⟨before, listed, version⟩ := put_find _ _ _ _ found
        obtain rfl := Option.some.inj (present.symm.trans listed)
        refine ⟨secret, found, positive, ?_⟩
        rw [version]
        split_ifs with own
        · subst own
          have same := fresh commits row present
          omega
        · exact below
    | _ => trivial

def Distinct (state : State) : Prop := ∀ id, (numbers state id).Nodup

theorem numbers_grow {next : Pool State Stage} {turn : Turn Call Input} {id : Nat}
    (stepped : program.step pool turn = some next) :
    ∃ more, numbers next.shared id = numbers pool.shared id ++ more := by
  cases taken_of_step stepped with
  | enter call => exact ⟨[], (List.append_nil _).symm⟩
  | advance input front back stage after state split moved =>
    cases proceed_moves _ _ moved with
    | fail failure => exact ⟨[], (List.append_nil _).symm⟩
    | create _ _ _ value _ _ sec next answer made first =>
      exact ⟨_, create_numbers _ _ sec made⟩
    | read => exact ⟨[], (List.append_nil _).symm⟩
    | store stored newValue sec input commits => exact ⟨_, put_numbers _ _ _ _⟩

theorem distinct_inherited (turn : Turn Call Input) (next : Pool State Stage)
    (stepped : program.step pool turn = some next) (distinct : Distinct next.shared) :
    Distinct pool.shared := by
  intro id
  obtain ⟨more, grown⟩ := numbers_grow pool stepped
  have all := distinct id
  rw [grown] at all
  exact (List.nodup_append.mp all).1

theorem stale_step_repeats (turn : Turn Call Input) (holds : Holds Numbered Read pool)
    (outside : ¬ Steps Fresh pool turn) :
    ∃ next, program.step pool turn = some next ∧ ¬ Distinct next.shared := by
  obtain ⟨front, stage, back, input, split, rfl, stale⟩ := not_steps_iff.mp outside
  cases stage with
  | storing id newValue sec =>
    simp only [Fresh, not_forall] at stale
    obtain ⟨commits, row, present, different⟩ := stale
    have moved : proceed pool.shared (.storing id newValue sec) input =
        some (putVersion pool.shared id newValue sec input.now,
          .finished (.ok (newVersion id newValue sec))) := if_pos commits
    refine ⟨_, step_advance split moved, fun distinct => ?_⟩
    have member : Stage.storing id newValue sec ∈ pool.tasks := by
      rw [split]
      exact List.mem_append_right _ List.mem_cons_self
    obtain ⟨other, listed, positive, below⟩ := holds.task _ member
    obtain rfl := Option.some.inj (listed.symm.trans present)
    have all := distinct id
    rw [put_numbers, if_pos rfl, (holds.shared.numbered id other present).2] at all
    have earlier : sec.versionID + 1 ∈ List.range' 1 other.versionID := by
      rw [List.mem_range'_1]
      omega
    exact (List.nodup_append.mp all).2.2 _ earlier _ List.mem_cons_self rfl
  | _ => exact absurd trivial stale

theorem distinct_of_numbered (holds : Holds Numbered Read pool) :
    Distinct pool.shared := by
  intro id
  cases found : pool.shared.secrets.find id with
  | none =>
    rw [numbers_absent pool.shared holds.shared.toSettled found]
    exact List.nodup_nil
  | some secret =>
    rw [(holds.shared.numbered id secret found).2]
    exact List.nodup_range'

theorem get_value_eq :
    getValue state id = (currentVersions state id).head?.map fun row => (row.value, row.version) := by
  rw [currentVersions, List.head?_filter]
  rfl

theorem consistent_iff (settled : Settled state) {secret : Secret}
    (member : secret ∈ state.secrets.rows) :
    Consistent state secret ↔ (numbers state secret.id).Nodup := by
  constructor
  · exact Consistent.distinct
  · intro distinct
    obtain ⟨value, latest, current⟩ := settled.current secret.id secret (find_of_mem _ _ member)
    refine ⟨⟨_, current, rfl⟩, distinct, ?_⟩
    rw [get_value_eq, current, latest]
    rfl

theorem initially_numbered : Numbered {} where
  owned _ member := absurd member List.not_mem_nil
  current _ _ found := by cases found
  numbered _ _ found := by cases found

def Finished : Stage → Prop
  | .finished _ => True
  | _ => False

/-- From an empty database, in any interleaving of the reads and transactions of
any number of calls: after it, every secret has one current version, which has the
secret's number and the value that was committed last, and its version numbers are
distinct, exactly when each transaction met the version its call had read. -/
theorem versions_consistent_iff (turns : List (Turn Call Input)) (last : Pool State Stage)
    (ran : run program.step {shared := {}} turns = some last) :
    (∀ secret ∈ last.shared.secrets.rows, Consistent last.shared secret) ↔
      Guarded program.step (Steps Fresh) {shared := {}} turns := by
  have settled : Holds Settled Found last := by
    apply always_last _ last _ ran
    apply always_of_invariant (Holds Settled Found) (fun _ holds => holds) settled_step
    exact ⟨initially_numbered.toSettled, fun _ member => absurd member List.not_mem_nil⟩
  have guarded := always_iff_guarded (Holds Numbered Read)
    (fun pool => Distinct pool.shared) distinct_of_numbered
    (fun pool turn next holds fresh => numbered_step pool holds fresh)
    stale_step_repeats turns {shared := {}}
    ⟨initially_numbered, fun _ member => absurd member List.not_mem_nil⟩
  rw [← guarded]
  constructor
  · intro consistent
    apply always_of_last distinct_inherited _ last ran
    intro id
    cases found : last.shared.secrets.find id with
    | none =>
      rw [numbers_absent last.shared settled.shared found]
      exact List.nodup_nil
    | some secret =>
      obtain ⟨member, rfl⟩ := (find_iff _).mp found
      exact (consistent secret member).distinct
  · intro always secret member
    rw [consistent_iff last.shared settled.shared member]
    exact always_last _ last always ran secret.id

def callsInTurn : List (Turn Call Input) :=
  [.enter (.create 1 "database" "" "first" 0), .advance 0 {id := 7},
    .enter (.putValue 7 "second"), .advance 1 {}, .advance 1 {},
    .enter (.rotate 7 [0xab]), .advance 2 {}, .advance 2 {}]

theorem calls_in_turn_consistent : ∃ last,
    run program.step {shared := {}} callsInTurn = some last ∧
    numbers last.shared 7 = [1, 2, 3] ∧ getValue last.shared 7 = some ("ab", 3) ∧
    ∀ secret ∈ last.shared.secrets.rows, Consistent last.shared secret :=
  ⟨_, rfl, by decide +kernel, by decide +kernel,
    (versions_consistent_iff callsInTurn _ rfl).mpr (by decide +kernel)⟩

/-- PutValue and Rotate both read version 1; both store a version 2. -/
theorem version_number_repeated : ∃ last secret,
    run program.step {shared := {}}
      [.enter (.create 1 "database" "" "first" 0), .advance 0 {id := 7},
        .enter (.putValue 7 "second"), .enter (.rotate 7 [0xab]), .advance 1 {}, .advance 2 {},
        .advance 1 {}, .advance 2 {}] = some last ∧
    Quiescent Finished last ∧ secret ∈ last.shared.secrets.rows ∧
    numbers last.shared secret.id = [1, 2, 2] ∧ ¬ Consistent last.shared secret := by
  refine ⟨_, {id := 7, name := "database", projectID := 1, versionID := 2, lastRotated := some 0},
    rfl, ?_, ?_, ?_, ?_⟩
  · intro stage member
    simp only [List.set, List.nil_append, List.cons_append, List.mem_cons, List.not_mem_nil,
      or_false] at member
    rcases member with rfl | rfl | rfl
    all_goals trivial
  · exact List.mem_cons_self
  · decide +kernel
  · intro consistent
    exact absurd consistent.distinct (by decide +kernel)

end VcStack.SecretVersions
