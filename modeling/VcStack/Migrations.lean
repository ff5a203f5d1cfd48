import Mathlib.Data.List.Induction
import VcStack.Pools

/-!
The migration of an instance to another host, from
internal/management/compute/migration.go: the worker that carries it out and the requests
to cancel it, as the database statements they consist of, in any interleaving. Most
statements may fail without anyone noticing.
-/

namespace VcStack.Migrations

open Runs Pools

inductive Status where
  | queued
  | preparing
  | migrating
  | completed
  | failed
  | cancelled
deriving DecidableEq, Repr

def Status.final : Status → Bool
  | .completed | .failed | .cancelled => true
  | _ => false

def Status.undone : Status → Bool
  | .failed | .cancelled => true
  | _ => false

/-- The job as the worker holds it. migrateInstance refuses the host of the instance
as destination. -/
structure Migration where
  sourceHostID : String
  destHostID : String
  sourceNodeAddr : String
  destNodeAddr : String
  elsewhere : destHostID ≠ sourceHostID

structure Row where
  status : Status := .queued
  progress : Int := 0
  errorMessage : String := ""
  startedAt : Option Int := none
  completedAt : Option Int := none
deriving DecidableEq, Repr

structure Instance where
  hostID : String
  nodeAddress : String
  status : String
  powerState : String
  flavorID : Nat
deriving DecidableEq, Repr

structure Host where
  status : String
  cpuAllocated : Int
  ramAllocatedMB : Int
deriving DecidableEq, Repr

structure Flavor where
  vcpus : Int
  ram : Int
deriving DecidableEq, Repr

structure Database where
  migration : Row
  server : Instance
  hosts : String → Option Host
  flavors : Nat → Option Flavor

structure Answer where
  error : Option String := none
  now : Int := 0
deriving DecidableEq, Repr

inductive Reply where
  | notFound
  | conflict (message : String)
  | ok
deriving DecidableEq, Repr

inductive Stage where
  | starting
  | checking
  | checked
  | sending
  | sent
  | waiting
  | waited
  | assigning
  | reading
  | pricing (flavorID : Nat)
  | freeing (flavor : Flavor)
  | charging (flavor : Flavor)
  | completing
  | failing (reason : String)
  | finding
  | cancelling
  | restoring
  | finished (reply : Reply)
deriving DecidableEq, Repr

/-- An update without a condition; its error is dropped. -/
def updateMigrationStatus (db : Database) (answer : Answer) (status : Status) (progress : Int)
    (startedAt completedAt : Option Int) (errorMsg : String) : Database :=
  match answer.error with
  | some _ => db
  | none =>
    {db with migration := {
      status := status
      progress := progress
      errorMessage := if errorMsg = "" then db.migration.errorMessage else errorMsg
      startedAt := startedAt.or db.migration.startedAt
      completedAt := completedAt.or db.migration.completedAt }}

/-- Failure and cancellation restore the instance alike; the error is dropped. -/
def restore (db : Database) (answer : Answer) : Database :=
  match answer.error with
  | some _ => db
  | none => {db with server := {db.server with status := "active", powerState := "running"}}

def preMigrationCheck (m : Migration) (db : Database) (answer : Answer) : Option String :=
  match answer.error with
  | some error => some ("destination host lookup failed: " ++ error)
  | none =>
    -- Scan leaves the status empty when there is no such host.
    let status := ((db.hosts m.destHostID).map Host.status).getD ""
    if status = "up" then none
    else some ("destination host is no longer available (status: " ++ status ++ ")")

def sendMigrationCommand (m : Migration) : Option String :=
  if m.sourceNodeAddr = "" then some "source node address is empty" else none

def waitForMigration (_ : Migration) : Option String := none

def assign (m : Migration) (db : Database) : Database :=
  {db with server := {db.server with
    hostID := m.destHostID, nodeAddress := m.destNodeAddr, status := "active",
    powerState := "running"}}

def allocate (db : Database) (answer : Answer) (hostID : String) (change : Host → Host) : Database :=
  match answer.error with
  | some _ => db
  | none => {db with hosts := fun other =>
    if other = hostID then (db.hosts other).map change else db.hosts other}

def release (flavor : Flavor) (host : Host) : Host :=
  {host with
    cpuAllocated := max (host.cpuAllocated - flavor.vcpus) 0
    ramAllocatedMB := max (host.ramAllocatedMB - flavor.ram) 0}

def claim (flavor : Flavor) (host : Host) : Host :=
  {host with
    cpuAllocated := host.cpuAllocated + flavor.vcpus
    ramAllocatedMB := host.ramAllocatedMB + flavor.ram}

def Status.name : Status → String
  | .queued => "queued"
  | .preparing => "preparing"
  | .migrating => "migrating"
  | .completed => "completed"
  | .failed => "failed"
  | .cancelled => "cancelled"

/-- `executeMigration` calls its steps one after another; the first error fails the
migration. -/
def orFail (failure : Option String) (context : String) (next : Stage) : Stage :=
  match failure with
  | some error => .failing (context ++ error)
  | none => next

def proceed (m : Migration) (db : Database) (stage : Stage) (answer : Answer) :
    Option (Database × Stage) :=
  match stage with
  | .starting =>
    some (updateMigrationStatus db answer .preparing 10 (some answer.now) none "", .checking)
  | .checking =>
    some (db, orFail (preMigrationCheck m db answer) "pre-migration check failed: " .checked)
  | .checked => some (updateMigrationStatus db answer .preparing 25 none none "", .sending)
  | .sending => some (db, orFail (sendMigrationCommand m) "migration command failed: " .sent)
  | .sent => some (updateMigrationStatus db answer .migrating 50 none none "", .waiting)
  | .waiting => some (db, orFail (waitForMigration m) "migration failed: " .waited)
  | .waited => some (updateMigrationStatus db answer .migrating 90 none none "", .assigning)
  | .assigning =>
    match answer.error with
    | some error => some (db,
        .failing ("post-migration update failed: failed to update instance host: " ++ error))
    | none => some (assign m db, .reading)
  | .reading =>
    match answer.error with
    | some _ => some (db, .completing)
    | none => some (db, .pricing db.server.flavorID)
  | .pricing flavorID =>
    match answer.error, db.flavors flavorID with
    | none, some flavor => some (db, .freeing flavor)
    | _, _ => some (db, .completing)
  | .freeing flavor => some (allocate db answer m.sourceHostID (release flavor), .charging flavor)
  | .charging flavor => some (allocate db answer m.destHostID (claim flavor), .completing)
  | .completing =>
    some (updateMigrationStatus db answer .completed 100 none (some answer.now) "", .finished .ok)
  | .failing reason =>
    some (updateMigrationStatus db answer .failed 0 none (some answer.now) reason, .restoring)
  | .finding =>
    match answer.error with
    | some _ => some (db, .finished .notFound)
    | none =>
      if db.migration.status.final then
        some (db, .finished (.conflict ("migration is already " ++ db.migration.status.name)))
      else some (db, .cancelling)
  | .cancelling =>
    some (updateMigrationStatus db answer .cancelled 0 none (some answer.now) "cancelled by user",
      .restoring)
  | .restoring => some (restore db answer, .finished .ok)
  | .finished _ => none

def program (m : Migration) : Program Database Stage Unit Answer where
  enter _ _ := .finding
  proceed := proceed m

abbrev Job := Pool Database Stage

def queued (m : Migration) (server : Instance) (hosts : String → Option Host)
    (flavors : Nat → Option Flavor) : Job where
  shared := {migration := {}, server := {server with hostID := m.sourceHostID}, hosts, flavors}
  tasks := [.starting]

variable {db next : Database} {answer : Answer} {status : Status} {progress : Int}
  {startedAt completedAt : Option Int} {errorMsg : String} {stage : Stage}

section Claims

variable (m : Migration)

/-- A final status stays, and when the migration failed or was cancelled the instance
is on its host. -/
def Settled (start : Job) (turns : List (Turn Unit Answer)) : Prop :=
  ∀ front more rest middle last, turns = front ++ more ++ rest →
    run (program m).step start front = some middle → run (program m).step middle more = some last →
    middle.shared.migration.status.final = true →
      last.shared.migration.status = middle.shared.migration.status ∧
        (middle.shared.migration.status.undone = true → last.shared.server.hostID = m.sourceHostID)

def Stage.writes : Stage → Option Status
  | .starting => some .preparing
  | .checked => some .preparing
  | .sent => some .migrating
  | .waited => some .migrating
  | .completing => some .completed
  | .failing _ => some .failed
  | .cancelling => some .cancelled
  | _ => none

/-- The order of two statements that succeed: after the write of a final status no other
status is written, and after a failure or a cancellation the instance is not moved; after
the move the migration is neither failed nor cancelled. -/
def InOrder (earlier later : Stage) : Prop :=
  (∀ status, earlier.writes = some status → status.final = true →
    (∀ other, later.writes = some other → other = status) ∧
      (status.undone = true → later ≠ .assigning)) ∧
  (earlier = .assigning → ∀ status, later.writes = some status → status.undone = false)

def succeeds (job : Job) : Turn Unit Answer → List Stage
  | .enter _ => []
  | .advance place answer => if answer.error = none then (job.tasks[place]?).toList else []

def succeeded : Job → List (Turn Unit Answer) → List Stage
  | _, [] => []
  | job, turn :: rest =>
    match (program m).step job turn with
    | none => []
    | some next => succeeds job turn ++ succeeded next rest

structure Effect (db : Database) (stage : Stage) (answer : Answer) (next : Database) : Prop where
  status : next.migration.status =
    if answer.error = none then stage.writes.getD db.migration.status else db.migration.status
  host : next.server.hostID =
    if answer.error = none ∧ stage = .assigning then m.destHostID else db.server.hostID

theorem update_status :
    (updateMigrationStatus db answer status progress startedAt completedAt errorMsg).migration.status =
      if answer.error = none then status else db.migration.status := by
  unfold updateMigrationStatus
  cases answer.error <;> simp

theorem update_server :
    (updateMigrationStatus db answer status progress startedAt completedAt errorMsg).server =
      db.server := by
  unfold updateMigrationStatus
  cases answer.error <;> rfl

theorem effect_of
    (status : next.migration.status =
      if answer.error = none then stage.writes.getD db.migration.status else db.migration.status)
    (host : next.server.hostID = db.server.hostID) (other : stage ≠ .assigning) :
    Effect m db stage answer next := by
  refine ⟨status, ?_⟩
  rw [host, if_neg fun both => other both.2]

theorem effect_update
    (writes : stage.writes = some status) (other : stage ≠ .assigning) :
    Effect m db stage answer
      (updateMigrationStatus db answer status progress startedAt completedAt errorMsg) := by
  apply effect_of m ?_ ?_ other
  · rw [update_status, writes, Option.getD_some]
  · rw [update_server]

theorem effect_none
    (status : next.migration.status = db.migration.status)
    (host : next.server.hostID = db.server.hostID) (silent : stage.writes = none)
    (other : stage ≠ .assigning) : Effect m db stage answer next := by
  apply effect_of m ?_ host other
  rw [silent, Option.getD_none, ite_self, status]

theorem effect_allocate {hostID : String}
    {change : Host → Host} (silent : stage.writes = none) (other : stage ≠ .assigning) :
    Effect m db stage answer (allocate db answer hostID change) := by
  apply effect_none m ?_ ?_ silent other
  · unfold allocate
    cases answer.error <;> rfl
  · unfold allocate
    cases answer.error <;> rfl

theorem effect_restore :
    Effect m db .restoring answer (restore db answer) := by
  apply effect_none m ?_ ?_ rfl (by decide)
  · unfold restore
    cases answer.error <;> rfl
  · unfold restore
    cases answer.error <;> rfl

theorem effect_assign (worked : answer.error = none) :
    Effect m db .assigning answer (assign m db) := by
  constructor
  · rw [if_pos worked]
    rfl
  · rw [if_pos ⟨worked, rfl⟩]
    rfl

theorem effect_assign_failed {error : String}
    (failed : answer.error = some error) : Effect m db .assigning answer db := by
  constructor <;> simp [failed]

theorem proceed_effect (db next : Database) (stage after : Stage) (answer : Answer)
    (moved : proceed m db stage answer = some (next, after)) : Effect m db stage answer next := by
  revert moved
  fun_cases proceed m db stage answer <;> intro moved <;> cases moved
  -- the statements that write the status
  case case1 | case3 | case5 | case7 | case16 | case17 | case21 =>
      exact effect_update m rfl nofun
  case case8 error failed => exact effect_assign_failed m failed
  case case9 worked => exact effect_assign m worked
  case case14 | case15 => exact effect_allocate m rfl nofun
  case case22 => exact effect_restore m
  -- those that only read, and what is no statement
  all_goals exact effect_none m rfl rfl rfl nofun

def Home (db : Database) : Prop :=
  db.migration.status.undone = true → db.server.hostID = m.sourceHostID

def Lasting (job : Job) (turn : Turn Unit Answer) : Prop :=
  ∀ next, (program m).step job turn = some next →
    (job.shared.migration.status.final = true →
      next.shared.migration.status = job.shared.migration.status) ∧ Home m next.shared

theorem final_of_undone (undone : status.undone = true) : status.final = true := by
  cases status <;> first | rfl | cases undone

section Reached

variable (start : Job) (turns : List (Turn Unit Answer))
  (lasting : ∀ front turn back middle, turns = front ++ turn :: back →
    run (program m).step start front = some middle → Lasting m middle turn)

include lasting

theorem home_reached (home : Home m start.shared) {front rest : List (Turn Unit Answer)}
    {middle : Job} (shape : turns = front ++ rest)
    (ran : run (program m).step start front = some middle) : Home m middle.shared := by
  rcases List.eq_nil_or_concat front with rfl | ⟨earlier, turn, rfl⟩
  · cases ran
    exact home
  · rw [List.concat_eq_append, run_append] at ran
    obtain ⟨before, first, last⟩ := Option.bind_eq_some_iff.mp ran
    obtain ⟨next, stepped, same⟩ := Option.bind_eq_some_iff.mp last
    cases same
    refine (lasting earlier turn rest before ?_ first middle stepped).2
    rw [shape, List.concat_eq_append, List.append_assoc, List.singleton_append]

theorem final_stays (front more rest : List (Turn Unit Answer)) (middle last : Job)
    (shape : turns = front ++ more ++ rest)
    (ran : run (program m).step start front = some middle)
    (onward : run (program m).step middle more = some last)
    (final : middle.shared.migration.status.final = true) :
    last.shared.migration.status = middle.shared.migration.status := by
  induction more using List.reverseRecOn generalizing last rest with
  | nil =>
    cases onward
    rfl
  | append_singleton more turn ih =>
    rw [run_append] at onward
    obtain ⟨before, earlier, stepped⟩ := Option.bind_eq_some_iff.mp onward
    obtain ⟨next, taken, same⟩ := Option.bind_eq_some_iff.mp stepped
    cases same
    have parts : turns = front ++ more ++ turn :: rest := by
      rw [shape, List.append_assoc, List.append_assoc, List.singleton_append, List.append_assoc]
    have unchanged := ih (turn :: rest) before parts earlier
    have reached : run (program m).step start (front ++ more) = some before := by
      rw [run_append, ran]
      exact earlier
    have kept := (lasting (front ++ more) turn rest before parts reached last taken).1
    rw [kept (unchanged ▸ final), unchanged]

end Reached

theorem settled_iff {start : Job} {turns : List (Turn Unit Answer)} (home : Home m start.shared) :
    Settled m start turns ↔ Guarded (program m).step (Lasting m) start turns := by
  rw [guarded_iff_splits]
  constructor
  · intro settled front turn back middle shape ran next stepped
    have onward : run (program m).step middle [turn] = some next := by
      rw [run, stepped]
      rfl
    have reached : run (program m).step start (front ++ [turn]) = some next := by
      rw [run_append, ran]
      exact onward
    constructor
    · intro final
      refine (settled front [turn] back middle next ?_ ran onward final).1
      rw [shape, List.append_assoc, List.singleton_append]
    · intro undone
      refine (settled (front ++ [turn]) [] back next next ?_ reached rfl
        (final_of_undone undone)).2 undone
      rw [shape, List.append_nil, List.append_assoc, List.singleton_append]
  · intro lasting front more rest middle last shape ran onward final
    have stays := final_stays m start turns lasting front more rest middle last shape ran onward final
    have reached : run (program m).step start (front ++ more) = some last := by
      rw [run_append, ran]
      exact onward
    refine ⟨stays, fun undone => ?_⟩
    apply home_reached m start turns lasting home shape reached
    rw [stays]
    exact undone

structure Recorded (done : List Stage) (db : Database) : Prop where
  status : ∀ status : Status, status.final = true →
    ((∃ stage ∈ done, stage.writes = some status) ↔ db.migration.status = status)
  host : db.server.hostID = m.sourceHostID ↔ .assigning ∉ done

theorem effect_failed (effect : Effect m db stage answer next) (failed : answer.error ≠ none) :
    next.migration.status = db.migration.status ∧ next.server.hostID = db.server.hostID :=
  ⟨effect.status.trans (if_neg failed),
    effect.host.trans (if_neg fun both => failed both.1)⟩

section Order

variable {done : List Stage} (recorded : Recorded m done db)

include recorded

theorem lasting_iff_in_order (home : Home m db) (effect : Effect m db stage answer next)
    (worked : answer.error = none) :
    ((db.migration.status.final = true → next.migration.status = db.migration.status) ∧
      Home m next) ↔ ∀ earlier ∈ done, InOrder earlier stage := by
  obtain ⟨status, host⟩ := effect
  rw [if_pos worked] at status
  simp only [worked, true_and] at host
  unfold Home at home ⊢
  constructor
  · rintro ⟨stays, back⟩ earlier member
    rw [status, host] at back
    constructor
    · intro value written final
      have stored := (recorded.status value final).mp ⟨earlier, member, written⟩
      constructor
      · intro other writes
        have same := stays (stored ▸ final)
        rw [status, writes, stored] at same
        exact same
      · rintro undone rfl
        exact m.elsewhere (back (stored.symm ▸ undone))
    · rintro rfl value writes
      by_contra undone
      rw [Bool.not_eq_false] at undone
      have other : stage ≠ .assigning := by
        rintro rfl
        cases writes
      rw [writes, if_neg other] at back
      exact recorded.host.mp (back undone) member
  · intro ordered
    have written (final : db.migration.status.final = true) :=
      (recorded.status _ final).mpr rfl
    constructor
    · intro final
      obtain ⟨earlier, member, stored⟩ := written final
      rw [status]
      cases writes : stage.writes with
      | none => rfl
      | some other => exact ((ordered earlier member).1 _ stored final).1 other writes
    · rw [status, host]
      by_cases assigns : stage = .assigning
      · subst assigns
        intro undone
        obtain ⟨earlier, member, stored⟩ := written (final_of_undone undone)
        exact absurd rfl
          (((ordered earlier member).1 _ stored (final_of_undone undone)).2 undone)
      · rw [if_neg assigns]
        cases writes : stage.writes with
        | none => exact home
        | some value =>
          intro undone
          rw [recorded.host]
          intro moved
          have kept := (ordered _ moved).2 rfl value writes
          rw [Option.getD_some] at undone
          rw [undone] at kept
          contradiction

theorem recorded_failed (effect : Effect m db stage answer next) (failed : answer.error ≠ none) :
    Recorded m done next := by
  obtain ⟨status, host⟩ := effect_failed m effect failed
  constructor
  · rw [status]
    exact recorded.status
  · rw [host]
    exact recorded.host

theorem recorded_succeeded (effect : Effect m db stage answer next) (worked : answer.error = none)
    (ordered : ∀ earlier ∈ done, InOrder earlier stage) : Recorded m (done ++ [stage]) next := by
  have status := effect.status
  have host := effect.host
  rw [if_pos worked] at status
  constructor
  · intro value final
    have before := recorded.status value final
    simp only [List.mem_append, List.mem_singleton, or_and_right, exists_or, exists_eq_left]
    rw [status]
    cases written : stage.writes with
    | none => simpa using before
    | some other =>
      rw [Option.getD_some, Option.some.injEq]
      refine or_iff_right_of_imp ?_
      rintro ⟨earlier, member, stored⟩
      exact ((ordered earlier member).1 value stored final).1 other written
  · rw [host, List.mem_append, List.mem_singleton, not_or, ← recorded.host]
    by_cases assigns : stage = .assigning
    · simp [worked, assigns, m.elsewhere]
    · simp [assigns, Ne.symm assigns]

end Order

theorem lasting_iff_ordered (turns : List (Turn Unit Answer)) (job : Job) (done : List Stage)
    (home : Home m job.shared) (recorded : Recorded m done job.shared)
    (ordered : done.Pairwise InOrder) :
    Guarded (program m).step (Lasting m) job turns ↔
      (done ++ succeeded m job turns).Pairwise InOrder := by
  induction turns generalizing job done with
  | nil => exact iff_of_true trivial ((List.append_nil done).symm ▸ ordered)
  | cons turn rest ih =>
    rw [Guarded, succeeded, Lasting]
    cases stepped : (program m).step job turn with
    | none => simp [ordered]
    | some next =>
      simp only [Option.some.injEq, forall_eq']
      cases taken_of_step stepped with
      | enter request =>
        exact (and_iff_right ⟨fun _ => rfl, home⟩).trans (ih _ done home recorded ordered)
      | advance answer front back stage after shared split moved =>
        have effect := proceed_effect m _ _ _ _ _ moved
        rw [succeeds, task_at split]
        by_cases worked : answer.error = none
        · have lasting := lasting_iff_in_order m recorded home effect worked
          rw [if_pos worked, Option.toList_some, ← List.append_assoc]
          constructor
          · rintro ⟨here, onward⟩
            have after := lasting.mp here
            refine (ih _ _ here.2 (recorded_succeeded m recorded effect worked after) ?_).mp onward
            exact List.pairwise_append.mpr
              ⟨ordered, List.pairwise_singleton _ _, by simpa using after⟩
          · intro all
            have upTo := all.sublist (List.sublist_append_left _ _)
            have after : ∀ earlier ∈ done, InOrder earlier stage := by
              simpa using (List.pairwise_append.mp upTo).2.2
            have here := lasting.mpr after
            exact ⟨here, (ih _ _ here.2
              (recorded_succeeded m recorded effect worked after) upTo).mpr all⟩
        · have same := effect_failed m effect worked
          have still : Home m shared := by
            unfold Home at home ⊢
            rw [same.1, same.2]
            exact home
          rw [if_neg worked, List.nil_append,
            ih _ done still (recorded_failed m recorded effect worked) ordered]
          exact and_iff_right ⟨fun _ => same.1, still⟩

end Claims

def between : Migration where
  sourceHostID := "host-a"
  destHostID := "host-b"
  sourceNodeAddr := "10.0.0.1:8081"
  destNodeAddr := "10.0.0.2:8081"
  elsewhere := by decide

def between.queued : Job :=
  Migrations.queued between ⟨"host-a", "10.0.0.1:8081", "migrating", "running", 1⟩
    (fun _ => some ⟨"up", 8, 16384⟩) (fun _ => some ⟨2, 4096⟩)

/-- The request to cancel finds the migration before the worker assigns the new host;
then the worker goes on to the end. -/
def completing : List (Turn Unit Answer) :=
  List.replicate 7 (.advance 0 {}) ++ [.enter (), .advance 1 {}] ++ List.replicate 6 (.advance 0 {})

end VcStack.Migrations
