import VcStack.LinkedLists
import VcStack.PolicyValues
import VcStack.Runs
import VcStack.TextEncodings

/-!
The audit trail of internal/management/audit/service.go: RecordEvent appends
hashed and signed entries, VerifyChain walks them. The table is the list of its
rows in the order of their sequence numbers. SHA-256 and HMAC-SHA-256 under the
signing key, both in hexadecimal, are parameters.
-/

namespace VcStack.AuditChain

open PolicyValues LinkedLists Runs Text TextEncodings

structure AuditLog where
  id : String := ""
  timestamp : GoTime := ⟨0, 0⟩
  eventType : String := ""
  category : String := ""
  severity : String := ""
  actorID : String := ""
  actorName : String := ""
  actorType : String := ""
  actorIP : String := ""
  resourceType : String := ""
  resourceID : String := ""
  resourceName : String := ""
  action : String := ""
  result : String := ""
  detail : String := ""
  tenantID : String := ""
  sequence : Nat := 0
  previousHash : String := ""
  hash : String := ""
  signature : String := ""
  retentionDays : Nat := 0
  archived : Bool := false
  /-- `none` is Go's zero time -/
  createdAt : Option GoTime := none

structure Signer where
  formatRFC3339Nano : GoTime → String
  sha256 : String → String
  hmac : String → String

/-- One call of RecordEvent: the entry passed in, the generated identifier, the
clock, and how many sequence numbers the database skips for it; `none` when the
insert fails, which is only logged. -/
structure Call where
  event : AuditLog
  id : String
  now : GoTime
  skipped : Option Nat := some 0

section Recording

variable (signer : Signer)

def hashInput (entry : AuditLog) : String :=
  -- Category, severity, detail and tenant, among others, are not hashed.
  "|".intercalate [signer.formatRFC3339Nano entry.timestamp, entry.eventType, entry.actorID,
    entry.actorName, entry.resourceType, entry.resourceID, entry.action, entry.result,
    entry.previousHash]

def tailHash (rows : List AuditLog) : String :=
  match rows.getLast? with
  | some prev => prev.hash
  | none => "genesis"

def sealEntry (call : Call) (previousHash : String) : AuditLog :=
  let entry := {call.event with
    id := call.id, timestamp := call.now, previousHash := previousHash,
    createdAt := some (call.event.createdAt.getD call.now)}
  let hash := signer.sha256 (hashInput signer entry)
  {entry with hash := hash, signature := signer.hmac hash}

def create (rows : List AuditLog) (entry : AuditLog) (skipped : Nat) : List AuditLog :=
  let last := (rows.getLast?.map (·.sequence)).getD 0
  rows ++ [{entry with
    sequence := last + 1 + skipped
    retentionDays := if entry.retentionDays = 0 then 2555 else entry.retentionDays}]

def recordEvent (rows : List AuditLog) (call : Call) : List AuditLog :=
  let entry := sealEntry signer call (tailHash rows)
  match call.skipped with
  | some skipped => create rows entry skipped
  | none => rows

def recordAll (calls : List Call) : List AuditLog := calls.foldl (recordEvent signer) []

def verifyFrom (index : Nat) (previous : Option AuditLog) : List AuditLog → Bool × Nat × String
  | [] => (true, index, "chain intact")
  | log :: rest =>
    -- The stored hash is taken as it is.
    if log.signature ≠ signer.hmac log.hash then
      (false, index, "signature mismatch at sequence " ++ toString log.sequence)
    else if ∃ before ∈ previous, log.previousHash ≠ before.hash then
      (false, index, "chain broken at sequence " ++ toString log.sequence)
    else verifyFrom (index + 1) (some log) rest

def verifyChain (limit : Int) (rows : List AuditLog) : Bool × Nat × String :=
  let logs := if limit < 0 then rows else rows.take limit.toNat
  match logs with
  | [] => (true, 0, "no logs to verify")
  | logs => verifyFrom signer 0 none logs

def Signed (rows : List AuditLog) : Prop :=
  ∀ log ∈ rows, log.signature = signer.hmac log.hash

abbrev Chained (rows : List AuditLog) : Prop := Linked AuditLog.hash AuditLog.previousHash rows

variable {signer}

theorem verify_from_iff (index : Nat) (previous : Option AuditLog) {rows : List AuditLog} :
    (verifyFrom signer index previous rows).1 = true ↔
      Signed signer rows ∧ Chained (previous.toList ++ rows) := by
  -- The walk carries the entry before the one it looks at.
  induction rows generalizing index previous with
  | nil => cases previous <;> simp [verifyFrom, Signed, Linked]
  | cons log rest ih =>
    by_cases signed : log.signature = signer.hmac log.hash
    · by_cases broken : ∃ before ∈ previous, log.previousHash ≠ before.hash
      · have unlinked : ¬ Chained (previous.toList ++ log :: rest) := by
          obtain ⟨before, found, different⟩ := broken
          rw [Option.mem_def] at found
          subst found
          simp [Linked, different]
        rw [verifyFrom, if_neg (not_not_intro signed), if_pos broken]
        simp [unlinked]
      · have links : Chained (previous.toList ++ log :: rest) ↔ Chained (log :: rest) := by
          cases previous with
          | none => rfl
          | some before =>
            have linked : log.previousHash = before.hash := by simpa using broken
            simp [Linked, linked]
        rw [links, verifyFrom, if_neg (not_not_intro signed), if_neg broken, ih]
        simp [Signed, signed]
    · simp [verifyFrom, Signed, signed]

variable (limit : Int) (rows : List AuditLog)

theorem verify_chain_whole (whole : limit < 0 ∨ (rows.length : Int) ≤ limit) :
    verifyChain signer limit rows =
      if rows = [] then (true, 0, "no logs to verify") else verifyFrom signer 0 none rows := by
  have every : (if limit < 0 then rows else rows.take limit.toNat) = rows := by
    rcases whole with unlimited | covered
    · rw [if_pos unlimited]
    · rw [if_neg (by omega), List.take_of_length_le (by omega)]
  rw [verifyChain, every]
  cases rows <;> rfl

/-- Over the whole table VerifyChain checks the signature of every stored hash
and every link between neighbours. It never computes a hash. -/
theorem verify_chain_iff (whole : limit < 0 ∨ (rows.length : Int) ≤ limit) :
    (verifyChain signer limit rows).1 = true ↔ Signed signer rows ∧ Chained rows := by
  rw [verify_chain_whole limit rows whole]
  cases rows with
  | nil => simp [Signed, Linked]
  | cons log rest => exact verify_from_iff 0 none

structure Intact (signer : Signer) (rows : List AuditLog) : Prop where
  signed : Signed signer rows
  chained : Chained rows
  ordered : rows.Pairwise fun earlier later => earlier.sequence < later.sequence

theorem last_sequence_bound {log : AuditLog} (member : log ∈ rows)
    (ordered : rows.Pairwise fun earlier later => earlier.sequence < later.sequence) :
    log.sequence ≤ (rows.getLast?.map (·.sequence)).getD 0 := by
  obtain ⟨front, last, shape⟩ := List.eq_nil_or_concat rows |>.resolve_left
    (List.ne_nil_of_mem member)
  rw [List.concat_eq_append] at shape
  subst shape
  rw [List.getLast?_append_of_ne_nil _ (List.cons_ne_nil _ _)]
  rcases List.mem_append.mp member with inside | only
  · have below := (List.pairwise_append.mp ordered).2.2 log inside last List.mem_cons_self
    simpa using below.le
  · rw [List.mem_singleton.mp only]
    simp

theorem create_intact {entry : AuditLog} {skipped : Nat} (intact : Intact signer rows)
    (signed : entry.signature = signer.hmac entry.hash) (links : entry.previousHash = tailHash rows) :
    Intact signer (create rows entry skipped) where
  signed log member := by
    rcases List.mem_append.mp member with inside | new
    · exact intact.signed log inside
    · rw [List.mem_singleton.mp new]
      exact signed
  chained := by
    refine linked_snoc_iff.mpr ⟨intact.chained, fun last found => ?_⟩
    rw [Option.mem_def] at found
    simpa [tailHash, found] using links
  ordered := by
    refine List.pairwise_append.mpr ⟨intact.ordered, List.pairwise_singleton _ _, ?_⟩
    intro earlier member later new
    have bound := last_sequence_bound rows member intact.ordered
    rw [List.mem_singleton.mp new]
    change earlier.sequence < _ + 1 + skipped
    omega

theorem record_event_intact (call : Call) (intact : Intact signer rows) :
    Intact signer (recordEvent signer rows call) := by
  unfold recordEvent
  cases call.skipped with
  | none => exact intact
  | some skipped => exact create_intact rows intact rfl rfl

theorem record_all_rule {invariant : List AuditLog → Prop} (start : invariant [])
    (kept : ∀ rows call, invariant rows → invariant (recordEvent signer rows call))
    {calls : List Call} : invariant (recordAll signer calls) := by
  have onward : ∀ rows, invariant rows → invariant (calls.foldl (recordEvent signer) rows) := by
    induction calls with
    | nil => exact fun rows holds => holds
    | cons call rest ih => exact fun rows holds => ih _ (kept rows call holds)
  exact onward [] start

theorem record_all_intact (calls : List Call) : Intact signer (recordAll signer calls) :=
  record_all_rule
    ⟨fun _ member => absurd member List.not_mem_nil, List.IsChain.nil, List.Pairwise.nil⟩
    record_event_intact

/-- The verdict on any rewritten table, when its writer can sign nothing but
the hashes already recorded. -/
theorem rewritten_accepted_iff {rewritten : List AuditLog} {limit : Int}
    (whole : limit < 0 ∨ (rewritten.length : Int) ≤ limit) (intact : Intact signer rows)
    (unforged : ∀ log ∈ rewritten, log.signature = signer.hmac log.hash →
      ∃ recorded ∈ rows, recorded.hash = log.hash) :
    (verifyChain signer limit rewritten).1 = true ↔
      (∀ log ∈ rewritten, ∃ recorded ∈ rows,
        recorded.hash = log.hash ∧ recorded.signature = log.signature) ∧ Chained rewritten := by
  rw [verify_chain_iff limit rewritten whole]
  refine and_congr_left fun _ => forall_congr' fun log => forall_congr' fun member => ?_
  constructor
  · intro signed
    obtain ⟨recorded, found, same⟩ := unforged log member signed
    refine ⟨recorded, found, same, ?_⟩
    rw [intact.signed recorded found, same, signed]
  · rintro ⟨recorded, found, same, sameSignature⟩
    rw [← sameSignature, intact.signed recorded found, same]

theorem unforged_set (index : Nat) {edited : AuditLog}
    (unforged : edited.signature = signer.hmac edited.hash →
      ∃ recorded ∈ rows, recorded.hash = edited.hash) :
    ∀ log ∈ rows.set index edited, log.signature = signer.hmac log.hash →
      ∃ recorded ∈ rows, recorded.hash = log.hash := by
  intro log member signed
  rcases List.mem_or_eq_of_mem_set member with old | new
  · exact ⟨log, old, rfl⟩
  · subst new
    exact unforged signed

theorem recorded_pairs_set_iff {index : Nat} {edited : AuditLog} (inside : index < rows.length) :
    (∀ log ∈ rows.set index edited, ∃ recorded ∈ rows,
      recorded.hash = log.hash ∧ recorded.signature = log.signature) ↔
      ∃ recorded ∈ rows, recorded.hash = edited.hash ∧ recorded.signature = edited.signature := by
  constructor
  · intro every
    exact every edited (List.mem_set inside edited)
  · intro found log member
    rcases List.mem_or_eq_of_mem_set member with old | new
    · exact ⟨log, old, rfl, rfl⟩
    · exact new ▸ found

/-- Someone without the signing key rewrites one retained entry. VerifyChain
notices exactly when the entry ends up with a hash and signature that no entry
was recorded with, or the back link of an entry other than the first changes,
or the hash of an entry other than the last changes. -/
theorem rewritten_entry_detected_iff (calls : List Call) (index : Nat)
    (original edited : AuditLog) (limit : Int)
    (whole : limit < 0 ∨ ((recordAll signer calls).length : Int) ≤ limit)
    (retained : (recordAll signer calls)[index]? = some original)
    (unforged : edited.signature = signer.hmac edited.hash →
      ∃ recorded ∈ recordAll signer calls, recorded.hash = edited.hash) :
    (verifyChain signer limit ((recordAll signer calls).set index edited)).1 = false ↔
      (¬ ∃ recorded ∈ recordAll signer calls,
        recorded.hash = edited.hash ∧ recorded.signature = edited.signature) ∨
      (index ≠ 0 ∧ edited.previousHash ≠ original.previousHash) ∨
      (index + 1 < (recordAll signer calls).length ∧ edited.hash ≠ original.hash) := by
  have intact : Intact signer (recordAll signer calls) := record_all_intact calls
  generalize recordAll signer calls = rows at whole retained unforged intact
  have links : Chained (rows.set index edited) ↔ _ := linked_set_iff intact.chained retained
  have inside : index < rows.length := (List.getElem?_eq_some_iff.mp retained).1
  have accepted := rewritten_accepted_iff rows
    (by simpa using whole) intact (unforged_set rows index unforged)
  rw [links, recorded_pairs_set_iff rows inside] at accepted
  rw [← Bool.not_eq_true, accepted]
  grind

structure Hashed (signer : Signer) (rows : List AuditLog) : Prop where
  hashed : ∀ log ∈ rows, log.hash = signer.sha256 (hashInput signer log)
  begins : ∀ first ∈ rows.head?, first.previousHash = "genesis"

theorem record_event_hashed (call : Call) (holds : Hashed signer rows) :
    Hashed signer (recordEvent signer rows call) := by
  unfold recordEvent
  cases call.skipped with
  | none => exact holds
  | some skipped =>
    constructor
    · intro log member
      rcases List.mem_append.mp member with inside | new
      · exact holds.hashed log inside
      · rw [List.mem_singleton.mp new]
        rfl
    · cases rows with
      | nil =>
        rintro first ⟨⟩
        rfl
      | cons earlier rest => exact holds.begins

theorem record_all_hashed {calls : List Call} : Hashed signer (recordAll signer calls) :=
  record_all_rule
    ⟨fun _ member => absurd member List.not_mem_nil, fun _ found => by contradiction⟩
    record_event_hashed

structure CollisionFree (signer : Signer) (rows : List AuditLog) : Prop where
  hexadecimal : ∀ text, ∀ char ∈ (signer.sha256 text).toList, char ∈ hexAlphabet
  injective : ∀ left ∈ rows, ∀ right ∈ rows,
    signer.sha256 (hashInput signer left) = signer.sha256 (hashInput signer right) →
      hashInput signer left = hashInput signer right

section Distinct

variable {rows : List AuditLog} (intact : Intact signer rows) (holds : Hashed signer rows)
variable (free : CollisionFree signer rows)

include intact holds free

theorem previous_hash_unseparated {log : AuditLog} (member : log ∈ rows) :
    '|' ∉ log.previousHash.toList := by
  cases rows with
  | nil => contradiction
  | cons first rest =>
    rcases List.mem_cons.mp member with same | later
    · rw [same, holds.begins first rfl]
      decide
    · obtain ⟨earlier, inside, link⟩ := linked_back intact.chained later
      rw [link, holds.hashed earlier inside]
      exact fun separator => absurd (free.hexadecimal _ _ separator) (by decide)

theorem hash_determines_previous {left right : AuditLog} (leftMember : left ∈ rows)
    (rightMember : right ∈ rows) (same : left.hash = right.hash) :
    left.previousHash = right.previousHash := by
  rw [holds.hashed left leftMember, holds.hashed right rightMember] at same
  have inputs := free.injective left leftMember right rightMember same
  exact joined_last_inj
    (previous_hash_unseparated intact holds free leftMember)
    (previous_hash_unseparated intact holds free rightMember) inputs

theorem hashes_distinct : (rows.map AuditLog.hash).Nodup := by
  apply linked_distinct intact.chained holds.begins
  · intro log member same
    have shape := free.hexadecimal (hashInput signer log) 'g'
    rw [← holds.hashed log member, same] at shape
    exact absurd (shape (by decide)) (by decide)
  · exact fun left here right there =>
      hash_determines_previous intact holds free here there

end Distinct

/-- Entries are removed from a log. VerifyChain notices exactly when they leave a
gap: the first of the entries left may have lost all its predecessors. -/
theorem removed_entries_detected_iff (calls : List Call) (remaining : List AuditLog) (limit : Int)
    (whole : limit < 0 ∨ (remaining.length : Int) ≤ limit)
    (removal : remaining.Sublist (recordAll signer calls))
    (free : CollisionFree signer (recordAll signer calls)) :
    (verifyChain signer limit remaining).1 = false ↔ ¬ remaining <:+: recordAll signer calls := by
  have intact : Intact signer (recordAll signer calls) := record_all_intact calls
  have distinct := hashes_distinct intact record_all_hashed free
  have signed : Signed signer remaining :=
    fun log member => intact.signed log (removal.subset member)
  rw [← Bool.not_eq_true, verify_chain_iff limit remaining whole, and_iff_right signed]
  exact not_congr (linked_sublist_iff intact.chained distinct removal)

/-! Concurrent calls. Reading the last entry and inserting the new one are two
database statements, and any other call may come between them; the hashing is
local to the call. -/

structure Pending where
  entry : AuditLog
  skipped : Option Nat

structure Concurrent where
  rows : List AuditLog := []
  /-- the calls that have read the last entry and not inserted theirs yet -/
  pending : Nat → Option Pending := fun _ => none

inductive Access where
  | read (caller : Nat) (call : Call)
  | insert (caller : Nat)

def Concurrent.setPending (state : Concurrent) (caller : Nat) (pending : Option Pending) :
    Concurrent :=
  {state with pending := fun other => if other = caller then pending else state.pending other}

variable (signer) in
def step (state : Concurrent) : Access → Option Concurrent
  | .read caller call =>
    match state.pending caller with
    | none => some (state.setPending caller (some {
        entry := sealEntry signer call (tailHash state.rows)
        skipped := call.skipped}))
    | some _ => none
  | .insert caller =>
    match state.pending caller with
    | some pending =>
      let rows := match pending.skipped with
        | some skipped => create state.rows pending.entry skipped
        | none => state.rows
      some {state.setPending caller none with rows := rows}
    | none => none

variable (state : Concurrent)

theorem read_insert_records {rows : List AuditLog} {caller : Nat} {call : Call} :
    run (step signer) {rows := rows} [.read caller call, .insert caller] =
      some {rows := recordEvent signer rows call} := by
  cases skip : call.skipped <;>
    simp +contextual [run, step, Concurrent.setPending, recordEvent, skip]

/-- Uninterrupted calls are RecordEvent, whoever makes them. -/
theorem serial_calls_record (rows : List AuditLog) (calls : List (Nat × Call)) :
    run (step signer) {rows := rows}
        (calls.flatMap fun own => [.read own.1 own.2, .insert own.1]) =
      some {rows := (calls.map Prod.snd).foldl (recordEvent signer) rows} := by
  induction calls generalizing rows with
  | nil => rfl
  | cons own calls ih =>
    rw [List.flatMap_cons, run_append, read_insert_records, Option.bind_some, ih]
    rfl

def InsertsBehindRead (state : Concurrent) : Access → Prop
  | .insert caller => ∀ pending, state.pending caller = some pending → pending.skipped ≠ none →
      pending.entry.previousHash = tailHash state.rows
  | .read _ _ => True

def Verifies (signer : Signer) (state : Concurrent) : Prop :=
  ∀ limit : Int, limit < 0 ∨ (state.rows.length : Int) ≤ limit →
    (verifyChain signer limit state.rows).1 = true ∧
      (verifyChain signer limit state.rows).2.1 = state.rows.length

structure Consistent (signer : Signer) (state : Concurrent) : Prop where
  intact : Intact signer state.rows
  signed : ∀ caller pending, state.pending caller = some pending →
    pending.entry.signature = signer.hmac pending.entry.hash
  genesis : ∀ caller pending, state.pending caller = some pending → state.rows = [] →
    pending.entry.previousHash = "genesis"

theorem verify_from_count (index : Nat) (previous : Option AuditLog) {rows : List AuditLog}
    (accepted : (verifyFrom signer index previous rows).1 = true) :
    (verifyFrom signer index previous rows).2.1 = index + rows.length := by
  induction rows generalizing index previous with
  | nil => rfl
  | cons log rest ih =>
    rw [verifyFrom] at accepted ⊢
    split at accepted
    · contradiction
    · rename_i signed
      rw [if_neg signed]
      split at accepted
      · contradiction
      · rename_i linked
        rw [if_neg linked, ih _ _ accepted, List.length_cons]
        omega

theorem consistent_verifies (consistent : Consistent signer state) :
    Verifies signer state := by
  intro limit whole
  have accepted := (verify_chain_iff limit state.rows whole).mpr
    ⟨consistent.intact.signed, consistent.intact.chained⟩
  refine ⟨accepted, ?_⟩
  rw [verify_chain_whole limit state.rows whole] at accepted ⊢
  split at accepted
  · rename_i empty
    simp [empty]
  · rename_i nonempty
    rw [if_neg nonempty, verify_from_count 0 none accepted, Nat.zero_add]

theorem seal_entry_signed {call : Call} {previousHash : String} :
    (sealEntry signer call previousHash).signature =
      signer.hmac (sealEntry signer call previousHash).hash := rfl

theorem step_consistent (access : Access) (next : Concurrent) (consistent : Consistent signer state)
    (admitted : InsertsBehindRead state access) (taken : step signer state access = some next) :
    Consistent signer next := by
  cases access with
  | read caller call =>
    simp only [step] at taken
    split at taken
    · cases taken
      constructor
      · exact consistent.intact
      · intro other pending found
        by_cases same : other = caller
        · simp only [Concurrent.setPending, same, if_true, Option.some.injEq] at found
          rw [← found]
          exact seal_entry_signed
        · simp only [Concurrent.setPending, same, if_false] at found
          exact consistent.signed other pending found
      · intro other pending found empty
        change state.rows = [] at empty
        by_cases same : other = caller
        · simp only [Concurrent.setPending, same, if_true, Option.some.injEq] at found
          rw [← found, empty]
          rfl
        · simp only [Concurrent.setPending, same, if_false] at found
          exact consistent.genesis other pending found empty
    · contradiction
  | insert caller =>
    simp only [step] at taken
    split at taken
    · rename_i pending waiting
      cases taken
      have others : ∀ other kept, (state.setPending caller none).pending other = some kept →
          state.pending other = some kept := by
        intro other kept found
        by_cases same : other = caller
        · simp [Concurrent.setPending, same] at found
        · simpa [Concurrent.setPending, same] using found
      cases skip : pending.skipped with
      | none =>
        exact ⟨consistent.intact, fun other kept found => consistent.signed other kept (others other kept found),
          fun other kept found => consistent.genesis other kept (others other kept found)⟩
      | some skipped =>
        constructor
        · exact create_intact state.rows consistent.intact
            (consistent.signed caller pending waiting)
            (admitted pending waiting (by simp [skip]))
        · intro other kept found
          exact consistent.signed other kept (others other kept found)
        · intro other kept found empty
          simp [create] at empty
    · contradiction

theorem initial_consistent : Consistent signer {} where
  intact := record_all_intact []
  signed _ _ found := by contradiction
  genesis _ _ found := by contradiction

theorem stale_insert_rejected (access : Access) (consistent : Consistent signer state)
    (stale : ¬ InsertsBehindRead state access) :
    ∃ next, step signer state access = some next ∧ ¬ Verifies signer next := by
  cases access with
  | read caller call => exact absurd trivial stale
  | insert caller =>
    simp only [InsertsBehindRead, not_forall] at stale
    obtain ⟨pending, waiting, inserted, behind⟩ := stale
    obtain ⟨skipped, skip⟩ := Option.ne_none_iff_exists'.mp inserted
    refine ⟨_, by simp only [step, waiting, skip]; rfl, fun verifies => ?_⟩
    have accepted := (verifies (-1) (Or.inl (by decide))).1
    rw [verify_chain_iff (-1) _ (Or.inl (by decide))] at accepted
    have links := (linked_snoc_iff.mp accepted.2).2
    apply behind
    cases tail : state.rows.getLast? with
    | none =>
      have empty := List.getLast?_eq_none_iff.mp tail
      rw [consistent.genesis caller pending waiting empty, tailHash, tail]
    | some last =>
      rw [tailHash, tail]
      exact links last tail

/-- In every interleaving of concurrent calls, VerifyChain accepts the whole
table in every state reached exactly when each entry is inserted directly behind
the one its call had read. -/
theorem concurrent_log_verifies_iff (accesses : List Access) :
    Always (step signer) (Verifies signer) {} accesses ↔
      Guarded (step signer) InsertsBehindRead {} accesses :=
  always_iff_guarded (Consistent signer) (Verifies signer) consistent_verifies
    step_consistent stale_insert_rejected accesses {} initial_consistent

end Recording

def deniedLogin : Call where
  event := {
    eventType := "auth.login", category := "authentication", severity := "warning",
    actorID := "7", actorName := "guest", actorType := "user", action := "login",
    result := "denied"}
  id := "8f2d5a1e-4d0b-4f5a-9c3e-2b7a6d1c0e9f"
  now := ⟨0, 0⟩

def firstHash : String := "8bdb31478127be01d4e5d1991b986450db02033e68d4752050fbce358a0e2b55"

def secondHash : String := "ea9bb2e08fa59e4b0a2af97c283ea68a4918741620bccd9543f799fc418a2dda"

def loginSigner : Signer where
  formatRFC3339Nano _ := "1970-01-01T00:00:00Z"
  sha256 text :=
    if text = "1970-01-01T00:00:00Z|auth.login|7|guest|||login|denied|genesis" then firstHash
    else if text = "1970-01-01T00:00:00Z|auth.login|7|guest|||login|denied|" ++ firstHash then
      secondHash
    else ""
  hmac text :=
    if text = firstHash then "062aa97e5b1f6f397af236777d705b3e9bb86488e3dad0066b45fcd5c2576d01"
    else if text = secondHash then
      "f2f317987715a75a90b833903f4502a6d937bb259b6b0ec60e5b131d982de853"
    else ""

theorem tampered_signature_detected :
    (verifyChain loginSigner (-1) ((recordAll loginSigner [deniedLogin, deniedLogin]).set 1
      {hash := secondHash, signature := "tampered-signature"})).1 = false :=
  (rewritten_entry_detected_iff [deniedLogin, deniedLogin] 1 _
    {hash := secondHash, signature := "tampered-signature"} (-1) (Or.inl (by decide)) rfl
    (fun signed => absurd signed (by decide +kernel))).mpr (Or.inl (by decide +kernel))

/-- Whatever the key, a denied login can be rewritten into a successful one. -/
theorem denial_rewritten :
    deniedLogin.event.result = "denied" ∧
      ∀ signer : Signer, ∃ original, (recordAll signer [deniedLogin])[0]? = some original ∧
        original.result = "denied" ∧
        verifyChain signer (-1) ((recordAll signer [deniedLogin]).set 0
          {original with result := "success"}) = (true, 1, "chain intact") := by
  refine ⟨rfl, fun signer => ⟨_, rfl, rfl, ?_⟩⟩
  simp [verifyChain, recordAll, recordEvent, deniedLogin, create, sealEntry, verifyFrom]

def secondLogin : Call := {deniedLogin with id := "c1d7b0a4-52e3-4f0e-8a57-0f6d2f7f4f10"}

/-- Two calls read the empty table before either inserts. -/
theorem concurrent_logins_break_chain :
    ∃ final, run (step loginSigner) {}
        [.read 0 deniedLogin, .read 1 secondLogin, .insert 0, .insert 1] = some final ∧
      final.rows.map (·.previousHash) = ["genesis", "genesis"] ∧
      verifyChain loginSigner (-1) final.rows = (false, 1, "chain broken at sequence 2") :=
  ⟨_, rfl, by decide +kernel, by decide +kernel⟩

def plainSigner : Signer where
  formatRFC3339Nano _ := "1970-01-01T00:00:00Z"
  sha256 text := hexEncode text.toByteArray.data.toList
  hmac := id

theorem plain_signer_collision_free {rows : List AuditLog} : CollisionFree plainSigner rows where
  hexadecimal text := hex_encode_listed _
  injective left _ right _ same := by
    have bytes := hex_encode_injective same
    exact String.toByteArray_inj.mp (ByteArray.ext (Array.toList_inj.mp bytes))

def threeLogins : List AuditLog :=
  recordAll plainSigner [deniedLogin, deniedLogin, deniedLogin]

theorem middle_entry_removal_detected :
    (verifyChain plainSigner (-1) (threeLogins.eraseIdx 1)).1 = false := by
  refine (removed_entries_detected_iff [deniedLogin, deniedLogin, deniedLogin]
    (threeLogins.eraseIdx 1) (-1) (Or.inl (by decide)) (List.eraseIdx_sublist _ _)
    plain_signer_collision_free).mpr fun contiguous => ?_
  have numbers := contiguous.map AuditLog.sequence
  exact absurd numbers (by decide)

/-- The oldest entry is gone, and what is left of the log still verifies. -/
theorem oldest_entry_removal_unnoticed :
    CollisionFree plainSigner threeLogins ∧ (threeLogins.drop 1).Sublist threeLogins ∧
      ¬ threeLogins.drop 1 <+: threeLogins ∧
      verifyChain plainSigner (-1) (threeLogins.drop 1) = (true, 2, "chain intact") := by
  refine ⟨plain_signer_collision_free, List.drop_sublist _ _, ?_, ?_⟩
  · intro beginning
    have numbers := beginning.map AuditLog.sequence
    exact absurd numbers (by decide)
  · simp [threeLogins, verifyChain, recordAll, recordEvent, deniedLogin, create, sealEntry,
      verifyFrom, tailHash]

end VcStack.AuditChain
