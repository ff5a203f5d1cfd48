import Mathlib.Logic.Function.Basic
import VcStack.Runs

/-!
Leader election of pkg/dlock on one etcd key. Every elector has a session with a
lease, and a local flag that IsLeader reads. The calls are cut into the steps
between which others can act: etcd grants the key to one live session and takes
it away when the lease ends, but nothing tells the elector so. Times to live are
left out; a lease may expire at any moment.
-/

namespace VcStack.LeaderElection

open Runs

inductive Campaigning where
  | idle
  | waiting
  | granted
  deriving DecidableEq

inductive Resigning where
  | idle
  | deleting
  /-- the key is deleted, and the session is to be closed -/
  | closing
  deriving DecidableEq

structure Elector where
  value : String := ""
  isLeader : Bool := false
  live : Bool := true
  connected : Bool := true
  campaigning : Campaigning := .idle
  resigning : Resigning := .idle
  deriving DecidableEq

structure State (Replica : Type) where
  holder : Option Replica := none
  electors : Replica → Elector := fun _ => {}

inductive Action (Replica : Type) where
  | campaign (replica : Replica) (value : String)
  | grant (replica : Replica)
  | cancel (replica : Replica)
  | setLeader (replica : Replica)
  | resign (replica : Replica)
  | deleteKey (replica : Replica)
  | close (replica : Replica)
  | expire (replica : Replica)
  | disconnect (replica : Replica)
  | reconnect (replica : Replica)

variable {elector : Elector}

section Election

variable {Replica : Type} [DecidableEq Replica]

def State.set (state : State Replica) (replica : Replica) (elector : Elector) : State Replica :=
  {state with electors := Function.update state.electors replica elector}

def State.dropKey (state : State Replica) (replica : Replica) : State Replica :=
  {state with holder := if state.holder = some replica then none else state.holder}

def step (state : State Replica) : Action Replica → Option (State Replica)
  | .campaign replica value =>
    let elector := state.electors replica
    if elector.campaigning ≠ .idle then none
    else
      -- Without its lease or the network the call returns an error.
      some (state.set replica {elector with
        value := value
        campaigning := if elector.live && elector.connected then .waiting else .idle })
  | .grant replica =>
    let elector := state.electors replica
    if elector.campaigning = .waiting ∧ elector.live ∧ elector.connected ∧
        (state.holder = none ∨ state.holder = some replica) then
      some ({state with holder := some replica}.set replica {elector with campaigning := .granted})
    else none
  | .cancel replica =>
    let elector := state.electors replica
    if elector.campaigning = .waiting then
      some ((state.dropKey replica).set replica {elector with campaigning := .idle})
    else none
  | .setLeader replica =>
    let elector := state.electors replica
    if elector.campaigning = .granted then
      some (state.set replica {elector with campaigning := .idle, isLeader := true})
    else none
  | .resign replica =>
    let elector := state.electors replica
    if elector.resigning = .idle then
      some (state.set replica {elector with isLeader := false, resigning := .deleting})
    else none
  | .deleteKey replica =>
    let elector := state.electors replica
    if elector.resigning = .deleting then
      if elector.connected then
        some ((state.dropKey replica).set replica {elector with resigning := .closing})
      else
        -- The call returns the error and leaves the session open.
        some (state.set replica {elector with resigning := .idle})
    else none
  | .close replica =>
    let elector := state.electors replica
    if elector.resigning = .closing then
      if elector.connected then
        some ((state.dropKey replica).set replica {elector with resigning := .idle, live := false})
      else some (state.set replica {elector with resigning := .idle})
    else none
  | .expire replica =>
    some ((state.dropKey replica).set replica {state.electors replica with live := false})
  | .disconnect replica =>
    some (state.set replica {state.electors replica with connected := false})
  | .reconnect replica =>
    some (state.set replica {state.electors replica with connected := true})

def SingleLeader (state : State Replica) : Prop :=
  ∀ left right, (state.electors left).isLeader = true → (state.electors right).isLeader = true →
    left = right

def Elector.Leads (elector : Elector) : Prop :=
  elector.isLeader = true ∨ elector.campaigning = .granted

def LosesNone (state : State Replica) : Action Replica → Prop
  | .expire replica | .cancel replica | .deleteKey replica | .close replica =>
    ¬ (state.electors replica).Leads
  | _ => True

instance decidableLeads (elector : Elector) : Decidable elector.Leads :=
  inferInstanceAs (Decidable (_ ∨ _))

instance decidableLosesNone (state : State Replica) (action : Action Replica) :
    Decidable (LosesNone state action) :=
  match action with
  | .expire replica | .cancel replica | .deleteKey replica | .close replica =>
    inferInstanceAs (Decidable (¬ (state.electors replica).Leads))
  | .campaign _ _ | .grant _ | .setLeader _ | .resign _ | .disconnect _ | .reconnect _ =>
    inferInstanceAs (Decidable True)

def Held (state : State Replica) : Prop :=
  ∀ replica, (state.electors replica).Leads → state.holder = some replica

variable (state : State Replica) (replica : Replica)

omit [DecidableEq Replica] in
theorem held_single (held : Held state) : SingleLeader state := by
  intro left right first second
  have one := held left (.inl first)
  rw [held right (.inl second)] at one
  exact (Option.some.inj one).symm

variable {state replica}

theorem set_self :
    (state.set replica elector).electors replica = elector := by
  simp only [State.set, Function.update_self]

theorem set_other {other : Replica} (different : other ≠ replica) :
    (state.set replica elector).electors other = state.electors other := by
  simp only [State.set, Function.update_of_ne different]

theorem held_set (held : Held state)
    (leads : elector.Leads → state.holder = some replica) :
    Held (state.set replica elector) := by
  intro other leading
  by_cases same : other = replica
  · subst other
    rw [set_self] at leading
    exact leads leading
  · rw [set_other same] at leading
    exact held other leading

theorem held_drop (held : Held state) (idle : ¬ (state.electors replica).Leads) :
    Held (state.dropKey replica) := by
  intro other leading
  have holder := held other leading
  have different : state.holder ≠ some replica := by
    rw [holder]
    rintro same
    cases same
    exact idle leading
  exact (if_neg different).trans holder

theorem held_lose (held : Held state) (idle : ¬ (state.electors replica).Leads)
    (still : ¬ elector.Leads) :
    Held ((state.dropKey replica).set replica elector) :=
  held_set (held_drop held idle) fun leading =>
    absurd leading still

theorem held_grant (held : Held state)
    (free : state.holder = none ∨ state.holder = some replica) :
    Held ({state with holder := some replica}.set replica elector) := by
  intro other leading
  by_cases same : other = replica
  · rw [same]
    rfl
  · rw [set_other same] at leading
    have holder := held other leading
    rcases free with none | own
    · rw [none] at holder
      contradiction
    · rw [own] at holder
      exact absurd (Option.some.inj holder).symm same

variable (state)

theorem step_held (action : Action Replica) (next : State Replica) (held : Held state)
    (keeps : LosesNone state action) (taken : step state action = some next) :
    Held next := by
  cases action with
  | campaign replica value =>
    simp only [step] at taken
    split at taken
    · contradiction
    · cases taken
      apply held_set held
      rintro (leading | granted)
      · exact held replica (.inl leading)
      · dsimp only at granted
        split at granted <;> contradiction
  | grant replica =>
    simp only [step] at taken
    split at taken
    · rename_i granted
      cases taken
      exact held_grant held granted.2.2.2
    · contradiction
  | cancel replica =>
    simp only [step] at taken
    split at taken
    · cases taken
      apply held_lose held keeps
      rintro (leading | granted)
      · exact keeps (.inl leading)
      · contradiction
    · contradiction
  | setLeader replica =>
    simp only [step] at taken
    split at taken
    · rename_i granted
      cases taken
      exact held_set held fun _ => held replica (.inr granted)
    · contradiction
  | resign replica =>
    simp only [step] at taken
    split at taken
    · cases taken
      apply held_set held
      rintro (leading | granted)
      · contradiction
      · exact held replica (.inr granted)
    · contradiction
  | deleteKey replica =>
    simp only [step] at taken
    split at taken
    · split at taken
      · cases taken
        exact held_lose held keeps keeps
      · cases taken
        exact held_set held fun leading => absurd leading keeps
    · contradiction
  | close replica =>
    simp only [step] at taken
    split at taken
    · split at taken
      · cases taken
        exact held_lose held keeps keeps
      · cases taken
        exact held_set held fun leading => absurd leading keeps
    · contradiction
  | expire replica =>
    cases taken
    exact held_lose held keeps keeps
  | disconnect replica =>
    cases taken
    exact held_set held fun leading => held replica leading
  | reconnect replica =>
    cases taken
    exact held_set held fun leading => held replica leading

/-- There is one leader at most along every run in which nobody loses the key
while leading. -/
theorem single_leader (actions : List (Action Replica))
    (keeps : Guarded step LosesNone ({} : State Replica) actions) :
    Always step SingleLeader ({} : State Replica) actions := by
  refine always_of_guarded held_single step_held {} ?_ keeps
  rintro replica (leading | granted)
  · contradiction
  · contradiction

end Election

def handOver : List (Action Bool) :=
  [.campaign false "a", .grant false, .setLeader false, .campaign true "b", .resign false,
    .deleteKey false, .grant true, .setLeader true, .close false]

theorem hand_over_single :
    Always step SingleLeader ({} : State Bool) handOver ∧
      (run step {} handOver).map (fun state => (state.electors true).isLeader) = some true := by
  exact ⟨single_leader handOver (by decide), rfl⟩

/-- The first leader is cut off and its lease expires; it goes on as a leader next
to the second one. -/
theorem expired_leader_stays :
    (run step ({} : State Bool) [.campaign false "a", .grant false, .setLeader false,
        .disconnect false, .expire false, .campaign true "b", .grant true, .setLeader true]).map
      (fun state => (state.holder, (state.electors false).isLeader,
        (state.electors true).isLeader)) = some (some true, true, true) :=
  rfl

end VcStack.LeaderElection
