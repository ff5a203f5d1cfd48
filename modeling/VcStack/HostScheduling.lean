import Mathlib.Algebra.Order.Field.Rat
import VcStack.HostEvacuation
import VcStack.SliceSorts

/-!
The choice of a host in internal/management/scheduler. The hosts come from a
provider or from the table; the loads and the overcommit ratios are rational.
-/

namespace VcStack.HostScheduling

open SliceSorts
open HostEvacuation (Host HostStatus HostResourceState)

def strategyLeastAllocated : String := "spread"

def strategyMostAllocated : String := "pack"

structure OvercommitConfig where
  cpuRatio : Rat
  ramRatio : Rat
  diskRatio : Rat
deriving DecidableEq

structure Config where
  overcommit : OvercommitConfig
  hosts : Option (Except String (List Host)) := none
  db : Option (Except String (List Host)) := none

structure Service where
  overcommit : OvercommitConfig
  hosts : Option (Except String (List Host))
  db : Option (Except String (List Host))

def normalizeRatio (ratio : Rat) : Rat := if ratio < 1 then 1 else ratio

def newService (cfg : Config) : Service where
  overcommit := {
    cpuRatio := normalizeRatio cfg.overcommit.cpuRatio
    ramRatio := normalizeRatio cfg.overcommit.ramRatio
    diskRatio := normalizeRatio cfg.overcommit.diskRatio }
  hosts := cfg.hosts
  db := cfg.db

structure ScheduleRequest where
  vcpus : Int
  ramMB : Int
  diskGB : Int
  strategy : String := ""
deriving DecidableEq, Repr

structure ScheduleResponse where
  nodeID : String := ""
  reason : String := ""
  strategy : String := ""
deriving DecidableEq, Repr

def available (h : Host) : Bool := h.status == .up && h.resourceState == .enabled

def listHosts (service : Service) : Except String (List Host) :=
  match service.hosts with
  | some answer => answer
  | none =>
    match service.db with
    | some (.ok rows) => .ok (rows.filter available)
    | _ => .ok []

def hasCapacity (overcommit : OvercommitConfig) (req : ScheduleRequest) (h : Host) : Bool :=
  let cpuFree := h.cpuCores * overcommit.cpuRatio - h.cpuAllocated
  let ramFree := h.ramMB * overcommit.ramRatio - h.ramAllocatedMB
  decide (cpuFree ≥ req.vcpus) && decide (ramFree ≥ req.ramMB)

def load (h : Host) : Rat := h.cpuAllocated / max h.cpuCores 1

def prefers (strategy : String) (first second : Host) : Bool :=
  if strategy = strategyMostAllocated then decide (load second < load first)
  else decide (load first < load second)

def selectHost (lib : SliceSort Host) (service : Service) (req : ScheduleRequest) :
    Option Host × ScheduleResponse :=
  match listHosts service with
  | .error _ => (none, {reason := "no hosts available"})
  | .ok hosts =>
    if hosts = [] then (none, {reason := "no hosts available"})
    else
      let strategy := if req.strategy = "" then strategyLeastAllocated else req.strategy
      let eligible := hosts.filter (hasCapacity service.overcommit req)
      match lib.sort (prefers strategy) eligible with
      | [] => (none, {reason := "no hosts with sufficient capacity"})
      | first :: _ => (some first, {nodeID := first.uuid, strategy := strategy})

def DiskRoom (overcommit : OvercommitConfig) (req : ScheduleRequest) (host : Host) : Prop :=
  (req.diskGB : Rat) ≤ host.diskGB * overcommit.diskRatio - host.diskAllocatedGB

structure Suits (overcommit : OvercommitConfig) (req : ScheduleRequest) (host : Host) : Prop where
  up : host.status = .up
  enabled : host.resourceState = .enabled
  cpu : (req.vcpus : Rat) ≤ host.cpuCores * overcommit.cpuRatio - host.cpuAllocated
  ram : (req.ramMB : Rat) ≤ host.ramMB * overcommit.ramRatio - host.ramAllocatedMB
  disk : DiskRoom overcommit req host

def AsGood (strategy : String) (host other : Host) : Prop :=
  if strategy = strategyMostAllocated then load other ≤ load host else load host ≤ load other

/-- The choice is a host that suits, with the best load of those that suit; there is
none only if none suits. -/
structure WellChosen (overcommit : OvercommitConfig) (req : ScheduleRequest) (hosts : List Host)
    (choice : Option Host) : Prop where
  sound : ∀ host, choice = some host → host ∈ hosts ∧ Suits overcommit req host ∧
    ∀ other ∈ hosts, Suits overcommit req other → AsGood req.strategy host other
  complete : choice = none → ∀ host ∈ hosts, ¬ Suits overcommit req host

def Obtained (cfg : Config) (hosts : List Host) : Prop :=
  cfg.hosts = some (.ok hosts) ∨ cfg.hosts = none ∧ cfg.db = some (.ok hosts)

def Considered (cfg : Config) (hosts : List Host) (host : Host) : Prop :=
  host ∈ hosts ∧ (cfg.hosts = none → host.status = .up ∧ host.resourceState = .enabled)

structure FirstChoice (cfg : Config) (req : ScheduleRequest) (hosts : List Host) (host : Host) :
    Prop where
  considered : Considered cfg hosts host
  capacity : hasCapacity (newService cfg).overcommit req host = true
  best : ∀ other, Considered cfg hosts other →
    hasCapacity (newService cfg).overcommit req other = true → AsGood req.strategy host other

variable {strategy : String} {host : Host}

theorem prefers_weak : StrictWeak (prefers strategy) := by
  have byLoad := strict_weak_of_measure load
  by_cases packs : strategy = strategyMostAllocated
  · have same : prefers strategy = fun first second => decide (load second < load first) := by
      funext first second
      exact if_pos packs
    rw [same]
    exact strict_weak_flip byLoad
  · have same : prefers strategy = fun first second => decide (load first < load second) := by
      funext first second
      exact if_neg packs
    rw [same]
    exact byLoad

theorem prefers_false_iff {other : Host} :
    prefers strategy other host = false ↔ AsGood strategy host other := by
  unfold prefers AsGood
  split <;> rw [decide_eq_false_iff_not, not_lt]

theorem default_strategy {other : Host} :
    AsGood (if strategy = "" then strategyLeastAllocated else strategy) host other ↔
      AsGood strategy host other := by
  by_cases empty : strategy = ""
  · subst empty
    rfl
  · rw [if_neg empty]

section Choices

variable (cfg : Config) (req : ScheduleRequest) (hosts : List Host)

theorem listed_iff (obtained : Obtained cfg hosts) :
    ∃ listed, listHosts (newService cfg) = .ok listed ∧
      ∀ host, host ∈ listed ↔ Considered cfg hosts host := by
  rcases obtained with provided | ⟨absent, stored⟩
  · refine ⟨hosts, by simp [listHosts, newService, provided], ?_⟩
    intro host
    simp [Considered, provided]
  · refine ⟨hosts.filter available, by simp [listHosts, newService, absent, stored], ?_⟩
    intro host
    simp [Considered, absent, available]

theorem select_some_iff (obtained : Obtained cfg hosts) :
    (∃ lib, (selectHost lib (newService cfg) req).1 = some host) ↔
      FirstChoice cfg req hosts host := by
  obtain ⟨listed, answered, members⟩ := listed_iff cfg hosts obtained
  have least : Least (prefers (if req.strategy = "" then strategyLeastAllocated else req.strategy))
      (listed.filter (hasCapacity (newService cfg).overcommit req)) host ↔
      FirstChoice cfg req hosts host := by
    simp only [Least, List.mem_filter, members, prefers_false_iff, default_strategy, and_imp]
    constructor
    · rintro ⟨⟨considered, capacity⟩, best⟩
      exact ⟨considered, capacity, best⟩
    · rintro ⟨considered, capacity, best⟩
      exact ⟨⟨considered, capacity⟩, best⟩
  rw [← least, ← least_iff_first prefers_weak]
  refine exists_congr fun lib => ?_
  simp only [selectHost, answered]
  split
  case isTrue empty =>
      -- The sort of no hosts has no first one.
      have nobody := (lib.permuted (prefers (if req.strategy = "" then strategyLeastAllocated
        else req.strategy)) []).eq_nil
      simp [empty, nobody]
  case isFalse => split <;> simp_all

theorem select_none_iff (obtained : Obtained cfg hosts) {lib : SliceSort Host} :
    (selectHost lib (newService cfg) req).1 = none ↔
      ∀ host, Considered cfg hosts host →
        hasCapacity (newService cfg).overcommit req host = false := by
  obtain ⟨listed, answered, members⟩ := listed_iff cfg hosts obtained
  have nobody : (∀ host, Considered cfg hosts host →
      hasCapacity (newService cfg).overcommit req host = false) ↔
      listed.filter (hasCapacity (newService cfg).overcommit req) = [] := by
    simp [List.filter_eq_nil_iff, members]
  rw [nobody]
  simp only [selectHost, answered]
  split
  case isTrue empty => simp [empty]
  case isFalse =>
      split
      case h_1 sorted =>
          refine iff_of_true rfl (Classical.byContradiction fun some => ?_)
          exact sort_ne_nil some sorted
      case h_2 first rest sorted =>
          refine iff_of_false (by simp) fun empty => ?_
          rw [empty] at sorted
          have gone := (lib.permuted (prefers (if req.strategy = "" then strategyLeastAllocated
            else req.strategy)) []).eq_nil
          rw [gone] at sorted
          contradiction

theorem suits_considered (member : host ∈ hosts)
    (suits : Suits (newService cfg).overcommit req host) :
    Considered cfg hosts host ∧ hasCapacity (newService cfg).overcommit req host = true := by
  refine ⟨⟨member, fun _ => ⟨suits.up, suits.enabled⟩⟩, ?_⟩
  simp only [hasCapacity, Bool.and_eq_true, decide_eq_true_eq]
  exact ⟨suits.cpu, suits.ram⟩

/-- However the sort breaks ties, the choice is sound, best and complete exactly when
every host of first choice is up, enabled and has room on its disks. -/
theorem choice_sound_iff (obtained : Obtained cfg hosts) :
    (∀ lib, WellChosen (newService cfg).overcommit req hosts
      (selectHost lib (newService cfg) req).1) ↔
    ∀ host, FirstChoice cfg req hosts host → host.status = .up ∧ host.resourceState = .enabled ∧
      DiskRoom (newService cfg).overcommit req host := by
  constructor
  · intro chosen host first
    obtain ⟨lib, selected⟩ := (select_some_iff cfg req hosts obtained).mpr first
    have suits := ((chosen lib).sound host selected).2.1
    exact ⟨suits.up, suits.enabled, suits.disk⟩
  · intro fine lib
    constructor
    · intro host selected
      have first := (select_some_iff cfg req hosts obtained).mp ⟨lib, selected⟩
      obtain ⟨up, enabled, disk⟩ := fine host first
      have capacity := first.capacity
      simp only [hasCapacity, Bool.and_eq_true, decide_eq_true_eq] at capacity
      refine ⟨first.considered.1, ⟨up, enabled, capacity.1, capacity.2, disk⟩, ?_⟩
      intro other member suits
      obtain ⟨considered, room⟩ := suits_considered cfg req hosts member suits
      exact first.best other considered room
    · intro none host member suits
      obtain ⟨considered, room⟩ := suits_considered cfg req hosts member suits
      rw [(select_none_iff cfg req hosts obtained).mp none host considered] at room
      contradiction

end Choices

def noOvercommit : OvercommitConfig where
  cpuRatio := 1
  ramRatio := 1
  diskRatio := 1

def small : ScheduleRequest where
  vcpus := 2
  ramMB := 4096
  diskGB := 40

def hostWith (diskGB diskAllocatedGB : Int) : Host where
  uuid := "host-1"
  status := .up
  resourceState := .enabled
  cpuCores := 16
  ramMB := 32768
  diskGB := diskGB
  diskAllocatedGB := diskAllocatedGB

def storing (host : Host) : Config where
  overcommit := noOvercommit
  db := some (.ok [host])

def providing (host : Host) : Config where
  overcommit := noOvercommit
  hosts := some (.ok [host])

theorem roomy_host_chosen :
    WellChosen (newService (storing (hostWith 500 200))).overcommit small [hostWith 500 200]
      (selectHost stableSort (newService (storing (hostWith 500 200))) small).1 := by
  refine (choice_sound_iff _ small _ (Or.inr ⟨rfl, rfl⟩)).mpr (fun host first => ?_) stableSort
  obtain ⟨only, _⟩ := first.considered
  rw [List.mem_singleton.mp only]
  exact ⟨rfl, rfl, by unfold DiskRoom; decide +kernel⟩

/-- A host that is down, from the provider, and a host without room on its disks, from
the database. -/
theorem down_and_full_chosen :
    let down : Host := {hostWith 500 200 with status := .down}
    let full := hostWith 500 490
    let provided := newService (providing down)
    let stored := newService (storing full)
    ((selectHost stableSort provided small).1 = some down ∧
      ¬ WellChosen provided.overcommit small [down] (selectHost stableSort provided small).1) ∧
    (selectHost stableSort stored small).1 = some full ∧
      ¬ WellChosen stored.overcommit small [full] (selectHost stableSort stored small).1 := by
  intro down full provided stored
  have downChosen : (selectHost stableSort provided small).1 = some down := by decide +kernel
  have fullChosen : (selectHost stableSort stored small).1 = some full := by decide +kernel
  refine ⟨⟨downChosen, fun chosen => ?_⟩, fullChosen, fun chosen => ?_⟩
  · have up := (chosen.sound down downChosen).2.1.up
    contradiction
  · have disk := (chosen.sound full fullChosen).2.1.disk
    revert disk
    unfold DiskRoom
    decide +kernel

end VcStack.HostScheduling
