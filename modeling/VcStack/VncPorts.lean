import VcStack.KeyedTables

/-!
The allocator of VNC display ports: a map from ports to VM ids that Allocate
and Release search by id, in whatever order the map is ranged over.
-/

namespace VcStack.VncPorts

open KeyedTables

abbrev Entry := Nat × String

/-- One range over a map visits its entries in an order of its own. -/
structure MapOrder where
  visit : List Entry → List Entry
  perm : ∀ used, (visit used).Perm used

structure VNCPortAllocator where
  basePort : Nat
  maxPort : Nat
  used : List Entry
  deriving DecidableEq

def newVNCPortAllocator : VNCPortAllocator where
  basePort := 5900
  maxPort := 5999
  used := []

def search (order : MapOrder) (used : List Entry) (vmID : String) : Option Nat :=
  ((order.visit used).find? fun entry => entry.2 = vmID).map Prod.fst

def nextFree (isPortFree : Nat → Bool) (a : VNCPortAllocator) : Option Nat :=
  (List.range' a.basePort (a.maxPort + 1 - a.basePort)).find? fun port =>
    !(a.used.map Prod.fst).contains port && isPortFree port

def allocate (order : MapOrder) (isPortFree : Nat → Bool) (vmID : String) (a : VNCPortAllocator) :
    Except String Nat × VNCPortAllocator :=
  match search order a.used vmID with
  | some port => (.ok port, a)
  | none =>
    match nextFree isPortFree a with
    | some port => (.ok port, { a with used := (port, vmID) :: a.used })
    | none => (.error s!"no free VNC ports in range {a.basePort}-{a.maxPort}", a)

def release (order : MapOrder) (vmID : String) (a : VNCPortAllocator) : VNCPortAllocator :=
  match search order a.used vmID with
  | some port => { a with used := a.used.filter fun entry => entry.1 != port }
  | none => a

def portFor (order : MapOrder) (vmID : String) (a : VNCPortAllocator) : Nat :=
  (search order a.used vmID).getD 0

inductive Call where
  | allocate (order : MapOrder) (isPortFree : Nat → Bool) (vmID : String)
  | release (order : MapOrder) (vmID : String)

def call (a : VNCPortAllocator) : Call → VNCPortAllocator
  | .allocate order isPortFree vmID => (allocate order isPortFree vmID a).2
  | .release order vmID => release order vmID a

def reached (calls : List Call) : VNCPortAllocator := calls.foldl call newVNCPortAllocator

structure Exclusive (a : VNCPortAllocator) : Prop where
  ports : (a.used.map Prod.fst).Nodup
  holders : (a.used.map Prod.snd).Nodup
  ranged : ∀ entry ∈ a.used, 5900 ≤ entry.1 ∧ entry.1 ≤ 5999
  base : a.basePort = 5900
  max : a.maxPort = 5999

variable {a : VNCPortAllocator} {order : MapOrder} {isPortFree : Nat → Bool} {vmID : String}
  {port : Nat}

def holderTable (exclusive : Exclusive a) (order : MapOrder) : Table (Prod.snd : Entry → String) where
  rows := order.visit a.used
  distinct := ((order.perm a.used).map _).nodup_iff.mpr exclusive.holders

theorem search_some_iff (exclusive : Exclusive a) :
    search order a.used vmID = some port ↔ (port, vmID) ∈ a.used := by
  have found : ∀ entry, (holderTable exclusive order).find vmID = some entry ↔ _ :=
    fun entry => find_iff _
  simp only [Table.find, holderTable, (order.perm a.used).mem_iff] at found
  simp [search, found]

theorem search_none_iff (exclusive : Exclusive a) :
    search order a.used vmID = none ↔ vmID ∉ a.used.map Prod.snd := by
  rw [Option.eq_none_iff_forall_ne_some]
  simp [search_some_iff exclusive]

theorem next_free_spec (exclusive : Exclusive a) (free : nextFree isPortFree a = some port) :
    (5900 ≤ port ∧ port ≤ 5999) ∧ port ∉ a.used.map Prod.fst := by
  have inside := List.mem_of_find?_eq_some free
  have vacant := List.find?_some free
  rw [List.mem_range'_1, exclusive.base, exclusive.max] at inside
  exact ⟨by omega, by simp_all⟩

theorem next_free_none (exclusive : Exclusive a) (full : nextFree isPortFree a = none)
    (low : 5900 ≤ port) (high : port ≤ 5999) :
    port ∈ a.used.map Prod.fst ∨ isPortFree port = false := by
  have inside : port ∈ List.range' a.basePort (a.maxPort + 1 - a.basePort) := by
    rw [List.mem_range'_1, exclusive.base, exclusive.max]; omega
  have busy := List.find?_eq_none.mp full port inside
  by_cases held : port ∈ a.used.map Prod.fst
  · exact .inl held
  · exact .inr (by simp_all)

theorem allocate_exclusive (exclusive : Exclusive a) :
    Exclusive (allocate order isPortFree vmID a).2 := by
  unfold allocate
  split
  · exact exclusive
  · rename_i missing
    split
    · rename_i port free
      have ⟨inside, vacant⟩ := next_free_spec exclusive free
      exact { exclusive with
        ports := List.nodup_cons.mpr ⟨vacant, exclusive.ports⟩
        holders := List.nodup_cons.mpr ⟨(search_none_iff exclusive).mp missing, exclusive.holders⟩
        ranged := List.forall_mem_cons.mpr ⟨inside, exclusive.ranged⟩ }
    · exact exclusive

theorem release_exclusive (exclusive : Exclusive a) : Exclusive (release order vmID a) := by
  unfold release
  split
  · exact { exclusive with
      ports := exclusive.ports.sublist (List.filter_sublist.map _)
      holders := exclusive.holders.sublist (List.filter_sublist.map _)
      ranged := fun entry kept => exclusive.ranged entry (List.mem_of_mem_filter kept) }
  · exact exclusive

theorem reached_exclusive (calls : List Call) : Exclusive (reached calls) := by
  have start : Exclusive newVNCPortAllocator := by constructor <;> simp [newVNCPortAllocator]
  refine List.foldlRecOn calls call start fun a exclusive next _ => ?_
  cases next with
  | allocate order isPortFree vmID => exact allocate_exclusive exclusive
  | release order vmID => exact release_exclusive exclusive

/-- Release takes the entry of its id away and no other, since each port has one holder. -/
theorem release_mem_iff (exclusive : Exclusive a) {entry : Entry} :
    entry ∈ (release order vmID a).used ↔ entry ∈ a.used ∧ entry.2 ≠ vmID := by
  unfold release
  split
  · rename_i port found
    have held := (search_some_iff exclusive).mp found
    simp only [List.mem_filter, bne_iff_ne, ne_eq, and_congr_right_iff]
    intro member
    have samePort := List.inj_on_of_nodup_map exclusive.ports member held
    have sameHolder := List.inj_on_of_nodup_map exclusive.holders member held
    exact not_congr ⟨fun same => congrArg Prod.snd (samePort same),
      fun same => congrArg Prod.fst (sameHolder same)⟩
  · rename_i missing
    have absent := (search_none_iff exclusive).mp missing
    refine ⟨fun member => ⟨member, fun same => absent ?_⟩, And.left⟩
    exact same ▸ List.mem_map_of_mem member

theorem port_for_release_other (exclusive : Exclusive a) {other : String} (differs : other ≠ vmID)
    {first second : MapOrder} :
    portFor first other (release order vmID a) = portFor second other a := by
  have same : search first (release order vmID a).used other = search second a.used other := by
    refine Option.ext fun port => ?_
    simp [search_some_iff exclusive, search_some_iff (release_exclusive exclusive),
      release_mem_iff exclusive, differs]
  rw [portFor, portFor, same]

theorem vnc_ports_exclusive (calls : List Call) (order : MapOrder) (isPortFree : Nat → Bool)
    (vmID : String) :
    Exclusive (reached calls) ∧
    (∀ port, (port, vmID) ∈ (reached calls).used →
      allocate order isPortFree vmID (reached calls) = (.ok port, reached calls)) ∧
    (vmID ∉ (reached calls).used.map Prod.snd →
      ∀ port, (allocate order isPortFree vmID (reached calls)).1 = .ok port →
        (5900 ≤ port ∧ port ≤ 5999) ∧ port ∉ (reached calls).used.map Prod.fst ∧
        (allocate order isPortFree vmID (reached calls)).2.used =
          (port, vmID) :: (reached calls).used) ∧
    (∀ later, portFor later vmID (release order vmID (reached calls)) = 0) ∧
    (∀ other, other ≠ vmID → ∀ before later,
      portFor later other (release order vmID (reached calls)) =
        portFor before other (reached calls)) ∧
    (∀ message, (allocate order isPortFree vmID (reached calls)).1 = .error message →
      ∀ port, 5900 ≤ port → port ≤ 5999 →
        port ∈ (reached calls).used.map Prod.fst ∨ isPortFree port = false) := by
  have exclusive := reached_exclusive calls
  refine ⟨exclusive, fun port held => ?_, fun missing port allocated => ?_, fun later => ?_,
    fun other differs before later => port_for_release_other exclusive differs,
    fun message failed port low high => ?_⟩
  · rw [allocate, (search_some_iff exclusive).mpr held]
  · have unheld : search order (reached calls).used vmID = none :=
      (search_none_iff exclusive).mpr missing
    simp only [allocate, unheld] at allocated ⊢
    split at allocated
    · rename_i free
      cases allocated
      have ⟨inside, vacant⟩ := next_free_spec exclusive free
      exact ⟨inside, vacant, rfl⟩
    · cases allocated
  · have gone : search later (release order vmID (reached calls)).used vmID = none := by
      rw [search_none_iff (release_exclusive exclusive)]
      simp [release_mem_iff exclusive]
    rw [portFor, gone, Option.getD_none]
  · unfold allocate at failed
    split at failed
    · cases failed
    · split at failed
      · cases failed
      · exact next_free_none exclusive ‹_› low high

end VcStack.VncPorts
