import Mathlib.Data.List.Perm.Subperm
import VcStack.SequencedTables
import VcStack.Text

/-!
Tenant domains: rows with a parent, and a path and a level computed when they
are created. The tree is rebuilt from the parents.
-/

namespace VcStack.DomainTrees

open KeyedTables SequencedTables

structure Limits where
  maxVCPUs : Int := 0
  maxRAMMB : Int := 0
  maxInstances : Int := 0
  maxVolumes : Int := 0
  maxNetworks : Int := 0
  deriving DecidableEq

structure Domain where
  id : Nat
  name : String
  path : String
  parentID : Option Nat
  description : String := ""
  state : String := "active"
  level : Nat
  limits : Limits := {}
  deriving DecidableEq

abbrev Domains := Sequenced Domain.id

structure CreateRequest where
  name : String
  parentID : Option Nat := none
  description : String := ""
  limits : Limits := {}

structure UpdateRequest where
  description : Option String := none
  state : Option String := none
  maxVCPUs : Option Int := none
  maxRAMMB : Option Int := none
  maxInstances : Option Int := none
  maxVolumes : Option Int := none
  maxNetworks : Option Int := none

def seedRoot : Domains :=
  Sequenced.empty.create
    (fun id => { id := id, name := "ROOT", path := "/ROOT", parentID := none, level := 0 })
    fun _ => rfl

/-- The row for a new id; `parent` is the row found for the requested parent. -/
def newDomain (req : CreateRequest) (parent : Option Domain) (id : Nat) : Domain where
  id := id
  name := req.name
  path := (parent.map (·.path)).getD "" ++ "/" ++ req.name
  parentID := req.parentID
  description := req.description
  level := (parent.map (·.level + 1)).getD 0
  limits := req.limits

def createDomain (s : Domains) (req : CreateRequest) : Except String Domains :=
  if req.name = "" then .error "name is required"
  else if req.parentID.isSome ∧ req.parentID.bind s.find = none then .error "parent domain not found"
  -- the unique index on the names
  else if req.name ∈ s.rows.map Domain.name then .error "failed to create domain"
  else .ok (s.create (newDomain req (req.parentID.bind s.find)) fun _ => rfl)

def UpdateRequest.apply (req : UpdateRequest) (d : Domain) : Domain :=
  { d with
    description := req.description.getD d.description
    state := req.state.getD d.state
    limits :=
      { d.limits with
        maxRAMMB := req.maxRAMMB.getD d.limits.maxRAMMB
        maxInstances := req.maxInstances.getD d.limits.maxInstances
        maxVolumes := req.maxVolumes.getD d.limits.maxVolumes
        maxNetworks := req.maxNetworks.getD d.limits.maxNetworks } }

def updateDomain (s : Domains) (id : Nat) (req : UpdateRequest) : Except String Domains :=
  if s.find id = none then .error "domain not found"
  else if req.state.any fun state => state ≠ "active" && state ≠ "disabled" then
    .error "state must be 'active' or 'disabled'"
  -- The update writes max_vcpus, and the column of the field is max_v_cpus.
  else if req.maxVCPUs.isSome then .error "failed to update domain"
  else .ok (s.update id req.apply fun _ => rfl)

def deleteDomain (s : Domains) (id : Nat) : Except String Domains :=
  match s.find id with
  | none => .error "domain not found"
  | some d =>
    if d.parentID = none ∧ d.name = "ROOT" then .error "cannot delete ROOT domain"
    else if ∃ child ∈ s.rows, child.parentID = some d.id then
      .error "domain has sub-domains; delete them first"
    else .ok (s.delete d.id)

inductive Request where
  | create (req : CreateRequest)
  | update (id : Nat) (req : UpdateRequest)
  | delete (id : Nat)

def handle (s : Domains) : Request → Except String Domains
  | .create req => createDomain s req
  | .update id req => updateDomain s id req
  | .delete id => deleteDomain s id

def reached (requests : List Request) : Domains :=
  requests.foldl (fun s request => (handle s request).toOption.getD s) seedRoot

inductive Tree where
  | node (domain : Domain) (children : List Tree)

def Tree.domains : Tree → List Domain
  | .node domain children => domain :: children.flatMap Tree.domains

def treeNode (domains : List Domain) : Nat → Domain → Tree
  | 0, d => .node d []
  | depth + 1, d =>
    .node d ((domains.filter fun child => child.parentID = some d.id).map (treeNode domains depth))

/-- `domains` are the rows by level and name; none is deeper than there are rows. -/
def getDomainTree (domains : List Domain) : List Tree :=
  (domains.filter fun d => d.parentID.all fun parent => parent ∉ domains.map Domain.id).map
    (treeNode domains domains.length)

def lineage (s : Domains) : Nat → Domain → List Domain
  | 0, _ => []
  | fuel + 1, d =>
    match d.parentID.bind s.find with
    | none => []
    | some parent => parent :: lineage s fuel parent

def ancestors (s : Domains) (d : Domain) : List Domain := lineage s s.rows.length d

inductive Placed (rows : List Domain) (d : Domain) : Prop where
  | root (parent : d.parentID = none) (path : d.path = "" ++ "/" ++ d.name) (level : d.level = 0)
  | below (p : Domain) (member : p ∈ rows) (parent : d.parentID = some p.id)
      (path : d.path = p.path ++ "/" ++ d.name) (level : d.level = p.level + 1)

structure Good (allowed : String → Prop) (rows : List Domain) : Prop where
  ids : (rows.map Domain.id).Nodup
  names : (rows.map Domain.name).Nodup
  named : ∀ d ∈ rows, allowed d.name
  placed : ∀ d ∈ rows, Placed rows d

theorem Placed.mono {rows more : List Domain} {d : Domain} (placed : Placed rows d)
    (kept : ∀ p ∈ rows, d.parentID = some p.id → p ∈ more) : Placed more d := by
  cases placed with
  | root parent path level => exact .root parent path level
  | below p member parent path level => exact .below p (kept p member parent) parent path level

section

variable {allowed : String → Prop} {s t : Domains}

theorem create_good {req : CreateRequest} (good : Good allowed s.rows) (named : allowed req.name)
    (created : createDomain s req = .ok t) : Good allowed t.rows := by
  unfold createDomain at created
  split_ifs at created with unnamed orphan taken
  cases created
  have rows : (s.create (newDomain req (req.parentID.bind s.find)) fun _ => rfl).rows =
      s.rows ++ [newDomain req (req.parentID.bind s.find) (s.last + 1)] := rfl
  refine ⟨Table.distinct _, ?_, ?_, ?_⟩
  · rw [rows, List.map_append, List.nodup_append_comm]
    exact List.nodup_cons.mpr ⟨taken, good.names⟩
  · rw [rows]
    exact List.forall_mem_append.mpr ⟨good.named, by simpa [newDomain] using named⟩
  · rw [rows]
    refine List.forall_mem_append.mpr ⟨fun d member => (good.placed d member).mono fun p inside _ =>
      List.mem_append_left _ inside, List.forall_mem_singleton.mpr ?_⟩
    cases asked : req.parentID with
    | none => exact .root asked (by simp [newDomain]) (by simp [newDomain])
    | some parent =>
      obtain ⟨p, found⟩ : ∃ p, s.find parent = some p :=
        Option.ne_none_iff_exists'.mp fun none => orphan (by simp [asked, none])
      have id := number_of_find found
      refine .below p (List.mem_append_left _ (mem_rows_iff.mpr (id.symm ▸ found))) ?_ ?_ ?_ <;>
        simp [newDomain, found, id, asked]

/-- Updates leave alone what places a row. -/
theorem map_good {rows : List Domain} {change : Domain → Domain} (good : Good allowed rows)
    (keeps : ∀ d, (change d).id = d.id ∧ (change d).name = d.name ∧ (change d).path = d.path ∧
      (change d).level = d.level ∧ (change d).parentID = d.parentID) :
    Good allowed (rows.map change) := by
  have ids : Domain.id ∘ change = Domain.id := funext fun d => (keeps d).1
  have names : Domain.name ∘ change = Domain.name := funext fun d => (keeps d).2.1
  refine ⟨?_, ?_, List.forall_mem_map.mpr fun d member => ?_,
    List.forall_mem_map.mpr fun d member => ?_⟩
  · rw [List.map_map, ids]
    exact good.ids
  · rw [List.map_map, names]
    exact good.names
  · rw [(keeps d).2.1]
    exact good.named d member
  · obtain ⟨-, name, path, level, parent⟩ := keeps d
    cases good.placed d member with
    | root top own zero => exact .root (parent ▸ top) (by rw [path, name, own]) (level ▸ zero)
    | below p inside top own deep =>
      refine .below (change p) (List.mem_map_of_mem inside) ?_ ?_ ?_
      · rw [parent, top, (keeps p).1]
      · rw [path, name, own, (keeps p).2.2.1]
      · rw [level, deep, (keeps p).2.2.2.1]

theorem update_good {id : Nat} {req : UpdateRequest} (good : Good allowed s.rows)
    (updated : updateDomain s id req = .ok t) : Good allowed t.rows := by
  unfold updateDomain at updated
  split_ifs at updated
  cases updated
  refine map_good good fun d => ?_
  split <;> exact ⟨rfl, rfl, rfl, rfl, rfl⟩

theorem delete_good {id : Nat} (good : Good allowed s.rows)
    (deleted : deleteDomain s id = .ok t) : Good allowed t.rows := by
  unfold deleteDomain at deleted
  split at deleted
  · cases deleted
  · rename_i gone found
    split_ifs at deleted with root parent
    cases deleted
    have sub : (s.delete gone.id).rows.Sublist s.rows := List.filter_sublist
    refine ⟨Table.distinct _, good.names.sublist (sub.map _), fun d member =>
      good.named d (sub.mem member), fun d member => (good.placed d (sub.mem member)).mono ?_⟩
    -- the parent of a row that stays was not the deleted one
    intro p inside below
    refine List.mem_filter.mpr ⟨inside, decide_eq_true fun same => ?_⟩
    exact parent ⟨d, sub.mem member, same ▸ below⟩

def Request.Names (allowed : String → Prop) : Request → Prop
  | .create req => allowed req.name
  | _ => True

theorem reached_good {requests : List Request} (root : allowed "ROOT")
    (named : ∀ request ∈ requests, request.Names allowed) :
    Good allowed (reached requests).rows := by
  refine List.foldlRecOn requests _ (motive := fun s : Domains => Good allowed s.rows) ?_
    fun s good request member => ?_
  · exact ⟨by decide, by decide, List.forall_mem_singleton.mpr root,
      List.forall_mem_singleton.mpr (.root rfl rfl rfl)⟩
  · have guarded := named request member
    cases taken : handle s request with
    | error message => exact good
    | ok t =>
      cases request with
      | create req => exact create_good good guarded taken
      | update id req => exact update_good good taken
      | delete id => exact delete_good good taken

end

section

variable {allowed : String → Prop} {rows : List Domain} {s : Domains} {d e p : Domain}

theorem level_occurs (good : Good allowed rows) {level : Nat} (gap : Nat) (member : d ∈ rows)
    (deep : d.level = level + gap) : ∃ e ∈ rows, e.level = level := by
  induction gap generalizing d with
  | zero => exact ⟨d, member, deep⟩
  | succ gap ih =>
    cases good.placed d member with
    | root _ _ zero => omega
    | below p inside _ _ above => exact ih inside (by omega)

/-- A row and its ancestors have different levels. -/
theorem level_le (good : Good allowed rows) (member : d ∈ rows) : d.level ≤ rows.length := by
  have every : List.range (d.level + 1) ⊆ rows.map Domain.level := by
    intro level small
    rw [List.mem_range] at small
    exact List.mem_map.mpr (level_occurs good (d.level - level) member (by omega))
  have fits := (List.nodup_range.subperm every).length_le
  rw [List.length_range, List.length_map] at fits
  exact Nat.le_of_succ_le fits

theorem parent_found (member : p ∈ s.rows) (parent : d.parentID = some p.id) :
    d.parentID.bind s.find = some p := by
  rw [parent, Option.bind_some, mem_rows_iff.mp member]

theorem lineage_length (good : Good allowed s.rows) {fuel : Nat} (enough : d.level ≤ fuel)
    (member : d ∈ s.rows) : (lineage s fuel d).length = d.level := by
  induction fuel generalizing d with
  | zero => exact (Nat.le_zero.mp enough).symm
  | succ fuel ih =>
    cases good.placed d member with
    | root parent _ level => simp [lineage, parent, level]
    | below p owned parent _ level =>
      rw [lineage, parent_found owned parent, List.length_cons, ih (by omega) owned, level]

/-- Two ways to cut a path whose last part has no separator. -/
theorem cut_last {front name left rest : String} (plain : '/' ∉ name.toList)
    (same : front ++ "/" ++ name = left ++ "/" ++ rest) :
    front = left ∨ ∃ more, front = left ++ "/" ++ more := by
  have chars : front.toList ++ '/' :: name.toList = left.toList ++ '/' :: rest.toList := by
    simpa using congrArg String.toList same
  rcases List.append_eq_append_iff.mp chars with ⟨gap, shape, tail⟩ | ⟨gap, shape, tail⟩
  · cases gap with
    | nil => exact .inl (String.toList_inj.mp (by simpa using shape.symm))
    | cons char gap =>
      rw [List.cons_append, List.cons.injEq] at tail
      exact absurd (by simp [tail.2]) plain
  · cases gap with
    | nil => exact .inl (String.toList_inj.mp (by simpa using shape))
    | cons char gap =>
      rw [List.cons_append, List.cons.injEq] at tail
      refine .inr ⟨String.ofList gap, String.toList_inj.mp ?_⟩
      simp [shape, ← tail.1]

theorem placed_path (placed : Placed rows d) : ∃ front, d.path = front ++ "/" ++ d.name := by
  cases placed with
  | root _ path _ => exact ⟨_, path⟩
  | below p _ _ path _ => exact ⟨_, path⟩

theorem path_ne_empty (placed : Placed rows d) : d.path ≠ "" := by
  obtain ⟨front, path⟩ := placed_path placed
  simp [path]

def plainName (name : String) : Prop := '/' ∉ name.toList

theorem path_inj (good : Good plainName rows) (first : d ∈ rows) (second : e ∈ rows)
    (same : d.path = e.path) : d = e := by
  obtain ⟨front, path⟩ := placed_path (good.placed d first)
  obtain ⟨other, otherPath⟩ := placed_path (good.placed e second)
  rw [path, otherPath] at same
  have plain : '/' ∉ d.name.toList := good.named d first
  have otherPlain : '/' ∉ e.name.toList := good.named e second
  exact List.inj_on_of_nodup_map good.names first second
    (Text.joined_last_inj plain otherPlain same)

theorem path_of_lineage (good : Good allowed s.rows) {fuel : Nat} (member : d ∈ s.rows)
    (listed : e ∈ lineage s fuel d) : ∃ rest, d.path = e.path ++ "/" ++ rest := by
  induction fuel generalizing d with
  | zero => cases listed
  | succ fuel ih =>
    cases good.placed d member with
    | root parent _ _ => simp [lineage, parent] at listed
    | below p inside parent path _ =>
      rw [lineage, parent_found inside parent, List.mem_cons] at listed
      rcases listed with rfl | further
      · exact ⟨_, path⟩
      · obtain ⟨rest, shape⟩ := ih inside further
        exact ⟨rest ++ "/" ++ d.name, by rw [path, shape]; simp [String.append_assoc]⟩

/-- Nothing stands before the separator that starts the path of a root. -/
theorem root_not_below (plain : plainName d.name) (root : d.path = "" ++ "/" ++ d.name)
    (placed : Placed rows e) {rest : String} : d.path ≠ e.path ++ "/" ++ rest := by
  intro shape
  rcases cut_last plain (root.symm.trans shape) with none | ⟨more, none⟩
  · exact path_ne_empty placed none.symm
  · simp at none

theorem lineage_of_path (good : Good plainName s.rows) {fuel : Nat} (enough : d.level ≤ fuel)
    (member : d ∈ s.rows) (inside : e ∈ s.rows) {rest : String}
    (shape : d.path = e.path ++ "/" ++ rest) : e ∈ lineage s fuel d := by
  induction fuel generalizing d rest with
  | zero =>
    cases good.placed d member with
    | root _ path _ =>
      exact absurd shape (root_not_below (good.named d member) path (good.placed e inside))
    | below p _ _ _ level => omega
  | succ fuel ih =>
    cases good.placed d member with
    | root _ path _ =>
      exact absurd shape (root_not_below (good.named d member) path (good.placed e inside))
    | below p owned parent path level =>
      rw [lineage, parent_found owned parent, List.mem_cons]
      rcases cut_last (good.named d member) (path.symm.trans shape) with same | ⟨more, further⟩
      · exact .inl (path_inj good inside owned same.symm)
      · exact .inr (ih (by omega) owned further)

theorem children_perm (good : Good allowed rows) (level : Nat) :
    ((rows.filter (·.level = level)).flatMap fun d =>
      rows.filter (·.parentID = some d.id)).Perm (rows.filter (·.level = level + 1)) := by
  have distinct := good.ids.of_map
  refine (List.perm_ext_iff_of_nodup ?_ (distinct.filter _)).mpr fun e => ?_
  · refine List.nodup_flatMap.mpr ⟨fun d _ => distinct.filter _, ?_⟩
    refine (List.pairwise_map.mp good.ids).filter _ |>.imp fun {d e} other child here there => ?_
    simp only [List.mem_filter, decide_eq_true_eq] at here there
    exact other (Option.some.inj (here.2.symm.trans there.2))
  · simp only [List.mem_flatMap, List.mem_filter, decide_eq_true_eq]
    constructor
    · rintro ⟨d, ⟨inside, rfl⟩, member, parent⟩
      refine ⟨member, ?_⟩
      cases good.placed e member with
      | root none _ _ => simp [none] at parent
      | below p owned top _ above =>
        rw [above, List.inj_on_of_nodup_map good.ids owned inside
          (Option.some.inj (top.symm.trans parent))]
    · rintro ⟨member, deep⟩
      cases good.placed e member with
      | root _ _ zero => omega
      | below p owned top _ above => exact ⟨p, ⟨owned, by omega⟩, member, top⟩

theorem layers_perm (good : Good allowed rows) (depth level : Nat) :
    (((rows.filter (·.level = level)).map (treeNode rows depth)).flatMap Tree.domains).Perm
      (rows.filter fun d => level ≤ d.level ∧ d.level ≤ level + depth) := by
  have distinct := good.ids.of_map
  induction depth generalizing level with
  | zero =>
    refine List.Perm.of_eq ?_
    simp only [List.flatMap_map, treeNode, Tree.domains, List.flatMap_nil, Nat.add_zero]
    rw [List.flatMap_singleton']
    exact List.filter_congr fun d _ => decide_eq_decide.mpr (by omega)
  | succ depth ih =>
    -- the nodes of the level, then the trees of its children
    have split : ∀ d, (treeNode rows (depth + 1) d).domains =
        d :: ((rows.filter (·.parentID = some d.id)).map (treeNode rows depth)).flatMap
          Tree.domains := fun d => by rw [treeNode, Tree.domains]
    rw [List.flatMap_map, funext split]
    refine (List.map_append_flatMap_perm _ id _).symm.trans ?_
    rw [List.map_id, ← List.flatMap_assoc, ← List.map_flatMap]
    refine (((children_perm good level).map _).flatMap_right _ |>.trans (ih (level + 1))
      |>.append_left _).trans ?_
    refine (List.perm_ext_iff_of_nodup ?_ (distinct.filter _)).mpr fun e => ?_
    · refine (distinct.filter _).append (distinct.filter _) fun e here there => ?_
      simp only [List.mem_filter, decide_eq_true_eq] at here there
      omega
    · simp only [List.mem_append, List.mem_filter, decide_eq_true_eq, ← and_or_left]
      refine and_congr_right fun _ => ?_
      omega

theorem tree_perm (good : Good allowed rows) :
    ((getDomainTree rows).flatMap Tree.domains).Perm rows := by
  have roots : (rows.filter fun d => d.parentID.all fun parent => parent ∉ rows.map Domain.id) =
      rows.filter (·.level = 0) := by
    refine List.filter_congr fun d member => ?_
    cases good.placed d member with
    | root parent _ zero => simp [parent, zero]
    | below p owned parent _ above =>
      simp only [parent, Option.all_some, above, Nat.add_one_ne_zero, decide_false,
        decide_not, Bool.not_eq_false', decide_eq_true_eq]
      exact List.mem_map_of_mem owned
  rw [getDomainTree, roots]
  refine (layers_perm good _ 0).trans (List.Perm.of_eq (List.filter_eq_self.mpr fun d member => ?_))
  simpa using level_le good member

theorem Good.perm {listed : List Domain} (good : Good allowed rows) (same : listed.Perm rows) :
    Good allowed listed :=
  ⟨(same.map _).nodup_iff.mpr good.ids, (same.map _).nodup_iff.mpr good.names,
    fun d member => good.named d (same.mem_iff.mp member),
    fun d member => (good.placed d (same.mem_iff.mp member)).mono fun _ inside _ =>
      same.mem_iff.mpr inside⟩

end

structure Nested (s : Domains) : Prop where
  levels : ∀ d ∈ s.rows, d.level = (ancestors s d).length
  tree : ∀ domains, domains.Perm s.rows →
    ((getDomainTree domains).flatMap Tree.domains).Perm s.rows

structure Encoded (s : Domains) : Prop where
  distinct : ∀ d ∈ s.rows, ∀ e ∈ s.rows, d.path = e.path → d = e
  ancestry : ∀ a ∈ s.rows, ∀ d ∈ s.rows,
    a ∈ ancestors s d ↔ ∃ rest, d.path = a.path ++ "/" ++ rest

/-- Levels and tree are right whatever the names; paths are when no name has a separator. -/
theorem paths_encode_hierarchy (requests : List Request) :
    Nested (reached requests) ∧
      ((∀ request ∈ requests, request.Names plainName) → Encoded (reached requests)) := by
  constructor
  · have good : Good (fun _ => True) (reached requests).rows :=
      reached_good trivial fun request _ => by cases request <;> trivial
    refine ⟨fun d member => ?_, fun domains same => (tree_perm (good.perm same)).trans same⟩
    exact (lineage_length good (level_le good member) member).symm
  · intro plain
    have good : Good plainName (reached requests).rows := reached_good (by simp [plainName]) plain
    refine ⟨fun d first e second => path_inj good first second, fun a above d member => ?_⟩
    refine ⟨path_of_lineage good member, fun ⟨rest, shape⟩ => ?_⟩
    exact lineage_of_path good (level_le good member) member above shape

def Rooted (s : Domains) : Prop :=
  ∃ root, s.find 1 = some root ∧ root.name = "ROOT" ∧ root.path = "/ROOT" ∧
    root.parentID = none ∧ root.level = 0

/-- No request removes the root or moves it. -/
theorem root_stays (requests : List Request) : Rooted (reached requests) := by
  refine List.foldlRecOn requests _ (motive := Rooted) ⟨_, rfl, rfl, rfl, rfl, rfl⟩ ?_
  rintro s ⟨root, found, name, path, parent, level⟩ request -
  have numbered := find_le_last found
  cases taken : handle s request with
  | error message => exact ⟨root, found, name, path, parent, level⟩
  | ok t =>
    cases request with
    | create req =>
      simp only [handle, createDomain] at taken
      split_ifs at taken
      cases taken
      refine ⟨root, (find_create s fun _ => rfl).trans ?_, name, path, parent, level⟩
      rw [if_neg (by omega), found]
    | update id req =>
      simp only [handle, updateDomain] at taken
      split_ifs at taken
      cases taken
      have keeps : ∀ d, (req.apply d).id = d.id := fun _ => rfl
      have row : (s.update id req.apply keeps).find 1 = _ := find_update s keeps
      rw [found] at row
      split at row <;> exact ⟨_, row, name, path, parent, level⟩
    | delete id =>
      simp only [handle, deleteDomain] at taken
      split at taken
      · cases taken
      · rename_i gone held
        split_ifs at taken with kept
        cases taken
        refine ⟨root, (find_delete s).trans ?_, name, path, parent, level⟩
        rw [if_neg, found]
        rintro same
        rw [number_of_find held] at same
        cases found.symm.trans (same ▸ held)
        exact kept ⟨parent, name⟩

def slashed : List Request :=
  [.create { name := "a" }, .create { name := "b", parentID := some 2 }, .create { name := "a/b" }]

theorem slash_name_collides :
    (reached slashed).rows.map (fun d => (d.id, d.path, d.parentID)) =
        [(1, "/ROOT", none), (2, "/a", none), (3, "/a/b", some 2), (4, "/a/b", none)] ∧
      ¬ Encoded (reached slashed) := by
  refine ⟨by decide +kernel, fun encoded => ?_⟩
  have collides : ∃ d ∈ (reached slashed).rows, ∃ e ∈ (reached slashed).rows,
      d.path = e.path ∧ d ≠ e := by decide +kernel
  obtain ⟨d, first, e, second, same, other⟩ := collides
  exact other (encoded.distinct d first e second same)

end VcStack.DomainTrees
