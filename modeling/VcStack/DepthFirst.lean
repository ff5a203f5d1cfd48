import Mathlib.Data.List.Count
import Mathlib.Data.List.Infix
import Mathlib.Data.List.Nodup
import Mathlib.Logic.Relation
import Mathlib.Order.WellFounded
import VcStack.Histories

/-!
Depth-first traversals of a finite directed graph given by successor lists: the
three-colour search for a cycle and the post-order visit. The branches of the
recursion share mutable state, so the state is passed along. The recursion is
bounded by a depth. A traversal that runs out of depth answers `none`; a depth
above the number of nodes that have successors is always enough.
-/

namespace VcStack.DepthFirst

open Relation Histories

universe u
variable {Node : Type u} (next : Node → List Node)

def Edge (source target : Node) : Prop := target ∈ next source

def Acyclic : Prop := ∀ node, ¬ TransGen (Edge next) node node

def Settles (node : Node) : Prop := Acc (fun target source => Edge next source target) node

variable {next}

theorem settles_no_cycle {node : Node} (settles : Settles next node) :
    ¬ TransGen (Edge next) node node := by
  have accessible := settles.transGen
  induction accessible with
  | intro current _ ih =>
    intro cycle
    have back : TransGen (fun target source => Edge next source target) current current :=
      transGen_swap.mp cycle
    exact ih current back (settles.inv_of_transGen back) cycle

theorem settles_of_successors {node : Node}
    (successors : ∀ target ∈ next node, Settles next target) : Settles next node :=
  Acc.intro node fun target edge => successors target edge

theorem remaining_le (nodes : List Node) (before after : Node → Bool)
    (fewer : ∀ node, after node = true → before node = true) :
    nodes.countP after ≤ nodes.countP before :=
  List.countP_mono_left fun node _ => fewer node

variable {nodes known targets : List Node}

theorem remaining_lt (before after : Node → Bool) {met : Node}
    (fewer : ∀ node, after node = true → before node = true) (member : met ∈ nodes)
    (fresh : before met = true) (gone : after met = false) :
    nodes.countP after < nodes.countP before := by
  induction nodes with
  | nil => exact absurd member List.not_mem_nil
  | cons node rest ih =>
    have bound := remaining_le rest before after fewer
    rcases List.mem_cons.mp member with same | later
    · subst node
      rw [List.countP_cons_of_neg (by simp [gone]), List.countP_cons_of_pos fresh]
      omega
    · have smaller := ih later
      by_cases kept : after node = true
      · rw [List.countP_cons_of_pos kept, List.countP_cons_of_pos (fewer node kept)]
        omega
      · rw [List.countP_cons_of_neg kept, List.countP_cons]
        omega

inductive Colour where
  | unvisited
  | visiting
  | visited
  deriving DecidableEq

abbrev Colours (Node : Type u) := Node → Colour

abbrev Answer (Node : Type u) := Option (Except Node (Colours Node))

def sweep (visit : Colours Node → Node → Answer Node) : Colours Node → List Node → Answer Node
  | colours, [] => some (.ok colours)
  | colours, node :: rest =>
    match visit colours node with
    | some (.ok after) => sweep visit after rest
    | stopped => stopped

structure Kept (before after : Colours Node) : Prop where
  stack : ∀ node, after node = .visiting ↔ before node = .visiting
  done : ∀ node, before node = .visited → after node = .visited

theorem kept_refl {colours : Colours Node} : Kept colours colours :=
  ⟨fun _ => Iff.rfl, fun _ done => done⟩

theorem kept_trans {first second third : Colours Node} (one : Kept first second)
    (two : Kept second third) : Kept first third :=
  ⟨fun node => (two.stack node).trans (one.stack node),
    fun node done => two.done node (one.done node done)⟩

theorem kept_unvisited {before after : Colours Node} (kept : Kept before after) {node : Node}
    (fresh : after node = .unvisited) : before node = .unvisited := by
  cases earlier : before node with
  | unvisited => rfl
  | visiting =>
    rw [(kept.stack node).mpr earlier] at fresh
    contradiction
  | visited =>
    rw [kept.done node earlier] at fresh
    contradiction

theorem sweep_kept {visit : Colours Node → Node → Answer Node}
    (keeps : ∀ colours node after, visit colours node = some (.ok after) → Kept colours after)
    (colours after : Colours Node)
    (finished : sweep visit colours nodes = some (.ok after)) : Kept colours after := by
  induction nodes generalizing colours with
  | nil =>
    cases finished
    exact kept_refl
  | cons node rest ih =>
    simp only [sweep] at finished
    split at finished
    · rename_i middle visited
      exact kept_trans (keeps _ _ _ visited) (ih middle finished)
    · rename_i stopped
      exact absurd finished (stopped after)

/-- What an answer says about the graph: an error comes with a cycle, success
with settled nodes only. -/
def Explained (next : Node → List Node) (nodes : List Node) : Answer Node → Prop
  | none => True
  | some (.error _) => ∃ node, TransGen (Edge next) node node
  | some (.ok after) =>
    (∀ node ∈ nodes, after node = .visited) ∧ ∀ node, after node = .visited → Settles next node

/-- Every visited node is settled and every node on the stack leads to the
targets about to be searched. -/
structure Ready (next : Node → List Node) (colours : Colours Node) (targets : List Node) : Prop where
  settled : ∀ node, colours node = .visited → Settles next node
  leads : ∀ node, colours node = .visiting → ∀ target ∈ targets, TransGen (Edge next) node target

theorem sweep_explained {visit : Colours Node → Node → Answer Node}
    (keeps : ∀ colours node after, visit colours node = some (.ok after) → Kept colours after)
    (colours : Colours Node) (ready : Ready next colours nodes)
    (explains : ∀ current node, Kept colours current → Ready next current [node] →
      Explained next [node] (visit current node)) :
    Explained next nodes (sweep visit colours nodes) := by
  induction nodes generalizing colours with
  | nil => exact ⟨fun node member => absurd member List.not_mem_nil, ready.settled⟩
  | cons node rest ih =>
    have here := explains colours node kept_refl
      ⟨ready.settled, fun grey stacked target only => by
        rw [List.mem_singleton.mp only]
        exact ready.leads grey stacked node List.mem_cons_self⟩
    simp only [sweep]
    split
    · rename_i after visited
      rw [visited] at here
      have kept := keeps _ _ _ visited
      have onward := ih after
        ⟨here.2, fun grey stacked target member =>
          ready.leads grey ((kept.stack grey).mp stacked) target (List.mem_cons_of_mem _ member)⟩
        (fun current other later => explains current other (kept_trans kept later))
      cases rested : sweep visit after rest with
      | none => trivial
      | some outcome =>
        rw [rested] at onward
        cases outcome with
        | error closed => exact onward
        | ok last =>
          constructor
          · intro other member
            rcases List.mem_cons.mp member with same | later
            · subst other
              exact (sweep_kept keeps after last rested).done node (here.1 node List.mem_cons_self)
            · exact onward.1 other later
          · exact onward.2
    · rename_i stopped
      cases answer : visit colours node with
      | none => trivial
      | some outcome =>
        rw [answer] at here
        cases outcome with
        | error closed => exact here
        | ok after => exact absurd answer (stopped after)

def unmet (colours : Colours Node) (node : Node) : Bool := colours node = .unvisited

theorem sweep_returns {visit : Colours Node → Node → Answer Node}
    {bound : Nat}
    (keeps : ∀ colours node after, visit colours node = some (.ok after) → Kept colours after)
    (returns : ∀ colours node, known.countP (unmet colours) < bound →
      visit colours node ≠ none) (colours : Colours Node)
    (enough : known.countP (unmet colours) < bound) : sweep visit colours nodes ≠ none := by
  induction nodes generalizing colours with
  | nil => simp [sweep]
  | cons node rest ih =>
    simp only [sweep]
    split
    · rename_i after visited
      apply ih
      have fewer := remaining_le known (unmet colours) (unmet after) fun other fresh => by
        simpa [unmet] using kept_unvisited (keeps _ _ _ visited) (by simpa [unmet] using fresh)
      omega
    · exact returns colours node enough

theorem sweep_agrees {visit other : Colours Node → Node → Answer Node}
    (agrees : ∀ colours node outcome, visit colours node = some outcome →
      other colours node = some outcome) (colours : Colours Node) {outcome : Except Node (Colours Node)}
    (ran : sweep visit colours nodes = some outcome) : sweep other colours nodes = some outcome := by
  induction nodes generalizing colours with
  | nil => exact ran
  | cons node rest ih =>
    simp only [sweep] at ran ⊢
    cases answer : visit colours node with
    | none =>
      rw [answer] at ran
      contradiction
    | some reached =>
      rw [answer] at ran
      rw [agrees colours node reached answer]
      cases reached with
      | error closed => exact ran
      | ok after => exact ih after ran

structure Walk (Node : Type u) where
  visited : Node → Bool := fun _ => false
  order : List Node := []

def Walk.append (walk : Walk Node) (node : Node) : Walk Node :=
  {walk with order := walk.order ++ [node]}

theorem fold_rule {State : Type u} {body : State → Node → Option State}
    (invariant : List Node → State → Prop) {start final : State}
    (initial : invariant [] start)
    (kept : ∀ done node state after, node ∈ nodes → invariant done state →
      body state node = some after → invariant (done ++ [node]) after)
    (ran : nodes.foldlM body start = some final) : invariant nodes final := by
  have onward : ∀ rest done state, (∀ node ∈ rest, node ∈ nodes) → invariant done state →
      rest.foldlM body state = some final → invariant (done ++ rest) final := by
    intro rest
    induction rest with
    | nil =>
      intro done state _ holds ended
      cases ended
      simpa using holds
    | cons node rest ih =>
      intro done state inside holds going
      rw [List.foldlM_cons] at going
      obtain ⟨after, stepped, further⟩ := Option.bind_eq_some_iff.mp going
      have extended := ih (done ++ [node]) after
        (fun other member => inside other (List.mem_cons_of_mem _ member))
        (kept done node state after (inside node List.mem_cons_self) holds stepped) further
      simpa using extended
  simpa using onward nodes [] start (fun _ member => member) initial ran

structure Extends (before after : Walk Node) : Prop where
  grows : before.order <+: after.order
  kept : ∀ node, before.visited node = true → after.visited node = true
  fresh : ∀ node ∈ after.order, node ∈ before.order ∨ before.visited node = false
  stack : ∀ node, after.visited node = true → node ∈ after.order ∨ before.visited node = true

theorem extends_refl {walk : Walk Node} : Extends walk walk :=
  ⟨List.prefix_refl _, fun _ met => met, fun _ listed => Or.inl listed, fun _ met => Or.inr met⟩

theorem extends_trans {first second third : Walk Node} (one : Extends first second)
    (two : Extends second third) : Extends first third where
  grows := one.grows.trans two.grows
  kept node met := two.kept node (one.kept node met)
  fresh node listed := by
    rcases two.fresh node listed with earlier | unmet
    · exact one.fresh node earlier
    · right
      apply Bool.eq_false_iff.mpr
      intro met
      rw [one.kept node met] at unmet
      contradiction
  stack node met := by
    rcases two.stack node met with listed | earlier
    · exact Or.inl listed
    · exact (one.stack node earlier).imp_left fun listed => two.grows.subset listed

variable (body : Walk Node → Node → Option (Walk Node))

theorem fold_extends (single : ∀ walk node after, body walk node = some after → Extends walk after)
    {walk after : Walk Node} (ran : nodes.foldlM body walk = some after) :
    Extends walk after :=
  fold_rule (fun _ state => Extends walk state) extends_refl
    (fun _ node state final _ sofar stepped =>
      extends_trans sofar (single state node final stepped)) ran

theorem fold_returns {bound : Nat}
    (single : ∀ walk node after, body walk node = some after → Extends walk after)
    (returns : ∀ walk node, known.countP (fun other => !walk.visited other) < bound →
      body walk node ≠ none) (walk : Walk Node)
    (enough : known.countP (fun other => !walk.visited other) < bound) :
    nodes.foldlM body walk ≠ none := by
  induction nodes generalizing walk with
  | nil => simp
  | cons node rest ih =>
    obtain ⟨after, stepped⟩ := Option.ne_none_iff_exists'.mp (returns walk node enough)
    rw [List.foldlM_cons, stepped]
    apply ih
    have fewer := remaining_le known (fun other => !walk.visited other)
      (fun other => !after.visited other) fun other unmet => by
        have kept := (single walk node after stepped).kept other
        grind
    omega

theorem fold_agrees {other : Walk Node → Node → Option (Walk Node)}
    (agrees : ∀ walk node after, body walk node = some after → other walk node = some after)
    (walk after : Walk Node) (ran : nodes.foldlM body walk = some after) :
    nodes.foldlM other walk = some after := by
  induction nodes generalizing walk with
  | nil => exact ran
  | cons node rest ih =>
    rw [List.foldlM_cons] at ran ⊢
    obtain ⟨middle, stepped, going⟩ := Option.bind_eq_some_iff.mp ran
    rw [agrees walk node middle stepped]
    exact ih middle going

structure Sorted (next : Node → List Node) (walk : Walk Node) : Prop where
  listed : ∀ node ∈ walk.order, walk.visited node = true
  once : walk.order.Nodup
  follows : Each (fun front node => ∀ target ∈ next node, target ∈ front) walk.order

/-- Every visited node that is not listed yet is on the stack and leads to the
targets about to be visited. -/
def Leads (next : Node → List Node) (walk : Walk Node) (targets : List Node) : Prop :=
  ∀ node, walk.visited node = true → node ∉ walk.order →
    ∀ target ∈ targets, TransGen (Edge next) node target

theorem extends_leads {before after : Walk Node}
    (extended : Extends before after) (leads : Leads next before targets) :
    Leads next after targets := by
  intro node met unlisted
  have earlier := (extended.stack node met).resolve_left unlisted
  exact leads node earlier fun listed => unlisted (extended.grows.subset listed)

theorem sorted_append {walk : Walk Node} {node : Node} (sorted : Sorted next walk)
    (met : walk.visited node = true) (unlisted : node ∉ walk.order)
    (successors : ∀ target ∈ next node, target ∈ walk.order) : Sorted next (walk.append node) where
  listed other member := by
    rcases List.mem_append.mp member with earlier | only
    · exact sorted.listed other earlier
    · rw [List.mem_singleton.mp only]
      exact met
  once := by
    refine List.nodup_append.mpr ⟨sorted.once, List.nodup_singleton node, ?_⟩
    intro other member last only same
    rw [List.mem_singleton.mp only] at same
    exact unlisted (same ▸ member)
  follows := (each_snoc_iff walk.order).mpr ⟨sorted.follows, successors⟩

structure Met (next : Node → List Node) (walk : Walk Node) : Prop where
  listed : ∀ node ∈ walk.order, walk.visited node = true
  once : walk.order.Nodup
  onward : ∀ node ∈ walk.order, ∀ target ∈ next node, walk.visited target = true

theorem met_append {walk : Walk Node} {node : Node} (holds : Met next walk)
    (met : walk.visited node = true) (unlisted : node ∉ walk.order)
    (successors : ∀ target ∈ next node, walk.visited target = true) :
    Met next (walk.append node) := by
  have either : ∀ other ∈ walk.order ++ [node], other ∈ walk.order ∨ other = node := by
    simp
  constructor
  · intro other member
    rcases either other member with earlier | same
    · exact holds.listed other earlier
    · exact same ▸ met
  · refine List.nodup_append.mpr ⟨holds.once, List.nodup_singleton node, ?_⟩
    intro other member last only same
    rw [List.mem_singleton.mp only] at same
    exact unlisted (same ▸ member)
  · intro other member
    rcases either other member with earlier | same
    · exact holds.onward other earlier
    · exact same ▸ successors

variable [DecidableEq Node]

def paint (colours : Colours Node) (node : Node) (colour : Colour) : Colours Node :=
  fun other => if other = node then colour else colours other

variable (depth : Nat) (colours : Colours Node) (walk after : Walk Node) (node : Node)

theorem paint_same {colour : Colour} : paint colours node colour node = colour := if_pos rfl

theorem paint_other {other : Node} {colour : Colour} (different : other ≠ node) :
    paint colours node colour other = colours other :=
  if_neg different

variable (next) in
def search : Nat → Colours Node → Node → Answer Node
  | 0, _, _ => none
  | depth + 1, colours, node =>
    match colours node with
    | .visiting => some (.error node)
    | .visited => some (.ok colours)
    | .unvisited =>
      match sweep (search depth) (paint colours node .visiting) (next node) with
      | some (.ok after) => some (.ok (paint after node .visited))
      | stopped => stopped

theorem kept_finish {before after : Colours Node} {node : Node}
    (fresh : before node = .unvisited) (kept : Kept (paint before node .visiting) after) :
    Kept before (paint after node .visited) := by
  constructor
  · intro other
    by_cases same : other = node
    · subst other
      simp [paint_same, fresh]
    · rw [paint_other _ _ same, kept.stack other, paint_other _ _ same]
  · intro other done
    by_cases same : other = node
    · subst other
      exact paint_same _ _
    · rw [paint_other _ _ same]
      apply kept.done
      rw [paint_other _ _ same]
      exact done

theorem search_kept (after : Colours Node) (node : Node)
    (finished : search next depth colours node = some (.ok after)) : Kept colours after := by
  induction depth generalizing colours node after with
  | zero => contradiction
  | succ depth ih =>
    simp only [search] at finished
    split at finished
    · cases finished
    · cases finished
      exact kept_refl
    · rename_i fresh
      split at finished
      · rename_i middle swept
        cases finished
        exact kept_finish fresh
          (sweep_kept (fun colours node after => ih colours after node) _ _ swept)
      · rename_i stopped
        exact absurd finished (stopped after)

theorem search_explained (ready : Ready next colours [node]) :
    Explained next [node] (search next depth colours node) := by
  induction depth generalizing colours node with
  | zero => trivial
  | succ depth ih =>
    simp only [search]
    split
    · rename_i stacked
      exact ⟨node, ready.leads node stacked node List.mem_cons_self⟩
    · rename_i done
      refine ⟨fun other only => ?_, ready.settled⟩
      rw [List.mem_singleton.mp only]
      exact done
    · rename_i fresh
      -- The node joins the stack, and each node of the stack leads to its successors.
      have inside : Ready next (paint colours node .visiting) (next node) := by
        constructor
        · intro other done
          by_cases same : other = node
          · subst other
            rw [paint_same] at done
            contradiction
          · rw [paint_other _ _ same] at done
            exact ready.settled other done
        · intro other stacked target edge
          by_cases same : other = node
          · subst other
            exact TransGen.single edge
          · rw [paint_other _ _ same] at stacked
            exact (ready.leads other stacked node List.mem_cons_self).tail edge
      have below := sweep_explained
        (fun colours node after => search_kept depth colours after node) _ inside
        (fun current target _ => ih current target)
      split
      · rename_i after swept
        rw [swept] at below
        have settled := settles_of_successors fun target edge =>
          below.2 target (below.1 target edge)
        refine ⟨fun other only => ?_, fun other done => ?_⟩
        · rw [List.mem_singleton.mp only]
          exact paint_same _ _
        · by_cases same : other = node
          · exact same ▸ settled
          · rw [paint_other _ _ same] at done
            exact below.2 other done
      · rename_i stopped
        cases answer : sweep (search next depth) (paint colours node .visiting) (next node) with
        | none => trivial
        | some outcome =>
          rw [answer] at below
          cases outcome with
          | error closed => exact below
          | ok after => exact absurd answer (stopped after)

theorem search_returns (covers : ∀ node, next node ≠ [] → node ∈ known)
    {depth : Nat} (colours : Colours Node) (node : Node)
    (enough : known.countP (unmet colours) < depth) : search next depth colours node ≠ none := by
  induction depth generalizing colours node with
  | zero => omega
  | succ depth ih =>
    simp only [search]
    split
    · simp
    · simp
    · rename_i fresh
      have below : sweep (search next depth) (paint colours node .visiting) (next node) ≠ none := by
        by_cases leaf : next node = []
        · simp [leaf, sweep]
        · have painted := remaining_lt (unmet colours)
            (unmet (paint colours node .visiting)) (fun other later => by
              by_cases same : other = node
              · subst other
                simp [unmet, fresh]
              · simpa [unmet, paint_other _ _ same] using later)
            (covers node leaf) (by simp [unmet, fresh]) (by simp [unmet, paint_same])
          exact sweep_returns
            (fun colours node after => search_kept depth colours after node) ih _
            (by omega)
      split
      · simp
      · exact below

theorem search_deeper {more : Nat} (colours : Colours Node) (node : Node)
    (outcome : Except Node (Colours Node)) (ran : search next depth colours node = some outcome) :
    search next (depth + more) colours node = some outcome := by
  induction depth generalizing colours node outcome with
  | zero => contradiction
  | succ depth ih =>
    rw [Nat.add_right_comm]
    simp only [search] at ran ⊢
    cases colour : colours node with
    | visiting => simpa [colour] using ran
    | visited => simpa [colour] using ran
    | unvisited =>
      simp only [colour] at ran ⊢
      cases below : sweep (search next depth) (paint colours node .visiting) (next node) with
      | none =>
        rw [below] at ran
        contradiction
      | some reached =>
        rw [below] at ran
        rw [sweep_agrees ih _ below]
        exact ran

def Walk.mark (walk : Walk Node) (node : Node) : Walk Node :=
  {walk with visited := fun other => if other = node then true else walk.visited other}

theorem mark_visited_iff (other : Node) :
    (walk.mark node).visited other = true ↔ other = node ∨ walk.visited other = true := by
  by_cases same : other = node <;> simp [Walk.mark, same]

variable (next) in
def visit : Nat → Walk Node → Node → Option (Walk Node)
  | 0, _, _ => none
  | depth + 1, walk, node =>
    if walk.visited node then some walk
    else ((next node).foldlM (visit depth) (walk.mark node)).map fun after => after.append node

theorem extends_finish (unmet : walk.visited node = false) (inner : Extends (walk.mark node) after) :
    Extends walk (after.append node) where
  grows := inner.grows.trans (List.prefix_append _ _)
  kept other met := inner.kept other ((mark_visited_iff walk node other).mpr (Or.inr met))
  fresh other listed := by
    rcases List.mem_append.mp listed with earlier | only
    · refine (inner.fresh other earlier).imp_right fun still => ?_
      apply Bool.eq_false_iff.mpr
      intro met
      rw [(mark_visited_iff walk node other).mpr (Or.inr met)] at still
      contradiction
    · rw [List.mem_singleton.mp only]
      exact Or.inr unmet
  stack other met := by
    rcases inner.stack other met with listed | marked
    · exact Or.inl (List.mem_append_left _ listed)
    · refine ((mark_visited_iff walk node other).mp marked).imp_left fun same => ?_
      simp [Walk.append, same]

variable {depth}

theorem visit_some (ran : visit next (depth + 1) walk node = some after) :
    walk.visited node = true ∧ after = walk ∨
      walk.visited node = false ∧ ∃ inner,
        (next node).foldlM (visit next depth) (walk.mark node) = some inner ∧
          after = inner.append node := by
  simp only [visit] at ran
  split at ran
  · rename_i met
    cases ran
    exact Or.inl ⟨met, rfl⟩
  · rename_i unmet
    obtain ⟨inner, looped, ended⟩ := Option.map_eq_some_iff.mp ran
    exact Or.inr ⟨by simpa using unmet, inner, looped, ended.symm⟩

theorem visit_extends (ran : visit next depth walk node = some after) : Extends walk after := by
  induction depth generalizing walk after node with
  | zero => contradiction
  | succ depth ih =>
    rcases visit_some walk after node ran with ⟨_, same⟩ | ⟨unmet, inner, looped, ended⟩
    · subst same
      exact extends_refl
    · subst ended
      apply extends_finish walk inner node unmet
      exact fold_extends _ (fun walk node after => ih walk after node) looped

theorem mark_visited : (walk.mark node).visited node = true :=
  (mark_visited_iff walk node node).mpr (Or.inl rfl)

theorem unmet_unlisted {inner : Walk Node} {node : Node} (unmet : walk.visited node = false)
    (listed : ∀ other ∈ walk.order, walk.visited other = true)
    (extended : Extends (walk.mark node) inner) : node ∉ inner.order := by
  intro among
  rcases extended.fresh node among with earlier | still
  · rw [listed node earlier] at unmet
    contradiction
  · rw [mark_visited walk node] at still
    contradiction

theorem sorted_mark (sorted : Sorted next walk) :
    Sorted next (walk.mark node) where
  listed other member := (mark_visited_iff walk node other).mpr (Or.inr (sorted.listed other member))
  once := sorted.once
  follows := sorted.follows

theorem fold_sorted {walk after : Walk Node}
    (single : ∀ walk node after, Sorted next walk → Leads next walk [node] →
      visit next depth walk node = some after → Sorted next after ∧ node ∈ after.order)
    (sorted : Sorted next walk) (leads : Leads next walk targets)
    (ran : targets.foldlM (visit next depth) walk = some after) :
    Sorted next after ∧ ∀ target ∈ targets, target ∈ after.order := by
  have looped := fold_rule
    (fun done state => (Sorted next state ∧ Leads next state targets) ∧
      ∀ target ∈ done, target ∈ state.order)
    ⟨⟨sorted, leads⟩, fun _ member => absurd member List.not_mem_nil⟩
    (fun done node state final member holds stepped => by
      obtain ⟨⟨sofar, leading⟩, passed⟩ := holds
      have here := single state node final sofar (fun other met unlisted target only => by
        rw [List.mem_singleton.mp only]
        exact leading other met unlisted node member) stepped
      have extended := visit_extends state final node stepped
      refine ⟨⟨here.1, extends_leads extended leading⟩, fun target among => ?_⟩
      rcases List.mem_append.mp among with before | only
      · exact extended.grows.subset (passed target before)
      · rw [List.mem_singleton.mp only]
        exact here.2) ran
  exact ⟨looped.1.1, looped.2⟩

theorem visit_sorted (acyclic : Acyclic next) {depth : Nat} (walk after : Walk Node) (node : Node)
    (sorted : Sorted next walk) (leads : Leads next walk [node])
    (ran : visit next depth walk node = some after) :
    Sorted next after ∧ node ∈ after.order := by
  induction depth generalizing walk after node with
  | zero => contradiction
  | succ depth ih =>
    rcases visit_some walk after node ran with ⟨met, same⟩ | ⟨unmet, inner, looped, ended⟩
    · subst same
      refine ⟨sorted, ?_⟩
      -- A node met again while it is on the stack would lie on a cycle.
      by_contra unlisted
      exact acyclic node (leads node met unlisted node List.mem_cons_self)
    · subst ended
      have stacked : Leads next (walk.mark node) (next node) := by
        intro other met unlisted target edge
        rcases (mark_visited_iff walk node other).mp met with same | earlier
        · subst other
          exact TransGen.single edge
        · exact (leads other earlier unlisted node List.mem_cons_self).tail edge
      obtain ⟨innerSorted, successors⟩ := fold_sorted
        (fun walk node after => ih walk after node) (sorted_mark walk node sorted) stacked looped
      have extended : Extends (walk.mark node) inner :=
        fold_extends _ (fun walk node after => visit_extends walk after node) looped
      have unlisted := unmet_unlisted walk unmet sorted.listed extended
      have met := extended.kept node (mark_visited walk node)
      refine ⟨sorted_append innerSorted met unlisted successors, ?_⟩
      simp [Walk.append]

theorem visit_meets (ran : visit next depth walk node = some after) :
    after.visited node = true := by
  cases depth with
  | zero => contradiction
  | succ depth =>
    rcases visit_some walk after node ran with ⟨met, same⟩ | ⟨_, inner, looped, ended⟩
    · subst same
      exact met
    · subst ended
      exact (fold_extends _ (fun walk node after => visit_extends walk after node)
        looped).kept node (mark_visited walk node)

theorem met_mark (holds : Met next walk) :
    Met next (walk.mark node) where
  listed other member := (mark_visited_iff walk node other).mpr (Or.inr (holds.listed other member))
  once := holds.once
  onward other member target edge :=
    (mark_visited_iff walk node target).mpr (Or.inr (holds.onward other member target edge))

theorem fold_met {walk after : Walk Node}
    (single : ∀ walk node after, Met next walk → visit next depth walk node = some after →
      Met next after) (holds : Met next walk)
    (ran : targets.foldlM (visit next depth) walk = some after) :
    Met next after ∧ ∀ target ∈ targets, after.visited target = true :=
  fold_rule
    (fun done state => Met next state ∧ ∀ target ∈ done, state.visited target = true)
    ⟨holds, fun _ member => absurd member List.not_mem_nil⟩
    (fun done node state final _ sofar stepped => by
      refine ⟨single state node final sofar.1 stepped, fun target among => ?_⟩
      rcases List.mem_append.mp among with before | only
      · exact (visit_extends state final node stepped).kept target (sofar.2 target before)
      · rw [List.mem_singleton.mp only]
        exact visit_meets state final node stepped) ran

theorem visit_met (holds : Met next walk) (ran : visit next depth walk node = some after) :
    Met next after := by
  induction depth generalizing walk after node with
  | zero => contradiction
  | succ depth ih =>
    rcases visit_some walk after node ran with ⟨_, same⟩ | ⟨unmet, inner, looped, ended⟩
    · subst same
      exact holds
    · subst ended
      obtain ⟨innerMet, successors⟩ := fold_met
        (fun walk node after => ih walk after node) (met_mark walk node holds) looped
      have extended : Extends (walk.mark node) inner :=
        fold_extends _ (fun walk node after => visit_extends walk after node) looped
      exact met_append innerMet (extended.kept node (mark_visited walk node))
        (unmet_unlisted walk unmet holds.listed extended) successors

/-- From an empty walk, a loop over nodes lists them, what the listed nodes lead
to, and nothing twice. -/
theorem walk_all {after : Walk Node}
    (ran : nodes.foldlM (visit next depth) {} = some after) :
    after.order.Nodup ∧ (∀ node ∈ nodes, node ∈ after.order) ∧
      ∀ node ∈ after.order, ∀ target ∈ next node, target ∈ after.order := by
  have start : Met next {} :=
    ⟨fun _ member => absurd member List.not_mem_nil, List.nodup_nil,
      fun _ member => absurd member List.not_mem_nil⟩
  obtain ⟨holds, met⟩ := fold_met (fun walk node after => visit_met walk after node) start ran
  -- Nothing is on the stack between two visits, so what was met is listed.
  have extended : Extends {} after :=
    fold_extends _ (fun walk node after => visit_extends walk after node) ran
  have listed : ∀ node, after.visited node = true → node ∈ after.order := fun node visited =>
    (extended.stack node visited).resolve_right (by simp)
  exact ⟨holds.once, fun node member => listed node (met node member),
    fun node member target edge => listed target (holds.onward node member target edge)⟩

theorem visit_within {inside : Node → Prop}
    (closed : ∀ source, inside source → ∀ target ∈ next source, inside target)
    {depth : Nat} (walk after : Walk Node) (node : Node) (start : inside node)
    (within : ∀ other ∈ walk.order, inside other)
    (ran : visit next depth walk node = some after) : ∀ other ∈ after.order, inside other := by
  induction depth generalizing walk after node with
  | zero => contradiction
  | succ depth ih =>
    rcases visit_some walk after node ran with ⟨_, same⟩ | ⟨_, inner, looped, ended⟩
    · subst same
      exact within
    · subst ended
      have kept := fold_rule (fun _ state => ∀ other ∈ state.order, inside other) within
        (fun _ target state final edge sofar stepped =>
          ih state final target (closed node start target edge) sofar stepped) looped
      intro other member
      rcases List.mem_append.mp member with earlier | only
      · exact kept other earlier
      · rw [List.mem_singleton.mp only]
        exact start

theorem visit_returns (covers : ∀ node, next node ≠ [] → node ∈ known)
    {depth : Nat} (walk : Walk Node) (node : Node)
    (enough : known.countP (fun other => !walk.visited other) < depth) :
    visit next depth walk node ≠ none := by
  induction depth generalizing walk node with
  | zero => omega
  | succ depth ih =>
    simp only [visit]
    split
    · simp
    · rename_i unmet
      have below : (next node).foldlM (visit next depth) (walk.mark node) ≠ none := by
        by_cases leaf : next node = []
        · simp [leaf]
        · have marked := remaining_lt (fun other => !walk.visited other)
            (fun other => !(walk.mark node).visited other)
            (fun other => by
              have kept := mark_visited_iff walk node other
              grind)
            (covers node leaf) (by simpa using unmet)
            (by simp [(mark_visited_iff walk node node).mpr (Or.inl rfl)])
          exact fold_returns _
            (fun walk node after => visit_extends walk after node) ih _ (by omega)
      simpa using below

theorem visit_deeper (more : Nat) (walk after : Walk Node) (node : Node)
    (ran : visit next depth walk node = some after) :
    visit next (depth + more) walk node = some after := by
  induction depth generalizing walk after node with
  | zero => contradiction
  | succ depth ih =>
    rw [Nat.add_right_comm]
    simp only [visit] at ran ⊢
    split at ran
    · rename_i met
      rw [if_pos met]
      exact ran
    · rename_i unmet
      obtain ⟨inner, looped, ended⟩ := Option.map_eq_some_iff.mp ran
      rw [if_neg unmet, fold_agrees _ (fun walk node after => ih walk after node) _ _ looped,
        ← ended]
      rfl

end VcStack.DepthFirst
