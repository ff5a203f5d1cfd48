import Mathlib.Data.List.Pairwise
import Mathlib.Order.Defs.PartialOrder

/-!
Services that answer their requests one after another from what they have left,
log each answer, and never get any room back.
-/

namespace VcStack.Admissions

universe u v w x
variable {State : Type u} {Request : Type v} {Answer : Type w} {Rank : Type x}

/-- A service with the states it can be in. An answer refuses its request for
want of room, grants it when there is room, or does neither. -/
structure Service (State : Type u) (Request : Type v) (Answer : Type w) where
  serve : State → Request → State
  log : State → List Answer
  Sound : State → Prop
  Room : State → Answer → Prop
  Refused : Answer → Prop
  Granted : Answer → Prop
  Answers : Request → Answer → Prop
  kept : ∀ state request, Sound state → Sound (serve state request)
  shrinks : ∀ state request answer, Sound state → Room (serve state request) answer →
    Room state answer
  answered : ∀ state request, Sound state → ∃ answer,
    log (serve state request) = log state ++ [answer] ∧ Answers request answer ∧
      (Refused answer → ¬ Room state answer) ∧ (Granted answer → Room state answer)

variable (service : Service State Request Answer)

def Service.NoHarder (first second : Answer) : Prop :=
  ∀ state, service.Room state second → service.Room state first

/-- No room has come back for what was refused, and nothing as hard was granted
after it. -/
structure Service.Fair (state : State) : Prop where
  sound : service.Sound state
  exhausted : ∀ answer ∈ service.log state, service.Refused answer → ¬ service.Room state answer
  denied : (service.log state).Pairwise fun first second =>
    service.Refused first → service.Granted second → ¬ service.NoHarder first second

variable {service}

theorem serve_fair {state : State} {request : Request} (fair : service.Fair state) :
    service.Fair (service.serve state request) := by
  obtain ⟨answer, logged, _, refused, granted⟩ := service.answered state request fair.sound
  refine ⟨service.kept state request fair.sound, ?_, ?_⟩
  · intro earlier listed denied room
    have before := service.shrinks state request earlier fair.sound room
    rw [logged, List.mem_append, List.mem_singleton] at listed
    rcases listed with listed | rfl
    · exact fair.exhausted earlier listed denied before
    · exact refused denied before
  · rw [logged, List.pairwise_append]
    refine ⟨fair.denied, List.pairwise_singleton _ _, ?_⟩
    intro earlier listed last same denied given noHarder
    rw [List.mem_singleton.mp same] at given noHarder
    exact fair.exhausted earlier listed denied (noHarder state (granted given))

theorem run_fair {requests : List Request} (state : State) (fair : service.Fair state) :
    service.Fair (requests.foldl service.serve state) := by
  induction requests generalizing state with
  | nil => exact fair
  | cons request rest ih => exact ih _ (serve_fair fair)

theorem run_answers (requests : List Request) (state : State) (sound : service.Sound state) :
    ∃ answers, service.log (requests.foldl service.serve state) = service.log state ++ answers ∧
      List.Forall₂ service.Answers requests answers := by
  induction requests generalizing state with
  | nil => exact ⟨[], (List.append_nil _).symm, .nil⟩
  | cons request rest ih =>
    obtain ⟨answer, logged, answers, _⟩ := service.answered state request sound
    obtain ⟨others, restLogged, restAnswers⟩ := ih _ (service.kept state request sound)
    refine ⟨answer :: others, ?_, .cons answers restAnswers⟩
    rw [List.foldl_cons, restLogged, logged, List.append_assoc]
    rfl

def Service.Uninverted [Preorder Rank] (service : Service State Request Answer)
    (rank : Answer → Rank) (first second : Answer) : Prop :=
  service.Refused first → service.Granted second → rank second < rank first →
    ¬ service.NoHarder first second

theorem no_inversion [Preorder Rank] {rank : Answer → Rank} {state : State}
    (fair : service.Fair state)
    (ordered : (service.log state).Pairwise fun first second => rank second ≤ rank first)
    {first : Answer} (firstListed : first ∈ service.log state)
    {second : Answer} (secondListed : second ∈ service.log state) :
    service.Uninverted rank first second := by
  have forward : (service.log state).Pairwise (service.Uninverted rank) :=
    fair.denied.imp fun apart refused granted _ => apart refused granted
  -- The later of two answers has no higher rank.
  have backward : (service.log state).Pairwise (flip (service.Uninverted rank)) :=
    ordered.imp fun descends _ _ above => absurd above (not_lt_of_ge descends)
  exact List.Pairwise.forall_of_forall_of_flip
    (fun answer _ _ _ above => absurd above (lt_irrefl _)) forward backward firstListed secondListed

end VcStack.Admissions
