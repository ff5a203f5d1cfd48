import VcStack.IdentityTokens

/-!
What a trust policy means and what evaluateTrustPolicy makes of it. The
evaluation looks at the Allow statements alone, and it compares an identity with
both the id and the name of the caller.
-/

namespace VcStack.TrustPolicies

open IdentityTokens

def Names (userID : Nat) (username identity : String) : Prop :=
  identity = "user:" ++ toString userID ∨ identity = "user:" ++ username ∨ identity = "*"

def Covers (userID : Nat) (username : String) (statement : TrustStatement) : Prop :=
  (statement.action = "sts:AssumeRole" ∨ statement.action = "*") ∧
    (statement.principal.all = true ∨
      ∃ identity ∈ statement.principal.identities, Names userID username identity)

def Stated (effect : String) (policy : TrustPolicy) (userID : Nat) (username : String) : Prop :=
  ∃ statement ∈ policy.statement, statement.effect = effect ∧ Covers userID username statement

def Trusted (policy : TrustPolicy) (userID : Nat) (username : String) : Prop :=
  Stated "Allow" policy userID username ∧ ¬ Stated "Deny" policy userID username

variable {userID owner : Nat} {username : String}

theorem evaluate_allow_iff {policy : TrustPolicy} :
    evaluateTrustPolicy policy userID username = true ↔ Stated "Allow" policy userID username := by
  simp only [evaluateTrustPolicy, Stated, Covers, Names, List.any_eq_true, Bool.and_eq_true,
    Bool.or_eq_true, beq_iff_eq, and_assoc, or_assoc]

theorem evaluate_sound_iff {policy : TrustPolicy} :
    (evaluateTrustPolicy policy userID username = true → Trusted policy userID username) ↔
      ¬ (Stated "Allow" policy userID username ∧ Stated "Deny" policy userID username) := by
  rw [evaluate_allow_iff, Trusted]
  constructor
  · intro sound both
    exact (sound both.1).2 both.2
  · intro apart allowed
    exact ⟨allowed, fun denied => apart ⟨allowed, denied⟩⟩

def onlyUser (owner : Nat) : TrustPolicy where
  statement := [{
    effect := "Allow"
    principal := {identities := ["user:" ++ toString owner]}
    action := "sts:AssumeRole" }]

theorem identity_no_star : "user:" ++ toString owner ≠ "*" := by
  intro same
  have lengths := congrArg String.length same
  have one : "*".length = 1 := rfl
  have five : "user:".length = 5 := rfl
  rw [String.length_append, one, five] at lengths
  omega

theorem names_owner_iff :
    Names userID username ("user:" ++ toString owner) ↔
      owner = userID ∨ username = toString owner := by
  unfold Names
  rw [String.append_right_inj, String.append_right_inj]
  constructor
  · rintro (same | same | everyone)
    · exact Or.inl (Text.decimal_inj same)
    · exact Or.inr same.symm
    · exact absurd everyone identity_no_star
  · rintro (same | same)
    · exact Or.inl (congrArg toString same)
    · exact Or.inr (Or.inl same.symm)

theorem only_user_iff :
    evaluateTrustPolicy (onlyUser owner) userID username = true ↔
      owner = userID ∨ username = toString owner := by
  rw [evaluate_allow_iff, ← names_owner_iff]
  simp [Stated, Covers, onlyUser]

/-- For a user, a policy is evaluated to what it says and no identity by id of
someone else lets the user in, exactly when the policy does not both allow and
deny the user and the username is not the id of someone else. -/
theorem trust_policy_meant_iff (policy : TrustPolicy) (userID : Nat) (username : String) :
    ((evaluateTrustPolicy policy userID username = true → Trusted policy userID username) ∧
      ∀ owner, owner ≠ userID → evaluateTrustPolicy (onlyUser owner) userID username = false) ↔
    ¬ (Stated "Allow" policy userID username ∧ Stated "Deny" policy userID username) ∧
      ∀ owner, username = toString owner → owner = userID := by
  rw [evaluate_sound_iff]
  refine and_congr_right fun _ => forall_congr' fun owner => ?_
  rw [← Bool.not_eq_true, only_user_iff]
  constructor
  · intro refused spelled
    by_contra other
    exact refused other (Or.inr spelled)
  · rintro own other (same | spelled)
    · exact other same
    · exact other (own spelled)

def everyoneBut (userID : Nat) : TrustPolicy where
  statement := [
    {effect := "Deny", principal := {identities := ["user:" ++ toString userID]},
      action := "sts:AssumeRole"},
    {effect := "Allow", principal := {all := true}, action := "sts:AssumeRole"}]

/-- A user who is denied gets in with everyone, and the user whose name is 1007
gets in for the user whose id is 1007. -/
theorem denied_and_namesake_trusted :
    Stated "Deny" (everyoneBut 1007) 1007 "mallory" ∧
      evaluateTrustPolicy (everyoneBut 1007) 1007 "mallory" = true ∧
      evaluateTrustPolicy (onlyUser 1007) 2001 "1007" = true := by
  have denied : Stated "Deny" (everyoneBut 1007) 1007 "mallory" :=
    ⟨_, List.mem_cons_self, rfl, Or.inl rfl, Or.inr ⟨_, List.mem_cons_self, Or.inl rfl⟩⟩
  exact ⟨denied, by decide, by decide⟩

end VcStack.TrustPolicies
