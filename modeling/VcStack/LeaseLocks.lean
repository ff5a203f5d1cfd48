import Mathlib.Logic.Basic

/-!
A lock that is a key with a time to live, as SET NX with an expiry keeps it. The
key itself does not say who set it; the owner recorded here is for reasoning
only. Workers take the lock before they work and delete the key when they are
done, whether it is still theirs or not.
-/

namespace VcStack.LeaseLocks

universe u
variable {Worker : Type u}

structure Lease (Worker : Type u) where
  owner : Worker
  expires : Nat

def live (now : Nat) : Option (Lease Worker) → Option Worker
  | none => none
  | some lease => if now < lease.expires then some lease.owner else none

def setNX (lease : Option (Lease Worker)) (now ttl : Nat) (worker : Worker) :
    Bool × Option (Lease Worker) :=
  match live now lease with
  | some _ => (false, lease)
  | none => (true, some {owner := worker, expires := now + ttl})

variable {later : Nat} {worker : Worker}

theorem live_earlier {now : Nat} {lease : Option (Lease Worker)} {owner : Worker}
    (order : now ≤ later) (there : live later lease = some owner) : live now lease = some owner := by
  cases lease with
  | none => contradiction
  | some lease =>
    simp only [live] at there ⊢
    split at there
    · rw [if_pos (by omega)]
      exact there
    · contradiction

structure Single (working : Worker → Prop) (now : Nat) (lease : Option (Lease Worker)) : Prop where
  alone : ∀ left right, working left → working right → left = right
  owned : ∀ owner, live now lease = some owner → working owner

variable {working after : Worker → Prop} {now ttl : Nat} {lease : Option (Lease Worker)}

theorem single_same (single : Single working now lease) (same : ∀ worker, after worker ↔ working worker) :
    Single after now lease where
  alone left right first second :=
    single.alone left right ((same left).mp first) ((same right).mp second)
  owned owner there := (same owner).mpr (single.owned owner there)

theorem single_later (single : Single working now lease) (order : now ≤ later) :
    Single working later lease where
  alone := single.alone
  owned owner there := single.owned owner (live_earlier order there)

theorem single_acquire (vacant : ∀ other, ¬ working other)
    (joined : ∀ other, after other ↔ other = worker ∨ working other) :
    Single after now (some {owner := worker, expires := now + ttl}) where
  alone left right first second := by
    have only : ∀ other, after other → other = worker := by
      intro other there
      rcases (joined other).mp there with same | before
      · exact same
      · exact absurd before (vacant other)
    rw [only left first, only right second]
  owned owner there := by
    apply (joined owner).mpr
    simp only [live] at there
    split at there
    · exact Or.inl (Option.some.inj there).symm
    · contradiction

theorem single_release (single : Single working now lease) (held : working worker)
    (left : ∀ other, after other → other ≠ worker ∧ working other) : Single after now none where
  alone one two first _ := by
    obtain ⟨apart, before⟩ := left one first
    exact absurd (single.alone one worker before held) apart
  owned owner there := by contradiction

def Covered (working : Worker → Prop) (since : Worker → Nat) (ttl now : Nat)
    (lease : Option (Lease Worker)) : Prop :=
  ∀ worker, working worker →
    lease = some {owner := worker, expires := since worker + ttl} ∧ now < since worker + ttl

variable {since : Worker → Nat}

theorem covered_vacant (covered : Covered working since ttl now lease)
    (free : live now lease = none) (worker : Worker) : ¬ working worker := by
  intro there
  obtain ⟨mine, inTime⟩ := covered worker there
  rw [mine] at free
  simp [live, inTime] at free

theorem covered_same (covered : Covered working since ttl now lease)
    (same : ∀ worker, after worker ↔ working worker) : Covered after since ttl now lease :=
  fun worker there => covered worker ((same worker).mp there)

theorem covered_later (covered : Covered working since ttl now lease)
    (inTime : ∀ worker, working worker → later < since worker + ttl) :
    Covered working since ttl later lease :=
  fun worker there => ⟨(covered worker there).1, inTime worker there⟩

theorem covered_release (covered : Covered working since ttl now lease)
    (held : working worker) (left : ∀ other, after other → other ≠ worker ∧ working other) :
    Covered after since ttl now none := by
  intro other there
  obtain ⟨apart, before⟩ := left other there
  have mine := (covered worker held).1
  rw [(covered other before).1] at mine
  cases mine
  contradiction

end VcStack.LeaseLocks
