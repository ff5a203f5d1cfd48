import VcStack.Idempotency

/-!
The composite keys of the idempotency middleware. buildKey hashes the
Idempotency-Key, the path and the user with bars between them; none of the three
is escaped, the user is trimmed, and a user that is no text makes it panic.
-/

namespace VcStack.IdempotencyKeys

open Text PolicyValues Idempotency

def contextUserID (claims : List (String × Json)) : Json := (claims.lookup "user_id").getD .null

structure Parts where
  key : String
  path : String
  user : Json

def Parts.rest (parts : Parts) : Option String :=
  match parts.user with
  | .null => some parts.path
  | .str user => some (parts.path ++ "|" ++ trimSpace user)
  | _ => none

def Parts.composite (digest : String → String) (parts : Parts) : Option String :=
  buildKey digest parts.key parts.path parts.user

variable {parts : Parts}

section Digest

variable (digest : String → String)

theorem composite_rest :
    parts.composite digest = parts.rest.map fun rest => digest (parts.key ++ "|" ++ rest) := by
  obtain ⟨key, path, user⟩ := parts
  cases user with
  | str user => simp [Parts.composite, Parts.rest, buildKey, String.append_assoc]
  | _ => rfl

theorem composite_returned_iff :
    parts.composite digest ≠ none ↔ parts.user = .null ∨ ∃ user, parts.user = .str user := by
  obtain ⟨key, path, user⟩ := parts
  cases user <;> simp [Parts.composite, buildKey]

variable {digest} (injective : Function.Injective digest)

include injective

theorem same_composite {left right : Parts} {text other : String} (read : left.rest = some text)
    (otherRead : right.rest = some other)
    (same : left.composite digest = right.composite digest) :
    left.key ++ "|" ++ text = right.key ++ "|" ++ other := by
  rw [composite_rest, composite_rest, read, otherRead] at same
  exact injective (Option.some.inj same)

end Digest

theorem first_bar {text : String} (inside : '|' ∈ text.toList) :
    ∃ front back, '|' ∉ front.toList ∧ text = front ++ "|" ++ back := by
  obtain ⟨front, back, shape, free⟩ := List.eq_append_cons_of_mem inside
  refine ⟨String.ofList front, String.ofList back, by simpa using free, ?_⟩
  apply String.toList_inj.mp
  simp [shape]

theorem bar_inside {left right : String} : '|' ∈ (left ++ "|" ++ right).toList := by simp

theorem two_fields {left right front back : String} (leftFree : '|' ∉ left.toList)
    (rightFree : '|' ∉ right.toList) (same : front ++ "|" ++ back = left ++ "|" ++ right) :
    front = left ∧ back = right := by
  by_cases inside : '|' ∈ front.toList
  · -- The first bar of the front would end the left field, so the next lies in the right one.
    obtain ⟨first, second, free, shape⟩ := first_bar inside
    have moved : first ++ "|" ++ (second ++ "|" ++ back) = left ++ "|" ++ right := by
      rw [← same, shape]
      simp only [String.append_assoc]
    obtain ⟨_, rest⟩ := joined_inj free leftFree moved
    rw [← rest] at rightFree
    exact absurd bar_inside rightFree
  · exact joined_inj inside leftFree same

structure Parts.Plain (parts : Parts) : Prop where
  key : '|' ∉ parts.key.toList
  path : '|' ∉ parts.path.toList
  user : parts.user = .null ∨ ∃ user, parts.user = .str user ∧ trimSpace user = user

theorem plain_rest_inj {left right : Parts} (one : left.Plain) (two : right.Plain)
    (same : left.rest = right.rest) : left.path = right.path ∧ left.user = right.user := by
  rcases one.user with absent | ⟨user, named, trimmed⟩
  · rcases two.user with otherAbsent | ⟨other, otherNamed, _⟩
    · simp only [Parts.rest, absent, otherAbsent, Option.some.injEq] at same
      exact ⟨same, absent.trans otherAbsent.symm⟩
    · simp only [Parts.rest, absent, otherNamed, Option.some.injEq] at same
      exact absurd (same ▸ bar_inside) one.path
  · rcases two.user with otherAbsent | ⟨other, otherNamed, otherTrimmed⟩
    · simp only [Parts.rest, named, otherAbsent, Option.some.injEq] at same
      exact absurd (same ▸ bar_inside) two.path
    · simp only [Parts.rest, named, otherNamed, Option.some.injEq, trimmed, otherTrimmed] at same
      obtain ⟨paths, users⟩ := joined_inj one.path two.path same
      exact ⟨paths, by rw [named, otherNamed, users]⟩

theorem plain_rest (plain : parts.Plain) : ∃ text, parts.rest = some text := by
  rcases plain.user with absent | ⟨user, named, _⟩
  · exact ⟨parts.path, by simp [Parts.rest, absent]⟩
  · exact ⟨_, by simp only [Parts.rest, named]; rfl⟩

theorem plain_apart {digest : String → String} (injective : Function.Injective digest)
    (left right : Parts) (one : left.Plain) (two : right.Plain)
    (same : left.composite digest = right.composite digest) : left = right := by
  obtain ⟨text, read⟩ := plain_rest one
  obtain ⟨other, otherRead⟩ := plain_rest two
  have joined := same_composite injective read otherRead same
  obtain ⟨keys, rests⟩ := joined_inj one.key two.key joined
  have parts := plain_rest_inj one two (read.trans ((congrArg some rests).trans otherRead.symm))
  cases left
  cases right
  simp only [Parts.mk.injEq]
  exact ⟨keys, parts.1, parts.2⟩

def Parts.Alone (digest : String → String) (parts : Parts) : Prop :=
  parts.composite digest ≠ none ∧
    ∀ other : Parts, other.composite digest = parts.composite digest → other = parts

theorem longer_differs {front back : String} : front ≠ front ++ "|" ++ back := by
  intro same
  have lengths := congrArg String.length same
  have bar : "|".length = 1 := rfl
  rw [String.length_append, String.length_append, bar] at lengths
  omega

theorem alone_plain {digest : String → String} (alone : parts.Alone digest) :
    parts.user = .null ∧ '|' ∉ parts.key.toList ∧ '|' ∉ parts.path.toList := by
  obtain ⟨returned, only⟩ := alone
  have text := (composite_returned_iff digest).mp returned
  -- The same text with its bars in other places.
  have absent : parts.user = .null := by
    rcases text with absent | ⟨user, named⟩
    · exact absent
    · have twin := only ⟨parts.key, parts.path ++ "|" ++ trimSpace user, .null⟩ (by
        simp [composite_rest, Parts.rest, named])
      have users := congrArg Parts.user twin
      rw [named] at users
      contradiction
  refine ⟨absent, ?_, ?_⟩
  · intro inside
    obtain ⟨front, back, _, shape⟩ := first_bar inside
    have twin := only ⟨front, back ++ "|" ++ parts.path, .null⟩ (by
      simp only [composite_rest, Parts.rest, absent, Option.map_some, shape, String.append_assoc])
    have keys := congrArg Parts.key twin
    rw [shape] at keys
    exact longer_differs keys
  · intro inside
    obtain ⟨front, back, _, shape⟩ := first_bar inside
    have twin := only ⟨parts.key ++ "|" ++ front, back, .null⟩ (by
      simp only [composite_rest, Parts.rest, absent, Option.map_some, shape, String.append_assoc])
    exact longer_differs (congrArg Parts.key twin).symm

theorem plain_alone {digest : String → String} (injective : Function.Injective digest)
    (absent : parts.user = .null) (key : '|' ∉ parts.key.toList)
    (path : '|' ∉ parts.path.toList) : parts.Alone digest := by
  have read : parts.rest = some parts.path := by simp [Parts.rest, absent]
  refine ⟨(composite_returned_iff digest).mpr (Or.inl absent), ?_⟩
  intro other same
  have returned : other.composite digest ≠ none := by
    rw [same]
    exact (composite_returned_iff digest).mpr (Or.inl absent)
  rcases (composite_returned_iff digest).mp returned with nobody | ⟨user, named⟩
  · have otherRead : other.rest = some other.path := by simp [Parts.rest, nobody]
    have joined := same_composite injective otherRead read same
    obtain ⟨keys, paths⟩ := two_fields key path joined
    cases other
    cases parts
    simp only [Parts.mk.injEq]
    exact ⟨keys, paths, nobody.trans absent.symm⟩
  · have otherRead : other.rest = some (other.path ++ "|" ++ trimSpace user) := by
      simp [Parts.rest, named]
    have joined := same_composite injective otherRead read same
    obtain ⟨_, paths⟩ := two_fields key path joined
    rw [← paths] at path
    exact absurd bar_inside path

/-- With an injective hash: buildKey returns exactly for users that are absent or
texts, whatever claim AuthMiddleware found; plain requests get the same composite
key only if they have the same key, path and user; and a request has a composite
key of its own exactly when it has no user and no bar in key or path. -/
theorem composite_keys_apart_iff (digest : String → String) (injective : Function.Injective digest)
    (claims : List (String × Json)) (key path : String) :
    (Parts.composite digest ⟨key, path, contextUserID claims⟩ ≠ none ↔
      contextUserID claims = .null ∨ ∃ user, contextUserID claims = .str user) ∧
    (∀ left right : Parts, left.Plain → right.Plain →
      left.composite digest = right.composite digest → left = right) ∧
    (Parts.Alone digest ⟨key, path, contextUserID claims⟩ ↔
      contextUserID claims = .null ∧ '|' ∉ key.toList ∧ '|' ∉ path.toList) := by
  refine ⟨composite_returned_iff digest, plain_apart injective, ?_, ?_⟩
  · exact alone_plain
  · rintro ⟨absent, keyFree, pathFree⟩
    exact plain_alone injective absent keyFree pathFree

theorem anonymous_alone : Parts.Alone id ⟨"k", "/v1/orders", contextUserID []⟩ :=
  (composite_keys_apart_iff id Function.injective_id [] "k" "/v1/orders").2.2.mpr
    ⟨rfl, by decide, by decide⟩

/-- A user id that is a number, as in the tokens of this service, is a panic; and a
request of one user has the key of a request without user. -/
theorem number_panics_and_bar_collides :
    buildKey id "k" "/v1/orders" (contextUserID [("user_id", .num "7")]) = none ∧
      buildKey id "k" "/v1/orders" (contextUserID [("user_id", .str "7")]) =
        buildKey id "k" "/v1/orders|7" (contextUserID []) ∧
      buildKey id "a" "/v1/x|/v1/y" (contextUserID [("user_id", .str "7")]) =
        buildKey id "a|/v1/x" "/v1/y" (contextUserID [("user_id", .str " 7")]) := by
  refine ⟨rfl, by decide, by decide⟩

end VcStack.IdempotencyKeys
