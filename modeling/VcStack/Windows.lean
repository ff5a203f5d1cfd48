import Mathlib.Data.List.Basic
import Mathlib.Algebra.Group.Nat.Defs

/-!
How many of some times lie in an interval of a given width. Limiters that open a
window with an event and count the events until it ends bound every interval,
but by almost twice their limit.
-/

namespace VcStack.Windows

def within (start width : Int) (times : List Int) : Nat :=
  times.countP fun time => start ≤ time ∧ time < start + width

def AtMost (limit : Nat) (width : Int) (times : List Int) : Prop :=
  ∀ start, within start width times ≤ limit

theorem within_append (start width : Int) (left right : List Int) :
    within start width (left ++ right) = within start width left + within start width right :=
  List.countP_append

theorem within_le_length (start width : Int) (times : List Int) :
    within start width times ≤ times.length := List.countP_le_length

theorem within_none {start width : Int} {times : List Int}
    (outside : ∀ time ∈ times, time < start ∨ start + width ≤ time) :
    within start width times = 0 := by
  apply List.countP_eq_zero.mpr
  intro time member inside
  have bounds : start ≤ time ∧ time < start + width := by simpa using inside
  rcases outside time member with early | late <;> omega

variable (limit : Nat) (width : Int)

theorem at_most_empty {times : List Int} (empty : width ≤ 0) :
    AtMost limit width times := by
  intro start
  rw [within_none (by intro time _; omega)]
  exact Nat.zero_le limit

theorem at_most_short {times : List Int} (short : times.length ≤ limit) :
    AtMost limit width times := by
  intro start
  exact Nat.le_trans (within_le_length start width times) short

theorem at_most_apart {time : Int} {times : List Int} (positive : 0 < limit)
    (bounded : AtMost limit width times) (apart : ∀ earlier ∈ times, earlier + width ≤ time) :
    AtMost limit width (time :: times) := by
  intro start
  by_cases inside : start ≤ time ∧ time < start + width
  · have alone : within start width times = 0 := by
      apply within_none
      intro earlier member
      have order := apart earlier member
      left
      omega
    have split := within_append start width [time] times
    have one := within_le_length start width [time]
    rw [List.singleton_append, alone] at split
    simp only [List.length_singleton] at one
    omega
  · have split := within_append start width [time] times
    have none : within start width [time] = 0 := by
      apply within_none
      intro other member
      rw [List.mem_singleton.mp member]
      omega
    rw [List.singleton_append, none, Nat.zero_add] at split
    rw [split]
    exact bounded start

structure Window where
  opened : Int
  later : List Int

def Window.times (window : Window) : List Int := window.later ++ [window.opened]

structure Windowed (limit : Nat) (width : Int) (windows : List Window) : Prop where
  counted : ∀ window ∈ windows, window.later.length < limit
  inside : ∀ window ∈ windows, ∀ time ∈ window.later,
    window.opened ≤ time ∧ time ≤ window.opened + width
  apart : windows.Pairwise fun newer older => older.opened + width < newer.opened

def timesOf (windows : List Window) : List Int := windows.flatMap Window.times

variable {window : Window} {rest windows : List Window}

theorem windowed_rest
    (windowed : Windowed limit width (window :: rest)) : Windowed limit width rest where
  counted other member := windowed.counted other (List.mem_cons_of_mem _ member)
  inside other member := windowed.inside other (List.mem_cons_of_mem _ member)
  apart := (List.pairwise_cons.mp windowed.apart).2

theorem windowed_open (now : Int) (some : 0 < limit) (positive : 0 ≤ width)
    (windowed : Windowed limit width windows)
    (ended : ∀ window ∈ windows.head?, window.opened + width < now) :
    Windowed limit width (⟨now, []⟩ :: windows) := by
  refine ⟨?_, ?_, List.pairwise_cons.mpr ⟨?_, windowed.apart⟩⟩
  · intro window member
    rcases List.mem_cons.mp member with rfl | old
    · exact some
    · exact windowed.counted window old
  · intro window member
    rcases List.mem_cons.mp member with rfl | old
    · intro time none
      contradiction
    · exact windowed.inside window old
  · intro window member
    cases windows with
    | nil => contradiction
    | cons latest older =>
      have lapsed := ended latest rfl
      rcases List.mem_cons.mp member with same | old
      · rw [same]
        exact lapsed
      · have apart := (List.pairwise_cons.mp windowed.apart).1 window old
        dsimp only
        omega

theorem windowed_extend {now : Int}
    (windowed : Windowed limit width (window :: rest)) (few : window.later.length + 1 < limit)
    (begun : window.opened ≤ now) (during : now ≤ window.opened + width) :
    Windowed limit width ({window with later := now :: window.later} :: rest) := by
  refine ⟨?_, ?_, List.pairwise_cons.mpr (List.pairwise_cons.mp windowed.apart)⟩
  · intro other member
    rcases List.mem_cons.mp member with rfl | old
    · exact few
    · exact windowed.counted other (List.mem_cons_of_mem _ old)
  · intro other member
    rcases List.mem_cons.mp member with rfl | old
    · intro time among
      rcases List.mem_cons.mp among with rfl | earlier
      · exact ⟨begun, during⟩
      · exact windowed.inside window List.mem_cons_self time earlier
    · exact windowed.inside other (List.mem_cons_of_mem _ old)

theorem times_before {bound : Int} (positive : 0 ≤ width)
    (windowed : Windowed limit width windows)
    (ended : ∀ window ∈ windows, window.opened + width < bound) :
    ∀ time ∈ timesOf windows, time < bound := by
  intro time member
  obtain ⟨window, listed, among⟩ := List.mem_flatMap.mp member
  have limit := ended window listed
  rcases List.mem_append.mp among with later | opening
  · have bounds := windowed.inside window listed time later
    omega
  · rw [List.mem_singleton.mp opening]
    omega

/-- An interval that begins after a window was opened has only its later events,
and no older window's. -/
theorem within_opened {start : Int} (positive : 0 ≤ width)
    (windowed : Windowed limit width (window :: rest)) (begun : window.opened < start) :
    within start (width + 1) (timesOf (window :: rest)) < limit := by
  have older : within start (width + 1) (timesOf rest) = 0 := by
    apply within_none
    intro time member
    left
    apply times_before limit width positive (windowed_rest _ _ windowed) _ time member
    intro other listed
    have order := (List.pairwise_cons.mp windowed.apart).1 other listed
    omega
  have opening : within start (width + 1) [window.opened] = 0 := by
    apply within_none
    intro time member
    rw [List.mem_singleton.mp member]
    exact Or.inl begun
  have few := windowed.counted window List.mem_cons_self
  have later := within_le_length start (width + 1) window.later
  have split : within start (width + 1) (timesOf (window :: rest)) =
      within start (width + 1) window.later + within start (width + 1) [window.opened] +
        within start (width + 1) (timesOf rest) := by
    rw [timesOf, List.flatMap_cons, within_append, Window.times, within_append]
    rfl
  omega

/-- Counting in windows bounds every interval, its two ends included, by one
less than twice the limit. -/
theorem windowed_at_most (positive : 0 ≤ width)
    (windowed : Windowed limit width windows) :
    AtMost (2 * limit - 1) (width + 1) (timesOf windows) := by
  intro start
  induction windows with
  | nil => exact Nat.zero_le _
  | cons window rest ih =>
    have few := windowed.counted window List.mem_cons_self
    have split : within start (width + 1) (timesOf (window :: rest)) =
        within start (width + 1) window.times + within start (width + 1) (timesOf rest) := by
      rw [timesOf, List.flatMap_cons, within_append]
      rfl
    have whole : within start (width + 1) window.times ≤ limit := by
      have bound := within_le_length start (width + 1) window.times
      simp only [Window.times, List.length_append, List.length_singleton] at bound
      unfold Window.times
      omega
    rcases Int.lt_or_le window.opened start with begun | later
    · have bound := within_opened limit width positive windowed begun
      omega
    rcases Int.lt_or_le (start + width) window.opened with after | during
    · -- The interval ends before this window.
      have none : within start (width + 1) window.times = 0 := by
        apply within_none
        intro time member
        right
        rcases List.mem_append.mp member with counted | opening
        · have bounds := windowed.inside window List.mem_cons_self time counted
          omega
        · rw [List.mem_singleton.mp opening]
          omega
      have onward := ih (windowed_rest _ _ windowed)
      omega
    · -- The window is opened in the interval, so the one before it was opened earlier.
      have before : within start (width + 1) (timesOf rest) < limit ∨ rest = [] := by
        cases rest with
        | nil => exact Or.inr rfl
        | cons older others =>
          left
          have order := (List.pairwise_cons.mp windowed.apart).1 older List.mem_cons_self
          exact within_opened limit width positive (windowed_rest _ _ windowed) (by omega)
      rcases before with bound | empty
      · omega
      · subst empty
        have none : within start (width + 1) (timesOf []) = 0 := rfl
        omega

end VcStack.Windows
