import Mathlib.Data.List.Basic
import Mathlib.Data.List.TakeWhile
import Mathlib.Order.Lattice.Nat

namespace Revenant
namespace Library

/-!
# Sliding windows

Times that never crowd: no half-open interval of a given length holds more than
a given number of them.  Of times that come in order one looks at the recent
ones only, and a queue that has forgotten nothing but old times tells the same.
-/

variable {window limit horizon now later : Nat} {times queue : List Nat}

/-- The times that still count at an instant. -/
def recent (window now : Nat) (times : List Nat) : List Nat :=
  times.filter (fun time => now < time + window)

/-- No half-open interval of the window's length holds more than the limit. -/
def Within (window limit : Nat) (times : List Nat) : Prop :=
  ∀ start, (times.filter (fun time => start ≤ time ∧ time < start + window)).length ≤ limit

theorem within_nil : Within window limit [] := by
  intro start
  exact Nat.zero_le _

theorem recent_append (first second : List Nat) :
    recent window now (first ++ second) = recent window now first ++ recent window now second :=
  List.filter_append ..

theorem mem_recent {time : Nat} :
    time ∈ recent window now times ↔ time ∈ times ∧ now < time + window := by
  simp [recent]

theorem recent_eq_nil_iff :
    recent window now times = [] ↔ ∀ time ∈ times, time + window ≤ now := by
  simp [recent, List.filter_eq_nil_iff]

/-- What counts later is among what counts now. -/
theorem recent_recent : recent window later (recent window now times) =
    recent window (max now later) times := by
  unfold recent
  rw [List.filter_filter]
  apply List.filter_congr
  intro time _
  rw [← Bool.decide_and, decide_eq_decide]
  omega

/-- One more time in order fits when few of the times before it still count. -/
theorem within_snoc_iff (ordered : ∀ time ∈ times, time ≤ now) (wide : 0 < window) :
    Within window limit (times ++ [now]) ↔
      Within window limit times ∧ (recent window now times).length < limit := by
  constructor
  · intro within
    constructor
    · intro start
      refine le_trans ?_ (within start)
      exact ((List.sublist_append_left times [now]).filter _).length_le
    · have here := within (now + 1 - window)
      -- the interval that ends with the new time
      have counted : (times ++ [now]).filter (fun time =>
          now + 1 - window ≤ time ∧ time < now + 1 - window + window) =
            recent window now times ++ [now] := by
        rw [List.filter_append]
        congr 1
        · apply List.filter_congr
          intro time member
          have := ordered time member
          rw [decide_eq_decide]
          omega
        · simp only [List.filter_cons, List.filter_nil]
          rw [if_pos]
          rw [decide_eq_true_eq]
          omega
      rw [counted, List.length_append, List.length_singleton] at here
      exact here
  · rintro ⟨within, few⟩ start
    rw [List.filter_append, List.length_append]
    by_cases inside : start ≤ now ∧ now < start + window
    · have counted : (times.filter (fun time => start ≤ time ∧ time < start + window)).length ≤
          (recent window now times).length := by
        refine (List.monotone_filter_right times ?_).length_le
        intro time member
        rw [decide_eq_true_eq] at member ⊢
        omega
      have single : ([now].filter (fun time => start ≤ time ∧ time < start + window)).length ≤ 1 :=
        List.length_filter_le _ _
      omega
    · have none : [now].filter (fun time => start ≤ time ∧ time < start + window) = [] := by
        simp [inside]
      rw [none]
      exact within start

/-! ## Queues that forget old times -/

/-- A queue drops the times at its front that no longer count. -/
theorem dropWhile_eq_recent (ordered : times.Pairwise (· ≤ ·)) (wide : 0 < window) :
    times.dropWhile (fun time => decide (window ≤ now - time)) = recent window now times := by
  induction times with
  | nil => rfl
  | cons first rest inductionHypothesis =>
      rw [List.pairwise_cons] at ordered
      by_cases old : window ≤ now - first
      · rw [List.dropWhile_cons_of_pos (by simpa using old), inductionHypothesis ordered.2]
        unfold recent
        rw [List.filter_cons_of_neg]
        rw [decide_eq_true_eq]
        omega
      · rw [List.dropWhile_cons_of_neg (by simpa using old)]
        symm
        apply List.filter_eq_self.mpr
        intro time member
        rw [decide_eq_true_eq]
        rcases List.mem_cons.mp member with rfl | later
        · omega
        · have := ordered.1 time later
          omega

/-- The queue is what is left of the times without some that no longer count. -/
structure Trails (window horizon : Nat) (queue times : List Nat) : Prop where
  left : ∃ dropped, times = dropped ++ queue ∧ ∀ time ∈ dropped, time + window ≤ horizon

theorem trails_nil : Trails window horizon [] [] :=
  ⟨[], rfl, nofun⟩

theorem Trails.suffix (trails : Trails window horizon queue times) : queue <:+ times := by
  obtain ⟨dropped, rfl, -⟩ := trails.left
  exact List.suffix_append _ _

/-- A queue that is not empty ends with the last time. -/
theorem Trails.getLast? (trails : Trails window horizon queue times) (nonempty : queue ≠ []) :
    queue.getLast? = times.getLast? := by
  obtain ⟨dropped, rfl, -⟩ := trails.left
  exact (List.getLast?_append_of_ne_nil dropped nonempty).symm

theorem Trails.ordered (trails : Trails window horizon queue times)
    (ordered : times.Pairwise (· ≤ ·)) : queue.Pairwise (· ≤ ·) :=
  ordered.sublist trails.suffix.sublist

/-- From the horizon on the queue tells what all times tell. -/
theorem Trails.recent_eq (trails : Trails window horizon queue times) (reached : horizon ≤ now) :
    recent window now queue = recent window now times := by
  obtain ⟨dropped, rfl, old⟩ := trails.left
  have gone : recent window now dropped = [] :=
    recent_eq_nil_iff.mpr (fun time member => (old time member).trans reached)
  rw [recent_append, gone, List.nil_append]

/-- A queue never tells of more times than there are. -/
theorem Trails.recent_length (trails : Trails window horizon queue times) :
    (recent window now queue).length ≤ (recent window now times).length :=
  (trails.suffix.sublist.filter _).length_le

theorem Trails.snoc (trails : Trails window horizon queue times) (time : Nat) :
    Trails window horizon (queue ++ [time]) (times ++ [time]) := by
  obtain ⟨dropped, rfl, old⟩ := trails.left
  exact ⟨dropped, List.append_assoc _ _ _, old⟩

/-- A queue that drops what does not count now. -/
theorem Trails.forget (trails : Trails window horizon queue times)
    (ordered : times.Pairwise (· ≤ ·)) (wide : 0 < window) (now : Nat) :
    Trails window (max horizon now) (recent window now queue) times := by
  rw [← dropWhile_eq_recent (trails.ordered ordered) wide]
  obtain ⟨dropped, rfl, old⟩ := trails.left
  refine ⟨dropped ++ queue.takeWhile (fun time => decide (window ≤ now - time)), ?_, ?_⟩
  · rw [List.append_assoc, List.takeWhile_append_dropWhile]
  · intro time member
    rcases List.mem_append.mp member with before | here
    · exact (old time before).trans (le_max_left _ _)
    · have gone := List.mem_takeWhile_imp here
      rw [decide_eq_true_eq] at gone
      have := le_max_right horizon now
      omega

end Library
end Revenant
