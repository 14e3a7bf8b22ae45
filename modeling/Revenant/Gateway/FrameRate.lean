import Revenant.Library.Windows

namespace Revenant
namespace Gateway
namespace FrameRate

open Library

/-!
# The frame rate of a connection

Every frame is observed before it is read.  The limiter remembers the accepted
frames of the last second and of the last minute, and forgets the older ones
when it looks, also when the frame it looks at is then refused.
-/

inductive FrameRateExceeded where
  | second
  | minute
  | clockReversed
  deriving DecidableEq, Repr

def frameBurstLimit : Nat := 32

def frameMinuteLimit : Nat := 600

/-- One second, in nanoseconds. -/
def frameBurstWindow : Nat := 1000000000

/-- One minute, in nanoseconds. -/
def frameMinuteWindow : Nat := 60 * 1000000000

structure FrameRateLimiter where
  second : List Nat
  minute : List Nat
  deriving DecidableEq, Repr

namespace FrameRateLimiter

def default : FrameRateLimiter := { second := [], minute := [] }

def expire (timestamps : List Nat) (now window : Nat) : List Nat :=
  timestamps.dropWhile (fun timestamp => decide (window ≤ now - timestamp))

def observeAt (limiter : FrameRateLimiter) (now : Nat) :
    Except FrameRateExceeded Unit × FrameRateLimiter :=
  if limiter.minute.getLast?.any (fun previous => now < previous) then
    (.error .clockReversed, limiter)
  else
    let limiter : FrameRateLimiter :=
      { second := expire limiter.second now frameBurstWindow
        minute := expire limiter.minute now frameMinuteWindow }
    if limiter.second.length ≥ frameBurstLimit then (.error .second, limiter)
    else if limiter.minute.length ≥ frameMinuteLimit then (.error .minute, limiter)
    else
      (.ok (), { second := limiter.second ++ [now], minute := limiter.minute ++ [now] })

end FrameRateLimiter

/-! ## The limiter and its history -/

/-- The frame is not before the last accepted one. -/
def InOrder (accepted : List Nat) (now : Nat) : Prop :=
  ∀ last ∈ accepted.getLast?, last ≤ now

/-- Few frames still count. -/
def Quiet (second minute : List Nat) (now : Nat) : Prop :=
  (recent frameBurstWindow now second).length < frameBurstLimit ∧
    (recent frameMinuteWindow now minute).length < frameMinuteLimit

/-- What a limiter knows of the accepted frames.  At a refused frame it may forget
frames that an earlier instant would still count; until then it stays full. -/
structure Kept (accepted : List Nat) (horizon : Nat) (limiter : FrameRateLimiter) : Prop where
  ordered : accepted.Pairwise (· ≤ ·)
  last : limiter.minute.getLast? = accepted.getLast?
  second : Trails frameBurstWindow horizon limiter.second accepted
  minute : Trails frameMinuteWindow horizon limiter.minute accepted
  full : ∀ now, InOrder accepted now → now < horizon → ¬ Quiet limiter.second limiter.minute now

section Steps

variable {accepted : List Nat} {horizon now : Nat} {limiter : FrameRateLimiter}

theorem kept_default : Kept [] 0 FrameRateLimiter.default := by
  constructor
  case ordered => exact List.Pairwise.nil
  case last => rfl
  case second => exact trails_nil
  case minute => exact trails_nil
  case full => exact fun _ _ early => absurd early (Nat.not_lt_zero _)

theorem InOrder.all_le (ordered : accepted.Pairwise (· ≤ ·)) (inOrder : InOrder accepted now) :
    ∀ time ∈ accepted, time ≤ now := by
  intro time member
  rcases List.eq_nil_or_concat accepted with rfl | ⟨front, last, rfl⟩
  · exact absurd member List.not_mem_nil
  · rw [List.concat_eq_append] at ordered inOrder member
    have latest : last ≤ now := inOrder last (by simp)
    rcases List.mem_append.mp member with before | here
    · exact ((List.pairwise_append.mp ordered).2.2 time before last (by simp)).trans latest
    · exact (List.mem_singleton.mp here).le.trans latest

/-- The limiter decides as if it remembered every accepted frame. -/
theorem Kept.quiet_iff (kept : Kept accepted horizon limiter) (inOrder : InOrder accepted now) :
    Quiet limiter.second limiter.minute now ↔ Quiet accepted accepted now := by
  rcases Nat.lt_or_ge now horizon with early | reached
  · have full := kept.full now inOrder early
    refine iff_of_false full ?_
    rintro ⟨second, minute⟩
    exact full ⟨kept.second.recent_length.trans_lt second, kept.minute.recent_length.trans_lt minute⟩
  · unfold Quiet
    rw [kept.second.recent_eq reached, kept.minute.recent_eq reached]

/-- A full second or minute keeps the last accepted frame. -/
theorem Kept.recent_minute_ne_nil (kept : Kept accepted horizon limiter)
    (busy : ¬ Quiet limiter.second limiter.minute now) :
    recent frameMinuteWindow now limiter.minute ≠ [] := by
  intro none
  refine busy ⟨?_, by rw [none]; decide⟩
  cases second : recent frameBurstWindow now limiter.second with
  | nil => decide
  | cons time rest =>
      have counts : time ∈ recent frameBurstWindow now limiter.second := by
        rw [second]
        exact List.mem_cons_self
      obtain ⟨member, young⟩ := mem_recent.mp counts
      have listed := kept.second.suffix.subset member
      rcases List.eq_nil_or_concat accepted with rfl | ⟨front, last, rfl⟩
      · exact absurd listed List.not_mem_nil
      · have ends : limiter.minute.getLast? = some last := by
          rw [kept.last]
          simp
        have latest := @InOrder.all_le _ last kept.ordered (by simp [InOrder]) time listed
        have old := recent_eq_nil_iff.mp none last (List.mem_of_getLast? ends)
        unfold frameBurstWindow at young
        unfold frameMinuteWindow at old
        omega

/-- What a refused frame leaves: the queues look at the refused instant, and stay
full for every instant before it. -/
theorem Kept.refuse (kept : Kept accepted horizon limiter)
    (busy : ¬ Quiet limiter.second limiter.minute now) :
    Kept accepted (max horizon now)
      { second := recent frameBurstWindow now limiter.second
        minute := recent frameMinuteWindow now limiter.minute } := by
  constructor
  case ordered => exact kept.ordered
  case second => exact kept.second.forget kept.ordered (by decide) now
  case minute => exact kept.minute.forget kept.ordered (by decide) now
  case last =>
    have forgotten := kept.minute.forget kept.ordered (by decide) now
    exact forgotten.getLast? (kept.recent_minute_ne_nil busy)
  case full =>
    intro earlier inOrder early
    unfold Quiet
    rw [recent_recent, recent_recent]
    rcases Nat.lt_or_ge earlier now with before | reached
    · rw [max_eq_left before.le]
      exact busy
    · rw [max_eq_right reached]
      exact kept.full earlier inOrder ((lt_max_iff.mp early).resolve_right (Nat.not_lt.mpr reached))

/-- An accepted frame is remembered, and nothing is ahead of it. -/
theorem Kept.accept (kept : Kept accepted horizon limiter) (inOrder : InOrder accepted now)
    (quiet : Quiet limiter.second limiter.minute now) :
    Kept (accepted ++ [now]) now
      { second := recent frameBurstWindow now limiter.second ++ [now]
        minute := recent frameMinuteWindow now limiter.minute ++ [now] } := by
  have reached : horizon ≤ now := by
    by_contra early
    exact kept.full now inOrder (Nat.not_le.mp early) quiet
  have ahead : max horizon now = now := max_eq_right reached
  have second := kept.second.forget kept.ordered (by decide) now
  have minute := kept.minute.forget kept.ordered (by decide) now
  rw [ahead] at second minute
  constructor
  case ordered =>
    rw [List.pairwise_append]
    refine ⟨kept.ordered, List.pairwise_singleton _ _, ?_⟩
    intro time member last same
    rw [List.mem_singleton.mp same]
    exact inOrder.all_le kept.ordered time member
  case last => rw [List.getLast?_concat, List.getLast?_concat]
  case second => exact second.snoc now
  case minute => exact minute.snoc now
  case full =>
    intro later inOrder early
    have latest : now ≤ later := inOrder now (by simp)
    exact absurd early (Nat.not_lt.mpr latest)

/-- The forms of an observation. -/
theorem observeAt_cases (kept : Kept accepted horizon limiter) (now : Nat) :
    (InOrder accepted now ∧ Quiet limiter.second limiter.minute now ∧
      limiter.observeAt now = (.ok (),
        { second := recent frameBurstWindow now limiter.second ++ [now]
          minute := recent frameMinuteWindow now limiter.minute ++ [now] })) ∨
    (InOrder accepted now ∧ ¬ Quiet limiter.second limiter.minute now ∧
      ∃ exceeded, limiter.observeAt now = (.error exceeded,
        { second := recent frameBurstWindow now limiter.second
          minute := recent frameMinuteWindow now limiter.minute })) ∨
    (¬ InOrder accepted now ∧ limiter.observeAt now = (.error .clockReversed, limiter)) := by
  have order : limiter.minute.getLast?.any (fun previous => now < previous) = true ↔
      ¬ InOrder accepted now := by
    rw [kept.last]
    unfold InOrder
    cases accepted.getLast? with
    | none => simp
    | some last => simp
  have second : FrameRateLimiter.expire limiter.second now frameBurstWindow =
      recent frameBurstWindow now limiter.second :=
    dropWhile_eq_recent (kept.second.ordered kept.ordered) (by decide)
  have minute : FrameRateLimiter.expire limiter.minute now frameMinuteWindow =
      recent frameMinuteWindow now limiter.minute :=
    dropWhile_eq_recent (kept.minute.ordered kept.ordered) (by decide)
  unfold FrameRateLimiter.observeAt Quiet
  rw [second, minute]
  split
  · next reversed => exact Or.inr (Or.inr ⟨order.mp reversed, rfl⟩)
  · next later =>
    have inOrder : InOrder accepted now := by
      by_contra early
      exact later (order.mpr early)
    dsimp only
    split
    · next crowded =>
      exact Or.inr (Or.inl ⟨inOrder, fun quiet => absurd quiet.1 (Nat.not_lt.mpr crowded), _, rfl⟩)
    · next burst =>
      split
      · next crowded =>
        exact Or.inr (Or.inl ⟨inOrder, fun quiet => absurd quiet.2 (Nat.not_lt.mpr crowded), _, rfl⟩)
      · next calm =>
        exact Or.inl ⟨inOrder, ⟨Nat.not_le.mp burst, Nat.not_le.mp calm⟩, rfl⟩

/-- What an observation answers, in terms of the accepted frames. -/
def Admits (accepted : List Nat) (now : Nat) : Prop :=
  InOrder accepted now ∧ Within frameBurstWindow frameBurstLimit (accepted ++ [now]) ∧
    Within frameMinuteWindow frameMinuteLimit (accepted ++ [now])

/-- The accepted frames never crowd. -/
def Uncrowded (accepted : List Nat) : Prop :=
  Within frameBurstWindow frameBurstLimit accepted ∧
    Within frameMinuteWindow frameMinuteLimit accepted

theorem admits_iff (ordered : accepted.Pairwise (· ≤ ·)) (uncrowded : Uncrowded accepted) :
    Admits accepted now ↔ InOrder accepted now ∧ Quiet accepted accepted now := by
  refine and_congr_right ?_
  intro inOrder
  have before := inOrder.all_le ordered
  rw [within_snoc_iff before (by decide), within_snoc_iff before (by decide)]
  exact and_congr (and_iff_right uncrowded.1) (and_iff_right uncrowded.2)

end Steps

/-! ## Every connection -/

/-- The frames a limiter accepts, and the limiter behind them. -/
def observeAll (times : List Nat) : List Nat × FrameRateLimiter :=
  times.foldl (fun (accepted, limiter) now =>
    match limiter.observeAt now with
    | (.ok (), next) => (accepted ++ [now], next)
    | (.error _, next) => (accepted, next)) ([], FrameRateLimiter.default)

def accepted (times : List Nat) : List Nat := (observeAll times).1

/-- What the next frame of a connection is answered. -/
def answer (times : List Nat) (now : Nat) : Except FrameRateExceeded Unit :=
  ((observeAll times).2.observeAt now).1

theorem observeAll_snoc (times : List Nat) (now : Nat) :
    observeAll (times ++ [now]) =
      match (observeAll times).2.observeAt now with
      | (.ok (), next) => ((observeAll times).1 ++ [now], next)
      | (.error _, next) => ((observeAll times).1, next) := by
  unfold observeAll
  rw [List.foldl_append, List.foldl_cons, List.foldl_nil]

/-- One more frame: it is accepted when it crowds nothing, and then counts. -/
theorem observeAll_step {times : List Nat} {horizon : Nat}
    (kept : Kept (accepted times) horizon (observeAll times).2)
    (uncrowded : Uncrowded (accepted times)) (now : Nat) :
    (Admits (accepted times) now ∧ answer times now = .ok () ∧
      accepted (times ++ [now]) = accepted times ++ [now] ∧
      ∃ horizon, Kept (accepted times ++ [now]) horizon (observeAll (times ++ [now])).2) ∨
    (¬ Admits (accepted times) now ∧ (∃ exceeded, answer times now = .error exceeded) ∧
      accepted (times ++ [now]) = accepted times ∧
      ∃ horizon, Kept (accepted times) horizon (observeAll (times ++ [now])).2) := by
  have admits := @admits_iff _ now kept.ordered uncrowded
  unfold answer
  unfold accepted at kept admits ⊢
  rw [observeAll_snoc]
  rcases observeAt_cases kept now with
    ⟨inOrder, quiet, answered⟩ | ⟨inOrder, busy, exceeded, answered⟩ | ⟨early, answered⟩
  · refine Or.inl ⟨admits.mpr ⟨inOrder, (kept.quiet_iff inOrder).mp quiet⟩, ?_⟩
    rw [answered]
    exact ⟨rfl, rfl, now, kept.accept inOrder quiet⟩
  · refine Or.inr ⟨?_, ?_⟩
    · intro admitted
      exact busy ((kept.quiet_iff inOrder).mpr (admits.mp admitted).2)
    · rw [answered]
      exact ⟨⟨exceeded, rfl⟩, rfl, max horizon now, kept.refuse busy⟩
  · refine Or.inr ⟨?_, ?_⟩
    · intro admitted
      exact early (admits.mp admitted).1
    · rw [answered]
      exact ⟨⟨_, rfl⟩, rfl, horizon, kept⟩

theorem observeAll_kept (times : List Nat) :
    (∃ horizon, Kept (accepted times) horizon (observeAll times).2) ∧
      Uncrowded (accepted times) := by
  induction times using List.reverseRecOn with
  | nil => exact ⟨⟨0, kept_default⟩, within_nil, within_nil⟩
  | append_singleton times now inductionHypothesis =>
      obtain ⟨⟨horizon, kept⟩, uncrowded⟩ := inductionHypothesis
      rcases observeAll_step kept uncrowded now with
        ⟨admits, -, grown, kept⟩ | ⟨-, -, unchanged, kept⟩
      · rw [grown]
        exact ⟨kept, admits.2⟩
      · rw [unchanged]
        exact ⟨kept, uncrowded⟩

/-- The next frame is accepted exactly when it crowds nothing. -/
theorem answer_iff (times : List Nat) (now : Nat) :
    answer times now = .ok () ↔ Admits (accepted times) now := by
  obtain ⟨⟨horizon, kept⟩, uncrowded⟩ := observeAll_kept times
  rcases observeAll_step kept uncrowded now with ⟨admits, answered, -⟩ | ⟨refuses, ⟨_, answered⟩, -⟩
  · exact iff_of_true answered admits
  · exact iff_of_false (by rw [answered]; nofun) refuses

theorem accepted_of_admits {times : List Nat} {now : Nat} (admits : Admits (accepted times) now) :
    accepted (times ++ [now]) = accepted times ++ [now] := by
  obtain ⟨⟨horizon, kept⟩, uncrowded⟩ := observeAll_kept times
  rcases observeAll_step kept uncrowded now with ⟨-, -, grown, -⟩ | ⟨refuses, -⟩
  · exact grown
  · exact absurd admits refuses

theorem accepted_of_refuses {times : List Nat} {now : Nat}
    (refuses : ¬ Admits (accepted times) now) : accepted (times ++ [now]) = accepted times := by
  obtain ⟨⟨horizon, kept⟩, uncrowded⟩ := observeAll_kept times
  rcases observeAll_step kept uncrowded now with ⟨admits, -⟩ | ⟨-, -, unchanged, -⟩
  · exact absurd admits refuses
  · exact unchanged

/-- What comes after depends on the accepted frames only. -/
theorem accepted_append {first second : List Nat} (same : accepted first = accepted second)
    (more : List Nat) : accepted (first ++ more) = accepted (second ++ more) := by
  induction more using List.reverseRecOn with
  | nil => rw [List.append_nil, List.append_nil, same]
  | append_singleton more now inductionHypothesis =>
      rw [← List.append_assoc, ← List.append_assoc]
      by_cases admits : Admits (accepted (first ++ more)) now
      · rw [accepted_of_admits admits, inductionHypothesis]
        rw [inductionHypothesis] at admits
        exact (accepted_of_admits admits).symm
      · rw [accepted_of_refuses admits, inductionHypothesis]
        rw [inductionHypothesis] at admits
        exact (accepted_of_refuses admits).symm

/-- A connection accepts at most 32 frames in any second and 600 in any minute;
it refuses a frame only when the frame would break one of these limits or is
before the last accepted one; and a refused frame makes no difference to any
frame after it. -/
theorem frame_rate_law (times : List Nat) :
    Uncrowded (accepted times) ∧
      ∀ now, (answer times now = .ok () ↔ Admits (accepted times) now) ∧
        (answer times now = .ok () → accepted (times ++ [now]) = accepted times ++ [now]) ∧
        (answer times now ≠ .ok () → ∀ more,
          accepted (times ++ now :: more) = accepted (times ++ more) ∧
          ∀ next, answer (times ++ now :: more) next = .ok () ↔ answer (times ++ more) next = .ok ()) := by
  refine ⟨(observeAll_kept times).2, ?_⟩
  intro now
  refine ⟨answer_iff times now, ?_, ?_⟩
  · intro answered
    exact accepted_of_admits ((answer_iff times now).mp answered)
  · intro refused more
    have dropped : accepted (times ++ [now]) = accepted times :=
      accepted_of_refuses (fun admits => refused ((answer_iff times now).mpr admits))
    have same : accepted (times ++ now :: more) = accepted (times ++ more) := by
      rw [List.append_cons]
      exact accepted_append dropped more
    refine ⟨same, ?_⟩
    intro next
    rw [answer_iff, answer_iff, same]

end FrameRate
end Gateway
end Revenant
