import Mathlib.Algebra.Order.Group.Basic
import Mathlib.Data.List.Sort
import Mathlib.Tactic.Abel

/-
  Sliding-window admission, on a clock in any ordered group. The ideal limiter remembers
  every time it admitted and counts those at most `w` back; the lazy one keeps a log, drops
  the expired times that head it when it is asked, and looks at the length of what is left.

  While the clock does not go back the lazy limiter simulates the ideal one (`Tracks.step`):
  its log is what the ideal one still counts. What is shown of the ideal limiter, such as the
  bound on every closed window (`Ideal.bounded_step`), so holds of the lazy one.

  The last section is about machines that hold one such state per key.
-/

namespace SentinelAI.Lib

universe u v w

namespace SlidingWindow

variable {τ : Type u} [AddCommGroup τ] [LinearOrder τ]

/-! ## The ideal limiter -/

/-- How many of the times are at most `w` before `now`. -/
def recent (w now : τ) (admitted : List τ) : Nat := admitted.countP fun x => now - w ≤ x

namespace Ideal

def admits (w : τ) (limit : Int) (admitted : List τ) (now : τ) : Bool :=
  decide ((recent w now admitted : Int) < limit)

def step (w : τ) (limit : Int) (admitted : List τ) (now : τ) : List τ :=
  if admits w limit admitted now then admitted ++ [now] else admitted

end Ideal

/-! ## The lazy limiter -/

/-- The log without the expired times at its head. -/
def prune (w now : τ) (log : List τ) : List τ := log.dropWhile fun x => w < now - x

namespace Lazy

def admits (w : τ) (limit : Int) (log : List τ) (now : τ) : Bool :=
  decide (((prune w now log).length : Int) < limit)

def step (w : τ) (limit : Int) (log : List τ) (now : τ) : List τ :=
  if admits w limit log now then prune w now log ++ [now] else prune w now log

end Lazy

/-! ## The simulation -/

variable [IsOrderedAddMonoid τ]

/-- The log holds what the ideal limiter counts at time `m`, in order, and nothing later
    than `m` is in it. -/
structure Tracks (w m : τ) (log admitted : List τ) : Prop where
  sorted : admitted.Pairwise (· ≤ ·)
  past : ∀ x ∈ admitted, x ≤ m
  log_eq : log = admitted.filter fun x => m - w ≤ x

/-- On sorted times the expired ones all stand at the head. -/
theorem prune_eq_filter (w now : τ) : ∀ {log : List τ}, log.Pairwise (· ≤ ·) →
    prune w now log = log.filter fun x => now - w ≤ x
  | [], _ => rfl
  | x :: log, h => by
      obtain ⟨hx, hlog⟩ := List.pairwise_cons.mp h
      by_cases he : now - w ≤ x
      · have hkept : ∀ y ∈ x :: log, decide (now - w ≤ y) = true := by
          intro y hy
          rcases List.mem_cons.mp hy with rfl | hy
          · exact decide_eq_true he
          · exact decide_eq_true (he.trans (hx y hy))
        rw [List.filter_eq_self.mpr hkept]
        refine List.dropWhile_cons_of_neg ?_
        simpa using sub_le_comm.mp he
      · have hexpired : decide (w < now - x) = true :=
          decide_eq_true (lt_sub_comm.mp (not_le.mp he))
        rw [List.filter_cons_of_neg (by simpa using he), ← prune_eq_filter w now hlog]
        exact List.dropWhile_cons_of_pos hexpired

namespace Tracks

variable {w m now : τ} {limit : Int} {log admitted : List τ}

omit [IsOrderedAddMonoid τ] in
theorem start (w m : τ) : Tracks w m [] ([] : List τ) where
  sorted := List.Pairwise.nil
  past := by simp
  log_eq := rfl

/-- What pruning at a later time leaves is what is counted then. -/
theorem prune_eq (h : Tracks w m log admitted) (hm : m ≤ now) :
    prune w now log = admitted.filter fun x => now - w ≤ x := by
  have hsorted : log.Pairwise (· ≤ ·) := by
    rw [h.log_eq]
    exact h.sorted.filter _
  rw [prune_eq_filter w now hsorted, h.log_eq, List.filter_filter]
  refine List.filter_congr fun x _ => ?_
  have hle : m - w ≤ now - w := sub_le_sub_right hm w
  by_cases hx : now - w ≤ x
  · simp [hx, hle.trans hx]
  · simp [hx]

/-- Both limiters answer alike. -/
theorem admits_eq (h : Tracks w m log admitted) (hm : m ≤ now) :
    Lazy.admits w limit log now = Ideal.admits w limit admitted now := by
  unfold Lazy.admits Ideal.admits recent
  rw [h.prune_eq hm, List.countP_eq_length_filter]

theorem step (hw : 0 ≤ w) (h : Tracks w m log admitted) (hm : m ≤ now) :
    Tracks w now (Lazy.step w limit log now) (Ideal.step w limit admitted now) := by
  have hpast : ∀ x ∈ admitted, x ≤ now := fun x hx => (h.past x hx).trans hm
  unfold Lazy.step Ideal.step
  rw [h.admits_eq hm, h.prune_eq hm]
  split
  · refine ⟨?_, ?_, ?_⟩
    · rw [List.pairwise_append]
      refine ⟨h.sorted, List.pairwise_singleton _ _, fun x hx y hy => ?_⟩
      rw [List.mem_singleton.mp hy]
      exact hpast x hx
    · intro x hx
      rcases List.mem_append.mp hx with hx | hx
      · exact hpast x hx
      · exact (List.mem_singleton.mp hx).le
    · rw [List.filter_append, List.filter_cons_of_pos (by simpa using hw), List.filter_nil]
  · exact ⟨h.sorted, hpast, rfl⟩

end Tracks

/-! ## What the ideal limiter admits -/

namespace Ideal

variable {w : τ} {limit : Int} {admitted : List τ} {now : τ}

/-- No closed window of length `w` holds more than `limit` admitted times. -/
def Bounded (w : τ) (limit : Int) (admitted : List τ) : Prop :=
  ∀ t, admitted.countP (fun x => t ≤ x ∧ x ≤ t + w) ≤ limit.toNat

theorem bounded_step (h : Bounded w limit admitted) : Bounded w limit (step w limit admitted now) := by
  intro t
  unfold step
  split
  · rename_i hadm
    have hlt : (recent w now admitted : Int) < limit := of_decide_eq_true hadm
    rw [List.countP_append, List.countP_singleton]
    by_cases hin : t ≤ now ∧ now ≤ t + w
    · -- a window around `now` holds nothing that has expired by then
      have hsub : admitted.countP (fun x => decide (t ≤ x ∧ x ≤ t + w)) ≤ recent w now admitted := by
        refine List.countP_mono_left fun x _ hx => ?_
        obtain ⟨htx, _⟩ := of_decide_eq_true hx
        exact decide_eq_true ((sub_le_iff_le_add.mpr hin.2).trans htx)
      rw [if_pos (decide_eq_true hin)]
      omega
    · rw [if_neg (by simpa using hin)]
      exact h t
  · exact h t

end Ideal

end SlidingWindow

/-! ## One state per key -/

section

variable {κ : Type u} {σ : Type v} {α : Type w} [DecidableEq κ] (step : σ → α → σ) (key : α → κ)

/-- An input moves the state of its own key. -/
def keyedStep (s : κ → σ) (a : α) : κ → σ := Function.update s (key a) (step (s (key a)) a)

theorem keyedStep_self (s : κ → σ) (a : α) :
    keyedStep step key s a (key a) = step (s (key a)) a := Function.update_self ..

theorem keyedStep_ne (s : κ → σ) (a : α) {k : κ} (h : k ≠ key a) :
    keyedStep step key s a k = s k := Function.update_of_ne h ..

end

end SentinelAI.Lib
