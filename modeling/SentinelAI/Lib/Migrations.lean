import Mathlib.Data.List.Basic

/-
  A chain of versions, and moves up and down it. Each move up can be undone, so what a walk does
  is decided by the lowest version it visits: it comes to the same as going straight down to
  that version and straight up again (`Lawful.walk_eq`).
-/

namespace SentinelAI.Lib

universe u

inductive Move where
  | up
  | down
  deriving DecidableEq, Repr

/-- `up k` leads from version `k` to version `k + 1`, `down k` back. -/
structure Chain (σ : Type u) where
  length : Nat
  up : Nat → σ → Option σ
  down : Nat → σ → Option σ

namespace Chain

variable {σ : Type u} (c : Chain σ)

def move : Move → Nat × σ → Option (Nat × σ)
  | .up, (k, s) => if k < c.length then (c.up k s).map fun t => (k + 1, t) else none
  | .down, (0, _) => none
  | .down, (k + 1, s) => (c.down k s).map fun t => (k, t)

/-- Moves in order. -/
def walk : List Move → Nat × σ → Option (Nat × σ)
  | [], s => some s
  | m :: ms, s => (c.move m s).bind (walk ms)

/-- The version moves lead to, if they stay on a chain of that length. -/
def position (length : Nat) : Nat → List Move → Option Nat
  | k, [] => some k
  | k, .up :: ms => if k < length then position length (k + 1) ms else none
  | 0, .down :: _ => none
  | k + 1, .down :: ms => position length k ms

/-- The lowest version visited. -/
def lowest : Nat → List Move → Nat
  | k, [] => k
  | k, .up :: ms => min k (lowest (k + 1) ms)
  | k, .down :: ms => min k (lowest (k - 1) ms)

/-- Straight from `k` down to `m` and up to `n`. -/
def straight (k m n : Nat) : List Move := List.replicate (k - m) .down ++ List.replicate (n - m) .up

theorem lowest_le (k : Nat) (ms : List Move) : lowest k ms ≤ k := by
  cases ms with
  | nil => exact Nat.le_refl k
  | cons m ms => cases m <;> exact Nat.min_le_left _ _

theorem lowest_le_position {length k n : Nat} {ms : List Move}
    (h : position length k ms = some n) : lowest k ms ≤ n := by
  induction ms generalizing k with
  | nil =>
    cases h
    exact Nat.le_refl _
  | cons m ms ih =>
    cases m with
    | up =>
      rw [position] at h
      by_cases hk : k < length
      · rw [if_pos hk] at h
        exact Nat.le_trans (Nat.min_le_right _ _) (ih h)
      · rw [if_neg hk] at h
        cases h
    | down =>
      cases k with
      | zero => cases h
      | succ k => exact Nat.le_trans (Nat.min_le_right _ _) (ih h)

/-- The straight way from one version up begins with a move down, if it goes below. -/
theorem straight_down {k m n : Nat} (h : m ≤ k) :
    straight (k + 1) m n = .down :: straight k m n := by
  unfold straight
  rw [Nat.succ_sub h, List.replicate_succ]
  rfl

/-- The straight way up begins with a move up. -/
theorem straight_up {k n : Nat} (h : k + 1 ≤ n) :
    straight k k n = .up :: straight (k + 1) (k + 1) n := by
  have hn : n - k = n - (k + 1) + 1 := by omega
  unfold straight
  rw [Nat.sub_self, Nat.sub_self, hn, List.replicate_succ]
  rfl

theorem position_le {length k n : Nat} {ms : List Move} (hk : k ≤ length)
    (h : position length k ms = some n) : n ≤ length := by
  induction ms generalizing k with
  | nil =>
    cases h
    exact hk
  | cons m ms ih =>
    cases m with
    | up =>
      rw [position] at h
      by_cases hlt : k < length
      · rw [if_pos hlt] at h
        exact ih hlt h
      · rw [if_neg hlt] at h
        cases h
    | down =>
      cases k with
      | zero => cases h
      | succ k => exact ih (Nat.le_of_succ_le hk) h

theorem position_up {length k n : Nat} (h : k + n ≤ length) :
    position length k (List.replicate n .up) = some (k + n) := by
  induction n generalizing k with
  | zero => rfl
  | succ n ih =>
    rw [List.replicate_succ, position, if_pos (by omega), ih (by omega)]
    exact congrArg some (by omega)

/-- The straight way stays on the chain. -/
theorem position_straight {length k m n : Nat} (hm : m ≤ k) (hmn : m ≤ n) (hn : n ≤ length) :
    position length k (straight k m n) = some n := by
  induction k with
  | zero =>
    obtain rfl : m = 0 := Nat.le_zero.mp hm
    have h := @position_up length 0 n (by omega)
    rw [Nat.zero_add] at h
    exact h
  | succ k ih =>
    by_cases hk : m ≤ k
    · rw [straight_down hk]
      exact ih hk
    · obtain rfl : m = k + 1 := by omega
      unfold straight
      rw [Nat.sub_self, List.replicate_zero, List.nil_append, position_up (by omega)]
      exact congrArg some (by omega)

variable {c}

theorem walk_append (ms ms' : List Move) (s : Nat × σ) :
    c.walk (ms ++ ms') s = (c.walk ms s).bind (c.walk ms') := by
  induction ms generalizing s with
  | nil => rfl
  | cons m ms ih =>
    rw [List.cons_append, walk, walk, Option.bind_assoc]
    exact congrArg _ (funext ih)

theorem walk_up {k : Nat} {s t : σ} (hk : k < c.length) (h : c.up k s = some t) (ms : List Move) :
    c.walk (.up :: ms) (k, s) = c.walk ms (k + 1, t) := by
  rw [walk, move, if_pos hk, h]
  rfl

theorem walk_down {k : Nat} {s t : σ} (h : c.down k t = some s) (ms : List Move) :
    c.walk (.down :: ms) (k + 1, t) = c.walk ms (k, s) := by
  rw [walk, move, h]
  rfl

/-- Where a version is valid its moves succeed, and down undoes up. -/
structure Lawful (c : Chain σ) (Valid : Nat → σ → Prop) : Prop where
  up_ok : ∀ {k s}, k < c.length → Valid k s →
    ∃ t, c.up k s = some t ∧ Valid (k + 1) t ∧ c.down k t = some s
  down_ok : ∀ {k t}, Valid (k + 1) t → ∃ s, c.down k t = some s ∧ Valid k s

namespace Lawful

variable {Valid : Nat → σ → Prop} {k n : Nat} {s : σ}

/-- A walk comes to the same as the straight way over its lowest version. -/
theorem walk_eq (h : Lawful c Valid) {ms : List Move} (hs : Valid k s)
    (hpos : position c.length k ms = some n) :
    c.walk ms (k, s) = c.walk (straight k (lowest k ms) n) (k, s) := by
  induction ms generalizing k s with
  | nil =>
    cases hpos
    rw [lowest, straight, Nat.sub_self]
    rfl
  | cons m ms ih =>
    cases m with
    | up =>
      rw [position] at hpos
      by_cases hk : k < c.length
      · rw [if_pos hk] at hpos
        obtain ⟨t, hup, ht, hundo⟩ := h.up_ok hk hs
        have hlast := lowest_le_position hpos
        rw [walk_up hk hup, ih ht hpos, lowest]
        by_cases hlow : lowest (k + 1) ms ≤ k
        · rw [Nat.min_eq_right hlow, straight_down hlow,
            walk_down hundo]
        · have hstays : lowest (k + 1) ms = k + 1 :=
            Nat.le_antisymm (lowest_le (k + 1) ms) (Nat.lt_of_not_le hlow)
          rw [hstays] at hlast ⊢
          rw [Nat.min_eq_left (Nat.le_succ k), straight_up hlast, walk_up hk hup]
      · rw [if_neg hk] at hpos
        cases hpos
    | down =>
      cases k with
      | zero => cases hpos
      | succ k =>
        obtain ⟨t, hdown, ht⟩ := h.down_ok hs
        have hlow : lowest k ms ≤ k := lowest_le k ms
        rw [walk_down hdown, ih ht hpos, lowest, Nat.add_sub_cancel,
          Nat.min_eq_right (Nat.le_succ_of_le hlow), straight_down hlow, walk_down hdown]

end Lawful

end Chain

end SentinelAI.Lib
