import Mathlib.Data.List.Basic

/-
  Pages of a list. A reader that turns the pages of a list while it grows at its front may read
  an item twice, but misses none of those that were there when the reading began
  (`Reading.covers`).
-/

namespace SentinelAI.Lib

universe u

variable {α : Type u}

/-- `LIMIT n OFFSET k * n`. -/
def page (n k : Nat) (l : List α) : List α := (l.drop (k * n)).take n

theorem drop_succ_mul (n k : Nat) (l : List α) : l.drop ((k + 1) * n) = (l.drop (k * n)).drop n := by
  rw [Nat.succ_mul, List.drop_drop]

/-- A reader asks for one page after another, the list growing at its front meanwhile, until
    a page is not full. -/
inductive Reading (n : Nat) : Nat → List α → List (List α) → Prop
  | last (k : Nat) (l : List α) (h : (page n k l).length < n) : Reading n k l [page n k l]
  | next (k : Nat) (l new : List α) (pages : List (List α)) (h : Reading n (k + 1) (new ++ l) pages) :
    Reading n k l (page n k l :: pages)

/-- What grew at the front moves the rest on, so that a later page starts no later. -/
theorem drop_subset_append (m : Nat) (new l : List α) : l.drop m ⊆ (new ++ l).drop m := by
  intro x hx
  rw [List.drop_append]
  refine List.mem_append_right _ ?_
  have hsplit : l.drop m = (l.drop (m - new.length)).drop (m - (m - new.length)) := by
    rw [List.drop_drop]
    congr 1
    omega
  rw [hsplit] at hx
  exact List.mem_of_mem_drop hx

/-- Whatever had not been passed when a page was asked for is read. -/
theorem Reading.covers {n k : Nat} {l : List α} {pages : List (List α)} (h : Reading n k l pages) :
    ∀ x ∈ l.drop (k * n), ∃ p ∈ pages, x ∈ p := by
  induction h with
  | last k l h =>
    intro x hx
    refine ⟨page n k l, List.mem_singleton_self _, ?_⟩
    have hshort : (l.drop (k * n)).length ≤ n := by
      by_contra hlong
      unfold page at h
      rw [List.length_take] at h
      omega
    unfold page
    rwa [List.take_of_length_le hshort]
  | next k l new pages h ih =>
    intro x hx
    rw [← List.take_append_drop n (l.drop (k * n)), List.mem_append] at hx
    obtain hhere | hlater := hx
    · exact ⟨page n k l, List.mem_cons_self, hhere⟩
    · rw [← drop_succ_mul] at hlater
      obtain ⟨p, hp, hxp⟩ := ih x (drop_subset_append _ new l hlater)
      exact ⟨p, List.mem_cons_of_mem _ hp, hxp⟩

end SentinelAI.Lib
