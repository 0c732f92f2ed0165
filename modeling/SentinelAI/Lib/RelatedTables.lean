import Mathlib.Data.List.Forall2
import Mathlib.Data.Option.Defs
import SentinelAI.Lib.Tables

/-
  Two tables related row by row, by a relation that keeps the key. A statement that treats
  related rows alike finds, inserts and updates in both tables alike, and leaves them related.
  This is the two-run view of a table in which some columns are secret.
-/

namespace SentinelAI.Lib

universe u v

open Keyed

namespace KeyedTable

variable {ρ : Type u} {κ : Type v} [Keyed ρ κ]

/-- The rows of the tables are related, in order. -/
def Related (R : ρ → ρ → Prop) (t t' : KeyedTable ρ) : Prop := List.Forall₂ R t.rows t'.rows

namespace Related

variable {R : ρ → ρ → Prop} {t t' : KeyedTable ρ}

theorem refl (hR : ∀ r, R r r) (t : KeyedTable ρ) : Related R t t :=
  List.forall₂_same.mpr fun r _ => hR r

variable [DecidableEq κ]

theorem find?_rows (hkey : ∀ r r', R r r' → key r = key r') (k : κ)
    {rows rows' : List ρ} (h : List.Forall₂ R rows rows') :
    Option.Rel R (rows.find? fun r => key r = k) (rows'.find? fun r => key r = k) := by
  induction h with
  | nil => exact Option.Rel.none
  | @cons r r' rows rows' hr _ ih =>
    rw [List.find?_cons, List.find?_cons, ← hkey r r' hr]
    by_cases hk : key r = k
    · rw [decide_eq_true hk]
      exact Option.Rel.some hr
    · rw [decide_eq_false hk]
      exact ih

theorem find? (hkey : ∀ r r', R r r' → key r = key r') (h : Related R t t') (k : κ) :
    Option.Rel R (t.find? k) (t'.find? k) := find?_rows hkey k h

/-- Related rows are inserted in both tables or in none. -/
theorem insert? (hkey : ∀ r r', R r r' → key r = key r') (h : Related R t t') {r r' : ρ}
    (hr : R r r') : (t.insert? r = none ∧ t'.insert? r' = none) ∨
      ∃ u u', t.insert? r = some u ∧ t'.insert? r' = some u' ∧ Related R u u' := by
  have hfind := h.find? hkey (key r)
  cases hu : t.insert? r with
  | none =>
    left
    obtain ⟨x, hx⟩ := Option.isSome_iff_exists.mp (insert?_eq_none.mp hu)
    rw [hx] at hfind
    refine ⟨rfl, insert?_eq_none.mpr ?_⟩
    rw [← hkey r r' hr]
    cases hx' : t'.find? (key r) with
    | none =>
      rw [hx'] at hfind
      cases hfind
    | some _ => rfl
  | some u =>
    right
    cases hu' : t'.insert? r' with
    | none =>
      obtain ⟨x, hx⟩ := Option.isSome_iff_exists.mp (insert?_eq_none.mp hu')
      rw [← hkey r r' hr] at hx
      rw [(find?_insert? hu).1, hx] at hfind
      cases hfind
    | some u' =>
      refine ⟨u, u', rfl, rfl, ?_⟩
      unfold Related
      rw [insert?_rows hu, insert?_rows hu']
      exact List.rel_append h (List.Forall₂.cons hr List.Forall₂.nil)

theorem modify (hkey : ∀ r r', R r r' → key r = key r') (h : Related R t t') (k : κ)
    {f f' : ρ → ρ} (hf : ∀ r, key (f r) = key r) (hf' : ∀ r, key (f' r) = key r)
    (hR : ∀ r r', R r r' → R (f r) (f' r')) :
    Related R (t.modify k f hf) (t'.modify k f' hf') := by
  unfold Related KeyedTable.modify
  refine List.rel_map (fun r r' hr => ?_) h
  rw [← hkey r r' hr]
  split
  · exact hR r r' hr
  · exact hr

end Related

end KeyedTable

end SentinelAI.Lib
