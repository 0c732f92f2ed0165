import Mathlib.Data.Set.Function
import SentinelAI.Lib.Tables

/-
  Columns on which no two rows of a table agree: what a unique constraint would say, for
  tables that have none beside their key.
-/

namespace SentinelAI.Lib

universe u v w

variable {ρ : Type u} {κ : Type v} {ν : Type w} [Keyed ρ κ] [DecidableEq κ]

namespace KeyedTable

omit [DecidableEq κ] in
/-- No two rows agree on the column. -/
def Unique (column : ρ → ν) (t : KeyedTable ρ) : Prop := Set.InjOn column {r | r ∈ t.rows}

namespace Unique

variable {column : ρ → ν} {t t' : KeyedTable ρ}

omit [DecidableEq κ] in
theorem empty : (KeyedTable.empty : KeyedTable ρ).Unique column := fun _ hr => by cases hr

/-- A row whose value is free. -/
theorem insert? {r : ρ} (h : t.Unique column) (hins : t.insert? r = some t')
    (hfree : ∀ r' ∈ t.rows, column r' ≠ column r) : t'.Unique column := by
  have hmem (x : ρ) : x ∈ t'.rows ↔ x ∈ t.rows ∨ x = r := by
    rw [insert?_rows hins, List.mem_append, List.mem_singleton]
  intro x hx y hy hxy
  obtain hx | rfl := (hmem x).mp hx
  · obtain hy | rfl := (hmem y).mp hy
    · exact h hx hy hxy
    · exact absurd hxy (hfree x hx)
  · obtain hy | rfl := (hmem y).mp hy
    · exact absurd hxy.symm (hfree y hy)
    · rfl

/-- A change that leaves the column. -/
theorem modify (h : t.Unique column) (k : κ) {f : ρ → ρ} (hf : ∀ r, Keyed.key (f r) = Keyed.key r)
    (hcolumn : ∀ r, column (f r) = column r) : (t.modify k f hf).Unique column := by
  have hold : ∀ x ∈ (t.modify k f hf).rows, ∃ r ∈ t.rows, column r = column x ∧
      x = if Keyed.key r = k then f r else r := by
    intro x hx
    obtain ⟨r, hr, rfl⟩ := List.mem_map.mp hx
    refine ⟨r, hr, ?_, rfl⟩
    split
    · exact (hcolumn r).symm
    · rfl
  intro x hx y hy hxy
  obtain ⟨r, hr, hrx, hx⟩ := hold x hx
  obtain ⟨r', hr', hry, hy⟩ := hold y hy
  have hsame : r = r' := h hr hr' (hrx.trans (hxy.trans hry.symm))
  rw [hx, hy, hsame]

omit [DecidableEq κ] in
theorem deleteWhere (h : t.Unique column) (p : ρ → Bool) : (t.deleteWhere p).Unique column :=
  fun _ hx _ hy hxy => h (List.mem_of_mem_filter hx) (List.mem_of_mem_filter hy) hxy

/-- A statement for one value of the column selects one row at most. -/
theorem length_select (h : t.Unique column) {p : ρ → Bool} {v : ν}
    (hp : ∀ r, p r = true → column r = v) : (t.select p).length ≤ 1 := by
  cases hsel : t.select p with
  | nil => exact Nat.zero_le 1
  | cons r rows =>
    obtain ⟨hr, hpr⟩ : r ∈ t.rows ∧ p r = true := mem_select.mp (hsel ▸ List.mem_cons_self)
    have hone : t.select p = [r] := by
      refine t.select_eq_singleton hr fun r' hr' => ⟨fun hpr' => ?_, fun he => he ▸ hpr⟩
      exact h hr' hr ((hp r' hpr').trans (hp r hpr).symm)
    rw [← hsel, hone]
    exact le_refl 1

end Unique

end KeyedTable

end SentinelAI.Lib
