import SentinelAI.Lib.Tables

/-
  Two tables that agree on the rows a predicate keeps, whatever the rest of their rows.
  A statement that reads and writes under the predicate returns the same on both, leaves
  them agreeing, and leaves the rest of each as it was. A key is free for such a statement
  if no row of the rest has it.
-/

namespace SentinelAI.Lib

universe u v

open Keyed

/-! ## Rows under a primary key -/

namespace KeyedTable

variable {ρ : Type u} {κ : Type v} [Keyed ρ κ]

/-- `t` and `t'` have the same rows under `p`; besides, `t` has the rows `o` and `t'` the
    rows `o'`. -/
structure AgreeOn (p : ρ → Bool) (o o' : List ρ) (t t' : KeyedTable ρ) : Prop where
  own : t.select p = t'.select p
  left : (t.select fun r => !p r) = o
  right : (t'.select fun r => !p r) = o'

/-- No other row has this key, in either table. -/
def FreeKey (o o' : List ρ) (k : κ) : Prop := (∀ r ∈ o, key r ≠ k) ∧ ∀ r ∈ o', key r ≠ k

theorem FreeKey.symm {o o' : List ρ} {k : κ} (h : FreeKey o o' k) : FreeKey o' o k := ⟨h.2, h.1⟩

/-- A clause that implies `p` selects from the rows under `p`. -/
theorem select_of_le (t : KeyedTable ρ) {p q : ρ → Bool} (h : ∀ r, q r = true → p r = true) :
    t.select q = (t.select p).filter q := by
  unfold select
  rw [List.filter_filter]
  refine List.filter_congr fun r _ => ?_
  cases hq : q r with
  | true => simp [h r hq]
  | false => rfl

namespace AgreeOn

variable {p : ρ → Bool} {o o' : List ρ} {t t' : KeyedTable ρ}

theorem select_eq (h : AgreeOn p o o' t t') {q : ρ → Bool} (hq : ∀ r, q r = true → p r = true) :
    t.select q = t'.select q := by
  rw [t.select_of_le hq, t'.select_of_le hq, h.own]

theorem swap (h : AgreeOn p o o' t t') : AgreeOn p o' o t' t := ⟨h.own.symm, h.right, h.left⟩

theorem mem_or (h : AgreeOn p o o' t t') {r : ρ} (hr : r ∈ t.rows) : p r = true ∨ r ∈ o := by
  cases hp : p r with
  | true => exact Or.inl rfl
  | false =>
    right
    rw [← h.left]
    exact mem_select.mpr ⟨hr, by simp [hp]⟩

/-- A row with a free key is under `p`. -/
theorem own_of_free (h : AgreeOn p o o' t t') {k : κ} (hk : FreeKey o o' k) {r : ρ}
    (hr : r ∈ t.rows) (he : key r = k) : p r = true := by
  rcases h.mem_or hr with hp | ho
  · exact hp
  · exact absurd he (hk.1 r ho)

/-- The keys of the rows under `p` are free. -/
theorem free_of_own (h : AgreeOn p o o' t t') {r : ρ} (hr : r ∈ t.select p) :
    FreeKey o o' (key r) := by
  have key : ∀ {o o' : List ρ} {t t' : KeyedTable ρ}, AgreeOn p o o' t t' → r ∈ t.select p →
      ∀ r' ∈ o, key r' ≠ key r := by
    intro o o' t t' h hr r' hr' he
    rw [← h.left] at hr'
    obtain ⟨hr', hp'⟩ := mem_select.mp hr'
    obtain ⟨hr, hp⟩ := mem_select.mp hr
    have := t.eq_of_key_eq hr' hr he
    subst this
    simp [hp] at hp'
  exact ⟨key h hr, key h.swap (h.own ▸ hr)⟩

/-- A deletion under a free key. -/
theorem deleteWhere (h : AgreeOn p o o' t t') {k : κ} (hk : FreeKey o o' k) {q : ρ → Bool}
    (hq : ∀ r, q r = true → key r = k) :
    AgreeOn p o o' (t.deleteWhere q) (t'.deleteWhere q) := by
  have rest : ∀ {o o' : List ρ} {t t' : KeyedTable ρ}, AgreeOn p o o' t t' → FreeKey o o' k →
      ((t.deleteWhere q).select fun r => !p r) = o := by
    intro o o' t t' h hk
    rw [← h.left]
    refine t.select_deleteWhere_other _ q fun r hr hpr => ?_
    cases hqr : q r with
    | false => rfl
    | true => simp [h.own_of_free hk hr (hq r hqr)] at hpr
  refine ⟨?_, rest h hk, rest h.swap hk.symm⟩
  rw [select_deleteWhere, select_deleteWhere, h.own]

variable [DecidableEq κ]

theorem find?_imp (h : AgreeOn p o o' t t') {k : κ} (hk : FreeKey o o' k) {r : ρ}
    (hr : t.find? k = some r) : r ∈ t.select p := by
  obtain ⟨hm, he⟩ := (t.find?_eq_some k r).mp hr
  exact mem_select.mpr ⟨hm, h.own_of_free hk hm he⟩

/-- A free key finds the same row in both tables. -/
theorem find?_eq (h : AgreeOn p o o' t t') {k : κ} (hk : FreeKey o o' k) :
    t.find? k = t'.find? k := by
  have key : ∀ {o o' : List ρ} {t t' : KeyedTable ρ}, AgreeOn p o o' t t' → FreeKey o o' k →
      ∀ r, t.find? k = some r → t'.find? k = some r := by
    intro o o' t t' h hk r hr
    have hm := h.find?_imp hk hr
    rw [h.own] at hm
    exact (t'.find?_eq_some k r).mpr ⟨(mem_select.mp hm).1, ((t.find?_eq_some k r).mp hr).2⟩
  cases hr : t.find? k with
  | some r => exact (key h hk r hr).symm
  | none =>
    cases hr' : t'.find? k with
    | none => rfl
    | some r =>
      rw [key h.swap hk.symm r hr'] at hr
      cases hr

/-- A row under `p` with a free key is inserted in both tables or in none. -/
theorem insert? (h : AgreeOn p o o' t t') {r : ρ} (hp : p r = true)
    (hk : FreeKey o o' (key r)) :
    (t.insert? r = none ∧ t'.insert? r = none) ∨
      ∃ u u', t.insert? r = some u ∧ t'.insert? r = some u' ∧ AgreeOn p o o' u u' := by
  have hfind := h.find?_eq hk
  cases hu : t.insert? r with
  | none =>
    left
    rw [insert?_eq_none, hfind, ← insert?_eq_none] at hu
    exact ⟨rfl, hu⟩
  | some u =>
    cases hu' : t'.insert? r with
    | none =>
      rw [insert?_eq_none, ← hfind, ← insert?_eq_none] at hu'
      rw [hu] at hu'
      cases hu'
    | some u' =>
      refine Or.inr ⟨u, u', rfl, rfl, ?_, ?_, ?_⟩
      · rw [select_insert? p hu, select_insert? p hu', h.own]
      · rw [select_insert? _ hu, h.left]
        simp [hp]
      · rw [select_insert? _ hu', h.right]
        simp [hp]

/-- An update under a free key that stays under `p` keeps every row on its side of `p`. -/
theorem keeps_side (h : AgreeOn p o o' t t') {k : κ} (hk : FreeKey o o' k) {f : ρ → ρ}
    (hp : ∀ r, p r = true → p (f r) = true) {r : ρ} (hr : r ∈ t.rows) :
    p (if key r = k then f r else r) = p r := by
  by_cases he : key r = k
  · have hpr := h.own_of_free hk hr he
    rw [if_pos he, hpr, hp r hpr]
  · rw [if_neg he]

theorem select_modify_own (h : AgreeOn p o o' t t') {k : κ} (hk : FreeKey o o' k) {f : ρ → ρ}
    (hf : ∀ r, key (f r) = key r) (hp : ∀ r, p r = true → p (f r) = true) :
    (t.modify k f hf).select p = (t.select p).map fun r => if key r = k then f r else r := by
  unfold select KeyedTable.modify
  rw [List.filter_map]
  congr 1
  exact List.filter_congr fun r hr => h.keeps_side hk hp hr

theorem select_modify_rest (h : AgreeOn p o o' t t') {k : κ} (hk : FreeKey o o' k) {f : ρ → ρ}
    (hf : ∀ r, key (f r) = key r) (hp : ∀ r, p r = true → p (f r) = true) :
    ((t.modify k f hf).select fun r => !p r) = o := by
  rw [← h.left]
  unfold select KeyedTable.modify
  rw [List.filter_map]
  have hside : t.rows.filter ((fun r => !p r) ∘ fun r => if key r = k then f r else r) =
      t.rows.filter fun r => !p r :=
    List.filter_congr fun r hr => congrArg (!·) (h.keeps_side hk hp hr)
  rw [hside]
  conv_rhs => rw [← List.map_id (t.rows.filter fun r => !p r)]
  refine List.map_congr_left fun r hr => ?_
  obtain ⟨hm, hpr⟩ := List.mem_filter.mp hr
  have he : key r ≠ k := fun he => by simp [h.own_of_free hk hm he] at hpr
  exact if_neg he

/-- An update under a free key that stays under `p`. -/
theorem modify (h : AgreeOn p o o' t t') {k : κ} (hk : FreeKey o o' k) {f : ρ → ρ}
    (hf : ∀ r, key (f r) = key r) (hp : ∀ r, p r = true → p (f r) = true) :
    AgreeOn p o o' (t.modify k f hf) (t'.modify k f hf) := by
  refine ⟨?_, h.select_modify_rest hk hf hp, h.swap.select_modify_rest hk.symm hf hp⟩
  rw [h.select_modify_own hk hf hp, h.swap.select_modify_own hk.symm hf hp, h.own]

end AgreeOn

end KeyedTable

/-! ## Rows under an auto-increment id -/

namespace AutoTable

variable {α : Type u}

/-- `t` and `t'` have the same rows under `p`, up to their ids; besides, `t` has the rows `o`
    and `t'` the rows `o'`, ids included. -/
structure AgreeOn (p : α → Bool) (o o' : List (Nat × α)) (t t' : AutoTable α) : Prop where
  own : t.select p = t'.select p
  left : (t.selectRows fun a => !p a) = o
  right : (t'.selectRows fun a => !p a) = o'

theorem select_of_le (t : AutoTable α) {p q : α → Bool} (h : ∀ a, q a = true → p a = true) :
    t.select q = (t.select p).filter q := by
  unfold select
  rw [List.filter_filter]
  refine List.filter_congr fun a _ => ?_
  cases hq : q a with
  | true => simp [h a hq]
  | false => rfl

namespace AgreeOn

variable {p : α → Bool} {o o' : List (Nat × α)} {t t' : AutoTable α}

theorem select_eq (h : AgreeOn p o o' t t') {q : α → Bool} (hq : ∀ a, q a = true → p a = true) :
    t.select q = t'.select q := by
  rw [t.select_of_le hq, t'.select_of_le hq, h.own]

/-- The rows of a clause, up to their ids. -/
theorem selectRows_eq (h : AgreeOn p o o' t t') {q : α → Bool}
    (hq : ∀ a, q a = true → p a = true) :
    (t.selectRows q).map Prod.snd = (t'.selectRows q).map Prod.snd := by
  rw [← select_eq_map_selectRows, ← select_eq_map_selectRows, h.select_eq hq]

theorem insert (h : AgreeOn p o o' t t') {a : α} (hp : p a = true) :
    AgreeOn p o o' (t.insert a) (t'.insert a) := by
  refine ⟨?_, ?_, ?_⟩
  · rw [select_insert, select_insert, h.own]
  · rw [selectRows_insert, h.left]
    simp [hp]
  · rw [selectRows_insert, h.right]
    simp [hp]

end AgreeOn

end AutoTable

end SentinelAI.Lib
