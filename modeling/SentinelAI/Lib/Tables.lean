import Mathlib.Data.List.Nodup
import Mathlib.Data.List.Sort

/-
  Tables. A `KeyedTable` holds rows no two of which share a primary key; an `AutoTable`
  holds rows under ids a counter hands out, in id order. Both carry their invariant as a
  field, so every state is one a database can be in.

  The second half of each section is what isolation arguments need: how an operation
  acts on `select p`, the rows a `WHERE` clause keeps.
-/

namespace SentinelAI.Lib

universe u v

/-! ## Rows under a primary key -/

/-- The primary key of a row. -/
class Keyed (ρ : Type u) (κ : outParam (Type v)) where
  key : ρ → κ

open Keyed

structure KeyedTable (ρ : Type u) {κ : Type v} [Keyed ρ κ] where
  rows : List ρ
  nodup : (rows.map key).Nodup

namespace KeyedTable

variable {ρ : Type u} {κ : Type v} [Keyed ρ κ]

def empty : KeyedTable ρ := ⟨[], List.nodup_nil⟩

/-- `SELECT … WHERE p`. -/
def select (t : KeyedTable ρ) (p : ρ → Bool) : List ρ := t.rows.filter p

/-- `DELETE … WHERE p`. -/
def deleteWhere (t : KeyedTable ρ) (p : ρ → Bool) : KeyedTable ρ :=
  ⟨t.rows.filter fun r => !p r, t.nodup.sublist (List.filter_sublist.map key)⟩

variable [DecidableEq κ]

/-- The row with a key. -/
def find? (t : KeyedTable ρ) (k : κ) : Option ρ := t.rows.find? fun r => key r = k

/-- `INSERT`; none is an integrity error, the key being taken. -/
def insert? (t : KeyedTable ρ) (r : ρ) : Option (KeyedTable ρ) :=
  if h : ∃ r' ∈ t.rows, key r' = key r then none
  else some ⟨t.rows ++ [r], by
    rw [List.map_append, List.nodup_append]
    refine ⟨t.nodup, List.nodup_singleton _, ?_⟩
    intro a ha b hb hab
    obtain ⟨r', hr', rfl⟩ := List.mem_map.mp ha
    rw [List.map_singleton, List.mem_singleton] at hb
    exact h ⟨r', hr', hab.trans hb⟩⟩

/-- `UPDATE … WHERE key = k`. The new columns do not include the key. -/
def modify (t : KeyedTable ρ) (k : κ) (f : ρ → ρ) (hf : ∀ r, key (f r) = key r) :
    KeyedTable ρ :=
  ⟨t.rows.map fun r => if key r = k then f r else r, by
    have e : (t.rows.map fun r => if key r = k then f r else r).map key = t.rows.map key := by
      rw [List.map_map]
      refine List.map_congr_left fun r _ => ?_
      by_cases h : key r = k <;> simp [h, hf]
    rw [e]
    exact t.nodup⟩

/-! ### Rows after an operation -/

omit [DecidableEq κ] in
theorem eq_of_key_eq (t : KeyedTable ρ) {r r' : ρ} (hr : r ∈ t.rows) (hr' : r' ∈ t.rows)
    (h : key r = key r') : r = r' :=
  List.inj_on_of_nodup_map t.nodup hr hr' h

theorem find?_eq_some (t : KeyedTable ρ) (k : κ) (r : ρ) :
    t.find? k = some r ↔ r ∈ t.rows ∧ key r = k := by
  constructor
  · intro h
    exact ⟨List.mem_of_find?_eq_some h, by simpa using List.find?_some h⟩
  · rintro ⟨hr, rfl⟩
    cases h : t.find? (key r) with
    | none =>
      have := List.find?_eq_none.mp h r hr
      simp at this
    | some r' =>
      have hk : key r' = key r := by simpa using List.find?_some h
      rw [t.eq_of_key_eq (List.mem_of_find?_eq_some h) hr hk]

/-- A row found by its key is the one the key's clause selects. -/
theorem filter_key (k : κ) : ∀ rows : List ρ, (rows.map key).Nodup →
    rows.filter (fun r => key r = k) = (rows.find? fun r => key r = k).toList
  | [], _ => rfl
  | r :: rows, h => by
      obtain ⟨hr, hrows⟩ := List.nodup_cons.mp h
      have ih := filter_key k rows hrows
      by_cases hk : key r = k
      · rw [List.filter_cons_of_pos (by simpa using hk), List.find?_cons_of_pos (by simpa using hk)]
        have hnone : rows.filter (fun r => key r = k) = [] := by
          refine List.filter_eq_nil_iff.mpr fun r' hr' he => hr ?_
          rw [hk, ← of_decide_eq_true he]
          exact List.mem_map_of_mem hr'
        rw [hnone]
        rfl
      · rw [List.filter_cons_of_neg (by simpa using hk), List.find?_cons_of_neg (by simpa using hk)]
        exact ih

/-- `WHERE p AND key = k`. -/
theorem select_key (t : KeyedTable ρ) (p q : ρ → Bool) (k : κ)
    (hq : ∀ r, q r = (p r && decide (key r = k))) :
    t.select q = ((t.find? k).filter p).toList := by
  unfold select find?
  have hq' : q = fun r => p r && decide (key r = k) := funext hq
  rw [hq', ← List.filter_filter, filter_key k t.rows t.nodup]
  cases t.rows.find? fun r => decide (key r = k) with
  | none => rfl
  | some r => cases hp : p r <;> simp [Option.filter, hp]

/-- The rows of a statement, the one under a key apart. -/
theorem select_apart (t : KeyedTable ρ) (p : ρ → Bool) (k : κ) :
    (t.select p).Perm
      ((t.select p).filter (fun r => key r ≠ k) ++ ((t.find? k).filter p).toList) := by
  have hself : (t.select p).filter (fun r => !decide (key r ≠ k)) =
      ((t.find? k).filter p).toList := by
    rw [← t.select_key p (fun r => p r && decide (key r = k)) k fun _ => rfl, select, select,
      List.filter_filter]
    refine List.filter_congr fun r _ => ?_
    rw [Bool.and_comm, decide_not, Bool.not_not]
  have hsplit := List.filter_append_perm (fun r => decide (key r ≠ k)) (t.select p)
  rw [hself] at hsplit
  exact hsplit.symm

/-- A clause that one row meets. -/
theorem select_eq_singleton (t : KeyedTable ρ) {p : ρ → Bool} {r : ρ} (hr : r ∈ t.rows)
    (hp : ∀ r' ∈ t.rows, p r' = true ↔ r' = r) : t.select p = [r] := by
  have hkey : t.rows.filter p = t.rows.filter fun r' => key r' = key r := by
    refine List.filter_congr fun r' hr' => ?_
    rw [Bool.eq_iff_iff, hp r' hr', decide_eq_true_iff]
    exact ⟨fun h => h ▸ rfl, t.eq_of_key_eq hr' hr⟩
  have hfind : t.find? (key r) = some r := (t.find?_eq_some _ _).mpr ⟨hr, rfl⟩
  unfold select
  rw [hkey, filter_key (key r) t.rows t.nodup]
  exact congrArg Option.toList hfind

theorem insert?_rows {t t' : KeyedTable ρ} {r : ρ} (h : t.insert? r = some t') :
    t'.rows = t.rows ++ [r] := by
  unfold insert? at h
  split at h
  · cases h
  · cases h
    rfl

theorem insert?_key_ne {t t' : KeyedTable ρ} {r : ρ} (h : t.insert? r = some t') :
    ∀ r' ∈ t.rows, key r' ≠ key r := by
  intro r' hr' hk
  unfold insert? at h
  rw [dif_pos ⟨r', hr', hk⟩] at h
  cases h

theorem insert?_fresh {t : KeyedTable ρ} {r : ρ} (h : ∀ r' ∈ t.rows, key r' ≠ key r) :
    ∃ t', t.insert? r = some t' := by
  have hn : ¬ ∃ r' ∈ t.rows, key r' = key r := by
    rintro ⟨r', hr', hk⟩
    exact h r' hr' hk
  unfold insert?
  rw [dif_neg hn]
  exact ⟨_, rfl⟩

/-- An insertion fails exactly when its key is found. -/
theorem insert?_eq_none {t : KeyedTable ρ} {r : ρ} :
    t.insert? r = none ↔ (t.find? (key r)).isSome := by
  rw [Option.isSome_iff_exists]
  constructor
  · intro hn
    by_contra hfree
    obtain ⟨u, hu⟩ := insert?_fresh (t := t) (r := r) fun r' hr' he =>
      hfree ⟨r', (t.find?_eq_some _ r').mpr ⟨hr', he⟩⟩
    rw [hn] at hu
    cases hu
  · rintro ⟨r', hr'⟩
    obtain ⟨hm, he⟩ := (t.find?_eq_some _ r').mp hr'
    cases hu : t.insert? r with
    | none => rfl
    | some u => exact absurd he (insert?_key_ne hu r' hm)

theorem mem_modify {t : KeyedTable ρ} {k : κ} {f : ρ → ρ} (hf : ∀ r, key (f r) = key r) {x : ρ} :
    x ∈ (t.modify k f hf).rows ↔
      (∃ r ∈ t.rows, key r = k ∧ x = f r) ∨ (x ∈ t.rows ∧ key x ≠ k) := by
  simp only [modify, List.mem_map]
  constructor
  · rintro ⟨r, hr, rfl⟩
    by_cases h : key r = k
    · exact Or.inl ⟨r, hr, h, by simp [h]⟩
    · exact Or.inr ⟨by simpa [h] using hr, by simp [h]⟩
  · rintro (⟨r, hr, h, rfl⟩ | ⟨hx, h⟩)
    · exact ⟨r, hr, by simp [h]⟩
    · exact ⟨x, hx, by simp [h]⟩

theorem find?_modify_self {t : KeyedTable ρ} {k : κ} {f : ρ → ρ}
    (hf : ∀ r, key (f r) = key r) {r : ρ} (h : t.find? k = some r) :
    (t.modify k f hf).find? k = some (f r) := by
  obtain ⟨hr, hk⟩ := (t.find?_eq_some k r).mp h
  exact (find?_eq_some _ _ _).mpr ⟨(mem_modify hf).mpr (Or.inl ⟨r, hr, hk, rfl⟩), by rw [hf, hk]⟩

theorem find?_modify_ne {t : KeyedTable ρ} {k k' : κ} {f : ρ → ρ}
    (hf : ∀ r, key (f r) = key r) (h : k' ≠ k) :
    (t.modify k f hf).find? k' = t.find? k' := by
  unfold find? modify
  rw [List.find?_map]
  have hp : ((fun r => decide (key r = k')) ∘ fun r => if key r = k then f r else r) =
      fun r => decide (key r = k') := by
    funext r
    by_cases hk : key r = k <;> simp [hk, hf]
  rw [hp]
  cases hr : t.rows.find? fun r => decide (key r = k') with
  | none => rfl
  | some r =>
    have hk' : key r = k' := by simpa using List.find?_some hr
    simp [hk', h]

/-- Where a row is found after its insertion; the other keys stay. -/
theorem find?_insert? {t t' : KeyedTable ρ} {r : ρ} (h : t.insert? r = some t') :
    t.find? (key r) = none ∧ t'.find? (key r) = some r ∧
      ∀ k, k ≠ key r → t'.find? k = t.find? k := by
  have hrows : t'.rows = t.rows ++ [r] := insert?_rows h
  have hnone : t.find? (key r) = none := by
    refine List.find?_eq_none.mpr fun r' hr' => ?_
    have hne : key r' ≠ key r := insert?_key_ne h r' hr'
    simpa using hne
  refine ⟨hnone, (find?_eq_some _ _ _).mpr ⟨?_, rfl⟩, fun k hk => ?_⟩
  · rw [hrows]
    exact List.mem_append_right _ (List.mem_singleton_self r)
  · have hlast : [r].find? (fun r => decide (key r = k)) = none := by
      have hne : key r ≠ k := fun he => hk he.symm
      simp [hne]
    unfold find?
    rw [hrows, List.find?_append, hlast, Option.or_none]

/-! ### What a `WHERE` clause keeps -/

theorem select_insert? {t t' : KeyedTable ρ} {r : ρ} (p : ρ → Bool) (h : t.insert? r = some t') :
    t'.select p = t.select p ++ (if p r then [r] else []) := by
  unfold select
  rw [insert?_rows h, List.filter_append]
  cases hp : p r <;> simp [List.filter, hp]

theorem length_select_insert? {t t' : KeyedTable ρ} {r : ρ} (p : ρ → Bool)
    (h : t.insert? r = some t') :
    (t'.select p).length = (t.select p).length + if p r = true then 1 else 0 := by
  rw [select_insert? p h, List.length_append]
  cases p r <;> rfl

/-- An update that keeps the clause's columns acts on the selected rows alone. -/
theorem select_modify (t : KeyedTable ρ) (k : κ) (f : ρ → ρ) (hf : ∀ r, key (f r) = key r)
    (p : ρ → Bool) (hp : ∀ r, p (f r) = p r) :
    (t.modify k f hf).select p = (t.select p).map fun r => if key r = k then f r else r := by
  unfold select modify
  rw [List.filter_map]
  have hc : (p ∘ fun r => if key r = k then f r else r) = p := by
    funext r
    by_cases hk : key r = k <;> simp [hk, hp]
  rw [hc]

/-- A statement that leaves the modified row out selects the same rows. -/
theorem select_modify_ne (t : KeyedTable ρ) (k : κ) (f : ρ → ρ) (hf : ∀ r, key (f r) = key r)
    (p : ρ → Bool) (hp : ∀ r, p (f r) = p r) (hk : ∀ r, p r = true → key r ≠ k) :
    (t.modify k f hf).select p = t.select p := by
  rw [select_modify t k f hf p hp]
  calc ((t.select p).map fun r => if key r = k then f r else r)
      = (t.select p).map id :=
        List.map_congr_left fun r hr => if_neg (hk r (List.mem_filter.mp hr).2)
    _ = t.select p := List.map_id _

omit [DecidableEq κ] in
theorem select_deleteWhere (t : KeyedTable ρ) (p q : ρ → Bool) :
    (t.deleteWhere q).select p = (t.select p).filter fun r => !q r := by
  unfold select deleteWhere
  rw [List.filter_filter, List.filter_filter]
  refine List.filter_congr fun r _ => ?_
  rw [Bool.and_comm]

omit [DecidableEq κ] in
theorem select_deleteWhere_other (t : KeyedTable ρ) (p q : ρ → Bool)
    (h : ∀ r ∈ t.rows, p r = true → q r = false) : (t.deleteWhere q).select p = t.select p := by
  rw [select_deleteWhere]
  refine List.filter_eq_self.mpr fun r hr => ?_
  obtain ⟨hm, hp⟩ := List.mem_filter.mp hr
  simp [h r hm hp]

omit [DecidableEq κ] in
theorem mem_select {t : KeyedTable ρ} {p : ρ → Bool} {r : ρ} :
    r ∈ t.select p ↔ r ∈ t.rows ∧ p r = true := List.mem_filter

end KeyedTable

/-! ## Rows under an auto-increment id -/

/-- Rows with the ids a counter gave them, in id order. -/
structure AutoTable (α : Type u) where
  rows : List (Nat × α)
  next : Nat
  sorted : (rows.map Prod.fst).Pairwise (· < ·)
  bound : ∀ r ∈ rows, r.1 < next

namespace AutoTable

variable {α : Type u}

def empty : AutoTable α := ⟨[], 0, List.Pairwise.nil, by simp⟩

/-- `INSERT`: the row takes the next id. -/
def insert (t : AutoTable α) (a : α) : AutoTable α where
  rows := t.rows ++ [(t.next, a)]
  next := t.next + 1
  sorted := by
    rw [List.map_append, List.pairwise_append]
    refine ⟨t.sorted, List.pairwise_singleton _ _, ?_⟩
    intro i hi j hj
    obtain ⟨r, hr, rfl⟩ := List.mem_map.mp hi
    rw [List.map_singleton, List.mem_singleton] at hj
    rw [hj]
    exact t.bound r hr
  bound := by
    intro r hr
    rcases List.mem_append.mp hr with hr | hr
    · exact Nat.lt_succ_of_lt (t.bound r hr)
    · rw [List.mem_singleton] at hr
      rw [hr]
      exact Nat.lt_succ_self _

/-- The rows a `WHERE` clause keeps, in id order, without their ids. -/
def select (t : AutoTable α) (p : α → Bool) : List α := (t.rows.map Prod.snd).filter p

/-- `SELECT … WHERE p ORDER BY id`, ids included. -/
def selectRows (t : AutoTable α) (p : α → Bool) : List (Nat × α) := t.rows.filter fun r => p r.2

/-- `DELETE … WHERE id = i`. -/
def deleteId (t : AutoTable α) (i : Nat) : AutoTable α where
  rows := t.rows.filter fun r => r.1 != i
  next := t.next
  sorted := t.sorted.sublist (List.filter_sublist.map _)
  bound := fun r hr => t.bound r (List.mem_of_mem_filter hr)

/-- `UPDATE … WHERE id = i`. -/
def modifyId (t : AutoTable α) (i : Nat) (f : α → α) : AutoTable α where
  rows := t.rows.map fun r => (r.1, if r.1 = i then f r.2 else r.2)
  next := t.next
  sorted := by
    rw [List.map_map]
    exact t.sorted
  bound := by
    intro r hr
    obtain ⟨r', hr', rfl⟩ := List.mem_map.mp hr
    exact t.bound r' hr'

/-- `UPDATE` of every row. -/
def map (t : AutoTable α) (f : α → α) : AutoTable α where
  rows := t.rows.map fun r => (r.1, f r.2)
  next := t.next
  sorted := by
    rw [List.map_map]
    exact t.sorted
  bound := by
    intro r hr
    obtain ⟨r', hr', rfl⟩ := List.mem_map.mp hr
    exact t.bound r' hr'

/-- The rows a view shows, under their ids. -/
def view {β : Type u} (t : AutoTable α) (p : α → Bool) (f : α → β) : AutoTable β where
  rows := (t.selectRows p).map fun r => (r.1, f r.2)
  next := t.next
  sorted := by
    rw [List.map_map]
    exact t.sorted.sublist (List.filter_sublist.map _)
  bound := by
    intro r hr
    obtain ⟨r', hr', rfl⟩ := List.mem_map.mp hr
    exact t.bound r' (List.mem_of_mem_filter hr')

@[simp] theorem insert_rows (t : AutoTable α) (a : α) :
    (t.insert a).rows = t.rows ++ [(t.next, a)] := rfl

theorem select_insert (t : AutoTable α) (a : α) (p : α → Bool) :
    (t.insert a).select p = t.select p ++ (if p a then [a] else []) := by
  unfold select
  rw [insert_rows, List.map_append, List.filter_append]
  cases hp : p a <;> simp [List.filter, hp]

theorem selectRows_insert (t : AutoTable α) (a : α) (p : α → Bool) :
    (t.insert a).selectRows p = t.selectRows p ++ (if p a then [(t.next, a)] else []) := by
  unfold selectRows
  rw [insert_rows, List.filter_append]
  cases hp : p a <;> simp [List.filter, hp]

/-- An update that keeps the clause's columns acts on the selected rows alone. -/
theorem select_map (t : AutoTable α) (f : α → α) (p : α → Bool) (hp : ∀ a, p (f a) = p a) :
    (t.map f).select p = (t.select p).map f := by
  unfold select map
  rw [List.map_map, List.filter_map, List.filter_map, List.map_map]
  have hc : p ∘ Prod.snd ∘ (fun r : Nat × α => (r.1, f r.2)) = p ∘ Prod.snd := by
    funext r
    exact hp r.2
  rw [hc]
  rfl

theorem select_view {β : Type u} (t : AutoTable α) (p : α → Bool) (f : α → β) (q : β → Bool) :
    (t.view p f).select q = ((t.select fun a => q (f a)).filter p).map f := by
  unfold select view selectRows
  rw [List.map_map, List.filter_map, List.filter_map, List.filter_map, List.filter_filter,
    List.filter_filter, List.map_map]
  congr 1
  refine List.filter_congr fun r _ => ?_
  exact Bool.and_comm ..

theorem select_eq_map_selectRows (t : AutoTable α) (p : α → Bool) :
    t.select p = (t.selectRows p).map Prod.snd := by
  unfold select selectRows
  rw [List.filter_map]
  rfl

end AutoTable

end SentinelAI.Lib
