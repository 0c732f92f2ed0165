import Mathlib.Logic.Function.Basic
import SentinelAI.Lib.Ddl

/-
  What statements that define data do to the rows. A row is its values by column; a database
  fits its catalogue when every row has the columns of its table, meets their `NOT NULL`, is
  told apart by every key and refers to rows that are there. A table altered within its keys,
  its rows with it, still fits (`Carries.fits`, `carries_alter`).
-/

namespace SentinelAI.Lib.Ddl

universe u v

open Keyed

variable {τ : Type u} {ν : Type v}

/-- The value of each column, none for `NULL`. -/
abbrev Row (ν : Type v) := List (String × Option ν)

def Row.get (r : Row ν) (x : String) : Option ν := (r.lookup x).join

structure Database (τ : Type u) (ν : Type v) where
  catalogue : Catalogue τ ν
  rows : String → List (Row ν)

/-- A new column has a value for the rows there are. -/
def Change.Fillable (rows : String → List (Row ν)) : Change τ ν → Prop
  | .addColumn table col =>
    col.nullable = true ∨ col.serverDefault.isSome = true ∨ (rows table).isEmpty = true
  | _ => True

instance (rows : String → List (Row ν)) : (ch : Change τ ν) → Decidable (ch.Fillable rows)
  | .addColumn _ _ => inferInstanceAs (Decidable (_ ∨ _))
  | .createTable _ => isTrue trivial
  | .dropTable _ => isTrue trivial
  | .dropColumn _ _ => isTrue trivial
  | .createIndex _ _ => isTrue trivial
  | .dropIndex _ _ => isTrue trivial

/-- The rows after a statement. -/
def Change.fill (rows : String → List (Row ν)) : Change τ ν → String → List (Row ν)
  | .createTable t => Function.update rows t.name []
  | .dropTable table => Function.update rows table []
  | .addColumn table col =>
    Function.update rows table ((rows table).map fun r => r ++ [(col.name, col.serverDefault)])
  | .dropColumn table column =>
    Function.update rows table ((rows table).map fun r => r.filter fun v => v.1 ≠ column)
  | .createIndex _ _ => rows
  | .dropIndex _ _ => rows

/-- What a statement makes of a database; none is an error. -/
def Change.apply (db : Database τ ν) (ch : Change τ ν) : Option (Database τ ν) :=
  if ch.Fillable db.rows then (ch.define db.catalogue).map fun c => ⟨c, ch.fill db.rows⟩ else none

def applyAll (db : Database τ ν) (script : List (Change τ ν)) : Option (Database τ ν) :=
  script.foldlM Change.apply db

/-- The script that takes a building script back, last statement first. -/
def undoAll? : List (Change τ ν) → Option (List (Change τ ν))
  | [] => some []
  | up :: script => do
    let downs ← undoAll? script
    let down ← up.undo?
    return downs ++ [down]

theorem apply_eq_some {db db' : Database τ ν} {ch : Change τ ν} : ch.apply db = some db' ↔
    ch.Fillable db.rows ∧ ch.define db.catalogue = some db'.catalogue ∧ db'.rows = ch.fill db.rows := by
  unfold Change.apply
  by_cases hfill : ch.Fillable db.rows
  · rw [if_pos hfill, Option.map_eq_some_iff]
    constructor
    · rintro ⟨c, hc, rfl⟩
      exact ⟨hfill, hc, rfl⟩
    · rintro ⟨-, hc, hrows⟩
      exact ⟨db'.catalogue, hc, by rw [← hrows]⟩
  · rw [if_neg hfill]
    constructor
    · intro h
      cases h
    · intro h
      exact absurd h.1 hfill

/-! ## The values of a row -/

theorem Row.get_append {r s : Row ν} {x : String} (hx : x ∈ r.map Prod.fst) :
    Row.get (r ++ s) x = r.get x := by
  unfold Row.get
  induction r with
  | nil => cases hx
  | cons v r ih =>
    rw [List.cons_append, List.lookup_cons, List.lookup_cons]
    by_cases hv : x = v.1
    · simp [hv]
    · have hne : (x == v.1) = false := beq_eq_false_iff_ne.mpr hv
      rw [List.map_cons, List.mem_cons] at hx
      simp only [hne]
      exact ih (hx.resolve_left hv)

theorem Row.get_append_self {r : Row ν} {x : String} {v : Option ν} (hx : x ∉ r.map Prod.fst) :
    Row.get (r ++ [(x, v)]) x = v := by
  unfold Row.get
  induction r with
  | nil => simp
  | cons w r ih =>
    rw [List.map_cons, List.mem_cons, not_or] at hx
    have hne : (x == w.1) = false := beq_eq_false_iff_ne.mpr hx.1
    rw [List.cons_append, List.lookup_cons]
    simp only [hne]
    exact ih hx.2

theorem Row.get_filter {r : Row ν} {x y : String} (h : x ≠ y) :
    Row.get (r.filter fun v => v.1 ≠ y) x = r.get x := by
  unfold Row.get
  induction r with
  | nil => rfl
  | cons v r ih =>
    by_cases hv : v.1 = y
    · have hne : (x == v.1) = false := beq_eq_false_iff_ne.mpr fun he => h (he.trans hv)
      rw [List.filter_cons_of_neg (by simpa using hv), ih, List.lookup_cons]
      simp only [hne]
    · rw [List.filter_cons_of_pos (by simpa using hv), List.lookup_cons, List.lookup_cons]
      by_cases hx : x = v.1
      · simp [hx]
      · have hne : (x == v.1) = false := beq_eq_false_iff_ne.mpr hx
        simp only [hne]
        exact ih

/-! ## Databases that fit their catalogue -/

/-- The row has the columns of the table, and a value where one is required. -/
structure RowFits (t : Table τ ν) (r : Row ν) : Prop where
  columns : r.map Prod.fst = t.columnNames
  notNull : ∀ col ∈ t.columns, col.nullable = false → r.get col.name ≠ none

instance [DecidableEq ν] (t : Table τ ν) (r : Row ν) : Decidable (RowFits t r) :=
  decidable_of_iff (r.map Prod.fst = t.columnNames ∧
      ∀ col ∈ t.columns, col.nullable = false → r.get col.name ≠ none)
    ⟨fun h => ⟨h.1, h.2⟩, fun h => ⟨h.columns, h.notNull⟩⟩

/-- A key tells two rows apart, unless it is `NULL` somewhere. -/
def Apart (columns : List String) (r r' : Row ν) : Prop :=
  (∃ x ∈ columns, r.get x = none) ∨ ∃ x ∈ columns, r.get x ≠ r'.get x

instance [DecidableEq ν] (columns : List String) (r r' : Row ν) :
    Decidable (Apart columns r r') := inferInstanceAs (Decidable (_ ∨ _))

structure Fits (db : Database τ ν) : Prop where
  rows : ∀ t ∈ db.catalogue.rows, ∀ r ∈ db.rows t.name, RowFits t r
  keys : ∀ t ∈ db.catalogue.rows, ∀ columns ∈ t.primaryKey :: t.uniques,
    (db.rows t.name).Pairwise (Apart columns)
  references : ∀ t ∈ db.catalogue.rows, ∀ fk ∈ t.foreignKeys, ∀ r ∈ db.rows t.name,
    r.get fk.column = none ∨ ∃ r' ∈ db.rows fk.table, r'.get fk.target = r.get fk.column
  elsewhere : ∀ name, db.catalogue.find? name = none → db.rows name = []

theorem Table.mem_keyColumns {t : Table τ ν} {columns : List String}
    (h : columns ∈ t.primaryKey :: t.uniques) {x : String} (hx : x ∈ columns) :
    x ∈ t.keyColumns := by
  unfold Table.keyColumns
  rw [List.append_assoc, List.mem_append, List.mem_append]
  obtain rfl | hu := List.mem_cons.mp h
  · exact Or.inl hx
  · exact Or.inr (Or.inl (List.mem_flatten_of_mem hu hx))

theorem Table.column_mem_keyColumns {t : Table τ ν} {fk : ForeignKey} (h : fk ∈ t.foreignKeys) :
    fk.column ∈ t.keyColumns :=
  List.mem_append_right _ (List.mem_map_of_mem h)

/-! ### Databases carried along -/

/-- Every table of the second database is one of the first with its keys, and its rows are
    those of the first with `h` done to them, which the keys do not see. -/
structure Carries (h : String → Row ν → Row ν) (db db' : Database τ ν) : Prop where
  rows : ∀ name, db'.rows name = (db.rows name).map (h name)
  tables : ∀ v ∈ db'.catalogue.rows, ∃ u ∈ db.catalogue.rows, v.name = u.name ∧
    v.primaryKey = u.primaryKey ∧ v.uniques = u.uniques ∧ v.foreignKeys = u.foreignKeys ∧
    ∀ r ∈ db.rows u.name, RowFits u r → RowFits v (h u.name r)
  gets : ∀ u ∈ db.catalogue.rows, ∀ r ∈ db.rows u.name, ∀ x ∈ u.keyColumns,
    (h u.name r).get x = r.get x
  found : ∀ name, db'.catalogue.find? name = none → db.catalogue.find? name = none

namespace Carries

variable {h : String → Row ν → Row ν} {db db' : Database τ ν}

theorem apart (hcar : Carries h db db') {u : Table τ ν} (hu : u ∈ db.catalogue.rows)
    {columns : List String} (hcolumns : columns ∈ u.primaryKey :: u.uniques) {r r' : Row ν}
    (hr : r ∈ db.rows u.name) (hr' : r' ∈ db.rows u.name) (hapart : Apart columns r r') :
    Apart columns (h u.name r) (h u.name r') := by
  have hsame : ∀ r ∈ db.rows u.name, ∀ x ∈ columns, (h u.name r).get x = r.get x :=
    fun r hr x hx => hcar.gets u hu r hr x (Table.mem_keyColumns hcolumns hx)
  obtain ⟨x, hx, hnull⟩ | ⟨x, hx, hne⟩ := hapart
  · exact Or.inl ⟨x, hx, (hsame r hr x hx).trans hnull⟩
  · refine Or.inr ⟨x, hx, ?_⟩
    rw [hsame r hr x hx, hsame r' hr' x hx]
    exact hne

/-- The row a foreign key refers to is still the one. -/
theorem target (hcar : Carries h db db') (hc : Sound db.catalogue) {u : Table τ ν}
    (hu : u ∈ db.catalogue.rows) {fk : ForeignKey} (hfk : fk ∈ u.foreignKeys) {r : Row ν}
    (hr : r ∈ db.rows fk.table) : (h fk.table r).get fk.target = r.get fk.target := by
  have hresolves := (hc u hu).2 fk hfk
  obtain ⟨w, hw⟩ := Option.isSome_iff_exists.mp hresolves.isSome
  obtain ⟨hwm, hwname⟩ := (db.catalogue.find?_eq_some _ w).mp hw
  unfold Resolves at hresolves
  rw [hw] at hresolves
  have hprimary : w.primaryKey = [fk.target] := Option.some.inj hresolves
  have htarget : fk.target ∈ w.keyColumns :=
    Table.mem_keyColumns List.mem_cons_self (by rw [hprimary]; exact List.mem_cons_self)
  have hwn : w.name = fk.table := hwname
  rw [← hwn] at hr ⊢
  exact hcar.gets w hwm r hr fk.target htarget

theorem fits (hcar : Carries h db db') (hc : Sound db.catalogue) (hdb : Fits db) : Fits db' := by
  constructor
  · intro v hv r hr
    obtain ⟨u, hu, hvu, -, -, -, hfit⟩ := hcar.tables v hv
    rw [hcar.rows, hvu, List.mem_map] at hr
    obtain ⟨r₀, hr₀, rfl⟩ := hr
    exact hfit r₀ hr₀ (hdb.rows u hu r₀ hr₀)
  · intro v hv columns hcolumns
    obtain ⟨u, hu, hvu, hpk, huq, -, -⟩ := hcar.tables v hv
    rw [hpk, huq] at hcolumns
    rw [hcar.rows, hvu, List.pairwise_map]
    exact (hdb.keys u hu columns hcolumns).imp_of_mem fun hr hr' => hcar.apart hu hcolumns hr hr'
  · intro v hv fk hfk r hr
    obtain ⟨u, hu, hvu, -, -, hfks, -⟩ := hcar.tables v hv
    rw [hfks] at hfk
    rw [hcar.rows, hvu, List.mem_map] at hr
    obtain ⟨r₀, hr₀, rfl⟩ := hr
    rw [hcar.gets u hu r₀ hr₀ fk.column (Table.column_mem_keyColumns hfk)]
    refine (hdb.references u hu fk hfk r₀ hr₀).imp_right ?_
    rintro ⟨r', hr', heq⟩
    refine ⟨h fk.table r', ?_, (hcar.target hc hu hfk hr').trans heq⟩
    rw [hcar.rows]
    exact List.mem_map_of_mem hr'
  · intro name hnone
    rw [hcar.rows, hdb.elsewhere name (hcar.found name hnone)]
    rfl

end Carries

/-- A table altered within its keys, its rows with it. -/
theorem carries_alter {db : Database τ ν} {table : String} {t : Table τ ν}
    (f : Table τ ν → Table τ ν) (hf : ∀ t, (f t).name = t.name) (g : Row ν → Row ν)
    (hfind : db.catalogue.find? table = some t) (hprimary : ∀ u, (f u).primaryKey = u.primaryKey)
    (huniques : ∀ u, (f u).uniques = u.uniques)
    (hforeign : ∀ u, (f u).foreignKeys = u.foreignKeys)
    (hrow : ∀ r ∈ db.rows table, RowFits t r → RowFits (f t) (g r))
    (hget : ∀ r ∈ db.rows table, ∀ x ∈ t.keyColumns, (g r).get x = r.get x) :
    Carries (fun name => if name = table then g else id) db
      ⟨db.catalogue.modify table f hf,
        Function.update db.rows table ((db.rows table).map g)⟩ := by
  obtain ⟨ht, hname⟩ := (db.catalogue.find?_eq_some table t).mp hfind
  constructor
  · intro name
    dsimp only
    by_cases he : name = table
    · rw [he, Function.update_self, if_pos rfl]
    · rw [Function.update_of_ne he, if_neg he, List.map_id]
  · intro v hv
    obtain ⟨u, hu, hut, rfl⟩ | ⟨hv, hne⟩ := (KeyedTable.mem_modify hf).mp hv
    · obtain rfl : u = t := db.catalogue.eq_of_key_eq hu ht (hut.trans hname.symm)
      have hu' : u.name = table := hut
      refine ⟨u, hu, hf u, hprimary u, huniques u, hforeign u, fun r hr hfit => ?_⟩
      rw [if_pos hu']
      exact hrow r (hu' ▸ hr) hfit
    · refine ⟨v, hv, rfl, rfl, rfl, rfl, fun r hr hfit => ?_⟩
      rw [if_neg (show v.name ≠ table from hne)]
      exact hfit
  · intro u hu r hr x hx
    by_cases he : u.name = table
    · obtain rfl : u = t := db.catalogue.eq_of_key_eq hu ht (he.trans hname.symm)
      rw [if_pos he]
      exact hget r (he ▸ hr) x hx
    · rw [if_neg he]
      rfl
  · intro name hnone
    by_cases he : name = table
    · have hsome := KeyedTable.find?_modify_self hf hfind
      rw [he] at hnone
      rw [hnone] at hsome
      cases hsome
    · rw [← KeyedTable.find?_modify_ne hf he]
      exact hnone

end SentinelAI.Lib.Ddl
