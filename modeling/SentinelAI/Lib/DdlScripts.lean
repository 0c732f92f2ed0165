import SentinelAI.Lib.DdlRows

/-
  Statements and scripts over a database. A statement that goes through leaves a database that
  fits its catalogue (`Fits.apply`), a building statement undone leaves the database as it was,
  rows included (`undo_apply`), and so do scripts (`Fits.applyAll`, `undo_applyAll`).
-/

namespace SentinelAI.Lib.Ddl

universe u v

open Keyed

variable {τ : Type u} {ν : Type v}

/-! ## One statement -/

section Apply

variable {db db' : Database τ ν} {ch : Change τ ν}

/-- A statement that leaves rows and keys alone. -/
theorem fits_alter_same (hc : Sound db.catalogue) (hdb : Fits db) {table : String} {t : Table τ ν}
    {f : Table τ ν → Table τ ν} {hf : ∀ t, (f t).name = t.name}
    (hfind : db.catalogue.find? table = some t) (hcolumns : ∀ u, (f u).columns = u.columns)
    (hprimary : ∀ u, (f u).primaryKey = u.primaryKey) (huniques : ∀ u, (f u).uniques = u.uniques)
    (hforeign : ∀ u, (f u).foreignKeys = u.foreignKeys) :
    Fits ⟨db.catalogue.modify table f hf, db.rows⟩ := by
  have hcar := carries_alter f hf id hfind hprimary huniques hforeign
    (fun r _ hfit => ⟨by
      unfold Table.columnNames
      rw [hcolumns]
      exact hfit.columns, by
      rw [hcolumns]
      exact hfit.notNull⟩) fun _ _ _ _ => rfl
  have hfits := hcar.fits hc hdb
  rwa [List.map_id, Function.update_eq_self] at hfits

theorem fits_addColumn (hc : Sound db.catalogue) (hdb : Fits db) {table : String} {col : Column τ ν}
    (h : (Change.addColumn table col).apply db = some db') : Fits db' := by
  obtain ⟨hfill, hdefine, hrows⟩ := apply_eq_some.mp h
  obtain ⟨t, hfind, hok, hcat⟩ := alter_eq_some.mp hdefine
  obtain ⟨ht, hname⟩ := (db.catalogue.find?_eq_some table t).mp hfind
  have hfresh : col.name ∉ t.columnNames := of_decide_eq_true hok
  obtain ⟨⟨-, hmentions⟩, -⟩ := hc t ht
  have hfit : ∀ r ∈ db.rows table, RowFits t r := fun r hr =>
    hdb.rows t ht r ((show t.name = table from hname).symm ▸ hr)
  have hcar := carries_alter (fun u => { u with columns := u.columns ++ [col] }) (fun _ => rfl)
    (fun r => r ++ [(col.name, col.serverDefault)]) hfind (fun _ => rfl) (fun _ => rfl)
    (fun _ => rfl) (fun r hr hr' => ?_) (fun r hr x hx => ?_)
  · have hdb' : db' = ⟨_, _⟩ := congrArg₂ Database.mk hcat hrows
    rw [hdb']
    exact hcar.fits hc hdb
  · constructor
    · rw [List.map_append, hr'.columns, Table.columnNames_add]
      rfl
    · intro c hcmem hnull
      obtain hold | hnew := List.mem_append.mp hcmem
      · have hx : c.name ∈ r.map Prod.fst := by
          rw [hr'.columns]
          exact List.mem_map_of_mem hold
        rw [Row.get_append hx]
        exact hr'.notNull c hold hnull
      · obtain rfl := List.mem_singleton.mp hnew
        have hx : c.name ∉ r.map Prod.fst := by
          rw [hr'.columns]
          exact hfresh
        rw [Row.get_append_self hx]
        obtain hnullable | hdefault | hempty := hfill
        · rw [hnull] at hnullable
          cases hnullable
        · exact Option.isSome_iff_ne_none.mp hdefault
        · rw [List.isEmpty_iff.mp hempty] at hr
          cases hr
  · have hx' : x ∈ r.map Prod.fst := by
      rw [(hfit r hr).columns]
      exact hmentions x (List.mem_append_left _ hx)
    exact Row.get_append hx'

theorem fits_dropColumn (hc : Sound db.catalogue) (hdb : Fits db) {table column : String}
    (h : (Change.dropColumn table column).apply db = some db') : Fits db' := by
  obtain ⟨-, hdefine, hrows⟩ := apply_eq_some.mp h
  obtain ⟨t, hfind, hok, hcat⟩ := alter_eq_some.mp hdefine
  obtain ⟨-, hunused⟩ := of_decide_eq_true hok
  have hcar := carries_alter
    (fun u => { u with columns := u.columns.filter fun col => col.name ≠ column }) (fun _ => rfl)
    (fun r => r.filter fun v => v.1 ≠ column) hfind (fun _ => rfl) (fun _ => rfl)
    (fun _ => rfl) (fun r hr hr' => ?_) (fun r hr x hx => ?_)
  · have hdb' : db' = ⟨_, _⟩ := congrArg₂ Database.mk hcat hrows
    rw [hdb']
    exact hcar.fits hc hdb
  · constructor
    · have hmap := congrArg (List.filter fun x => x ≠ column) hr'.columns
      unfold Table.columnNames at hmap
      rw [List.filter_map, List.filter_map] at hmap
      exact hmap
    · intro c hcmem hnull
      obtain ⟨hold, hne⟩ := List.mem_filter.mp hcmem
      rw [Row.get_filter (of_decide_eq_true hne)]
      exact hr'.notNull c hold hnull
  · refine Row.get_filter ?_
    rintro rfl
    exact hunused (List.mem_append_left _ hx)

theorem fits_createTable (hdb : Fits db) {t : Table τ ν}
    (h : (Change.createTable t).apply db = some db') : Fits db' := by
  obtain ⟨-, hdefine, hrows⟩ := apply_eq_some.mp h
  rw [Change.define] at hdefine
  by_cases hok : t.WellFormed ∧ t.indexes = [] ∧ ∀ fk ∈ t.foreignKeys, Resolves db.catalogue fk
  · rw [if_pos hok] at hdefine
    obtain ⟨hfree, -, hothers⟩ := KeyedTable.find?_insert? hdefine
    have hnone : db.rows t.name = [] := hdb.elsewhere t.name hfree
    have hsame : db'.rows = db.rows := by
      rw [hrows]
      exact (Function.update_eq_self_iff (f := db.rows)).mpr hnone.symm
    have hcases : ∀ u ∈ db'.catalogue.rows, u ∈ db.catalogue.rows ∨ u = t := by
      intro u hu
      rw [KeyedTable.insert?_rows hdefine, List.mem_append, List.mem_singleton] at hu
      exact hu
    constructor
    · intro u hu r hr
      rw [hsame] at hr
      obtain hu | rfl := hcases u hu
      · exact hdb.rows u hu r hr
      · rw [hnone] at hr
        cases hr
    · intro u hu columns hcolumns
      rw [hsame]
      obtain hu | rfl := hcases u hu
      · exact hdb.keys u hu columns hcolumns
      · rw [hnone]
        exact List.Pairwise.nil
    · intro u hu fk hfk r hr
      rw [hsame] at hr ⊢
      obtain hu | rfl := hcases u hu
      · exact hdb.references u hu fk hfk r hr
      · rw [hnone] at hr
        cases hr
    · intro name hname
      rw [hsame]
      by_cases he : name = t.name
      · rw [he]
        exact hnone
      · refine hdb.elsewhere name ?_
        rw [← hothers name he]
        exact hname
  · rw [if_neg hok] at hdefine
    cases hdefine

theorem fits_dropTable (hdb : Fits db) {table : String}
    (h : (Change.dropTable table).apply db = some db') : Fits db' := by
  obtain ⟨-, hdefine, hrows⟩ := apply_eq_some.mp h
  rw [Change.define] at hdefine
  by_cases hok : (db.catalogue.find? table).isSome ∧
      ∀ t ∈ db.catalogue.rows, t.name ≠ table → ∀ fk ∈ t.foreignKeys, fk.table ≠ table
  · rw [if_pos hok] at hdefine
    have hcat : db'.catalogue = db.catalogue.deleteWhere fun t => t.name = table :=
      (Option.some.inj hdefine).symm
    have hmem : ∀ u ∈ db'.catalogue.rows, u ∈ db.catalogue.rows ∧ u.name ≠ table := by
      intro u hu
      rw [hcat] at hu
      obtain ⟨hu, hne⟩ := List.mem_filter.mp hu
      exact ⟨hu, by simpa using hne⟩
    have hsame : ∀ name, name ≠ table → db'.rows name = db.rows name := by
      intro name hne
      rw [hrows]
      exact Function.update_of_ne hne _ _
    constructor
    · intro u hu r hr
      obtain ⟨hu, hne⟩ := hmem u hu
      rw [hsame u.name hne] at hr
      exact hdb.rows u hu r hr
    · intro u hu columns hcolumns
      obtain ⟨hu, hne⟩ := hmem u hu
      rw [hsame u.name hne]
      exact hdb.keys u hu columns hcolumns
    · intro u hu fk hfk r hr
      obtain ⟨hu, hne⟩ := hmem u hu
      rw [hsame u.name hne] at hr
      rw [hsame fk.table (hok.2 u hu hne fk hfk)]
      exact hdb.references u hu fk hfk r hr
    · intro name hname
      by_cases he : name = table
      · rw [hrows, he]
        exact Function.update_self _ _ _
      · rw [hsame name he]
        refine hdb.elsewhere name ?_
        cases hfind : db.catalogue.find? name with
        | none => rfl
        | some u =>
          obtain ⟨hu, hk⟩ := (db.catalogue.find?_eq_some name u).mp hfind
          have hkept : u ∈ db'.catalogue.rows := by
            rw [hcat]
            have hne : u.name ≠ table := fun hut => he ((show u.name = name from hk) ▸ hut)
            exact List.mem_filter.mpr ⟨hu, by simpa using hne⟩
          rw [(db'.catalogue.find?_eq_some name u).mpr ⟨hkept, hk⟩] at hname
          cases hname
  · rw [if_neg hok] at hdefine
    cases hdefine

/-- A statement that goes through leaves a database that fits its catalogue. -/
theorem Fits.apply (hc : Sound db.catalogue) (hdb : Fits db) (h : ch.apply db = some db') :
    Fits db' := by
  cases ch with
  | createTable t => exact fits_createTable hdb h
  | dropTable table => exact fits_dropTable hdb h
  | addColumn table col => exact fits_addColumn hc hdb h
  | dropColumn table column => exact fits_dropColumn hc hdb h
  | createIndex table i =>
    obtain ⟨-, hdefine, hrows⟩ := apply_eq_some.mp h
    rw [Change.define] at hdefine
    split at hdefine
    · obtain ⟨t, hfind, -, hcat⟩ := alter_eq_some.mp hdefine
      have hdb' : db' = ⟨_, _⟩ := congrArg₂ Database.mk hcat hrows
      rw [hdb']
      exact fits_alter_same hc hdb hfind (fun _ => rfl) (fun _ => rfl) (fun _ => rfl) fun _ => rfl
    · cases hdefine
  | dropIndex table index =>
    obtain ⟨-, hdefine, hrows⟩ := apply_eq_some.mp h
    obtain ⟨t, hfind, -, hcat⟩ := alter_eq_some.mp hdefine
    have hdb' : db' = ⟨_, _⟩ := congrArg₂ Database.mk hcat hrows
    rw [hdb']
    exact fits_alter_same hc hdb hfind (fun _ => rfl) (fun _ => rfl) (fun _ => rfl) fun _ => rfl

end Apply

/-! ## Scripts -/

section Scripts

variable {db db' : Database τ ν} {script downs : List (Change τ ν)}

/-- The rows a building statement leaves are given back by its counterpart. -/
theorem undo_fill (hdb : Fits db) {up down : Change τ ν} {c : Catalogue τ ν}
    (hundo : up.undo? = some down) (h : up.define db.catalogue = some c) :
    down.fill (up.fill db.rows) = db.rows := by
  cases up with
  | createTable t =>
    cases hundo
    rw [Change.define] at h
    split at h
    · have hnone : db.rows t.name = [] := hdb.elsewhere t.name (KeyedTable.find?_insert? h).1
      rw [Change.fill, Change.fill, Function.update_idem]
      exact (Function.update_eq_self_iff (f := db.rows)).mpr hnone.symm
    · cases h
  | addColumn table col =>
    cases hundo
    obtain ⟨t, hfind, hok, -⟩ := alter_eq_some.mp h
    obtain ⟨ht, hname⟩ := (db.catalogue.find?_eq_some table t).mp hfind
    have hname' : t.name = table := hname
    have hfresh : col.name ∉ t.columnNames := of_decide_eq_true hok
    have hback : ∀ r ∈ db.rows table,
        (r ++ [(col.name, col.serverDefault)]).filter (fun v => v.1 ≠ col.name) = r := by
      intro r hr
      have hcolumns := (hdb.rows t ht r (hname'.symm ▸ hr)).columns
      have hkeep : ∀ v ∈ r, v.1 ≠ col.name := by
        intro v hv he
        exact hfresh (hcolumns ▸ he ▸ List.mem_map_of_mem hv)
      rw [List.filter_append, List.filter_eq_self.mpr fun v hv => by simpa using hkeep v hv]
      simp
    rw [Change.fill, Change.fill, Function.update_self, Function.update_idem, List.map_map]
    refine (congrArg (Function.update db.rows table) ?_).trans (Function.update_eq_self _ _)
    exact (List.map_congr_left hback).trans (List.map_id _)
  | createIndex table i =>
    cases hundo
    rfl
  | dropTable table => cases hundo
  | dropColumn table column => cases hundo
  | dropIndex table index => cases hundo

theorem fillable_undo {up down : Change τ ν} (hundo : up.undo? = some down)
    (rows : String → List (Row ν)) : down.Fillable rows := by
  cases up with
  | createTable t =>
    cases hundo
    trivial
  | addColumn table col =>
    cases hundo
    trivial
  | createIndex table i =>
    cases hundo
    trivial
  | dropTable table => cases hundo
  | dropColumn table column => cases hundo
  | dropIndex table index => cases hundo

theorem fillable_undoAll (hundo : undoAll? script = some downs) :
    ∀ ch ∈ downs, ∀ rows : String → List (Row ν), ch.Fillable rows := by
  induction script generalizing downs with
  | nil =>
    cases hundo
    exact fun ch hch => absurd hch List.not_mem_nil
  | cons up script ih =>
    obtain ⟨rest, hrest, hundo⟩ := Option.bind_eq_some_iff.mp hundo
    obtain ⟨down, hdown, hundo⟩ := Option.bind_eq_some_iff.mp hundo
    cases hundo
    intro ch hch rows
    obtain hch | hch := List.mem_append.mp hch
    · exact ih hrest ch hch rows
    · rw [List.mem_singleton.mp hch]
      exact fillable_undo hdown rows

/-- A building statement undone leaves the database as it was. -/
theorem undo_apply (hc : Sound db.catalogue) (hdb : Fits db) {up down : Change τ ν}
    (hundo : up.undo? = some down) (h : up.apply db = some db') : down.apply db' = some db := by
  obtain ⟨-, hdefine, hrows⟩ := apply_eq_some.mp h
  refine apply_eq_some.mpr ⟨fillable_undo hundo _, undo_define hc hundo hdefine, ?_⟩
  rw [hrows]
  exact (undo_fill hdb hundo hdefine).symm

theorem applyAll_cons {ch : Change τ ν} : applyAll db (ch :: script) = some db' ↔
    ∃ db₁, ch.apply db = some db₁ ∧ applyAll db₁ script = some db' := by
  unfold applyAll
  rw [List.foldlM_cons]
  exact Option.bind_eq_some_iff

/-- A script that goes through keeps a database sound and fitting. -/
theorem Fits.applyAll (hc : Sound db.catalogue) (hdb : Fits db)
    (h : applyAll db script = some db') : Sound db'.catalogue ∧ Fits db' := by
  induction script generalizing db with
  | nil =>
    cases h
    exact ⟨hc, hdb⟩
  | cons ch script ih =>
    obtain ⟨db₁, hfirst, hrest⟩ := applyAll_cons.mp h
    exact ih (hc.define (apply_eq_some.mp hfirst).2.1) (hdb.apply hc hfirst) hrest

/-- A building script undone leaves the database as it was, rows included. -/
theorem undo_applyAll (hc : Sound db.catalogue) (hdb : Fits db)
    (hundo : undoAll? script = some downs) (h : applyAll db script = some db') :
    applyAll db' downs = some db := by
  induction script generalizing db downs with
  | nil =>
    cases hundo
    cases h
    rfl
  | cons up script ih =>
    obtain ⟨rest, hrest, hundo⟩ := Option.bind_eq_some_iff.mp hundo
    obtain ⟨down, hdown, hundo⟩ := Option.bind_eq_some_iff.mp hundo
    cases hundo
    obtain ⟨db₁, hfirst, hscript⟩ := applyAll_cons.mp h
    have hback := ih (hc.define (apply_eq_some.mp hfirst).2.1) (hdb.apply hc hfirst) hrest hscript
    unfold Ddl.applyAll at hback ⊢
    rw [List.foldlM_append, hback]
    exact applyAll_cons.mpr ⟨db, undo_apply hc hdb hdown hfirst, rfl⟩

/-- A script none of whose new columns needs a value goes through where its definitions do. -/
theorem applyAll_of_defineAll {c : Catalogue τ ν}
    (hfill : ∀ ch ∈ script, ∀ rows : String → List (Row ν), ch.Fillable rows)
    (h : defineAll db.catalogue script = some c) :
    ∃ db', applyAll db script = some db' ∧ db'.catalogue = c := by
  induction script generalizing db with
  | nil =>
    cases h
    exact ⟨db, rfl, rfl⟩
  | cons ch script ih =>
    obtain ⟨hch, hscript⟩ := List.forall_mem_cons.mp hfill
    unfold defineAll at h
    rw [List.foldlM_cons] at h
    obtain ⟨c₁, hfirst, hrest⟩ := Option.bind_eq_some_iff.mp h
    have happly : ch.apply db = some ⟨c₁, ch.fill db.rows⟩ :=
      apply_eq_some.mpr ⟨hch db.rows, hfirst, rfl⟩
    obtain ⟨db', hdb', hc⟩ := @ih ⟨c₁, ch.fill db.rows⟩ hscript hrest
    exact ⟨db', applyAll_cons.mpr ⟨_, happly, hdb'⟩, hc⟩

end Scripts

end SentinelAI.Lib.Ddl
