import SentinelAI.Lib.Tables

/-
  Statements that define data. A catalogue holds the tables of a database, each with its
  columns, keys and indexes. A statement goes through or fails; one that goes through keeps the
  catalogue sound (`Sound.define`). A statement that builds (`CREATE`, `ADD COLUMN`) has a
  counterpart that takes its work back and leaves the catalogue as it was (`undo_define`).
-/

namespace SentinelAI.Lib.Ddl

universe u v

open Keyed

/-! ## Tables and statements -/

structure Column (τ : Type u) (ν : Type v) where
  name : String
  type : τ
  nullable : Bool
  serverDefault : Option ν
  deriving DecidableEq

/-- A column of this table refers to a key of another. -/
structure ForeignKey where
  column : String
  table : String
  target : String
  deriving DecidableEq

structure Index where
  name : String
  columns : List String
  deriving DecidableEq

structure Table (τ : Type u) (ν : Type v) where
  name : String
  columns : List (Column τ ν)
  primaryKey : List String
  uniques : List (List String)
  foreignKeys : List ForeignKey
  indexes : List Index
  deriving DecidableEq

variable {τ : Type u} {ν : Type v}

instance : Keyed (Table τ ν) String := ⟨Table.name⟩

abbrev Catalogue (τ : Type u) (ν : Type v) := KeyedTable (Table τ ν)

namespace Table

variable (t : Table τ ν)

def columnNames : List String := t.columns.map Column.name

/-- The columns the constraints read. -/
def keyColumns : List String :=
  t.primaryKey ++ t.uniques.flatten ++ t.foreignKeys.map ForeignKey.column

/-- The columns the constraints and the indexes read. -/
def mentions : List String := t.keyColumns ++ t.indexes.flatMap Index.columns

/-- One column under a name, and no constraint or index on a column there is not. -/
def WellFormed : Prop := t.columnNames.Nodup ∧ ∀ x ∈ t.mentions, x ∈ t.columnNames

instance : Decidable t.WellFormed := inferInstanceAs (Decidable (_ ∧ _))

end Table

inductive Change (τ : Type u) (ν : Type v) where
  | createTable (t : Table τ ν)
  | dropTable (table : String)
  | addColumn (table : String) (c : Column τ ν)
  | dropColumn (table column : String)
  | createIndex (table : String) (i : Index)
  | dropIndex (table index : String)
  deriving DecidableEq

/-- The key a foreign key refers to is there. -/
def Resolves (c : Catalogue τ ν) (fk : ForeignKey) : Prop :=
  (c.find? fk.table).map Table.primaryKey = some [fk.target]

instance (c : Catalogue τ ν) (fk : ForeignKey) : Decidable (Resolves c fk) :=
  inferInstanceAs (Decidable (_ = _))

/-- `ALTER TABLE`, where the table is there and allows it. -/
def alter (c : Catalogue τ ν) (table : String) (ok : Table τ ν → Bool)
    (f : Table τ ν → Table τ ν) (hf : ∀ t, (f t).name = t.name) : Option (Catalogue τ ν) :=
  match c.find? table with
  | some t => if ok t then some (c.modify table f hf) else none
  | none => none

/-- What a statement makes of the catalogue; none is an error. -/
def Change.define (c : Catalogue τ ν) : Change τ ν → Option (Catalogue τ ν)
  | .createTable t =>
    if t.WellFormed ∧ t.indexes = [] ∧ ∀ fk ∈ t.foreignKeys, Resolves c fk then c.insert? t else none
  | .dropTable table =>
    if (c.find? table).isSome ∧
        ∀ t ∈ c.rows, t.name ≠ table → ∀ fk ∈ t.foreignKeys, fk.table ≠ table then
      some (c.deleteWhere fun t => t.name = table)
    else none
  | .addColumn table col =>
    alter c table (fun t => col.name ∉ t.columnNames)
      (fun t => { t with columns := t.columns ++ [col] }) fun _ => rfl
  | .dropColumn table column =>
    alter c table (fun t => column ∈ t.columnNames ∧ column ∉ t.mentions)
      (fun t => { t with columns := t.columns.filter fun col => col.name ≠ column }) fun _ => rfl
  | .createIndex table i =>
    if ∀ t ∈ c.rows, ∀ j ∈ t.indexes, j.name ≠ i.name then
      alter c table (fun t => ∀ x ∈ i.columns, x ∈ t.columnNames)
        (fun t => { t with indexes := t.indexes ++ [i] }) fun _ => rfl
    else none
  | .dropIndex table index =>
    alter c table (fun t => index ∈ t.indexes.map Index.name)
      (fun t => { t with indexes := t.indexes.filter fun i => i.name ≠ index }) fun _ => rfl

/-- The statement that takes back what this one builds. -/
def Change.undo? : Change τ ν → Option (Change τ ν)
  | .createTable t => some (.dropTable t.name)
  | .addColumn table col => some (.dropColumn table col.name)
  | .createIndex table i => some (.dropIndex table i.name)
  | _ => none

/-- The statements of a script, in order. -/
def defineAll (c : Catalogue τ ν) (script : List (Change τ ν)) : Option (Catalogue τ ν) :=
  script.foldlM Change.define c

/-! ## Sound catalogues -/

/-- Every table is well formed, and every foreign key refers to a key that is there. -/
def Sound (c : Catalogue τ ν) : Prop :=
  ∀ t ∈ c.rows, t.WellFormed ∧ ∀ fk ∈ t.foreignKeys, Resolves c fk

theorem catalogue_ext {c c' : Catalogue τ ν} (h : c.rows = c'.rows) : c = c' := by
  cases c
  cases c'
  cases h
  rfl

theorem Resolves.isSome {c : Catalogue τ ν} {fk : ForeignKey} (h : Resolves c fk) :
    (c.find? fk.table).isSome := by
  unfold Resolves at h
  cases hfind : c.find? fk.table with
  | none =>
    rw [hfind] at h
    cases h
  | some t => rfl

section Alter

variable {c c' : Catalogue τ ν} {table : String} {ok ok' : Table τ ν → Bool}
  {f g : Table τ ν → Table τ ν} {hf : ∀ t, (f t).name = t.name} {hg : ∀ t, (g t).name = t.name}

theorem alter_eq_some : alter c table ok f hf = some c' ↔
    ∃ t, c.find? table = some t ∧ ok t = true ∧ c' = c.modify table f hf := by
  unfold alter
  cases hfind : c.find? table with
  | none =>
    constructor
    · intro h
      cases h
    · rintro ⟨t, ht, -⟩
      cases ht
  | some t =>
    constructor
    · intro h
      by_cases hok : ok t = true
      · exact ⟨t, rfl, hok, (Option.some.inj ((if_pos hok).symm.trans h)).symm⟩
      · cases (if_neg hok).symm.trans h
    · rintro ⟨t', ht', hok, rfl⟩
      cases ht'
      exact if_pos hok

/-- The table altered is altered back. -/
theorem alter_back {t : Table τ ν} (hfind : c.find? table = some t) (hok : ok' (f t) = true)
    (hback : g (f t) = t) : alter (c.modify table f hf) table ok' g hg = some c := by
  rw [alter_eq_some]
  refine ⟨f t, KeyedTable.find?_modify_self hf hfind, hok, ?_⟩
  obtain ⟨ht, hname⟩ := (c.find?_eq_some table t).mp hfind
  have hrows : ((c.modify table f hf).modify table g hg).rows = c.rows := by
    show (c.rows.map fun r => if key r = table then f r else r).map
      (fun r => if key r = table then g r else r) = c.rows
    rw [List.map_map]
    refine (List.map_congr_left fun r hr => ?_).trans (List.map_id _)
    by_cases hr' : key r = table
    · have hrt : r = t := c.eq_of_key_eq hr ht (hr'.trans hname.symm)
      have hfr : key (f r) = table := (hf r).trans hr'
      rw [Function.comp_apply, if_pos hr', if_pos hfr, hrt, hback]
      rfl
    · simp [hr']
  exact (catalogue_ext hrows).symm

theorem resolves_modify (hkey : ∀ t, (f t).primaryKey = t.primaryKey) {fk : ForeignKey}
    (h : Resolves c fk) : Resolves (c.modify table f hf) fk := by
  obtain ⟨t, ht⟩ := Option.isSome_iff_exists.mp h.isSome
  unfold Resolves at h ⊢
  rw [ht] at h
  by_cases htable : fk.table = table
  · rw [htable] at ht
    rw [htable, KeyedTable.find?_modify_self hf ht, Option.map_some, hkey]
    exact h
  · rw [KeyedTable.find?_modify_ne hf htable, ht]
    exact h

/-- A table altered within its keys leaves the catalogue sound. -/
theorem Sound.modify (hc : Sound c) {t : Table τ ν} (hfind : c.find? table = some t)
    (hwell : (f t).WellFormed) (hkey : ∀ t, (f t).primaryKey = t.primaryKey)
    (hforeign : ∀ t, (f t).foreignKeys = t.foreignKeys) : Sound (c.modify table f hf) := by
  obtain ⟨ht, hname⟩ := (c.find?_eq_some table t).mp hfind
  intro u hu
  obtain ⟨r, hr, hrt, rfl⟩ | ⟨hu, -⟩ := (KeyedTable.mem_modify hf).mp hu
  · rw [c.eq_of_key_eq hr ht (hrt.trans hname.symm)]
    refine ⟨hwell, fun fk hfk => ?_⟩
    rw [hforeign] at hfk
    exact resolves_modify hkey ((hc t ht).2 fk hfk)
  · exact ⟨(hc u hu).1, fun fk hfk => resolves_modify hkey ((hc u hu).2 fk hfk)⟩

end Alter

/-! ## What a building statement builds is taken back -/

section Undo

variable {c c' : Catalogue τ ν}

theorem Table.columnNames_add (t : Table τ ν) (col : Column τ ν) :
    ({ t with columns := t.columns ++ [col] } : Table τ ν).columnNames =
      t.columnNames ++ [col.name] := List.map_append

theorem undo_createTable (hc : Sound c) {t : Table τ ν}
    (h : (Change.createTable t).define c = some c') :
    Sound c' ∧ (Change.dropTable t.name).define c' = some c := by
  rw [Change.define] at h
  by_cases hok : t.WellFormed ∧ t.indexes = [] ∧ ∀ fk ∈ t.foreignKeys, Resolves c fk
  · rw [if_pos hok] at h
    obtain ⟨hwell, -, hforeign⟩ := hok
    have hrows := KeyedTable.insert?_rows h
    obtain ⟨hfree, hnew, hothers⟩ := KeyedTable.find?_insert? h
    have hresolves : ∀ fk, Resolves c fk → fk.table ≠ t.name ∧ Resolves c' fk := by
      intro fk hfk
      have hne : fk.table ≠ t.name := by
        intro he
        have hsome := hfk.isSome
        rw [he, show c.find? t.name = none from hfree] at hsome
        cases hsome
      refine ⟨hne, ?_⟩
      unfold Resolves at hfk ⊢
      rw [hothers fk.table hne]
      exact hfk
    constructor
    · intro u hu
      rw [hrows, List.mem_append, List.mem_singleton] at hu
      obtain hu | rfl := hu
      · exact ⟨(hc u hu).1, fun fk hfk => (hresolves fk ((hc u hu).2 fk hfk)).2⟩
      · exact ⟨hwell, fun fk hfk => (hresolves fk (hforeign fk hfk)).2⟩
    · have hdrop : (c'.find? t.name).isSome ∧
          ∀ u ∈ c'.rows, u.name ≠ t.name → ∀ fk ∈ u.foreignKeys, fk.table ≠ t.name := by
        refine ⟨by rw [show c'.find? t.name = some t from hnew]; rfl, ?_⟩
        intro u hu hne fk hfk
        rw [hrows, List.mem_append, List.mem_singleton] at hu
        obtain hu | rfl := hu
        · exact (hresolves fk ((hc u hu).2 fk hfk)).1
        · exact absurd rfl hne
      have hkeep : ∀ u ∈ c.rows, u.name ≠ t.name := KeyedTable.insert?_key_ne h
      rw [Change.define]
      rw [if_pos hdrop]
      refine congrArg some (catalogue_ext ?_)
      show c'.rows.filter (fun u => !decide (u.name = t.name)) = c.rows
      rw [hrows, List.filter_append, List.filter_eq_self.mpr fun u hu => by simpa using hkeep u hu]
      simp
  · rw [if_neg hok] at h
    cases h

theorem undo_addColumn (hc : Sound c) {table : String} {col : Column τ ν}
    (h : (Change.addColumn table col).define c = some c') :
    Sound c' ∧ (Change.dropColumn table col.name).define c' = some c := by
  obtain ⟨t, hfind, hok, rfl⟩ := alter_eq_some.mp h
  have hfresh : col.name ∉ t.columnNames := of_decide_eq_true hok
  have ht := ((c.find?_eq_some table t).mp hfind).1
  obtain ⟨⟨hnodup, hmentions⟩, -⟩ := hc t ht
  constructor
  · refine hc.modify hfind ⟨?_, ?_⟩ (fun _ => rfl) fun _ => rfl
    · rw [t.columnNames_add, List.nodup_append]
      refine ⟨hnodup, List.nodup_singleton _, ?_⟩
      intro x hx y hy hxy
      rw [List.mem_singleton] at hy
      exact hfresh (hy ▸ hxy ▸ hx)
    · intro x hx
      rw [t.columnNames_add]
      exact List.mem_append_left _ (hmentions x hx)
  · refine alter_back hfind ?_ ?_
    · rw [decide_eq_true_eq, t.columnNames_add]
      exact ⟨List.mem_append_right _ List.mem_cons_self, fun hm => hfresh (hmentions _ hm)⟩
    · have hkeep : ∀ x ∈ t.columns, x.name ≠ col.name := by
        intro x hx he
        exact hfresh (he ▸ List.mem_map_of_mem hx)
      have hcolumns : (t.columns ++ [col]).filter (fun x => x.name ≠ col.name) = t.columns := by
        rw [List.filter_append, List.filter_eq_self.mpr fun x hx => by simpa using hkeep x hx]
        simp
      show ({ t with columns := (t.columns ++ [col]).filter _ } : Table τ ν) = t
      rw [hcolumns]

theorem undo_createIndex (hc : Sound c) {table : String} {i : Index}
    (h : (Change.createIndex table i).define c = some c') :
    Sound c' ∧ (Change.dropIndex table i.name).define c' = some c := by
  rw [Change.define] at h
  by_cases hfree : ∀ t ∈ c.rows, ∀ j ∈ t.indexes, j.name ≠ i.name
  · rw [if_pos hfree] at h
    obtain ⟨t, hfind, hok, rfl⟩ := alter_eq_some.mp h
    have hcolumns : ∀ x ∈ i.columns, x ∈ t.columnNames := of_decide_eq_true hok
    have ht := ((c.find?_eq_some table t).mp hfind).1
    obtain ⟨⟨hnodup, hmentions⟩, -⟩ := hc t ht
    constructor
    · refine hc.modify hfind ⟨hnodup, ?_⟩ (fun _ => rfl) fun _ => rfl
      intro x hx
      unfold Table.mentions at hx
      rw [List.flatMap_append, ← List.append_assoc, List.mem_append] at hx
      obtain hx | hx := hx
      · exact hmentions x hx
      · exact hcolumns x (by simpa using hx)
    · refine alter_back hfind ?_ ?_
      · rw [decide_eq_true_eq]
        exact List.mem_map_of_mem (List.mem_append_right _ List.mem_cons_self)
      · have hindexes : (t.indexes ++ [i]).filter (fun j => j.name ≠ i.name) = t.indexes := by
          rw [List.filter_append,
            List.filter_eq_self.mpr fun j hj => by simpa using hfree t ht j hj]
          simp
        show ({ t with indexes := (t.indexes ++ [i]).filter _ } : Table τ ν) = t
        rw [hindexes]
  · rw [if_neg hfree] at h
    cases h

/-- The counterpart of a building statement takes its work back. -/
theorem undo_define (hc : Sound c) {up down : Change τ ν} (hundo : up.undo? = some down)
    (h : up.define c = some c') : down.define c' = some c := by
  cases up with
  | createTable t =>
    cases hundo
    exact (undo_createTable hc h).2
  | addColumn table col =>
    cases hundo
    exact (undo_addColumn hc h).2
  | createIndex table i =>
    cases hundo
    exact (undo_createIndex hc h).2
  | dropTable table => cases hundo
  | dropColumn table column => cases hundo
  | dropIndex table index => cases hundo

theorem sound_dropTable (hc : Sound c) {table : String}
    (h : (Change.dropTable table).define c = some c') : Sound c' := by
  rw [Change.define] at h
  split at h
  · next hok =>
    cases h
    intro u hu
    obtain ⟨hu, hne⟩ := List.mem_filter.mp hu
    have hname : u.name ≠ table := by simpa using hne
    refine ⟨(hc u hu).1, fun fk hfk => ?_⟩
    have hresolves := (hc u hu).2 fk hfk
    obtain ⟨w, hw⟩ := Option.isSome_iff_exists.mp hresolves.isSome
    obtain ⟨hwm, hwname⟩ := (c.find?_eq_some _ w).mp hw
    have hkept : w ∈ (c.deleteWhere fun t => t.name = table).rows := by
      have hwn : w.name ≠ table := fun he =>
        hok.2 u hu hname fk hfk ((show w.name = fk.table from hwname) ▸ he)
      exact List.mem_filter.mpr ⟨hwm, by simpa using hwn⟩
    unfold Resolves at hresolves ⊢
    rw [((c.deleteWhere _).find?_eq_some _ w).mpr ⟨hkept, hwname⟩]
    rw [hw] at hresolves
    exact hresolves
  · cases h

theorem sound_dropColumn (hc : Sound c) {table column : String}
    (h : (Change.dropColumn table column).define c = some c') : Sound c' := by
  obtain ⟨t, hfind, hok, rfl⟩ := alter_eq_some.mp h
  obtain ⟨-, hunused⟩ := of_decide_eq_true hok
  obtain ⟨⟨hnodup, hmentions⟩, -⟩ := hc t ((c.find?_eq_some table t).mp hfind).1
  have hnames : ({ t with columns := t.columns.filter fun col => col.name ≠ column } :
      Table τ ν).columnNames = t.columnNames.filter fun x => x ≠ column := by
    unfold Table.columnNames
    rw [List.filter_map]
    rfl
  refine hc.modify hfind ⟨?_, ?_⟩ (fun _ => rfl) fun _ => rfl
  · rw [hnames]
    exact hnodup.filter _
  · intro x hx
    rw [hnames, List.mem_filter]
    refine ⟨hmentions x hx, decide_eq_true ?_⟩
    rintro rfl
    exact hunused hx

theorem sound_dropIndex (hc : Sound c) {table index : String}
    (h : (Change.dropIndex table index).define c = some c') : Sound c' := by
  obtain ⟨t, hfind, -, rfl⟩ := alter_eq_some.mp h
  obtain ⟨⟨hnodup, hmentions⟩, -⟩ := hc t ((c.find?_eq_some table t).mp hfind).1
  refine hc.modify hfind ⟨hnodup, ?_⟩ (fun _ => rfl) fun _ => rfl
  intro x hx
  refine hmentions x ?_
  obtain hkey | hindex := List.mem_append.mp hx
  · exact List.mem_append_left _ hkey
  · obtain ⟨i, hi, hxi⟩ := List.mem_flatMap.mp hindex
    exact List.mem_append_right _ (List.mem_flatMap.mpr ⟨i, (List.mem_filter.mp hi).1, hxi⟩)

/-- Every statement that goes through keeps the catalogue sound. -/
theorem Sound.define (hc : Sound c) {ch : Change τ ν} (h : ch.define c = some c') : Sound c' := by
  cases ch with
  | createTable t => exact (undo_createTable hc h).1
  | addColumn table col => exact (undo_addColumn hc h).1
  | createIndex table i => exact (undo_createIndex hc h).1
  | dropTable table => exact sound_dropTable hc h
  | dropColumn table column => exact sound_dropColumn hc h
  | dropIndex table index => exact sound_dropIndex hc h

end Undo

end SentinelAI.Lib.Ddl
