import SentinelAI.Lib.DdlScripts
import SentinelAI.Lib.Migrations

/-
  A chain of migration scripts. Each migration has a script up and a script down. If every
  script down is the script up taken back, no new column wants a value the old rows lack, and
  the scripts up go through on the empty rows of the base, then every database that fits a
  version can be moved along the chain, and moving up loses nothing (`Consistent.lawful`).
-/

namespace SentinelAI.Lib.Ddl

universe u v

variable {τ : Type u} {ν : Type v}

structure Migration (τ : Type u) (ν : Type v) where
  upgrade : List (Change τ ν)
  downgrade : List (Change τ ν)

/-- A new column allows `NULL` or has a default. -/
def Change.NeedsNoValue : Change τ ν → Bool
  | .addColumn _ col => col.nullable || col.serverDefault.isSome
  | _ => true

theorem Change.NeedsNoValue.fillable {ch : Change τ ν} (h : ch.NeedsNoValue = true)
    (rows : String → List (Row ν)) : ch.Fillable rows := by
  cases ch with
  | addColumn table col =>
    obtain hnull | hdefault := Bool.or_eq_true_iff.mp h
    · exact Or.inl hnull
    · exact Or.inr (Or.inl hdefault)
  | _ => trivial

variable (base : Catalogue τ ν) (ms : List (Migration τ ν))

def chain : Chain (Database τ ν) where
  length := ms.length
  up k db := ms[k]?.bind fun m => applyAll db m.upgrade
  down k db := ms[k]?.bind fun m => applyAll db m.downgrade

/-- The catalogue after the first `k` migrations. -/
def catalogueAt (k : Nat) : Option (Catalogue τ ν) :=
  defineAll base ((ms.take k).flatMap Migration.upgrade)

structure Consistent : Prop where
  undo : ∀ m ∈ ms, undoAll? m.upgrade = some m.downgrade
  fills : ∀ m ∈ ms, ∀ ch ∈ m.upgrade, ch.NeedsNoValue = true
  defined : (catalogueAt base ms ms.length).isSome = true

/-- A database at version `k`. -/
structure AtVersion (k : Nat) (db : Database τ ν) : Prop where
  within : k ≤ ms.length
  catalogue : catalogueAt base ms k = some db.catalogue
  fits : Fits db

variable {base ms}

theorem defineAll_append (c : Catalogue τ ν) (s s' : List (Change τ ν)) :
    defineAll c (s ++ s') = (defineAll c s).bind fun d => defineAll d s' := by
  unfold defineAll
  rw [List.foldlM_append]
  rfl

theorem catalogueAt_succ {k : Nat} {m : Migration τ ν} (hm : ms[k]? = some m) :
    catalogueAt base ms (k + 1) = (catalogueAt base ms k).bind fun c => defineAll c m.upgrade := by
  unfold catalogueAt
  rw [List.take_add_one, hm, Option.toList_some, List.flatMap_append, List.flatMap_singleton,
    defineAll_append]

theorem sound_defineAll {c c' : Catalogue τ ν} {script : List (Change τ ν)} (hc : Sound c)
    (h : defineAll c script = some c') : Sound c' := by
  induction script generalizing c with
  | nil =>
    cases h
    exact hc
  | cons ch script ih =>
    unfold defineAll at h
    rw [List.foldlM_cons] at h
    obtain ⟨c₁, hfirst, hrest⟩ := Option.bind_eq_some_iff.mp h
    exact ih (hc.define hfirst) hrest

/-- A catalogue without rows. -/
theorem fits_empty (c : Catalogue τ ν) : Fits (⟨c, fun _ => []⟩ : Database τ ν) where
  rows := fun _ _ _ hr => absurd hr List.not_mem_nil
  keys := fun _ _ _ _ => List.Pairwise.nil
  references := fun _ _ _ _ _ hr => absurd hr List.not_mem_nil
  elsewhere := fun _ _ => rfl

theorem applyAll_catalogue {db db' : Database τ ν} {script : List (Change τ ν)}
    (h : applyAll db script = some db') : defineAll db.catalogue script = some db'.catalogue := by
  induction script generalizing db with
  | nil =>
    cases h
    rfl
  | cons ch script ih =>
    obtain ⟨db₁, hfirst, hrest⟩ := applyAll_cons.mp h
    unfold defineAll
    rw [List.foldlM_cons, (apply_eq_some.mp hfirst).2.1]
    exact ih hrest

namespace Consistent

variable (h : Consistent base ms)

include h

/-- Each version has its catalogue. -/
theorem isSome_catalogueAt (k : Nat) : (catalogueAt base ms k).isSome = true := by
  have hall := h.defined
  unfold catalogueAt at hall ⊢
  rw [List.take_length] at hall
  have hsplit : ms.flatMap Migration.upgrade =
      (ms.take k).flatMap Migration.upgrade ++ (ms.drop k).flatMap Migration.upgrade := by
    rw [← List.flatMap_append, List.take_append_drop]
  rw [hsplit, defineAll_append] at hall
  cases hfirst : defineAll base ((ms.take k).flatMap Migration.upgrade) with
  | none =>
    rw [hfirst] at hall
    cases hall
  | some c => rfl

/-- The next migration's script up goes through at its version. -/
theorem upgrade_ok (hbase : Sound base) {k : Nat} {m : Migration τ ν} (hm : ms[k]? = some m)
    {db : Database τ ν} (hdb : AtVersion base ms k db) :
    ∃ db', applyAll db m.upgrade = some db' ∧ AtVersion base ms (k + 1) db' ∧
      applyAll db' m.downgrade = some db := by
  obtain ⟨hlt, rfl⟩ := List.getElem?_eq_some_iff.mp hm
  obtain ⟨c, hc⟩ := Option.isSome_iff_exists.mp (h.isSome_catalogueAt (k + 1))
  have hdefine : defineAll db.catalogue ms[k].upgrade = some c := by
    rw [catalogueAt_succ hm, hdb.catalogue] at hc
    exact hc
  have hmem : ms[k] ∈ ms := List.getElem_mem hlt
  obtain ⟨db', hdb', hcat⟩ := applyAll_of_defineAll
    (fun ch hch => Change.NeedsNoValue.fillable (h.fills _ hmem ch hch)) hdefine
  have hsound := sound_defineAll hbase hdb.catalogue
  refine ⟨db', hdb', ⟨Nat.succ_le_of_lt hlt, ?_, (Fits.applyAll hsound hdb.fits hdb').2⟩, ?_⟩
  · rw [hc, hcat]
  · exact undo_applyAll hsound hdb.fits (h.undo _ hmem) hdb'

/-- The script down goes through at the version the script up leads to. -/
theorem downgrade_ok (hbase : Sound base) {k : Nat} {m : Migration τ ν} (hm : ms[k]? = some m)
    {db : Database τ ν} (hdb : AtVersion base ms (k + 1) db) :
    ∃ db', applyAll db m.downgrade = some db' ∧ AtVersion base ms k db' := by
  obtain ⟨hlt, rfl⟩ := List.getElem?_eq_some_iff.mp hm
  obtain ⟨c, hc⟩ := Option.isSome_iff_exists.mp (h.isSome_catalogueAt k)
  -- the script down depends on the catalogue alone, so a run of it without rows tells
  obtain ⟨empty', hup, hat, hback⟩ := h.upgrade_ok hbase hm (⟨Nat.le_of_lt hlt, hc, fits_empty c⟩ :
    AtVersion base ms k ⟨c, fun _ => []⟩)
  have hdefine : defineAll db.catalogue ms[k].downgrade = some c := by
    have hsame : empty'.catalogue = db.catalogue :=
      Option.some.inj (hat.catalogue.symm.trans hdb.catalogue)
    rw [← hsame]
    exact applyAll_catalogue hback
  have hdrops : ∀ ch ∈ ms[k].downgrade, ∀ rows : String → List (Row ν), ch.Fillable rows :=
    fillable_undoAll (h.undo _ (List.getElem_mem hlt))
  obtain ⟨db', hdb', hcat⟩ := applyAll_of_defineAll hdrops hdefine
  have hsound := sound_defineAll hbase hdb.catalogue
  refine ⟨db', hdb', Nat.le_of_lt hlt, ?_, (Fits.applyAll hsound hdb.fits hdb').2⟩
  rw [hc, hcat]

theorem lawful (hbase : Sound base) : (chain ms).Lawful (AtVersion base ms) where
  up_ok := by
    intro k db hk hdb
    have hm : ms[k]? = some ms[k] := List.getElem?_eq_getElem hk
    obtain ⟨db', hup, hat, hback⟩ := h.upgrade_ok hbase hm hdb
    refine ⟨db', ?_, hat, ?_⟩
    · show ms[k]?.bind _ = _
      rw [hm]
      exact hup
    · show ms[k]?.bind _ = _
      rw [hm]
      exact hback
  down_ok := by
    intro k db hdb
    have hk : k < ms.length := hdb.within
    have hm : ms[k]? = some ms[k] := List.getElem?_eq_getElem hk
    obtain ⟨db', hdown, hat⟩ := h.downgrade_ok hbase hm hdb
    refine ⟨db', ?_, hat⟩
    show ms[k]?.bind _ = _
    rw [hm]
    exact hdown

end Consistent

end SentinelAI.Lib.Ddl
