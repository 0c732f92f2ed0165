import Mathlib.Data.List.Induction
import SentinelAI.Lib.Grouping
import SentinelAI.Services.Correlation

/-
  What `correlate` groups together. `placed l i` is the group the `i`-th investigation of a
  list is put into; `correlate_ids` says the `k`-th incident lists exactly the investigations
  placed in group `k`.

  Investigations placed together are always linked by shared entities and indicators. The
  converse needs that no investigation bridges two groups: the scan puts it into the first
  and never merges the second.
-/

namespace SentinelAI

open Lib

/-! ## Groups while the list is scanned -/

/-- Two investigations have the same entity or an indicator in common. -/
def SharesKey (a b : Investigation) : Prop :=
  a.detection.entity = b.detection.entity ∨ ∃ x ∈ indicatorsOf a, x ∈ indicatorsOf b

theorem SharesKey.symm {a b : Investigation} (h : SharesKey a b) : SharesKey b a := by
  obtain h | ⟨x, ha, hb⟩ := h
  · exact Or.inl h.symm
  · exact Or.inr ⟨x, hb, ha⟩

/-- The groups after a list has been scanned. -/
def groupsOf (l : List Investigation) : List IncidentGroup :=
  l.foldl (fun gs inv => placeInGroup inv gs) []

theorem groupsOf_snoc (l : List Investigation) (inv : Investigation) :
    groupsOf (l ++ [inv]) = placeInGroup inv (groupsOf l) := by
  simp [groupsOf, List.foldl_append]

/-- The keys of a group are those of its members. -/
structure IncidentGroup.KeyedByMembers (g : IncidentGroup) : Prop where
  nonempty : g.members ≠ []
  entities : g.entities = g.members.map fun m => m.detection.entity
  indicators : g.indicators = g.members.flatMap indicatorsOf

theorem IncidentGroup.KeyedByMembers.accepts_iff {g : IncidentGroup} (h : g.KeyedByMembers)
    (inv : Investigation) : g.accepts inv = true ↔ ∃ m ∈ g.members, SharesKey m inv := by
  unfold IncidentGroup.accepts SharesKey
  rw [Bool.or_eq_true, List.contains_iff_mem, List.any_eq_true, h.entities, h.indicators]
  constructor
  · rintro (he | ⟨x, hx, hg⟩)
    · obtain ⟨m, hm, he⟩ := List.mem_map.mp he
      exact ⟨m, hm, Or.inl he⟩
    · obtain ⟨m, hm, hxm⟩ := List.mem_flatMap.mp (List.contains_iff_mem.mp hg)
      exact ⟨m, hm, Or.inr ⟨x, hxm, hx⟩⟩
  · rintro ⟨m, hm, he | ⟨x, hxm, hx⟩⟩
    · exact Or.inl (List.mem_map.mpr ⟨m, hm, he⟩)
    · exact Or.inr ⟨x, hx, List.contains_iff_mem.mpr (List.mem_flatMap.mpr ⟨m, hm, hxm⟩)⟩

theorem placeInGroup_keyed (inv : Investigation) {gs : List IncidentGroup}
    (h : ∀ g ∈ gs, g.KeyedByMembers) : ∀ g ∈ placeInGroup inv gs, g.KeyedByMembers := by
  induction gs with
  | nil =>
    intro g hg
    rw [placeInGroup, List.mem_singleton] at hg
    rw [hg]
    exact ⟨by simp, by simp, by simp⟩
  | cons g₀ gs ih =>
    obtain ⟨h₀, hgs⟩ := List.forall_mem_cons.mp h
    rw [placeInGroup]
    split
    · refine List.forall_mem_cons.mpr ⟨⟨by simp, ?_, ?_⟩, hgs⟩
      · simp [h₀.entities]
      · simp [h₀.indicators]
    · exact List.forall_mem_cons.mpr ⟨h₀, ih hgs⟩

theorem groupsOf_keyed (l : List Investigation) : ∀ g ∈ groupsOf l, g.KeyedByMembers := by
  induction l using List.reverseRecOn with
  | nil => simp [groupsOf]
  | append_singleton l inv ih =>
    rw [groupsOf_snoc]
    exact placeInGroup_keyed inv ih

/-- The members of the `k`-th group. -/
def membersAt (gs : List IncidentGroup) (k : Nat) : List Investigation :=
  ((gs[k]?).map IncidentGroup.members).getD []

theorem lt_length_of_mem_membersAt {gs : List IncidentGroup} {k : Nat} {m : Investigation}
    (h : m ∈ membersAt gs k) : k < gs.length := by
  by_contra hk
  rw [membersAt, List.getElem?_eq_none (by omega)] at h
  simp at h

/-- Placing an investigation adds it to the first group that accepts it, and to no other. -/
theorem membersAt_placeInGroup (inv : Investigation) (gs : List IncidentGroup) (k : Nat) :
    membersAt (placeInGroup inv gs) k =
      membersAt gs k ++ if k = gs.findIdx (·.accepts inv) then [inv] else [] := by
  induction gs generalizing k with
  | nil => cases k <;> simp [membersAt, placeInGroup]
  | cons g gs ih =>
    rw [placeInGroup, List.findIdx_cons]
    cases hg : g.accepts inv with
    | true => cases k <;> simp [membersAt]
    | false =>
      cases k with
      | zero => simp [membersAt]
      | succ k =>
        have := ih k
        simpa [membersAt] using this

/-! ## Where each investigation goes -/

/-- The group the `i`-th investigation is put into. -/
def placed (l : List Investigation) (i : Nat) : Nat :=
  match l[i]? with
  | some inv => (groupsOf (l.take i)).findIdx (·.accepts inv)
  | none => 0

theorem placed_eq (l : List Investigation) (i : Fin l.length) :
    placed l i = (groupsOf (l.take i)).findIdx (·.accepts (l.get i)) := by
  unfold placed
  rw [List.getElem?_eq_getElem i.isLt]
  rfl

/-- The investigations among the first `m` that are placed in group `k`, in order. -/
def placedIn (l : List Investigation) (m k : Nat) : List Investigation :=
  ((List.range m).filter fun i => placed l i = k).filterMap fun i => l[i]?

theorem membersAt_take (l : List Investigation) (k : Nat) :
    ∀ m ≤ l.length, membersAt (groupsOf (l.take m)) k = placedIn l m k
  | 0, _ => by simp [groupsOf, membersAt, placedIn]
  | m + 1, hm => by
      have hlt : m < l.length := hm
      have htake : l.take (m + 1) = l.take m ++ [l.get ⟨m, hlt⟩] := List.take_succ_eq_append_getElem hlt
      have ih := membersAt_take l k m hlt.le
      have hplaced := placed_eq l ⟨m, hlt⟩
      rw [htake, groupsOf_snoc, membersAt_placeInGroup, ih, ← hplaced]
      unfold placedIn
      rw [List.range_succ, List.filter_append, List.filterMap_append]
      congr 1
      by_cases hk : placed l m = k
      · simp [hk, hlt]
      · simp [hk, Ne.symm hk]

theorem mem_placedIn {l : List Investigation} {m k : Nat} {inv : Investigation} :
    inv ∈ placedIn l m k ↔ ∃ i : Fin l.length, i.val < m ∧ placed l i = k ∧ l.get i = inv := by
  unfold placedIn
  rw [List.mem_filterMap]
  constructor
  · rintro ⟨i, hi, hget⟩
    obtain ⟨hlt, hinv⟩ := List.getElem?_eq_some_iff.mp hget
    rw [List.mem_filter, List.mem_range] at hi
    exact ⟨⟨i, hlt⟩, hi.1, of_decide_eq_true hi.2, hinv⟩
  · rintro ⟨i, hi, hk, rfl⟩
    refine ⟨i, List.mem_filter.mpr ⟨List.mem_range.mpr hi, decide_eq_true hk⟩, ?_⟩
    exact List.getElem?_eq_getElem i.isLt

/-- The `i`-th and the `j`-th investigation share a key. -/
def Adjacent (l : List Investigation) (i j : Fin l.length) : Prop := SharesKey (l.get i) (l.get j)

/-- Each investigation joins an earlier one it shares a key with, or opens a group. -/
theorem placed_greedy (l : List Investigation) :
    Greedy (Adjacent l) fun i : Fin l.length => placed l i := by
  intro n
  have hkeyed := groupsOf_keyed (l.take n)
  have hmem : ∀ k, membersAt (groupsOf (l.take n)) k = placedIn l n k :=
    fun k => membersAt_take l k n n.isLt.le
  by_cases hfound : placed l n < (groupsOf (l.take n)).length
  · -- the group that accepted it has a member sharing a key
    left
    rw [placed_eq] at hfound
    have haccepts := List.findIdx_getElem (w := hfound)
    have hgroup := hkeyed _ (List.getElem_mem hfound)
    obtain ⟨m, hm, hshare⟩ := (hgroup.accepts_iff _).mp haccepts
    have hmAt : m ∈ membersAt (groupsOf (l.take n)) (placed l n) := by
      rw [membersAt, placed_eq, List.getElem?_eq_getElem hfound]
      exact hm
    rw [hmem] at hmAt
    obtain ⟨i, hi, hk, hget⟩ := mem_placedIn.mp hmAt
    refine ⟨i, hi, ?_, hk⟩
    rw [Adjacent, hget]
    exact hshare
  · right
    intro i hi
    have hiAt : l.get i ∈ membersAt (groupsOf (l.take n)) (placed l i) := by
      rw [hmem]
      exact mem_placedIn.mpr ⟨i, hi, rfl, rfl⟩
    have hlt := lt_length_of_mem_membersAt hiAt
    constructor
    · -- no group accepted it, the one of `i` neither
      intro hadj
      have hnone : ∀ g ∈ groupsOf (l.take n), g.accepts (l.get n) = false := by
        rw [placed_eq] at hfound
        have hlen := Nat.le_antisymm List.findIdx_le_length (Nat.not_lt.mp hfound)
        exact fun g hg => by simpa using List.findIdx_eq_length.mp hlen g hg
      rw [membersAt, List.getElem?_eq_getElem hlt] at hiAt
      have haccepts := ((hkeyed _ (List.getElem_mem hlt)).accepts_iff (l.get n)).mpr
        ⟨l.get i, hiAt, hadj⟩
      rw [hnone _ (List.getElem_mem hlt)] at haccepts
      cases haccepts
    · intro heq
      have hsame : placed l i = placed l n := heq
      rw [hsame] at hlt
      exact hfound hlt

/-! ## The incidents -/

/-- What `correlate` makes of a group: an incident with the ids of its members, in order. -/
def IncidentGroup.ListedBy (g : IncidentGroup) (o : Option Incident) : Prop :=
  o.map Incident.investigationIds = some (g.members.map Investigation.id)

theorem incidentOf_run (env : Env) (first : Investigation) (rest : List Investigation)
    (s : Session) : ∃ o t, (some <$> incidentOf env first rest).run s = .ok o t ∧
      o.map Incident.investigationIds = some ((first :: rest).map Investigation.id) :=
  ⟨_, _, rfl, rfl⟩

theorem ids_of_listedBy {gs : List IncidentGroup} {os : List (Option Incident)}
    (h : List.Forall₂ IncidentGroup.ListedBy gs os) :
    (os.filterMap id).map Incident.investigationIds =
      gs.map fun g => g.members.map Investigation.id := by
  induction h with
  | nil => rfl
  | cons ho _ ih =>
    obtain ⟨inc, rfl, hids⟩ := Option.map_eq_some_iff.mp ho
    rw [List.filterMap_cons_some (f := id) rfl, List.map_cons, List.map_cons, hids, ih]

/-- What `correlate` makes of one group. -/
def groupIncident (env : Env) (g : IncidentGroup) : ApiM (Option Incident) :=
  match g.members with
  | [] => pure none
  | first :: rest => some <$> incidentOf env first rest

theorem groupIncident_run (env : Env) {g : IncidentGroup} (hg : g.members ≠ []) (s : Session) :
    ∃ o t, (groupIncident env g).run s = .ok o t ∧ g.ListedBy o := by
  unfold groupIncident IncidentGroup.ListedBy
  cases hm : g.members with
  | nil => exact absurd hm hg
  | cons first rest => exact incidentOf_run env first rest s

/-- `correlate` never raises, and gives one incident a group. -/
theorem correlate_run (env : Env) (l : List Investigation) (s : Session) :
    ∃ incidents t, (correlate env l).run s = .ok incidents t ∧
      incidents.map Incident.investigationIds =
        (groupsOf l).map fun g => g.members.map Investigation.id := by
  have hgroup (g : IncidentGroup) (hg : g ∈ groupsOf l) (s : Session) :
      ∃ o t, (groupIncident env g).run s = .ok o t ∧ g.ListedBy o :=
    groupIncident_run env (groupsOf_keyed l g hg).nonempty s
  obtain ⟨os, t, hos, hlisted⟩ := mapM_run_ok (groupsOf l) hgroup s
  exact ⟨os.filterMap id, t, run_bind_ok hos, ids_of_listedBy hlisted⟩

/-- The `k`-th incident lists the ids of the investigations placed in group `k`. -/
def ListsPlaced (l : List Investigation) (incidents : List Incident) : Prop :=
  ∀ k, ((incidents[k]?).map Incident.investigationIds).getD [] =
    (placedIn l l.length k).map Investigation.id

theorem correlate_ids (env : Env) (l : List Investigation) (s : Session) :
    ∃ incidents t, (correlate env l).run s = .ok incidents t ∧ ListsPlaced l incidents := by
  obtain ⟨incidents, t, hrun, hids⟩ := correlate_run env l s
  refine ⟨incidents, t, hrun, fun k => ?_⟩
  have hk : (incidents.map Incident.investigationIds)[k]? =
      ((groupsOf l).map fun g => g.members.map Investigation.id)[k]? := by rw [hids]
  have htake := membersAt_take l k l.length le_rfl
  rw [List.take_length] at htake
  rw [List.getElem?_map, List.getElem?_map] at hk
  rw [← htake, membersAt, hk]
  cases (groupsOf l)[k]? <;> rfl

/-! ## Connected components -/

/-- Linked by a chain of investigations of the list whose neighbours share a key. -/
def Linked (l : List Investigation) (i j : Fin l.length) : Prop :=
  LinkedIn (Adjacent l) Set.univ i j

/-- Two investigations are in one incident exactly when they are linked. -/
def ComputesComponents (l : List Investigation) : Prop :=
  ∀ i j : Fin l.length, placed l i = placed l j ↔ Linked l i j

/-- No investigation shares keys with two earlier ones that were not linked before it. -/
def NoBridge (l : List Investigation) : Prop := Unbridged (Adjacent l)

/-- `l'` is `l` in another order: its `i`-th investigation is the `e i`-th of `l`. -/
def Reorders (l l' : List Investigation) (e : Fin l'.length ≃ Fin l.length) : Prop :=
  ∀ i, l'.get i = l.get (e i)

/-- The grouping of `l'` is that of `l`. -/
def SameGrouping (l l' : List Investigation) (e : Fin l'.length ≃ Fin l.length) : Prop :=
  ∀ i j : Fin l'.length, placed l' i = placed l' j ↔ placed l (e i) = placed l (e j)

theorem adjacent_symm (l : List Investigation) (i j : Fin l.length) (h : Adjacent l i j) :
    Adjacent l j i := SharesKey.symm h

theorem computesComponents_iff (l : List Investigation) : ComputesComponents l ↔ NoBridge l :=
  (placed_greedy l).components_iff (adjacent_symm l)

theorem linked_reorders {l l' : List Investigation} {e : Fin l'.length ≃ Fin l.length}
    (h : Reorders l l' e) (i j : Fin l'.length) : Linked l' i j ↔ Linked l (e i) (e j) := by
  constructor
  · refine LinkedIn.lift e fun a b hab => ?_
    rwa [Adjacent, ← h a, ← h b]
  · intro hl
    have hadj (a b : Fin l.length) (hab : Adjacent l a b) : Adjacent l' (e.symm a) (e.symm b) := by
      rwa [Adjacent, h, h, e.apply_symm_apply, e.apply_symm_apply]
    simpa [Linked] using LinkedIn.lift e.symm hadj hl

/-- Where nothing is bridged, another order gives the same grouping exactly when it does
    not bridge anything either. -/
theorem sameGrouping_iff {l l' : List Investigation} {e : Fin l'.length ≃ Fin l.length}
    (h : Reorders l l' e) (hl : NoBridge l) : SameGrouping l l' e ↔ NoBridge l' := by
  have hc := (computesComponents_iff l).mpr hl
  rw [← computesComponents_iff]
  refine forall_congr' fun i => forall_congr' fun j => ?_
  rw [hc, linked_reorders h]

/-- Investigations sharing a key are in one incident where nothing is bridged. -/
theorem placed_eq_of_shares {l : List Investigation} (hl : NoBridge l) {i j : Fin l.length}
    (h : Adjacent l i j) : placed l i = placed l j :=
  ((computesComponents_iff l).mpr hl i j).mpr (LinkedIn.edge (Set.mem_univ i) (Set.mem_univ j) h)

/-- The incidents of `correlate` are the connected components exactly for the lists without a
    bridge; on these, what shares a key is together, and the order matters only in so far as
    it makes a bridge. -/
theorem correlate_components_iff (l : List Investigation) :
    (∀ env s, ∃ incidents t, (correlate env l).run s = .ok incidents t ∧
      ListsPlaced l incidents) ∧
    (ComputesComponents l ↔ NoBridge l) ∧
    (NoBridge l → (∀ i j, Adjacent l i j → placed l i = placed l j) ∧
      ∀ l' e, Reorders l l' e → (SameGrouping l l' e ↔ NoBridge l')) := by
  refine ⟨fun env s => correlate_ids env l s, computesComponents_iff l, fun hl => ⟨?_, ?_⟩⟩
  · exact fun i j h => placed_eq_of_shares hl h
  · exact fun l' e h => sameGrouping_iff h hl

/-- An investigation of a host, with the addresses its detection saw. -/
def sightedOn (id host : String) (ips : List String) : Investigation where
  id := id
  detection :=
    { id := "DET", title := "t", description := "d", severity := .high, splQuery := "search x",
      entity := host, createdAt := 0, srcIps := ips }
  createdAt := 0

/-- The third investigation has the host of the first and an address of the second. -/
def bridged : List Investigation :=
  [sightedOn "I1" "host-a" [], sightedOn "I2" "host-b" ["1.2.3.4"],
    sightedOn "I3" "host-a" ["1.2.3.4"]]

instance : @NeZero Nat Zero.ofOfNat0 bridged.length := ⟨Nat.succ_ne_zero 2⟩

/-- The second and the third share an address, and the first and the second are linked, but
    the second is alone in its incident. -/
theorem bridged_not_components :
    (∃ t incidents, (correlate { now := fun _ => 0, uuid4 := fun _ => "" } bridged).run
      (.start .empty [] []) = .ok incidents t ∧
        incidents.map Incident.investigationIds = [["I1", "I3"], ["I2"]]) ∧
    Adjacent bridged 1 2 ∧ Linked bridged 0 1 ∧ ¬ ComputesComponents bridged := by
  have h02 : Adjacent bridged 0 2 := Or.inl rfl
  have h12 : Adjacent bridged 1 2 := Or.inr ⟨"1.2.3.4", by decide, by decide⟩
  have h01 : Linked bridged 0 1 :=
    (LinkedIn.edge (Set.mem_univ _) (Set.mem_univ _) h02).trans
      (LinkedIn.edge (Set.mem_univ _) (Set.mem_univ _) h12.symm)
  refine ⟨⟨_, _, rfl, by decide⟩, h12, h01, fun hc => ?_⟩
  have hplaced : placed bridged 0 = placed bridged 1 := (hc 0 1).mpr h01
  revert hplaced
  decide

end SentinelAI
