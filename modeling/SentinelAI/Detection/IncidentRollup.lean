import Mathlib.Data.List.Dedup
import Mathlib.Data.String.Basic
import SentinelAI.Api.Routes
import SentinelAI.Detection.Components

/-
  What the incidents of `correlate` say of their members. A group is built in the order of
  the list and takes in only what shares a key with it (`IncidentGroup.Collected`), and
  together the groups hold the list (`groupsOf_perm`). The incident of a group sums it up
  (`RollsUp`): maximal severity, unions of indicators and tactics, and the risk score
  `run_investigations` gives it afterwards.
-/

namespace SentinelAI

open Lib

/-! ## How a group is collected -/

/-- Every member but the first shares a key with an earlier one. -/
def RelatedInOrder (members : List Investigation) : Prop :=
  ∀ before m after, members = before ++ m :: after → before ≠ [] →
    ∃ earlier ∈ before, SharesKey earlier m

theorem RelatedInOrder.singleton (inv : Investigation) : RelatedInOrder [inv] := by
  intro before m after h hne
  cases before with
  | nil => exact absurd rfl hne
  | cons b before =>
    have hlen := congrArg List.length h
    simp at hlen

theorem RelatedInOrder.snoc {members : List Investigation} {inv : Investigation}
    (h : RelatedInOrder members) (hinv : ∃ m ∈ members, SharesKey m inv) :
    RelatedInOrder (members ++ [inv]) := by
  intro before m after he hne
  cases after using List.reverseRecOn with
  | nil =>
    obtain ⟨rfl, hm⟩ := List.append_inj' he rfl
    obtain rfl : inv = m := by simpa using hm
    exact hinv
  | append_singleton after x =>
    rw [← List.cons_append, ← List.append_assoc] at he
    exact h before m after (List.append_inj' he rfl).1 hne

/-- The members come from the list in its order, each related to an earlier one. -/
structure IncidentGroup.Collected (l : List Investigation) (g : IncidentGroup) : Prop where
  ordered : g.members.Sublist l
  related : RelatedInOrder g.members

theorem placeInGroup_collected {l : List Investigation} (inv : Investigation)
    {gs : List IncidentGroup} (hkeyed : ∀ g ∈ gs, g.KeyedByMembers)
    (h : ∀ g ∈ gs, g.Collected l) : ∀ g ∈ placeInGroup inv gs, g.Collected (l ++ [inv]) := by
  have hold (g : IncidentGroup) (hg : g.Collected l) : g.Collected (l ++ [inv]) :=
    ⟨hg.ordered.trans (List.sublist_append_left l [inv]), hg.related⟩
  induction gs with
  | nil =>
    intro g hg
    rw [placeInGroup, List.mem_singleton] at hg
    subst hg
    exact ⟨List.sublist_append_right l [inv], RelatedInOrder.singleton inv⟩
  | cons g₀ gs ih =>
    obtain ⟨hk₀, hkgs⟩ := List.forall_mem_cons.mp hkeyed
    obtain ⟨h₀, hgs⟩ := List.forall_mem_cons.mp h
    rw [placeInGroup]
    split
    · rename_i haccepts
      have hrelated := h₀.related.snoc ((hk₀.accepts_iff inv).mp haccepts)
      exact List.forall_mem_cons.mpr
        ⟨⟨h₀.ordered.append (List.Sublist.refl [inv]), hrelated⟩, fun g hg => hold g (hgs g hg)⟩
    · exact List.forall_mem_cons.mpr ⟨hold g₀ h₀, ih hkgs hgs⟩

theorem groupsOf_collected (l : List Investigation) : ∀ g ∈ groupsOf l, g.Collected l := by
  induction l using List.reverseRecOn with
  | nil => simp [groupsOf]
  | append_singleton l inv ih =>
    rw [groupsOf_snoc]
    exact placeInGroup_collected inv (groupsOf_keyed l) ih

theorem placeInGroup_perm (inv : Investigation) (gs : List IncidentGroup) :
    ((placeInGroup inv gs).flatMap IncidentGroup.members).Perm
      (gs.flatMap IncidentGroup.members ++ [inv]) := by
  induction gs with
  | nil => exact List.Perm.refl _
  | cons g gs ih =>
    rw [placeInGroup]
    split
    · rw [List.flatMap_cons, List.flatMap_cons, List.append_assoc, List.append_assoc]
      exact List.perm_append_comm.append_left g.members
    · rw [List.flatMap_cons, List.flatMap_cons, List.append_assoc]
      exact ih.append_left g.members

/-- Nothing is lost and nothing is put into two groups. -/
theorem groupsOf_perm (l : List Investigation) :
    ((groupsOf l).flatMap IncidentGroup.members).Perm l := by
  induction l using List.reverseRecOn with
  | nil => exact List.Perm.refl _
  | append_singleton l inv ih =>
    rw [groupsOf_snoc]
    exact (placeInGroup_perm inv (groupsOf l)).trans (ih.append_right [inv])

/-! ## What an incident says of its group -/

theorem sortedSet_sorted (xs : List String) : (sortedSet xs).Pairwise (· < ·) := by
  have hle : (sortedSet xs).Pairwise (· ≤ ·) := List.pairwise_insertionSort (· ≤ ·) xs.dedup
  have hne : (sortedSet xs).Nodup :=
    (List.perm_insertionSort (· ≤ ·) xs.dedup).nodup_iff.mpr (List.nodup_dedup xs)
  exact (hle.and hne).imp fun h => lt_of_le_of_ne h.1 h.2

theorem mem_sortedSet {xs : List String} {x : String} : x ∈ sortedSet xs ↔ x ∈ xs := by
  unfold sortedSet
  rw [List.mem_insertionSort, List.mem_dedup]

/-- A strictly sorted list of what `f` gives for the members. -/
structure SortedUnion (f : Investigation → List String) (members : List Investigation)
    (xs : List String) : Prop where
  sorted : xs.Pairwise (· < ·)
  mem_iff : ∀ x, x ∈ xs ↔ ∃ m ∈ members, x ∈ f m

theorem sortedSet_union (f : Investigation → List String) (members : List Investigation) :
    SortedUnion f members (sortedSet (members.flatMap f)) where
  sorted := sortedSet_sorted _
  mem_iff := fun x => by rw [mem_sortedSet, List.mem_flatMap]

/-- `max` returns a member of maximal severity. -/
theorem topMember_greatest (first : Investigation) (rest : List Investigation) :
    topMember first rest ∈ first :: rest ∧ ∀ m ∈ first :: rest,
      severityOrder m.detection.severity ≤ severityOrder (topMember first rest).detection.severity := by
  induction rest using List.reverseRecOn with
  | nil => exact ⟨List.mem_cons_self, fun m hm => by rw [List.mem_singleton.mp hm]; rfl⟩
  | append_singleton rest m ih =>
    obtain ⟨hmem, hmax⟩ := ih
    have htop : topMember first (rest ++ [m]) =
        if severityOrder (topMember first rest).detection.severity <
          severityOrder m.detection.severity then m else topMember first rest :=
      List.foldl_append
    rw [htop, ← List.cons_append]
    split
    · rename_i hlt
      refine ⟨List.mem_append_right _ (List.mem_singleton_self m), fun m' hm' => ?_⟩
      rcases List.mem_append.mp hm' with hm' | hm'
      · exact (hmax m' hm').trans hlt.le
      · rw [List.mem_singleton.mp hm']
    · rename_i hge
      refine ⟨List.mem_append_left _ hmem, fun m' hm' => ?_⟩
      rcases List.mem_append.mp hm' with hm' | hm'
      · exact hmax m' hm'
      · rw [List.mem_singleton.mp hm']
        exact not_lt.mp hge

/-- An incident sums up its members. -/
structure RollsUp (l members : List Investigation) (inc : Incident) : Prop where
  nonempty : members ≠ []
  ordered : members.Sublist l
  related : RelatedInOrder members
  ids : inc.investigationIds = members.map Investigation.id
  severity : IsGreatest (Set.image (fun m => severityOrder m.detection.severity) {m | m ∈ members})
    (severityOrder inc.severity)
  indicators : SortedUnion indicatorsOf members inc.indicators
  tactics : SortedUnion (fun m => m.detection.mitreTactics) members inc.mitreTactics
  /-- the score `run_investigations` assigns, the ids being distinct -/
  risk : (l.map Investigation.id).Nodup →
    IsGreatest (Set.image riskFrom {m | m ∈ members}) (Routes.incidentRisk inc l)

/-- Which investigations of the list an incident names. -/
theorem mem_filter_ids {l members : List Investigation} (hnodup : (l.map Investigation.id).Nodup)
    (hsub : members.Sublist l) {m : Investigation} :
    m ∈ l.filter (fun i => (members.map Investigation.id).contains i.id) ↔ m ∈ members := by
  rw [List.mem_filter, List.contains_iff_mem, List.mem_map]
  constructor
  · rintro ⟨hm, m', hm', hid⟩
    rwa [← List.inj_on_of_nodup_map hnodup (hsub.subset hm') hm hid]
  · intro hm
    exact ⟨hsub.subset hm, m, hm, rfl⟩

/-- The risk of an incident is the highest of its members. -/
theorem incidentRisk_greatest {l members : List Investigation} {inc : Incident}
    (hids : inc.investigationIds = members.map Investigation.id) (hne : members ≠ [])
    (hsub : members.Sublist l) (hnodup : (l.map Investigation.id).Nodup) :
    IsGreatest (Set.image riskFrom {m | m ∈ members}) (Routes.incidentRisk inc l) := by
  unfold Routes.incidentRisk
  rw [hids]
  obtain ⟨m, hm⟩ := List.exists_mem_of_ne_nil members hne
  cases hmax : ((l.filter fun i => (members.map Investigation.id).contains i.id).map riskFrom).max? with
  | none =>
    rw [List.max?_eq_none_iff, List.map_eq_nil_iff] at hmax
    have hmem := (mem_filter_ids hnodup hsub).mpr hm
    rw [hmax] at hmem
    cases hmem
  | some top =>
    obtain ⟨htop, hle⟩ := List.max?_eq_some_iff.mp hmax
    constructor
    · obtain ⟨m', hm', rfl⟩ := List.mem_map.mp htop
      exact ⟨m', (mem_filter_ids hnodup hsub).mp hm', rfl⟩
    · rintro _ ⟨m', hm', rfl⟩
      exact hle _ (List.mem_map_of_mem ((mem_filter_ids hnodup hsub).mpr hm'))

theorem incidentOf_rollsUp (env : Env) {l : List Investigation} {first : Investigation}
    {rest : List Investigation} (hsub : (first :: rest).Sublist l)
    (hrelated : RelatedInOrder (first :: rest)) (s : Session) :
    ∃ o t, (some <$> incidentOf env first rest).run s = .ok o t ∧
      ∃ inc, o = some inc ∧ RollsUp l (first :: rest) inc := by
  obtain ⟨hmem, hmax⟩ := topMember_greatest first rest
  refine ⟨_, _, rfl, _, rfl, ?_⟩
  constructor
  · exact List.cons_ne_nil first rest
  · exact hsub
  · exact hrelated
  · rfl
  · refine ⟨⟨topMember first rest, hmem, rfl⟩, ?_⟩
    rintro _ ⟨m, hm, rfl⟩
    exact hmax m hm
  · exact sortedSet_union indicatorsOf (first :: rest)
  · exact sortedSet_union (fun m => m.detection.mitreTactics) (first :: rest)
  · exact incidentRisk_greatest rfl (List.cons_ne_nil first rest) hsub

/-- One incident for each group, in the order of the groups. -/
theorem rollsUp_of_collected {l : List Investigation} {gs : List IncidentGroup}
    {os : List (Option Incident)}
    (h : List.Forall₂ (fun g o => ∃ inc, o = some inc ∧ RollsUp l g.members inc) gs os) :
    List.Forall₂ (RollsUp l) (gs.map IncidentGroup.members) (os.filterMap id) := by
  induction h with
  | nil => exact List.Forall₂.nil
  | cons ho _ ih =>
    obtain ⟨inc, rfl, hinc⟩ := ho
    rw [List.filterMap_cons_some (f := id) rfl, List.map_cons]
    exact List.Forall₂.cons hinc ih

theorem RollsUp.ids_eq {l : List Investigation} {groups : List (List Investigation)}
    {incidents : List Incident} (h : List.Forall₂ (RollsUp l) groups incidents) :
    incidents.flatMap Incident.investigationIds = groups.flatten.map Investigation.id := by
  induction h with
  | nil => rfl
  | cons hinc _ ih => rw [List.flatMap_cons, hinc.ids, ih, List.flatten_cons, List.map_append]

/-- `correlate` never raises, loses nothing, and puts together in one incident investigations
    each of which is related to an earlier one of it; each incident sums up its members. -/
theorem correlate_rollup (env : Env) (l : List Investigation) (s : Session) :
    ∃ incidents t groups, (correlate env l).run s = .ok incidents t ∧
      (groups.flatten).Perm l ∧
      (incidents.flatMap Incident.investigationIds).Perm (l.map Investigation.id) ∧
      List.Forall₂ (RollsUp l) groups incidents := by
  have hgroup (g : IncidentGroup) (hg : g ∈ groupsOf l) (s : Session) :
      ∃ o t, (groupIncident env g).run s = .ok o t ∧
        ∃ inc, o = some inc ∧ RollsUp l g.members inc := by
    have hne := (groupsOf_keyed l g hg).nonempty
    obtain ⟨hsub, hrelated⟩ := groupsOf_collected l g hg
    unfold groupIncident
    cases hm : g.members with
    | nil => exact absurd hm hne
    | cons first rest =>
      rw [hm] at hsub hrelated
      exact incidentOf_rollsUp env hsub hrelated s
  obtain ⟨os, t, hos, hrolls⟩ := mapM_run_ok (groupsOf l) hgroup s
  have hincidents := rollsUp_of_collected hrolls
  have hperm : ((groupsOf l).map IncidentGroup.members).flatten.Perm l := groupsOf_perm l
  refine ⟨os.filterMap id, t, _, run_bind_ok hos, hperm, ?_, hincidents⟩
  rw [RollsUp.ids_eq hincidents]
  exact hperm.map Investigation.id

end SentinelAI
