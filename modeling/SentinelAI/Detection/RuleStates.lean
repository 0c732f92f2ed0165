import SentinelAI.Detection.RunRequest

/-
  What the rule states remember of the toggles. After any run, the row of a tenant's rule
  holds the last toggle by that tenant that was answered, and there is no row for a rule the
  tenant never toggled.
-/

namespace SentinelAI

open Lib

/-! ## The last toggle -/

section

variable (rt : Runtime) (tenantId ruleId : String)

/-- The setting a step gives to the tenant's rule, if it is an answered toggle of it. -/
def toggleOf (w : World) (e : Event) : Option Bool :=
  match e.request with
  | .admin (.bearer token) (.toggleRule r enabled) =>
    if token.tenantId = tenantId ∧ r = ruleId ∧ succeeds rt w e = true then some enabled else none
  | _ => none

/-- The last setting a run gives to it. -/
def lastToggle : World → List Event → Option Bool
  | _, [] => none
  | w, e :: es => (lastToggle (step rt w e) es).or (toggleOf rt tenantId ruleId w e)

end

/-- Settings of the rules, by tenant and rule. -/
abbrev Settings.Rules := String → String → Option Bool

/-- The rows of the rule states hold these settings, one row each. -/
structure Holds (db : Database) (last : Settings.Rules) : Prop where
  unique : ∀ r ∈ db.ruleStates.rows, ∀ r' ∈ db.ruleStates.rows, r.tenantId = r'.tenantId →
    r.ruleId = r'.ruleId → r = r'
  setting : ∀ tenantId ruleId b, last tenantId ruleId = some b ↔
    ∃ r ∈ db.ruleStates.rows, r.tenantId = tenantId ∧ r.ruleId = ruleId ∧ r.enabled = b

theorem Holds.empty {db : Database} (h : db.ruleStates = .empty) : Holds db fun _ _ => none := by
  have hrows : db.ruleStates.rows = [] := by
    rw [h]
    rfl
  constructor
  · intro r hr
    rw [hrows] at hr
    cases hr
  · intro tenantId ruleId b
    rw [hrows]
    simp

/-- Writing the one row of a tenant's rule sets it and leaves all others. -/
theorem Holds.write {db db' : Database} {last : Settings.Rules} (h : Holds db last)
    (new : RuleStateRow) (hmem : ∀ x, x ∈ db'.ruleStates.rows ↔ x = new ∨
      (x ∈ db.ruleStates.rows ∧ ¬ (x.tenantId = new.tenantId ∧ x.ruleId = new.ruleId))) :
    Holds db' fun t r =>
      (if new.tenantId = t ∧ new.ruleId = r then some new.enabled else none).or (last t r) := by
  constructor
  · intro r hr r' hr' ht hrule
    obtain rfl | ⟨hr, hne⟩ := (hmem r).mp hr
    · obtain rfl | ⟨_, hne'⟩ := (hmem r').mp hr'
      · rfl
      · exact absurd ⟨ht.symm, hrule.symm⟩ hne'
    · obtain rfl | ⟨hr', _⟩ := (hmem r').mp hr'
      · exact absurd ⟨ht, hrule⟩ hne
      · exact h.unique r hr r' hr' ht hrule
  · intro t r b
    by_cases hnew : new.tenantId = t ∧ new.ruleId = r
    · rw [if_pos hnew, Option.some_or, Option.some_inj]
      constructor
      · intro hb
        exact ⟨new, (hmem new).mpr (Or.inl rfl), hnew.1, hnew.2, hb⟩
      · rintro ⟨x, hx, ht, hr, hb⟩
        obtain rfl | ⟨_, hne⟩ := (hmem x).mp hx
        · exact hb
        · exact absurd ⟨ht.trans hnew.1.symm, hr.trans hnew.2.symm⟩ hne
    · rw [if_neg hnew, Option.none_or, h.setting]
      constructor
      · rintro ⟨x, hx, rfl, rfl, hb⟩
        refine ⟨x, (hmem x).mpr (Or.inr ⟨hx, fun hsame => hnew ?_⟩), rfl, rfl, hb⟩
        exact ⟨hsame.1.symm, hsame.2.symm⟩
      · rintro ⟨x, hx, ht, hr, hb⟩
        obtain rfl | ⟨hx, _⟩ := (hmem x).mp hx
        · exact absurd ⟨ht, hr⟩ hnew
        · exact ⟨x, hx, ht, hr, hb⟩

/-- `set_enabled` gives the tenant's rule the setting, and leaves all others. -/
theorem setEnabled_holds {env : Env} {tenantId ruleId : String} {enabled : Bool} {s t : Session}
    {u : Unit} {last : Settings.Rules} (h : Holds s.db last)
    (hrun : (RuleStateRepository.setEnabled env tenantId ruleId enabled).run s = .ok u t) :
    Holds t.db fun t' r' =>
      (if tenantId = t' ∧ ruleId = r' then some enabled else none).or (last t' r') := by
  unfold RuleStateRepository.setEnabled at hrun
  obtain ⟨o, v, hsel, hrun⟩ := run_bind_eq_ok.mp hrun
  obtain ⟨hsel, rfl⟩ := selectOne_eq_ok.mp hsel
  have hown (x : RuleStateRow) : x ∈ v.db.ruleStates.rows ∧ x.tenantId = tenantId ∧
      x.ruleId = ruleId ↔ x ∈ o.toList := by
    rw [← hsel]
    show _ ↔ x ∈ v.db.ruleStates.select _
    simp [KeyedTable.mem_select]
  cases o with
  | none =>
    obtain ⟨id, v', hid, hrun⟩ := run_bind_eq_ok.mp hrun
    cases hid
    obtain ⟨rs, hins, rfl⟩ := insertRow_eq_ok.mp hrun
    refine h.write ⟨env.uuid4 v.uuids, tenantId, ruleId, enabled⟩ fun x => ?_
    show x ∈ rs.rows ↔ _
    rw [KeyedTable.insert?_rows hins, List.mem_append, List.mem_singleton, or_comm]
    refine or_congr_right ⟨fun hx => ⟨hx, fun hsame => ?_⟩, And.left⟩
    simpa using (hown x).mp ⟨hx, hsame⟩
  | some row =>
    cases hrun
    obtain ⟨hrow, ht, hr⟩ := (hown row).mpr (by simp)
    let rs := v.db.ruleStates.modify row.id (fun r => { r with enabled := enabled }) fun _ => rfl
    have hmem (x : RuleStateRow) : x ∈ rs.rows ↔ x = { row with enabled := enabled } ∨
        (x ∈ v.db.ruleStates.rows ∧ ¬ (x.tenantId = row.tenantId ∧ x.ruleId = row.ruleId)) := by
      rw [KeyedTable.mem_modify]
      constructor
      · rintro (⟨r, hr', hkey, rfl⟩ | ⟨hx, hkey⟩)
        · left
          rw [v.db.ruleStates.eq_of_key_eq hr' hrow hkey]
        · refine Or.inr ⟨hx, fun hsame => hkey ?_⟩
          have hxrow := (hown x).mp ⟨hx, hsame.1.trans ht, hsame.2.trans hr⟩
          rw [Option.mem_toList] at hxrow
          cases hxrow
          rfl
      · rintro (rfl | ⟨hx, hne⟩)
        · exact Or.inl ⟨row, hrow, rfl, rfl⟩
        · refine Or.inr ⟨hx, fun hkey => hne ?_⟩
          rw [v.db.ruleStates.eq_of_key_eq hx hrow hkey]
          exact ⟨rfl, rfl⟩
    have hwrite : Holds { v.db with ruleStates := rs } _ := h.write _ hmem
    rw [ht, hr] at hwrite
    exact hwrite

/-- An answered toggle has written the setting of its caller's tenant. -/
theorem toggleRule_holds {rt : Runtime} {env : Env} {auth : Authorization} {ruleId : String}
    {enabled : Bool} {s t : Session} {r : Routes.RuleResponse} {last : Settings.Rules}
    (h : Holds s.db last) (hrun : (Routes.toggleRule rt env auth ruleId enabled).run s = .ok r t) :
    ∃ token, auth = .bearer token ∧ Holds t.db fun t' r' =>
      (if token.tenantId = t' ∧ ruleId = r' then some enabled else none).or (last t' r') := by
  unfold Routes.toggleRule at hrun
  obtain ⟨p, u, hp, hrun⟩ := run_bind_eq_ok.mp hrun
  obtain ⟨⟨token, hid, rfl, _⟩, rfl⟩ := require_eq_ok.mp hp
  obtain ⟨rule, v, hrule, hrun⟩ := run_bind_eq_ok.mp hrun
  obtain ⟨_, rfl⟩ := orRaise_eq_ok.mp hrule
  obtain ⟨_, v', hset, hrun⟩ := run_bind_eq_ok.mp hrun
  obtain ⟨_, t', haudit, hret⟩ := run_bind_eq_ok.mp hrun
  cases hret
  refine ⟨token, hid.bearer, ?_⟩
  have hwritten := setEnabled_holds (s := s.ticked) h hset
  have hkept := (AuditService.recordEntry_touches (F := [Resource.auditLog]) rt env _).moves.of_ok
    haudit .ruleStates (by decide)
  have hrows : t.db.ruleStates = v'.db.ruleStates := hkept.1
  exact ⟨by rw [hrows]; exact hwritten.unique, by rw [hrows]; exact hwritten.setting⟩

section

variable {w : World} {last : Settings.Rules}

/-- Rows that stay hold what they held. -/
theorem Holds.congr {db db' : Database} (h : Holds db last)
    (hrows : db'.ruleStates = db.ruleStates) : Holds db' last :=
  ⟨by rw [hrows]; exact h.unique, by rw [hrows]; exact h.setting⟩

theorem Holds.step (rt : Runtime) (h : Holds w.db last) (e : Event) :
    Holds (step rt w e).db fun t r => (toggleOf rt t r w e).or (last t r) := by
  by_cases htoggle : ∃ auth ruleId enabled, e.request = .admin auth (.toggleRule ruleId enabled)
  · obtain ⟨auth, ruleId, enabled, he⟩ := htoggle
    have hc : .committed ∉ footprint e.request := by simp [he, footprint]
    obtain ⟨body, t, hrun, hdb⟩ | ⟨⟨ex, t, hrun⟩, hdb⟩ := step_db rt hc
    · have hsucc : succeeds rt w e = true := (succeeds_iff rt w e).mpr ⟨body, t, hrun⟩
      obtain ⟨r, h', rfl⟩ := (handled_eq_ok he rfl).mp hrun
      obtain ⟨token, rfl, hwritten⟩ := toggleRule_holds (s := w.session) h h'
      have heq (t' r' : String) : toggleOf rt t' r' w e =
          if token.tenantId = t' ∧ ruleId = r' then some enabled else none := by
        rw [toggleOf, he]
        simp [hsucc]
      simp only [heq]
      rw [hdb]
      exact hwritten
    · have hnone (t' r' : String) : toggleOf rt t' r' w e = none := by
        have hfail : succeeds rt w e ≠ true := fun hs => by
          obtain ⟨body, t', hok⟩ := (succeeds_iff rt w e).mp hs
          cases hrun.symm.trans hok
        rw [toggleOf, he]
        cases auth with
        | bearer token => simp [hfail]
        | _ => rfl
      simp only [hnone, Option.none_or]
      exact h.congr (by rw [hdb])
  · have hnone (t' r' : String) : toggleOf rt t' r' w e = none := by
      unfold toggleOf
      split
      · exact absurd ⟨_, _, _, by assumption⟩ htoggle
      · rfl
    simp only [hnone, Option.none_or]
    refine h.congr (step_kept .ruleStates ?_)
    cases he : e.request with
    | case auth invId r => cases r <;> simp [writes]
    | provider auth r => cases r <;> simp [writes]
    | admin auth r =>
      cases r with
      | toggleRule ruleId enabled => exact absurd ⟨auth, ruleId, enabled, he⟩ htoggle
      | _ => simp [writes]
    | _ => simp [writes]

/-- The rule states after a run hold the last toggles. -/
theorem Holds.run (rt : Runtime) (h : Holds w.db last) (es : List Event) :
    Holds (run rt w es).db fun t r => (lastToggle rt t r w es).or (last t r) := by
  induction es generalizing w last with
  | nil => exact h
  | cons e es ih =>
    have hrest := ih (h.step rt e)
    simp only [lastToggle, Option.or_assoc]
    exact hrest

end

/-! ## The rules that are enabled -/

/-- The default rules whose last toggle by the tenant was not "disabled". -/
def activeRules (rt : Runtime) (tenantId : String) (w : World) (es : List Event) :
    List DetectionRule :=
  defaultRules.filter fun r => lastToggle rt tenantId r.ruleId w es != some false

/-- What every route reads off the rule states: the rules that were not disabled last. -/
theorem enabledRules_run (rt : Runtime) {w : World} (h : w.db.ruleStates = .empty)
    (es : List Event) (tenantId : String) :
    enabledRules (disabledAt (run rt w es).db tenantId) = activeRules rt tenantId w es := by
  have hholds := (Holds.empty h).run rt es
  refine List.filter_congr fun r _ => ?_
  have hsetting := hholds.setting tenantId r.ruleId false
  rw [Option.or_none] at hsetting
  have hmem : r.ruleId ∈ disabledAt (SentinelAI.run rt w es).db tenantId ↔
      lastToggle rt tenantId r.ruleId w es = some false := by
    rw [hsetting, disabledAt, List.mem_map]
    simp only [KeyedTable.mem_select, Bool.and_eq_true, beq_iff_eq, Bool.not_eq_true']
    constructor
    · rintro ⟨row, ⟨hrow, ht, hb⟩, hr⟩
      exact ⟨row, hrow, ht, hr, hb⟩
    · rintro ⟨row, hrow, ht, hr, hb⟩
      exact ⟨row, ⟨hrow, ht, hb⟩, hr⟩
  rw [Bool.eq_iff_iff]
  simp [hmem]

end SentinelAI
