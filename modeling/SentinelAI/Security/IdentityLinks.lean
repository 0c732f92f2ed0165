import SentinelAI.Security.LastAdministrator

/-
  Whether an identity provider's subject is linked to one account.

  `create_user` looks for an account of the same name before it adds one; `link_identity` links
  a subject without looking for an account that has it, and `get_by_external_id` raises on two.
  `maps_step` says which requests link a subject twice; `identities_map_iff` that runs without
  one keep the mapping a function.
-/

namespace SentinelAI

open Lib

/-- The accounts of the tenant a subject is linked to. -/
def LinkedTo (w : World) (tenantId externalId : String) (u : UserRow) : Prop :=
  u ∈ w.db.users.rows ∧ u.tenantId = tenantId ∧ u.externalId = some externalId

/-- The tenant's mapping of subjects to accounts is a function. -/
def MapsIdentities (tenantId : String) (w : World) : Prop :=
  ∀ externalId u v, LinkedTo w tenantId externalId u → LinkedTo w tenantId externalId v → u = v

/-- The lookup of a subject never finds two rows. -/
def LooksUpIdentities (tenantId : String) (w : World) : Prop :=
  ∀ externalId, ∃ o, (UserRepository.getByExternalId tenantId externalId).run w.session =
    .ok o w.session

/-- An admitted administrator links a subject to an account of the tenant while another account
    of the tenant has it. -/
def LinksTwice (tenantId : String) (w : World) (e : Event) : Prop :=
  ∃ auth p externalId user other, e.request = .admin auth (.linkIdentity user.id externalId) ∧
    Admitted w.db w.issued (e.env.now 0) auth .admin p ∧ p.tenantId = tenantId ∧
    (1 ≤ externalId.length ∧ externalId.length ≤ 255) ∧
    user ∈ w.db.users.rows ∧ user.tenantId = tenantId ∧
    LinkedTo w tenantId externalId other ∧ other ≠ user

section

variable {tenantId : String} {w : World} {e : Event}

/-- The two readings agree. -/
theorem looksUp_iff : LooksUpIdentities tenantId w ↔ MapsIdentities tenantId w := by
  have hmem : ∀ externalId u, u ∈ (Tables.users.get w.session.db).select (fun u =>
      u.tenantId == tenantId && u.externalId == some externalId) ↔ LinkedTo w tenantId externalId u := by
    intro externalId u
    rw [KeyedTable.mem_select, Bool.and_eq_true, beq_iff_eq, beq_iff_eq]
    exact Iff.rfl
  constructor
  · intro h externalId u v hu hv
    obtain ⟨o, hrun⟩ := h externalId
    obtain ⟨hsel, _⟩ := selectOne_eq_ok.mp hrun
    have hu' := (hmem externalId u).mpr hu
    have hv' := (hmem externalId v).mpr hv
    rw [hsel, Option.mem_toList] at hu' hv'
    exact Option.some.inj (hu'.symm.trans hv')
  · intro h externalId
    by_cases hlinked : ∃ u, LinkedTo w tenantId externalId u
    · obtain ⟨u, hu⟩ := hlinked
      refine ⟨some u, selectOne_eq_ok.mpr ⟨KeyedTable.select_eq_singleton _ hu.1 fun v hv => ?_, rfl⟩⟩
      constructor
      · intro hp
        exact h externalId v u ((hmem externalId v).mp (KeyedTable.mem_select.mpr ⟨hv, hp⟩)) hu
      · rintro rfl
        exact (KeyedTable.mem_select.mp ((hmem externalId v).mpr hu)).2
    · refine ⟨none, selectOne_eq_ok.mpr ⟨List.eq_nil_iff_forall_not_mem.mpr fun u hu => ?_, rfl⟩⟩
      exact hlinked ⟨u, (hmem externalId u).mp hu⟩

/-- After such a request two accounts have the subject. -/
theorem LinksTwice.linked (rt : Runtime) (h : LinksTwice tenantId w e) :
    ¬ MapsIdentities tenantId (step rt w e) := by
  obtain ⟨auth, p, externalId, user, other, he, hp, rfl, hlength, hmem, hof, hother, hne⟩ := h
  have husers := changeAccount_step rt (f := fun u => { u with externalId := some externalId })
    (fun _ => rfl) he (.link user.id externalId hlength) hp ⟨hmem, hof, rfl⟩
  intro hmaps
  have hid : other.id ≠ user.id := fun hid => hne (w.db.users.eq_of_key_eq hother.1 hmem hid)
  have hkept : other ∈ (step rt w e).db.users.rows := by
    rw [husers]
    exact (KeyedTable.mem_modify _).mpr (Or.inr ⟨hother.1, hid⟩)
  have hnew : { user with externalId := some externalId } ∈ (step rt w e).db.users.rows := by
    rw [husers]
    exact (KeyedTable.mem_modify _).mpr (Or.inl ⟨user, hmem, rfl, rfl⟩)
  have hsame := hmaps externalId other _ ⟨hkept, hother.2⟩ ⟨hnew, hof, rfl⟩
  exact hid (by rw [hsame])

/-- Rows that were there, and rows that are linked to nothing, keep the mapping. -/
theorem MapsIdentities.of_old {w' : World} (h : MapsIdentities tenantId w)
    (hold : ∀ u ∈ w'.db.users.rows, u ∈ w.db.users.rows ∨ u.externalId = none) :
    MapsIdentities tenantId w' := by
  have hlinked : ∀ externalId u, LinkedTo w' tenantId externalId u →
      LinkedTo w tenantId externalId u := by
    intro externalId u hu
    refine ⟨(hold u hu.1).resolve_right fun hnone => ?_, hu.2⟩
    rw [hu.2.2] at hnone
    cases hnone
  intro externalId u v hu hv
  exact h externalId u v (hlinked _ u hu) (hlinked _ v hv)

/-- Unless it links a subject twice, a change gives an account no subject of another one. -/
theorem MapsIdentities.apart (h : MapsIdentities tenantId w) (hnot : ¬ LinksTwice tenantId w e)
    {auth : Authorization} {r : AdminRequest} {userId externalId : String} {p : Principal}
    {f : UserRow → UserRow} {user v : UserRow} (he : e.request = .admin auth r)
    (hr : ChangesAccount r userId f) (hp : Admitted w.db w.issued (e.env.now 0) auth .admin p)
    (huser : OwnAccount w p userId user) (hv : LinkedTo w tenantId externalId v)
    (hid : v.id ≠ userId) (hof : (f user).tenantId = tenantId) :
    (f user).externalId ≠ some externalId := by
  obtain ⟨hmem, hown, rfl⟩ := huser
  intro hlinked
  cases hr with
  | role => exact hid (by rw [h externalId v user hv ⟨hmem, hof, hlinked⟩])
  | link _ x hlength =>
    cases hlinked
    have hother : v ≠ user := fun heq => hid (by rw [heq])
    exact hnot ⟨auth, p, externalId, user, v, he, hp, hown.symm.trans hof, hlength, hmem, hof, hv, hother⟩

/-- A request links a subject to a second account exactly if it is one of those. -/
theorem maps_step (rt : Runtime) (h : MapsIdentities tenantId w) :
    MapsIdentities tenantId (step rt w e) ↔ ¬ LinksTwice tenantId w e := by
  refine ⟨fun hafter htwice => htwice.linked rt hafter, fun hnot => ?_⟩
  have hchange := step_account_change rt w e
  generalize hw' : step rt w e = w' at hchange
  generalize hrows : w'.db.users = users at hchange
  cases hchange with
  | kept => exact h.of_old fun u hu => Or.inl (hrows ▸ hu)
  | created auth body p _ he hp hname hpassword hrole hfree hins =>
    refine h.of_old fun u hu => ?_
    rw [hrows] at hu
    refine (mem_users_insert hins hu).imp_right fun hnew => ?_
    rw [hnew]
    rfl
  | changed auth r userId f hf p user he hr hp huser =>
    have hcases : ∀ v ∈ w'.db.users.rows, v = f user ∨ (v ∈ w.db.users.rows ∧ v.id ≠ userId) := by
      intro v hv
      rw [hrows] at hv
      refine ((KeyedTable.mem_modify hf).mp hv).imp_left ?_
      rintro ⟨r, hr, hkey, rfl⟩
      rw [w.db.users.eq_of_key_eq hr huser.1 (hkey.trans huser.2.2.symm)]
    intro externalId u v ⟨humem, hu⟩ ⟨hvmem, hv⟩
    obtain rfl | ⟨huold, huid⟩ := hcases u humem <;> obtain rfl | ⟨hvold, hvid⟩ := hcases v hvmem
    · rfl
    · exact absurd hu.2 (h.apart hnot he hr hp huser ⟨hvold, hv⟩ hvid hu.1)
    · exact absurd hv.2 (h.apart hnot he hr hp huser ⟨huold, hu⟩ huid hv.1)
    · exact h externalId u v ⟨huold, hu⟩ ⟨hvold, hv⟩
  | deleted auth userId p user he hp hother huser =>
    refine h.of_old fun u hu => Or.inl ?_
    rw [hrows] at hu
    exact List.mem_of_mem_filter hu
  | tenantAdmin auth body _ he hname htenant hins =>
    refine h.of_old fun u hu => ?_
    rw [hrows] at hu
    refine (mem_users_insert hins hu).imp_right fun hnew => ?_
    rw [hnew]
    rfl

end

/-- A tenant whose mapping of subjects is a function keeps it one in every state a run reaches,
    and no lookup there finds two rows, exactly if no request of the run links a subject
    twice. -/
theorem identities_map_iff (rt : Runtime) (tenantId : String) (w : World) (es : List Event)
    (h : MapsIdentities tenantId w) :
    (∀ before after, es = before ++ after → MapsIdentities tenantId (run rt w before) ∧
        LooksUpIdentities tenantId (run rt w before)) ↔
      ∀ before e after, es = before ++ e :: after → ¬ LinksTwice tenantId (run rt w before) e := by
  simp only [looksUp_iff, and_self]
  exact throughout_iff (I := fun _ => True) (P := fun _ => True) (fun _ _ _ _ => trivial)
    (fun _ _ _ _ hgood => maps_step rt hgood) trivial h fun _ _ => trivial

/-! ## One subject for two accounts -/

/-- No subject is linked yet. -/
theorem globexOpen_maps : MapsIdentities "t1" globexOpen := by
  have hnone : ∀ u ∈ globexOpen.db.users.rows, u.externalId = none := by decide
  intro externalId u v hu _
  have hlinked := hu.2.2
  rw [hnone u hu.1] at hlinked
  cases hlinked

/-- A subject linked once. -/
theorem identities_map_iff_once :
    MapsIdentities "t1" (run .plain globexOpen [byRoot (.linkIdentity "u2" "okta|ana")]) ∧
      LooksUpIdentities "t1" (run .plain globexOpen [byRoot (.linkIdentity "u2" "okta|ana")]) := by
  refine (identities_map_iff .plain "t1" globexOpen _ globexOpen_maps).mpr ?_ _ [] rfl
  rintro before e after he ⟨auth, p, externalId, user, other, _, _, _, _, _, _, hother, _⟩
  match before with
  | [] =>
    have hnone : ∀ u ∈ globexOpen.db.users.rows, u.externalId = none := by decide
    have hlinked := hother.2.2
    rw [hnone other hother.1] at hlinked
    cases hlinked
  | _ :: before =>
    have hlen := congrArg List.length he
    simp at hlen

/-- The administrator links one subject to both accounts. -/
theorem identity_linked_twice :
    ¬ ∀ (rt : Runtime) (tenantId : String) (w : World) (es : List Event),
      MapsIdentities tenantId w →
      (∀ before e after, es = before ++ e :: after →
        AdministratorRequest tenantId (run rt w before) e) →
      MapsIdentities tenantId (run rt w es) := by
  intro h
  have hmaps := h .plain "t1" globexOpen
    [byRoot (.linkIdentity "u1" "okta|ana"), byRoot (.linkIdentity "u2" "okta|ana")]
    globexOpen_maps ?_
  · have hboth : ∀ userId ∈ ["u1", "u2"], ∃ u ∈ (run .plain globexOpen
        [byRoot (.linkIdentity "u1" "okta|ana"), byRoot (.linkIdentity "u2" "okta|ana")]).db.users.rows,
        u.id = userId ∧ u.tenantId = "t1" ∧ u.externalId = some "okta|ana" := by decide +kernel
    obtain ⟨u, hu, hid, hlinked⟩ := hboth "u1" (by decide)
    obtain ⟨v, hv, hid', hlinked'⟩ := hboth "u2" (by decide)
    rw [hmaps "okta|ana" u v ⟨hu, hlinked⟩ ⟨hv, hlinked'⟩, hid'] at hid
    exact absurd hid (by decide)
  intro before e after he
  match before with
  | [] =>
    cases he
    exact byRoot_request _ globexOpen ⟨_, rfl⟩
  | [_] =>
    cases he
    exact byRoot_request _ _ ⟨_, rfl⟩
  | _ :: _ :: before =>
    have hlen := congrArg List.length he
    simp at hlen

end SentinelAI
