import SentinelAI.Console.Client
import SentinelAI.Records.KnownRoles

/-
  The console and the service, with requests and answers under way between them.

  What a tab shows of its operator is what its token says (`Shows`), and for the roles of the
  service the permissions the console knows of are the service's (`can_eq_hasPermission`). So
  whatever overtakes whatever, the service's permission check stops one thing only of what an
  operator was shown: the pages of a provider administrator (`console_session`). A page's reload
  may be asked for with the token of whoever has signed in since, and is checked as theirs.
-/

namespace SentinelAI

namespace Console

open Lib

/-! ## Permissions -/

/-- The service's permission of the same text. -/
def Permission.server : Permission → SentinelAI.Permission
  | .searchRun => .searchRun
  | .detectionRun => .detectionRun
  | .investigationRead => .investigationRead
  | .investigationRun => .investigationRun
  | .actionApprove => .actionApprove
  | .caseWrite => .caseWrite
  | .auditRead => .auditRead
  | .admin => .admin

/-- The two tables agree on every role there is. -/
theorem can_eq_hasPermission {role : String} (h : KnownRole role) (p : Permission) :
    can (some role) p = hasPermission role p.server := by
  obtain ⟨r, _, rfl⟩ := List.mem_map.mp h
  cases r <;> cases p <;> rfl

/-- Of the service's roles, only the provider administrator may not read. -/
theorem hasPermission_read {role : String} (h : KnownRole role) :
    hasPermission role .investigationRead = true ↔ role ≠ Role.providerAdmin.value := by
  obtain ⟨r, _, rfl⟩ := List.mem_map.mp h
  cases r <;> decide

/-- The permission an endpoint requires. -/
def Ask.permission (a : Ask) : SentinelAI.Permission :=
  (a.gate.map Permission.server).getD .investigationRead

theorem handle_ask (rt : Runtime) (env : Env) (auth : Authorization) (a : Ask) :
    ∃ k : Principal → ApiM Body,
      handle rt env (a.request auth) = Deps.require env auth a.permission >>= k := by
  have hmap {α : Type} {f : α → Body} {k : Principal → ApiM α} {p : SentinelAI.Permission} :
      ∃ k' : Principal → ApiM Body, f <$> (Deps.require env auth p >>= k) = Deps.require env auth p >>= k' :=
    ⟨fun principal => f <$> k principal, map_bind f _ k⟩
  cases a <;> exact hmap

/-- What the check of a permission makes of a signed token, if the role has it where `has` holds. -/
structure PermissionChecked (env : Env) (k : Token) (p : SentinelAI.Permission) (has : Prop) : Prop where
  /-- the request is handled as far as its token is accepted -/
  passed (h : has) (s : Session) :
    (Deps.require env (.bearer k) p).run s = (Deps.getPrincipal env (.bearer k)).run s
  /-- it is answered 403, once its token is accepted -/
  stopped (h : ¬ has) (s t : Session) (principal : Principal)
    (hp : (Deps.getPrincipal env (.bearer k)).run s = .ok principal t) :
    (Deps.require env (.bearer k) p).run s = .error (httpError 403
      ("Role '" ++ k.role ++ "' lacks permission '" ++ p.value ++ "'")) t

theorem permissionChecked (env : Env) (k : Token) (p : SentinelAI.Permission) :
    PermissionChecked env k p (k.principal.can p = true) where
  passed h s := by
    unfold Deps.require
    rw [EStateM.run_bind]
    cases hp : (Deps.getPrincipal env (.bearer k)).run s with
    | error ex t => rfl
    | ok principal t =>
      obtain ⟨token, hid, rfl, rfl⟩ := getPrincipal_eq_ok.mp hp
      cases hid.bearer
      dsimp only
      rw [h]
      rfl
  stopped h s t principal hp := by
    unfold Deps.require
    rw [run_bind_ok hp]
    obtain ⟨token, hid, rfl, rfl⟩ := getPrincipal_eq_ok.mp hp
    cases hid.bearer
    rw [Bool.not_eq_true] at h
    rw [h]
    rfl

/-- The request of a page or control, with a signed token: the permission is checked first. -/
def Checked (rt : Runtime) (a : Ask) (k : Token) (has : Prop) : Prop :=
  ∀ env, PermissionChecked env k a.permission has ∧ ∃ f : Principal → ApiM Body,
    handle rt env (a.request (.bearer k)) = Deps.require env (.bearer k) a.permission >>= f

theorem checked (rt : Runtime) (a : Ask) (k : Token) :
    Checked rt a k (k.principal.can a.permission = true) :=
  fun env => ⟨permissionChecked env k a.permission, handle_ask rt env (.bearer k) a⟩

/-! ## Logins -/

theorem answer_eq (rt : Runtime) (w : World) (e : Event) :
    answer rt w e = match handled rt w e with
      | .ok body _ => .ok body
      | .error ex _ => .error ex := by
  unfold answer respond handled
  rw [EStateM.run_bind]
  cases (handle rt e.env e.request).run (.start w.db w.captured w.issued) <;> rfl

/-- A tenant of this id and name is stored. -/
def Named (w : World) (tenantId name : String) : Prop :=
  ∃ t ∈ w.db.tenants.rows, t.id = tenantId ∧ t.name = name

theorem Named.step {w : World} {tenantId name : String} (h : Named w tenantId name) (rt : Runtime)
    (e : Event) : Named (SentinelAI.step rt w e) tenantId name := by
  obtain ⟨t, ht, hid, hname⟩ := h
  have hchange := step_tenants_change rt w e
  unfold Named
  generalize (SentinelAI.step rt w e).db.tenants = tenants at hchange ⊢
  cases hchange with
  | kept => exact ⟨t, ht, hid, hname⟩
  | created new after hfree hins => exact ⟨t, (mem_of_insert? hins).mpr (Or.inl ht), hid, hname⟩
  | modified k f hf hnamed =>
    by_cases hk : t.id = k
    · exact ⟨f t, (KeyedTable.mem_modify hf).mpr (Or.inl ⟨t, ht, hk, rfl⟩), (hf t).trans hid,
        (hnamed t).trans hname⟩
    · exact ⟨t, (KeyedTable.mem_modify hf).mpr (Or.inr ⟨ht, hk⟩), hid, hname⟩

/-- A login is answered with what its token says. -/
structure SaysToken (w : World) (user : String) (resp : Routes.TokenResponse) : Prop where
  signed : resp.accessToken ∈ w.issued
  username : resp.accessToken.sub = user
  role : resp.accessToken.role = resp.role
  tenant : Named w resp.accessToken.tenantId resp.tenant

theorem SaysToken.step {w : World} {user : String} {resp : Routes.TokenResponse}
    (h : SaysToken w user resp) (rt : Runtime) (e : Event) :
    SaysToken (SentinelAI.step rt w e) user resp :=
  ⟨mem_issued_step h.signed, h.username, h.role, h.tenant.step rt e⟩

theorem authenticate_username {rt : Runtime} {tenantId username password : String} {s t : Session}
    {user : UserRow} (h : (UserRepository.authenticate rt tenantId username password).run s = .ok (some user) t) :
    user.username = username := by
  unfold UserRepository.authenticate UserRepository.getByUsername at h
  obtain ⟨o, u, ho, h⟩ := run_bind_eq_ok.mp h
  obtain ⟨hsel, rfl⟩ := selectOne_eq_ok.mp ho
  cases o with
  | none => cases h
  | some user' =>
    dsimp only at h
    split at h
    · cases h
      have hmem : user ∈ (Tables.users.get t.db).select fun u =>
          u.tenantId == tenantId && u.username == username := by
        rw [hsel]
        exact List.mem_singleton_self user
      have hclause := (KeyedTable.mem_select.mp hmem).2
      exact beq_iff_eq.mp (Bool.and_eq_true_iff.mp hclause).2
    · cases h

theorem login_says (rt : Runtime) {w : World} {env : Env} {body : Routes.LoginRequest}
    {resp : Routes.TokenResponse}
    (h : answer rt w ⟨env, .login body⟩ = .ok (.token resp)) :
    SaysToken (SentinelAI.step rt w ⟨env, .login body⟩) body.username resp := by
  let e : Event := ⟨env, .login body⟩
  obtain ⟨t, hrun⟩ : ∃ t, handled rt w e = .ok (.token resp) t := by
    rw [answer_eq] at h
    cases hr : handled rt w e with
    | ok b t =>
      rw [hr] at h
      cases h
      exact ⟨t, rfl⟩
    | error ex t =>
      rw [hr] at h
      cases h
  rw [show SentinelAI.step rt w e = { db := t.db, issued := t.issued, captured := t.captured } by
    rw [step_eq, hrun]]
  obtain ⟨r, hlogin, hr⟩ := (handled_eq_ok rfl rfl).mp hrun
  cases hr
  unfold Routes.login at hlogin
  obtain ⟨o, _, ho, hlogin⟩ := run_bind_eq_ok.mp hlogin
  obtain ⟨rfl, htenant⟩ := getByName_ok ho
  cases o with
  | none => cases hlogin
  | some tenant =>
    obtain ⟨hrow, _⟩ := htenant tenant rfl
    obtain ⟨_, _, hactive, hlogin⟩ := run_bind_eq_ok.mp hlogin
    obtain ⟨_, rfl⟩ := raiseIf_eq_ok.mp hactive
    obtain ⟨found, _, hauth, hlogin⟩ := run_bind_eq_ok.mp hlogin
    obtain rfl := authenticate_keeps hauth
    cases found with
    | none =>
      obtain ⟨_, _, _, hlogin⟩ := run_bind_eq_ok.mp hlogin
      cases hlogin
    | some user =>
      obtain ⟨_, _, hrec, hlogin⟩ := run_bind_eq_ok.mp hlogin
      rw [AuditService.recordEntry_run] at hrec
      cases hrec
      cases hlogin
      exact ⟨List.mem_append_right _ (List.mem_singleton_self _), authenticate_username hauth, rfl,
        tenant, hrow, rfl, rfl⟩

/-! ## Sound states -/

/-- What a tab shows is what its token says. -/
inductive Shows (w : World) : Tab → Prop
  | signedOut : Shows w .logout
  | signedIn (user : String) (resp : Routes.TokenResponse) (h : SaysToken w user resp) :
    Shows w (.login user resp)

theorem Shows.step {w : World} {t : Tab} (h : Shows w t) (rt : Runtime) (e : Event) :
    Shows (SentinelAI.step rt w e) t := by
  cases h with
  | signedOut => exact .signedOut
  | signedIn user resp h => exact .signedIn user resp (h.step rt e)

/-- A request with a signed token, shown to an operator of the token's role. -/
def Shown (w : World) (a : Ask) (auth : Authorization) : Prop :=
  ∃ k ∈ w.issued, auth = .bearer k ∧ ∀ p ∈ a.gate, can (some k.role) p = true

/-- What a tab shows is asked for with its token. -/
theorem Shows.shown {w : World} {t : Tab} (h : Shows w t) {a : Ask} (hshows : t.shows a = true) :
    Shown w a t.header := by
  obtain ⟨hauth, hgate⟩ := Bool.and_eq_true_iff.mp hshows
  cases h with
  | signedOut => cases hauth
  | signedIn user resp h =>
    refine ⟨resp.accessToken, h.signed, rfl, fun p hp => ?_⟩
    rw [h.role]
    rw [Option.mem_def.mp hp] at hgate
    exact hgate

/-- The header of a tab that is signed in, or of one that is not. -/
def Signed (w : World) (auth : Authorization) : Prop :=
  auth = .missing ∨ ∃ k ∈ w.issued, auth = .bearer k

theorem Shows.header {w : World} {t : Tab} (h : Shows w t) : Signed w t.header := by
  cases h with
  | signedOut => exact Or.inl rfl
  | signedIn user resp h => exact Or.inr ⟨resp.accessToken, h.signed, rfl⟩

theorem Signed.step {w : World} {auth : Authorization} (h : Signed w auth) (rt : Runtime) (e : Event) :
    Signed (SentinelAI.step rt w e) auth :=
  h.imp_right fun ⟨k, hk, hauth⟩ => ⟨k, mem_issued_step hk, hauth⟩

/-- What holds of a system at any point. -/
structure Sound (s : System) : Prop where
  tab : Shows s.world s.tab
  replies : ∀ r ∈ s.replies, ∀ body resp, r.sent = .login body → r.answer = .ok (.token resp) →
    SaysToken s.world body.username resp
  shown : ∀ a auth, Sent.ask a auth ∈ s.sent → Shown s.world a auth
  reloads : ∀ a auth, Sent.reload a auth ∈ s.sent → Signed s.world auth

theorem Sound.received {s : System} (h : Sound s) {r : Reply} (hr : r ∈ s.replies) :
    Shows s.world (s.tab.receive r) := by
  unfold Tab.receive
  split
  · exact .signedIn _ _ (h.replies r hr _ _ ‹_› ‹_›)
  · exact h.tab

/-- Requests of the service leave the console's side. -/
theorem Sound.moved {s : System} (h : Sound s) (rt : Runtime) (e : Event) :
    Sound { s with world := SentinelAI.step rt s.world e } where
  tab := h.tab.step rt e
  replies r hr body resp hsent hans := (h.replies r hr body resp hsent hans).step rt e
  shown a auth ha := by
    obtain ⟨k, hk, hauth, hgate⟩ := h.shown a auth ha
    exact ⟨k, mem_issued_step hk, hauth, hgate⟩
  reloads a auth ha := (h.reloads a auth ha).step rt e

/-- The same of fewer requests and replies under way. -/
theorem Sound.fewer {s : System} (h : Sound s) {sent : List Sent} {replies : List Reply}
    (hsent : sent ⊆ s.sent) (hreplies : replies ⊆ s.replies) :
    Sound { s with sent := sent, replies := replies } where
  tab := h.tab
  replies r hr := h.replies r (hreplies hr)
  shown a auth ha := h.shown a auth (hsent ha)
  reloads a auth ha := h.reloads a auth (hsent ha)

/-- One more request is sent. -/
theorem Sound.sends {s : System} (h : Sound s) {q : Sent}
    (hask : ∀ a auth, q = .ask a auth → Shown s.world a auth)
    (hreload : ∀ a auth, q = .reload a auth → Signed s.world auth) :
    Sound { s with sent := s.sent ++ [q] } where
  tab := h.tab
  replies := h.replies
  shown a auth ha := by
    obtain ha | ha := List.mem_append.mp ha
    · exact h.shown a auth ha
    · exact hask a auth (List.mem_singleton.mp ha).symm
  reloads a auth ha := by
    obtain ha | ha := List.mem_append.mp ha
    · exact h.reloads a auth ha
    · exact hreload a auth (List.mem_singleton.mp ha).symm

theorem Sound.step {rt : Runtime} {s s' : System} (h : Sound s) (hs : Step rt s s') : Sound s' := by
  have hdrop {α : Type} {l before after : List α} {x : α} (hl : l = before ++ x :: after) :
      before ++ after ⊆ l := by
    rw [hl]
    exact fun y hy => List.mem_append.mpr ((List.mem_append.mp hy).imp_right (List.mem_cons_of_mem x))
  cases hs with
  | signIn body => exact h.sends (fun a auth hq => by cases hq) (fun a auth hq => by cases hq)
  | signOut hauth =>
    have hsent := h.sends (q := .logout s.tab.header) (fun a auth hq => by cases hq) (fun a auth hq => by cases hq)
    exact ⟨.signedOut, hsent.replies, hsent.shown, hsent.reloads⟩
  | ask a hshows =>
    refine h.sends (fun b auth hq => ?_) (fun b auth hq => by cases hq)
    cases hq
    exact h.tab.shown hshows
  | serve env q before after hsent =>
    have hm := (h.moved rt ⟨env, q.request⟩).fewer (hdrop hsent) (List.Subset.refl _)
    refine ⟨hm.tab, fun r hr body resp hlogin hans => ?_, hm.shown, hm.reloads⟩
    obtain hr | hr := List.mem_append.mp hr
    · exact hm.replies r hr body resp hlogin hans
    · obtain rfl := List.mem_singleton.mp hr
      obtain rfl : q = .login body := hlogin
      exact login_says rt hans
  | receive r before after hreplies =>
    have hr : r ∈ s.replies := hreplies ▸ List.mem_append_right before List.mem_cons_self
    have hf := h.fewer (List.Subset.refl s.sent) (hdrop hreplies)
    refine ⟨h.received hr, hf.replies, fun a auth ha => ?_, fun a auth ha => ?_⟩
    · -- a reload is not an ask of its own
      obtain ha | ha := List.mem_append.mp ha
      · exact h.shown a auth ha
      · obtain ⟨_, _, hb⟩ := List.mem_map.mp ha
        cases hb
    · obtain ha | ha := List.mem_append.mp ha
      · exact h.reloads a auth ha
      · obtain ⟨_, _, hb⟩ := List.mem_map.mp ha
        cases hb
        exact (h.received hr).header
  | loseRequest q before after hsent => exact h.fewer (hdrop hsent) (List.Subset.refl _)
  | loseReply r before after hreplies => exact h.fewer (List.Subset.refl _) (hdrop hreplies)
  | other e => exact h.moved rt e

/-- One step after another. -/
abbrev Reaches (rt : Runtime) : System → System → Prop := Relation.ReflTransGen (Step rt)

theorem Reaches.sound {rt : Runtime} {w : World} {s : System} (h : Reaches rt { world := w } s) : Sound s := by
  induction h with
  | refl =>
    exact ⟨.signedOut, fun r hr => (by cases hr), fun a auth ha => (by cases ha), fun a auth ha => (by cases ha)⟩
  | tail _ hs ih => exact ih.step hs

/-- The world of the service meets further requests only. -/
theorem Reaches.knownRoles {rt : Runtime} {w : World} {s : System} (h : Reaches rt { world := w } s)
    (hw : KnownRoles w) : KnownRoles s.world := by
  induction h with
  | refl => exact hw
  | tail _ hs ih =>
    cases hs with
    | serve env q before after hsent => exact ih.after_step rt ⟨env, q.request⟩
    | other e => exact ih.after_step rt e
    | _ => exact ih

/-! ## The console and the permission check -/

/-- A token's role is permitted what an operator of it was shown, unless it is the provider
    administrator's and the page is always shown. -/
theorem Shown.permitted {w : World} {a : Ask} {auth : Authorization} (h : Shown w a auth)
    (hw : KnownRoles w) : ∃ k ∈ w.issued, auth = .bearer k ∧
      (k.principal.can a.permission = true ↔ (a.gate = none → k.role ≠ Role.providerAdmin.value)) := by
  obtain ⟨k, hk, hauth, hgate⟩ := h
  refine ⟨k, hk, hauth, ?_⟩
  have hrole := hw.tokens k hk
  unfold Ask.permission Principal.can
  cases hg : a.gate with
  | none => exact (hasPermission_read hrole).trans ⟨fun h _ => h, fun h => h rfl⟩
  | some p =>
    have hcan : hasPermission k.role p.server = true := (can_eq_hasPermission hrole p).symm.trans (hgate p hg)
    exact ⟨fun _ hnone => (by cases hnone), fun _ => hcan⟩

/-- The console and the service agree, however requests and answers overtake each other. A
    tab is signed out without a token, or shows the name, role and tenant of the token it
    holds. Of its gated pages and controls it shows just those whose requests the service
    permits the token's role. And a request of a page or control that was shown is handled as
    far as its token is accepted, unless the page is always shown and the role is the provider
    administrator's: then the permission check answers 403. The reload of a page is checked for
    the role of the token the tab holds by then. -/
theorem console_session (rt : Runtime) (os : List Occurrence) (s : System)
    (h : Reaches rt { world := live rt .new os } s) :
    Shows s.world s.tab ∧
      (∀ a k, a.gate ≠ none → s.tab.authToken = some k →
        (s.tab.shows a = true ↔ k.principal.can a.permission = true)) ∧
      (∀ a auth, Sent.ask a auth ∈ s.sent → ∃ k ∈ s.world.issued, auth = .bearer k ∧
        Checked rt a k (a.gate = none → k.role ≠ Role.providerAdmin.value)) ∧
      ∀ a auth, Sent.reload a auth ∈ s.sent → auth = .missing ∨ ∃ k ∈ s.world.issued,
        auth = .bearer k ∧ Checked rt a k (k.principal.can a.permission = true) := by
  have hsound := h.sound
  have hroles := h.knownRoles (live_known_roles rt os)
  refine ⟨hsound.tab, fun a k hgate htoken => ?_, fun a auth ha => ?_, fun a auth ha => ?_⟩
  · have htab := hsound.tab
    generalize s.tab = tab at htab htoken ⊢
    cases htab with
    | signedOut => cases htoken
    | signedIn user resp htold =>
      cases htoken
      unfold Tab.shows Ask.permission Principal.can
      cases hg : a.gate with
      | none => exact absurd hg hgate
      | some p =>
        have hcan := can_eq_hasPermission (hroles.tokens _ htold.signed) p
        rw [htold.role] at hcan
        show (true && can (some resp.role) p) = true ↔ hasPermission resp.accessToken.role p.server = true
        rw [htold.role, hcan, Bool.true_and]
  · obtain ⟨k, hk, rfl, hpermitted⟩ := (hsound.shown a auth ha).permitted hroles
    exact ⟨k, hk, rfl, propext hpermitted ▸ checked rt a k⟩
  · obtain hmissing | ⟨k, hk, rfl⟩ := hsound.reloads a auth ha
    · exact Or.inl hmissing
    · exact Or.inr ⟨k, hk, rfl, checked rt a k⟩

/-- The default tenant's administrator at the console of a new deployment. -/
def defaultLogin : Routes.LoginRequest where
  username := Bootstrap.defaultUser
  password := Bootstrap.defaultPassword
  tenant := Bootstrap.defaultTenant

def defaultReply : Reply where
  sent := .login defaultLogin
  answer := answer shortDigest (start firstStart .new) (analystSignsIn "j1")

/-- Signed in, and having asked for a run of the pipeline. -/
def consoleAtWork : System where
  world := SentinelAI.step shortDigest (start firstStart .new) (analystSignsIn "j1")
  tab := Tab.receive {} defaultReply
  sent := [.ask .runInvestigations (Tab.receive {} defaultReply).header]

theorem console_session_at_work :
    consoleAtWork.tab.role = some "admin" ∧ Shows consoleAtWork.world consoleAtWork.tab ∧
      ∃ k ∈ consoleAtWork.world.issued, consoleAtWork.tab.header = .bearer k ∧
        Checked shortDigest .runInvestigations k True := by
  have hsent : Step shortDigest { world := start firstStart .new }
      { world := start firstStart .new, sent := [.login defaultLogin] } := .signIn defaultLogin
  have hserved : Step shortDigest { world := start firstStart .new, sent := [.login defaultLogin] }
      { world := consoleAtWork.world, replies := [defaultReply] } :=
    .serve (analystSignsIn "j1").env (.login defaultLogin) [] [] rfl
  have hreceived : Step shortDigest { world := consoleAtWork.world, replies := [defaultReply] }
      { world := consoleAtWork.world, tab := consoleAtWork.tab, sent := defaultReply.reloads.map fun a =>
        .reload a consoleAtWork.tab.header } := .receive defaultReply [] [] rfl
  have hasked : Step shortDigest { world := consoleAtWork.world, tab := consoleAtWork.tab } consoleAtWork :=
    .ask .runInvestigations (by decide +kernel)
  have hreaches := (((Relation.ReflTransGen.refl.tail hsent).tail hserved).tail hreceived).tail hasked
  obtain ⟨hshows, _, hasks, _⟩ := console_session shortDigest [.start firstStart] consoleAtWork hreaches
  obtain ⟨k, hk, hauth, hchecked⟩ := hasks .runInvestigations _ (List.mem_singleton_self _)
  have hgate : (Ask.runInvestigations.gate = none → k.role ≠ Role.providerAdmin.value) = True :=
    eq_true fun h => (by cases h)
  exact ⟨by decide +kernel, hshows, k, hk, hauth, hgate ▸ hchecked⟩

end Console

end SentinelAI
