import SentinelAI.Cases.Evidence
import SentinelAI.Tenancy.ProviderLockout

/-
  Case notes as an answered log. What `GET …/notes` lists is what the `POST …/notes` requests of
  the tenant on that case were answered with, each once, in the order of their instants: no
  answered note is lost, none is listed that was not answered, and no restart or other request
  changes one (`notes_listed`). Requests come one after another. `created_at` is compared as an
  instant, and notes of one instant are listed in the order they were stored, which the SQL
  itself leaves open.
-/

namespace SentinelAI

open Lib

variable {rt : Runtime}

/-! ## Answered notes -/

/-- The note a request of a tenant on a case is answered with. -/
def answeredNote (rt : Runtime) (tenantId invId : String) (w : World) (e : Event) :
    List Routes.NoteResponse :=
  match e.request, handled rt w e with
  | .case (.bearer token) id (.note _), .ok (.note r) _ =>
    if token.tenantId = tenantId ∧ id = invId then [r] else []
  | _, _ => []

/-- The answers to the notes of a tenant on a case, over the life of a deployment. -/
def answeredNotes (rt : Runtime) (tenantId invId : String) :
    World → List Occurrence → List Routes.NoteResponse
  | _, [] => []
  | w, .start env :: os => answeredNotes rt tenantId invId (start env w) os
  | w, .request e :: os =>
    answeredNote rt tenantId invId w e ++ answeredNotes rt tenantId invId (step rt w e) os

/-- The notes stored on a case, in the order they were stored. -/
def storedNotes (db : Database) (tenantId invId : String) : List Routes.NoteResponse :=
  (db.caseNotes.select fun n => n.tenantId == tenantId && n.investigationId == invId).map
    Routes.noteResponse

/-! ## Request by request -/

/-- A note request that returns has stored the note it answers with, under its author, and
    recorded it. -/
theorem addNote_ok {env : Env} {auth : Authorization} {id body : String} {s t : Session}
    {r : Routes.NoteResponse} (h : (Routes.addNote rt env auth id body).run s = .ok r t) :
    ∃ token note, auth = .bearer token ∧ s.db.caseNotes.insert? note = some t.db.caseNotes ∧
      note.tenantId = token.tenantId ∧ note.investigationId = id ∧ note.author = token.sub ∧
      r = Routes.noteResponse note ∧ AuditService.Appends rt.sha256 s.db.auditLog t.db.auditLog
        (Routes.investigationEntry token.principal "case.note_added" id none) := by
  unfold Routes.addNote at h
  obtain ⟨p, u, hp, h⟩ := run_bind_eq_ok.mp h
  obtain ⟨⟨token, hid, rfl, _⟩, rfl⟩ := require_eq_ok.mp hp
  obtain ⟨_, _, hlength, h⟩ := run_bind_eq_ok.mp h
  obtain ⟨_, rfl⟩ := raiseIf_eq_ok.mp hlength
  obtain ⟨o, v, hadd, h⟩ := run_bind_eq_ok.mp h
  obtain ⟨note, v', hnote, hlast⟩ := run_bind_eq_ok.mp h
  obtain ⟨rfl, rfl⟩ := orRaise_eq_ok.mp hnote
  obtain ⟨_, _, hrec, hret⟩ := run_bind_eq_ok.mp hlast
  cases hret
  have hentry := AuditService.recordEntry_appends hrec
  rw [AuditService.recordEntry_run] at hrec
  cases hrec
  unfold InvestigationRepository.addNote at hadd
  rw [run_bind_ok (InvestigationRepository.getRow_run ..)] at hadd
  cases hrow : (s.ticked.db.investigations.find? id).filter fun r =>
      r.tenantId == token.principal.tenantId with
  | none =>
    rw [hrow] at hadd
    cases hadd
  | some row =>
    rw [hrow] at hadd
    obtain ⟨_, _, huuid, hadd⟩ := run_bind_eq_ok.mp hadd
    cases huuid
    obtain ⟨_, _, hclock, hadd⟩ := run_bind_eq_ok.mp hadd
    cases hclock
    obtain ⟨_, _, hins, hadd⟩ := run_bind_eq_ok.mp hadd
    obtain ⟨notes, hnotes, rfl⟩ := insertRow_eq_ok.mp hins
    cases hadd
    exact ⟨token, _, hid.bearer, hnotes, rfl, rfl, rfl, rfl, hentry⟩

/-- Only a note request writes notes. -/
theorem caseNotes_writes {q : Request} (h : .caseNotes ∈ writes q) :
    ∃ auth id body, q = .case auth id (.note body) := by
  cases q with
  | case auth id r =>
    cases r with
    | note body => exact ⟨auth, id, body, rfl⟩
    | _ => simp [writes] at h
  | admin auth r => cases r <;> simp [writes] at h
  | provider auth r => cases r <;> simp [writes] at h
  | _ => simp [writes] at h

theorem storedNotes_step (rt : Runtime) (tenantId invId : String) (w : World) (e : Event) :
    storedNotes (step rt w e).db tenantId invId =
      storedNotes w.db tenantId invId ++ answeredNote rt tenantId invId w e := by
  by_cases hw : .caseNotes ∈ writes e.request
  · obtain ⟨auth, id, body, he⟩ := caseNotes_writes hw
    have hc : .committed ∉ footprint e.request := by simp [he, footprint]
    obtain ⟨answer, t, hok, hdb⟩ | ⟨⟨ex, t, hfailed⟩, hdb⟩ := step_db rt hc
    · obtain ⟨r, hrun, hanswer⟩ := (handled_eq_ok he rfl).mp hok
      obtain ⟨token, note, rfl, hins, htenant, hcase, _, rfl, _⟩ := addNote_ok hrun
      have hanswered : answeredNote rt tenantId invId w e =
          if token.tenantId = tenantId ∧ id = invId then [Routes.noteResponse note] else [] := by
        unfold answeredNote
        rw [he, hok, ← hanswer]
      rw [hanswered, hdb]
      unfold storedNotes
      rw [KeyedTable.select_insert? _ hins, List.map_append, htenant, hcase]
      by_cases hown : token.tenantId = tenantId ∧ id = invId
      · rw [if_pos hown, if_pos (by simp [hown.1, hown.2])]
        rfl
      · rw [if_neg hown, if_neg (by simpa using fun h => (not_and.mp hown) h)]
        rfl
    · have hnone : answeredNote rt tenantId invId w e = [] := by
        unfold answeredNote
        rw [hfailed]
        split
        · rename_i hok
          cases hok
        · rfl
      rw [hnone, hdb, List.append_nil]
  · have hrows : (step rt w e).db.caseNotes = w.db.caseNotes := step_kept .caseNotes hw
    have hnone : answeredNote rt tenantId invId w e = [] := by
      unfold answeredNote
      split
      · rename_i he _
        exact absurd (by rw [he]; simp [writes]) hw
      · rfl
    unfold storedNotes
    rw [hrows, hnone, List.append_nil]

theorem storedNotes_live (rt : Runtime) (tenantId invId : String) (w : World) (os : List Occurrence) :
    storedNotes (live rt w os).db tenantId invId =
      storedNotes w.db tenantId invId ++ answeredNotes rt tenantId invId w os := by
  induction os generalizing w with
  | nil => exact (List.append_nil _).symm
  | cons o os ih =>
    cases o with
    | start env =>
      have hrows : (start env w).db.caseNotes = w.db.caseNotes :=
        start_kept env w .caseNotes (by decide)
      have hsame : storedNotes (start env w).db tenantId invId = storedNotes w.db tenantId invId := by
        unfold storedNotes
        rw [hrows]
      rw [← hsame]
      exact ih (start env w)
    | request e =>
      show storedNotes (live rt (step rt w e) os).db tenantId invId = _
      rw [ih, storedNotes_step, List.append_assoc]
      rfl

/-! ## The list -/

/-- `GET …/notes`. -/
def notesRequest (env : Env) (auth : Authorization) (invId : String) : Event where
  env := env
  request := .read auth (.notes invId)

theorem notesRequest_answered {w : World} {env : Env} {auth : Authorization} {invId : String}
    {notes : List Routes.NoteResponse} {s : Session}
    (h : handled rt w (notesRequest env auth invId) = .ok (.notes notes) s) :
    ∃ token, auth = .bearer token ∧
      notes = (storedNotes w.db token.tenantId invId).insertionSort fun a b => a.createdAt ≤ b.createdAt := by
  obtain ⟨_, hrun, hbody⟩ := (handled_eq_ok rfl rfl).mp h
  cases hbody
  unfold Routes.listNotes at hrun
  obtain ⟨p, t, hp, hrun⟩ := run_bind_eq_ok.mp hrun
  obtain ⟨⟨token, hid, rfl, _⟩, rfl⟩ := require_eq_ok.mp hp
  cases hrun
  refine ⟨token, hid.bearer, ?_⟩
  exact List.map_insertionSort _ _ Routes.noteResponse _ fun _ _ _ _ => Iff.rfl

theorem notesRequest_run (rt : Runtime) (env : Env) {w : World} {token : Token}
    (hid : Identified w.db w.issued (env.now 0) (.bearer token) token)
    (hcan : token.principal.can .investigationRead = true) (invId : String) :
    ∃ notes s, handled rt w (notesRequest env (.bearer token) invId) = .ok (.notes notes) s := by
  have hrun : ∃ notes s, (Routes.listNotes env (.bearer token) invId).run w.session = .ok notes s := by
    unfold Routes.listNotes
    rw [run_bind_ok (require_eq_ok.mpr ⟨⟨token, hid, rfl, hcan⟩, rfl⟩)]
    exact ⟨_, _, rfl⟩
  obtain ⟨notes, s, hrun⟩ := hrun
  exact ⟨notes, s, (handled_eq_ok rfl rfl).mpr ⟨notes, hrun, rfl⟩⟩

/-- A deployment whose requests come one after another lists as the notes of a case what the
    notes were answered with, in the order of their instants, those of one instant as they were
    stored; in the order of the answers if the clock did not run backwards. -/
theorem notes_listed (rt : Runtime) (os : List Occurrence) (env : Env) (auth : Authorization)
    (invId : String) (notes : List Routes.NoteResponse) (s : Session)
    (h : handled rt (live rt .new os) (notesRequest env auth invId) = .ok (.notes notes) s) :
    ∃ token, auth = .bearer token ∧
      notes = (answeredNotes rt token.tenantId invId .new os).insertionSort
        (fun a b => a.createdAt ≤ b.createdAt) ∧
      ((answeredNotes rt token.tenantId invId .new os).Pairwise
        (fun a b => a.createdAt ≤ b.createdAt) →
          notes = answeredNotes rt token.tenantId invId .new os) := by
  obtain ⟨token, hauth, hnotes⟩ := notesRequest_answered h
  have hstored := storedNotes_live rt token.tenantId invId .new os
  have hnew : storedNotes World.new.db token.tenantId invId = [] := rfl
  rw [hstored, hnew, List.nil_append] at hnotes
  refine ⟨token, hauth, hnotes, fun hordered => ?_⟩
  rw [hnotes]
  exact List.Pairwise.insertionSort_eq hordered

/-- A note on the case of a finding. -/
def noteOn (id body : String) (now : Time) : Event where
  env := { now := fun _ => now, uuid4 := fun _ => id }
  request := .case (.bearer analystToken) "INV-0a1b2c3d" (.note body)

/-- A case opened, and two notes with a restart in between. -/
def noteLife : List Occurrence :=
  [.start firstStart, .request (analystSignsIn "j1"),
    .request { findingRun with request := .runInvestigations (.bearer analystToken) },
    .request (noteOn "n1" "seen before" 1), .start laterStart,
    .request (noteOn "n2" "closed" 2)]

theorem notes_listed_restarted : ∃ notes s,
    handled shortDigest (live shortDigest .new noteLife)
      (notesRequest firstStart (.bearer analystToken) "INV-0a1b2c3d") = .ok (.notes notes) s ∧
    notes.map Routes.NoteResponse.body = ["seen before", "closed"] ∧
    notes = answeredNotes shortDigest "t0" "INV-0a1b2c3d" .new noteLife := by
  have hid : Identified (live shortDigest .new noteLife).db (live shortDigest .new noteLife).issued 0
      (.bearer analystToken) analystToken :=
    .of_rows (by decide +kernel) (by decide) rfl (by decide +kernel) (by decide +kernel)
  obtain ⟨notes, s, h⟩ := notesRequest_run shortDigest firstStart hid rfl "INV-0a1b2c3d"
  obtain ⟨_, hbearer, hsorted, hordered⟩ := notes_listed shortDigest noteLife firstStart
    (.bearer analystToken) "INV-0a1b2c3d" notes s h
  cases hbearer
  have hnotes := hordered (by decide +kernel)
  refine ⟨notes, s, h, ?_, hnotes⟩
  rw [hnotes]
  decide +kernel

end SentinelAI
