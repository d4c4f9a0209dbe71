import Mathlib
import GeoRisk.Uuid
import GeoRisk.Api.ErrorHandling

/-! Can a tenant find out which identifiers exist elsewhere? A request for what is missing and a
    request for what belongs to another tenant are both answered with a 404, but their texts are
    written at different places:

        missing:  "User {command.user_id} not found"      the identifier as it was sent
        foreign:  "User {user.id} not found"              the identifier as `str` writes it

    The two are the same text exactly when the identifier was sent as `str` writes it. -/

namespace GeoRisk.Api

/-- The user commands that go through `_assert_same_tenant`. -/
inductive UserCommand where
  | changeUserRole (newRoleName changedBy : String)
  | suspendUser (changedBy reason : String)
  | reactivateUser (changedBy : String)
  | deactivateUser (changedBy reason : String)

def UserCommand.command (tenantId : TenantId) (userId : Spelled UserId) :
    UserCommand → Identity.Command
  | .changeUserRole newRoleName changedBy => .changeUserRole tenantId userId newRoleName changedBy
  | .suspendUser changedBy reason => .suspendUser tenantId userId changedBy reason
  | .reactivateUser changedBy => .reactivateUser tenantId userId changedBy
  | .deactivateUser changedBy reason => .deactivateUser tenantId userId changedBy reason

/-! ### Requests with an identifier as it was sent -/

/-- An assessment command on `raw`; what `from_string` refuses is no domain error. -/
def sendAssessment (request : HttpRequest) (c : Orchestration.Command) (tenantId : TenantId)
    (raw : String) (now : Timestamp) (db : Orchestration.Db) :
    Orchestration.Db × Except ProblemResponse Orchestration.Assessment :=
  match UUID.fromString raw with
  | none => (db, .error (unhandled request))
  | some id => answerAssessment request c ⟨tenantId, ⟨raw, ⟨id⟩⟩⟩ now db

/-- A user command on `raw`. -/
def sendIdentity (request : HttpRequest) (ports : Identity.Ports) (c : UserCommand)
    (tenantId : TenantId) (raw : String) (now : Timestamp) (db : Identity.Db) :
    Identity.Db × Except ProblemResponse Identity.Reply :=
  match UUID.fromString raw with
  | none => (db, .error (unhandled request))
  | some id => answerIdentity request ports (c.command tenantId ⟨raw, ⟨id⟩⟩) now db

/-- The answer does not tell the two states apart, and neither of them is changed. -/
def Undisclosed {D R : Type} (answer : D → D × R) (missing foreign : D) : Prop :=
  (answer missing).2 = (answer foreign).2 ∧ (answer missing).1 = missing ∧
    (answer foreign).1 = foreign

section Answers

variable {request : HttpRequest} {now : Timestamp}

/-- What an assessment command answers when its target is missing. -/
theorem answerAssessment_missing {c : Orchestration.Command} {target : Orchestration.Target}
    {db : Orchestration.Db} (h : db.assessments.get target.assessmentId.id = none) :
    answerAssessment request c target now db = (db, .error (errorResponse request
      (raisedAssessment ⟨.assessmentNotFound,
        s!"Assessment {target.assessmentId.text} not found"⟩))) := by
  simp only [answerAssessment, Orchestration.handle, Orchestration.loadOr404, h, bind, Except.bind]

/-- What it answers when its target is another tenant's. -/
theorem answerAssessment_foreign {c : Orchestration.Command} {target : Orchestration.Target}
    {db : Orchestration.Db} {assessment : Orchestration.Assessment}
    (h : db.assessments.get target.assessmentId.id = some assessment)
    (htenant : assessment.tenantId ≠ target.tenantId) :
    answerAssessment request c target now db = (db, .error (errorResponse request
      (raisedAssessment ⟨.assessmentNotFound,
        s!"Assessment {target.assessmentId.id} not found"⟩))) := by
  have hid : assessment.id = target.assessmentId.id := Lib.Table.key_of_get h
  simp only [answerAssessment, Orchestration.handle, Orchestration.loadOr404, h,
    Orchestration.assertSameTenant, if_pos htenant, bind, Except.bind, hid]

variable {ports : Identity.Ports} {tenantId : TenantId} {userId : Spelled UserId}

/-- A user command ends at the load. -/
theorem UserCommand.exec_of_load {c : UserCommand} {db : Identity.Db} {e : Identity.IdentityError}
    (h : ∀ next, (Identity.loadSameTenant tenantId userId next).exec now db = (db, some (.error e))) :
    answerIdentity request ports (c.command tenantId userId) now db =
      (db, .error (errorResponse request (raisedIdentity e))) := by
  have hexec : (c.command tenantId userId).exec ports now db = (db, some (.error e)) := by
    cases c <;> exact h _
  rw [answerIdentity, hexec]

/-- What a user command answers when its user is missing. -/
theorem answerIdentity_missing {c : UserCommand} {db : Identity.Db}
    (h : db.users.get userId.id = none) :
    answerIdentity request ports (c.command tenantId userId) now db = (db, .error (errorResponse
      request (raisedIdentity ⟨.userNotFound, s!"User {userId.text} not found"⟩))) := by
  refine UserCommand.exec_of_load fun next => ?_
  simp only [Identity.loadSameTenant, Lib.Txn.exec, h]

/-- What it answers when its user is another tenant's. -/
theorem answerIdentity_foreign {c : UserCommand} {db : Identity.Db} {user : Identity.User}
    (h : db.users.get userId.id = some user) (htenant : user.tenantId ≠ tenantId) :
    answerIdentity request ports (c.command tenantId userId) now db = (db, .error (errorResponse
      request (raisedIdentity ⟨.userNotFound, s!"User {userId.id} not found"⟩))) := by
  have hid : user.id = userId.id := Lib.Table.key_of_get h
  refine UserCommand.exec_of_load fun next => ?_
  simp only [Identity.loadSameTenant, Lib.Txn.exec, h, if_pos htenant, hid]

end Answers

/-- For every identifier that is accepted: whether a resource with it is missing or another tenant's
    is answered alike, by every command on an assessment or on a user, iff the identifier was sent in
    its canonical spelling. -/
theorem undisclosed_iff (request : HttpRequest) (ports : Identity.Ports) (now : Timestamp)
    (tenantId : TenantId) {raw : String} {id : UUID} (hraw : UUID.fromString raw = some id) :
    (∀ (c : Orchestration.Command) (missing foreign : Orchestration.Db)
        (assessment : Orchestration.Assessment), missing.assessments.get ⟨id⟩ = none →
        foreign.assessments.get ⟨id⟩ = some assessment → assessment.tenantId ≠ tenantId →
        (Undisclosed (sendAssessment request c tenantId raw now) missing foreign ↔ raw = id.str)) ∧
      ∀ (c : UserCommand) (missing foreign : Identity.Db) (user : Identity.User),
        missing.users.get ⟨id⟩ = none → foreign.users.get ⟨id⟩ = some user →
        user.tenantId ≠ tenantId →
        (Undisclosed (sendIdentity request ports c tenantId raw now) missing foreign ↔
          raw = id.str) := by
  have htext : ∀ before : String,
      before ++ raw ++ " not found" = before ++ id.str ++ " not found" ↔ raw = id.str := by
    intro before
    rw [String.append_left_inj, String.append_right_inj]
  constructor
  · intro c missing foreign assessment hmissing hforeign htenant
    unfold Undisclosed sendAssessment
    simp only [hraw]
    rw [answerAssessment_missing hmissing, answerAssessment_foreign hforeign htenant]
    refine (and_iff_left ⟨rfl, rfl⟩).trans ((iff_of_eq (Except.error.injEq ..)).trans ?_)
    exact (errorResponse_inj rfl rfl).trans (htext "Assessment ")
  · intro c missing foreign user hmissing hforeign htenant
    unfold Undisclosed sendIdentity
    simp only [hraw]
    rw [answerIdentity_missing hmissing, answerIdentity_foreign hforeign htenant]
    refine (and_iff_left ⟨rfl, rfl⟩).trans ((iff_of_eq (Except.error.injEq ..)).trans ?_)
    exact (errorResponse_inj rfl rfl).trans (htext "User ")

/-! ### Two spellings of one identifier -/

def suspendRequest (raw : String) : HttpRequest :=
  ⟨"/api/v1/users/" ++ raw ++ "/actions/suspend", "trace"⟩

theorem undisclosed_iff_sample :
    Undisclosed (sendIdentity (suspendRequest "00000000-0000-0000-0000-000000000001")
        Identity.plainPorts (.suspendUser "mallory" "") ⟨2⟩ "00000000-0000-0000-0000-000000000001" 0)
      { Identity.aliceDb with users := .empty } Identity.aliceDb := by
  have hraw : UUID.fromString "00000000-0000-0000-0000-000000000001" = some 1 := rfl
  refine ((undisclosed_iff (suspendRequest _) Identity.plainPorts 0 ⟨2⟩ hraw).2
    (.suspendUser "mallory" "") { Identity.aliceDb with users := .empty } Identity.aliceDb
    Identity.alice rfl rfl (by decide)).mpr rfl

/-- Sent without hyphens, the identifier of Alice is answered differently from one that is free. -/
theorem spelling_discloses : ¬ ∀ (request : HttpRequest) (ports : Identity.Ports) (now : Timestamp)
    (tenantId : TenantId) (raw : String) (id : UUID), UUID.fromString raw = some id →
    (∀ (c : Orchestration.Command) (missing foreign : Orchestration.Db)
        (assessment : Orchestration.Assessment), missing.assessments.get ⟨id⟩ = none →
        foreign.assessments.get ⟨id⟩ = some assessment → assessment.tenantId ≠ tenantId →
        Undisclosed (sendAssessment request c tenantId raw now) missing foreign) ∧
      ∀ (c : UserCommand) (missing foreign : Identity.Db) (user : Identity.User),
        missing.users.get ⟨id⟩ = none → foreign.users.get ⟨id⟩ = some user →
        user.tenantId ≠ tenantId →
        Undisclosed (sendIdentity request ports c tenantId raw now) missing foreign := by
  intro h
  have hraw : UUID.fromString "00000000000000000000000000000001" = some 1 := rfl
  obtain ⟨-, husers⟩ := h (suspendRequest "00000000000000000000000000000001")
    Identity.plainPorts 0 ⟨2⟩ _ 1 hraw
  obtain ⟨hsame, -⟩ := husers (.suspendUser "mallory" "") { Identity.aliceDb with users := .empty }
    Identity.aliceDb Identity.alice rfl rfl (by decide)
  unfold sendIdentity at hsame
  simp only [hraw] at hsame
  rw [answerIdentity_missing rfl, answerIdentity_foreign rfl (by decide)] at hsame
  have hdetail := congrArg ProblemResponse.detail (Except.error.inj hsame)
  exact absurd hdetail (by decide)

end GeoRisk.Api
