import Mathlib
import GeoRisk.Orchestration.Handlers
import GeoRisk.Identity.History

/-! What a client is told of an exception. The handlers of each context raise their own classes of
    error; every class descends from one of the shared domain errors, which decides the status, or
    from none, and then nothing of it is shown:

        exception ─▶ class listed in `_STATUS_MAP`: status, class name and text are sent
                 └─▶ any other:                     500 and a text that says nothing -/

namespace GeoRisk.Api

/-- The errors of `shared_kernel.errors` that have a status. -/
inductive DomainError where
  | validationFailed | authenticationFailed | authorizationDenied | notFound | guardRejected
  | illegalStateTransition | concurrencyConflict | idempotencyConflict | rateLimitExceeded

/-- `_STATUS_MAP`. -/
def statusMap : DomainError → ℕ
  | .validationFailed => 400
  | .authenticationFailed => 401
  | .authorizationDenied => 403
  | .notFound => 404
  | .guardRejected => 422
  | .illegalStateTransition => 409
  | .concurrencyConflict => 409
  | .idempotencyConflict => 409
  | .rateLimitExceeded => 429

/-- An exception as the exception handlers see it: the name of its class, the domain error that the
    class is or descends from, and `str(exc)`. -/
structure Raised where
  name : String
  base : Option DomainError
  text : String
  fieldErrors : List (String × String) := []
  retryAfterSeconds : Option ℕ := none

/-- What the answer takes from the request: its path, and the trace id established for it. -/
structure HttpRequest where
  path : String
  traceId : String

/-- The body of a problem response, whose `path` is sent as `instance`, and its retry header. -/
structure ProblemResponse where
  type : String
  title : String
  status : ℕ
  detail : String
  path : String
  traceId : String
  errors : List (String × String)
  retryAfter : Option ℕ
  deriving DecidableEq

/-- `_problem_response`. -/
def problemResponse (request : HttpRequest) (exc : Raised) (status : ℕ) : ProblemResponse where
  type := s!"https://docs.firas.dev/errors/{exc.name}"
  title := exc.name
  status
  detail := exc.text
  path := request.path
  traceId := request.traceId
  errors := exc.fieldErrors
  retryAfter := exc.retryAfterSeconds

/-- `unhandled`. -/
def unhandled (request : HttpRequest) : ProblemResponse where
  type := "https://docs.firas.dev/errors/InternalServerError"
  title := "InternalServerError"
  status := 500
  detail := "An unexpected error occurred. Please contact support with this trace ID."
  path := request.path
  traceId := request.traceId
  errors := []
  retryAfter := none

/-- The handler that `register_exception_handlers` has registered for the class. -/
def errorResponse (request : HttpRequest) (exc : Raised) : ProblemResponse :=
  match exc.base with
  | some base => problemResponse request exc (statusMap base)
  | none => unhandled request

theorem errorResponse_detail {request : HttpRequest} {exc : Raised} {base : DomainError}
    (hbase : exc.base = some base) : (errorResponse request exc).detail = exc.text := by
  rw [errorResponse, hbase]
  rfl

/-- Two domain errors of one class are told apart by their texts, and by nothing else. -/
theorem errorResponse_inj {request : HttpRequest} {exc exc' : Raised} {base : DomainError}
    (hbase : exc.base = some base) (hclass : exc' = { exc with text := exc'.text }) :
    errorResponse request exc = errorResponse request exc' ↔ exc.text = exc'.text := by
  constructor
  · intro h
    have hbase' : exc'.base = some base := by
      rw [hclass]
      exact hbase
    rw [← errorResponse_detail hbase, h, errorResponse_detail hbase']
  · intro h
    rw [hclass, ← h]

/-! ### The errors of the contexts -/

open Orchestration in
/-- The classes of the assessment context. -/
def assessmentErrorClass : AssessmentErrorKind → String × Option DomainError
  | .assessmentNotFound => ("AssessmentNotFoundError", some .notFound)
  | .illegalAssessmentStatusTransition =>
    ("IllegalAssessmentStatusTransitionError", some .illegalStateTransition)
  | .optimisticConcurrency => ("OptimisticConcurrencyError", some .concurrencyConflict)
  | .workflowTemplateNotFound => ("WorkflowTemplateNotFoundError", some .notFound)
  | .cyclicWorkflowTemplate => ("CyclicWorkflowTemplateError", some .validationFailed)
  | .unknownStagePredecessor => ("UnknownStagePredecessorError", some .validationFailed)
  | .illegalWorkflowTemplateStatusTransition =>
    ("IllegalWorkflowTemplateStatusTransitionError", some .illegalStateTransition)
  | .illegalStageExecutionTransition =>
    ("IllegalStageExecutionTransitionError", some .illegalStateTransition)
  | .workflowNotComplete => ("WorkflowNotCompleteError", some .guardRejected)
  | .guardRejected => ("GuardRejectedError", some .guardRejected)
  | .valueError => ("ValueError", none)

open Identity in
/-- The classes of the identity context. -/
def identityErrorClass : IdentityErrorKind → String × Option DomainError
  | .invalidCredentials => ("InvalidCredentialsError", some .authenticationFailed)
  | .userNotActive => ("UserNotActiveError", some .authenticationFailed)
  | .invalidOrExpiredToken => ("InvalidOrExpiredTokenError", some .authenticationFailed)
  | .refreshTokenReuseDetected => ("RefreshTokenReuseDetectedError", some .authenticationFailed)
  | .optimisticConcurrency => ("OptimisticConcurrencyError", some .concurrencyConflict)
  | .userNotFound => ("UserNotFoundError", some .notFound)
  | .roleNotFound => ("RoleNotFoundError", some .notFound)
  | .emailAlreadyRegistered => ("EmailAlreadyRegisteredError", some .guardRejected)
  | .tenantSlugAlreadyExists => ("TenantSlugAlreadyExistsError", some .guardRejected)
  | .illegalUserStatusTransition => ("IllegalUserStatusTransitionError", some .illegalStateTransition)
  | .lastOwnerRemoval => ("LastOwnerRemovalError", some .guardRejected)
  | .weakPassword => ("WeakPasswordError", some .validationFailed)
  | .authenticationFailed => ("AuthenticationFailedError", some .authenticationFailed)
  | .valueError => ("ValueError", none)
  | .assertionError => ("AssertionError", none)

def raisedAssessment (e : Orchestration.AssessmentError) : Raised where
  name := (assessmentErrorClass e.kind).1
  base := (assessmentErrorClass e.kind).2
  text := e.message

def raisedIdentity (e : Identity.IdentityError) : Raised where
  name := (identityErrorClass e.kind).1
  base := (identityErrorClass e.kind).2
  text := e.message

/-! ### What a command leaves and answers -/

/-- A command on an assessment: the tables afterwards, and the assessment or the problem that is
    answered. -/
def answerAssessment (request : HttpRequest) (c : Orchestration.Command)
    (target : Orchestration.Target) (now : Timestamp) (db : Orchestration.Db) :
    Orchestration.Db × Except ProblemResponse Orchestration.Assessment :=
  match Orchestration.handle c target now db with
  | .ok (db', assessment) => (db', .ok assessment)
  | .error e => (db, .error (errorResponse request (raisedAssessment e)))

/-- A command of the identity context. What the database refuses to commit is no domain error. -/
def answerIdentity (request : HttpRequest) (ports : Identity.Ports) (c : Identity.Command)
    (now : Timestamp) (db : Identity.Db) :
    Identity.Db × Except ProblemResponse Identity.Reply :=
  let (db', outcome) := c.exec ports now db
  match outcome with
  | some (.ok reply) => (db', .ok reply)
  | some (.error e) => (db', .error (errorResponse request (raisedIdentity e)))
  | none => (db', .error (unhandled request))

end GeoRisk.Api
