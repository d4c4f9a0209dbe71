import Mathlib
import GeoRisk.Lib.Results
import GeoRisk.Notification.EarlyWarning

/-! The early warning engine: one run evaluates the active rules of a tenant on an assessment and sends
    every alert that fires to every matching subscription. What is sent has left the house at once; its
    record waits for the one commit at the end:

        rule ▶ metric ▶ fires? ──▶ subscription × channel ──▶ send ──▶ save
          └── TypeError                                                 └── not stored
                   └───────────────▶ the whole run is rolled back ◀──────────┘ -/

namespace GeoRisk.EarlyWarning

open Notifications (NotificationId)

/-! ### Repositories -/

/-- The tables of the context, each in the order in which it is read; what is in them was accepted. -/
structure Db where
  alertRules : Lib.Table AlertRule.id
  subscriptions : Lib.Table NotificationSubscription.id
  notifications : Lib.Table Notification.id
  outbox : List (OutboxEvent NotificationEvent)
  rules_accepted : ∀ r ∈ alertRules.rows, r.Accepted
  subscriptions_accepted : ∀ s ∈ subscriptions.rows, s.Accepted

namespace Db

/-- `SqlAlchemyAlertRuleRepository.list_active_by_tenant`. -/
def activeRules (db : Db) (tenantId : TenantId) : List AlertRule :=
  db.alertRules.rows.filter fun r => r.tenantId = tenantId ∧ r.isActive

/-- `SqlAlchemyNotificationSubscriptionRepository.list_active_by_tenant`. -/
def activeSubscriptions (db : Db) (tenantId : TenantId) : List NotificationSubscription :=
  db.subscriptions.rows.filter fun s => s.tenantId = tenantId ∧ s.isActive

/-- The insert of a notification and of its event; no row takes the identifier of another, and the
    texts of the event are those of the notification. -/
def save (db : Db) (n : Notification) (event : NotificationEvent) (now : Timestamp) : Option Db :=
  if (db.notifications.get n.id).isSome || !n.storable then none
  else some { db with
    notifications := db.notifications.put n
    outbox := appendEvent db.outbox "Notification" (toString n.id) event (some n.tenantId) now }

end Db

/-! ### The handler -/

structure AssessmentInfo where
  assessmentId : String
  name : String
  hazardType : String
  deriving DecidableEq

structure EvaluateAlertRules where
  tenantId : TenantId
  assessmentId : Spelled UUID

/-- The collaborators of the handler during one run. The metrics are read one after another, each
    with a session of its own; the name of the assessment is read from its column. -/
structure Ports where
  assessmentInfo : Option AssessmentInfo
  metricValue : (i : ℕ) → AlertRule → Option MetricValue
  channels : NotificationChannelType → Option NotificationChannel
  newId : ℕ → NotificationId
  clock : ℕ → Timestamp
  name_storable : ∀ info ∈ assessmentInfo, DataAcquisition.storable info.name = true

/-- A send, and what came of it. -/
structure Delivery where
  alertRuleId : Notifications.AlertRuleId
  subscriptionId : NotificationSubscriptionId
  channel : NotificationChannelType
  result : ChannelDeliveryResult

/-- What has been sent, which no rollback takes back, and the open transaction. -/
structure Session where
  deliveries : List Delivery
  db : Db
  notifications : List Notification

inductive EngineError where
  | typeError (text : String)
  /-- An `IntegrityError` or a `DataError`. -/
  | notStored
  deriving DecidableEq

abbrev EngineM := EStateM EngineError Session

def MetricValue.str : MetricValue → String
  | .int n => toString n
  | .float x => x.repr
  | .object typeName => typeName

section Handler

variable (ports : Ports) (c : EvaluateAlertRules)

/-- The filter of a rule, or of a subscription. -/
def appliesTo (info : AssessmentInfo) (hazardType : Option String) : Bool :=
  hazardType = none ∨ hazardType = some info.hazardType

def applicableRules (db : Db) (info : AssessmentInfo) : List AlertRule :=
  (db.activeRules c.tenantId).filter fun r => appliesTo info r.hazardType

def matchingSubscriptions (db : Db) (info : AssessmentInfo) : List NotificationSubscription :=
  (db.activeSubscriptions c.tenantId).filter fun s => appliesTo info s.hazardType

def alertMessage (info : AssessmentInfo) (rule : AlertRule) (value : MetricValue) : String :=
  "[" ++ rule.severity.value ++ "] " ++ rule.name ++ ": " ++ rule.metricCode ++ " = " ++ value.str ++
    " " ++ rule.operator.symbol ++ " " ++ rule.threshold.repr ++ " on assessment '" ++ info.name ++ "'"

/-- What both kinds of notification are told of a value that a rule fires on. -/
def alertOf (info : AssessmentInfo) (rule : AlertRule) (value : MetricValue)
    (subscription : NotificationSubscription) (channelType : NotificationChannelType)
    (recipient : String) : Alert where
  tenantId := c.tenantId
  assessmentId := c.assessmentId
  alertRuleId := rule.id
  subscriptionId := subscription.id
  channel := channelType
  recipient := recipient
  severity := rule.severity
  metricCode := rule.metricCode
  triggeredValue := value.number.getD .nan
  threshold := rule.threshold
  operator := rule.operator
  message := alertMessage info rule value

/-- `result.error or "delivery failed"`. -/
def ChannelDeliveryResult.errorText (self : ChannelDeliveryResult) : String :=
  if missing self.error then "delivery failed" else self.error.getD ""

/-- The notification that records a delivery, and its event. -/
def recordOf (id : NotificationId) (alert : Alert) (result : ChannelDeliveryResult)
    (now : Timestamp) : Notification × NotificationEvent :=
  if result.delivered then Notification.sent id alert now
  else Notification.failed id alert result.errorText now

/-- One channel of one subscription. -/
def deliver (info : AssessmentInfo) (rule : AlertRule) (value : MetricValue)
    (subscription : NotificationSubscription) (channelType : NotificationChannelType) :
    EngineM Unit := fun s =>
  match resolveRecipient channelType subscription, ports.channels channelType with
  | some recipient, some channel =>
    let n := s.deliveries.length
    let alert := alertOf c info rule value subscription channelType recipient
    let result := channel n recipient rule.name alert.message
    let sent := s.deliveries ++ [⟨rule.id, subscription.id, channelType, result⟩]
    let (notification, event) := recordOf (ports.newId n) alert result (ports.clock n)
    match s.db.save notification event (ports.clock n) with
    | some db => .ok () { deliveries := sent, db, notifications := s.notifications ++ [notification] }
    | none => .error .notStored { s with deliveries := sent }
  | _, _ => .ok () s

/-- One rule, the `i`-th. -/
def evaluateRule (info : AssessmentInfo) (matching : List NotificationSubscription) (i : ℕ)
    (rule : AlertRule) : EngineM Unit :=
  match ports.metricValue i rule with
  | none => pure ()
  | some value =>
    match rule.operator.evaluate value rule.threshold with
    | .error text => throw (.typeError text)
    | .ok false => pure ()
    | .ok true => matching.forM fun subscription =>
        subscription.channels.forM (deliver ports c info rule value subscription)

/-- `EvaluateAlertRulesHandler.handle`, up to its commit. -/
def evaluateAlertRules : EngineM (List Notification) := do
  match ports.assessmentInfo with
  | none => return []
  | some info =>
    let db := (← get).db
    let rules := applicableRules c db info
    let matching := matchingSubscriptions c db info
    rules.zipIdx.forM fun p => evaluateRule ports c info matching p.2 p.1
    return (← get).notifications

/-- What a run leaves behind: what it has sent, what it has committed, and the tables. -/
structure Outcome where
  deliveries : List Delivery
  committed : List Notification
  db : Db

/-- A run, in a transaction of its own. -/
def run (db : Db) : Outcome :=
  match evaluateAlertRules ports c { deliveries := [], db, notifications := [] } with
  | .ok notifications s => { deliveries := s.deliveries, committed := notifications, db := s.db }
  | .error _ s => { deliveries := s.deliveries, committed := [], db }

end Handler

end GeoRisk.EarlyWarning
