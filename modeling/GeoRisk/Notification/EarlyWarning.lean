import Mathlib
import GeoRisk.FloatRepr
import GeoRisk.DataAcquisition.Storage
import GeoRisk.Notification.Notification

/-! Alert rules, subscriptions and notifications in full, as the early warning engine uses them. A rule
    and a subscription are checked when they are made; a notification is made in its final state:

        rule ──fires──▶ value ── channel.send ──▶ delivered      Notification.sent    SENT
                                        └───────▶ not delivered  Notification.failed  FAILED  error -/

namespace GeoRisk.EarlyWarning

open Notifications (AlertRuleId NotificationId AlertSeverity NotificationStatus)

@[ext] structure NotificationSubscriptionId where
  value : UUID
  isUuid : value < 2 ^ 128

instance : DecidableEq NotificationSubscriptionId := fun _ _ =>
  decidable_of_iff _ NotificationSubscriptionId.ext_iff.symm

instance : ToString NotificationSubscriptionId := ⟨fun i => UUID.str i.value⟩

inductive AlertSubjectType where
  | stageResult | prediction | validation
  deriving DecidableEq

def AlertSubjectType.value : AlertSubjectType → String
  | .stageResult => "STAGE_RESULT"
  | .prediction => "PREDICTION"
  | .validation => "VALIDATION"

inductive AlertOperator where
  | greaterThan | lessThan | greaterThanOrEqual | lessThanOrEqual
  deriving DecidableEq

def AlertOperator.value : AlertOperator → String
  | .greaterThan => "GREATER_THAN"
  | .lessThan => "LESS_THAN"
  | .greaterThanOrEqual => "GREATER_THAN_OR_EQUAL"
  | .lessThanOrEqual => "LESS_THAN_OR_EQUAL"

/-- `_OPERATOR_SYMBOLS`, which are Python's own. -/
def AlertOperator.symbol : AlertOperator → String
  | .greaterThan => ">"
  | .lessThan => "<"
  | .greaterThanOrEqual => ">="
  | .lessThanOrEqual => "<="

inductive NotificationChannelType where
  | email | sms | inApp
  deriving DecidableEq

def NotificationChannelType.value : NotificationChannelType → String
  | .email => "EMAIL"
  | .sms => "SMS"
  | .inApp => "IN_APP"

/-! ### Metric values -/

/-- What is found under the code of a metric: a number, or an object that no operator compares with
    one, of which its type is named. -/
inductive MetricValue where
  | int (n : ℕ)
  | float (x : PyFloat)
  | object (typeName : String)
  deriving DecidableEq

/-- The number, if it is one. -/
def MetricValue.number : MetricValue → Option PyFloat
  | .int n => some (.finite n)
  | .float x => some x
  | .object _ => none

/-- The comparison of two numbers. -/
def AlertOperator.compare (self : AlertOperator) (actual threshold : PyFloat) : Bool :=
  match self with
  | .greaterThan => PyFloat.lt threshold actual
  | .lessThan => PyFloat.lt actual threshold
  | .greaterThanOrEqual => PyFloat.lt threshold actual || PyFloat.eq actual threshold
  | .lessThanOrEqual => PyFloat.lt actual threshold || PyFloat.eq actual threshold

/-- `AlertOperator.evaluate`; the text of the `TypeError` where the value is not a number. -/
def AlertOperator.evaluate (self : AlertOperator) (actual : MetricValue) (threshold : PyFloat) :
    Except String Bool :=
  match actual with
  | .int n => .ok (self.compare (.finite n) threshold)
  | .float x => .ok (self.compare x threshold)
  | .object typeName =>
    .error (pyRepr self.symbol ++ " not supported between instances of " ++ pyRepr typeName ++
      " and " ++ pyRepr "float")

theorem AlertOperator.evaluate_number {self : AlertOperator} {actual : MetricValue} {x : PyFloat}
    (h : actual.number = some x) (threshold : PyFloat) :
    self.evaluate actual threshold = .ok (self.compare x threshold) := by
  cases actual with
  | int n =>
    cases h
    rfl
  | float y =>
    cases h
    rfl
  | object typeName => cases h

theorem AlertOperator.evaluate_object {self : AlertOperator} {actual : MetricValue}
    (h : actual.number = none) (threshold : PyFloat) :
    ∃ e, self.evaluate actual threshold = .error e := by
  cases actual with
  | int n => cases h
  | float y => cases h
  | object typeName => exact ⟨_, rfl⟩

/-! ### Rules -/

structure AlertRule where
  id : AlertRuleId
  tenantId : TenantId
  name : String
  subjectType : AlertSubjectType
  hazardType : Option String
  stageType : Option String
  metricCode : String
  operator : AlertOperator
  threshold : PyFloat
  severity : AlertSeverity
  isActive : Bool
  createdBy : String
  createdAt : Timestamp
  updatedAt : Timestamp
  deriving DecidableEq

/-- `not text`, of a text that may be missing. -/
def missing (text : Option String) : Bool := text.getD "" = ""

structure AlertRuleCreated where
  alertRuleId : String
  tenantId : String
  name : String
  subjectType : String
  metricCode : String
  operator : String
  threshold : PyFloat
  severity : String
  createdBy : String
  deriving DecidableEq

/-- `AlertRule.create`; the text of the `InvalidAlertRuleError`. -/
def AlertRule.create (id : AlertRuleId) (tenantId : TenantId) (name : String)
    (subjectType : AlertSubjectType) (hazardType stageType : Option String) (metricCode : String)
    (operator : AlertOperator) (threshold : PyFloat) (severity : AlertSeverity) (createdBy : String)
    (now : Timestamp) : Except String (AlertRule × AlertRuleCreated) :=
  if isBlank name then .error "AlertRule name must not be blank"
  else if isBlank metricCode then .error "AlertRule metric_code must not be blank"
  else if subjectType = .stageResult ∧ missing stageType then
    .error "stage_type is required when subject_type is STAGE_RESULT"
  else if subjectType ≠ .stageResult ∧ ¬ missing stageType then
    .error "stage_type is only meaningful when subject_type is STAGE_RESULT"
  else .ok
    ({ id, tenantId, name, subjectType, hazardType, stageType, metricCode, operator, threshold,
       severity, isActive := true, createdBy, createdAt := now, updatedAt := now },
     { alertRuleId := toString id, tenantId := toString tenantId, name
       subjectType := subjectType.value, metricCode, operator := operator.value, threshold
       severity := severity.value, createdBy })

/-- What `create` lets through, and the columns hold. -/
structure AlertRule.Accepted (r : AlertRule) : Prop where
  name : isBlank r.name = false ∧ DataAcquisition.fits 200 r.name = true
  metricCode : isBlank r.metricCode = false ∧ DataAcquisition.fits 100 r.metricCode = true
  stageType : missing r.stageType = false ↔ r.subjectType = .stageResult

/-- What is created is accepted, if its columns hold its texts. -/
theorem AlertRule.create_accepted {id : AlertRuleId} {tenantId : TenantId} {name : String}
    {subjectType : AlertSubjectType} {hazardType stageType : Option String} {metricCode : String}
    {operator : AlertOperator} {threshold : PyFloat} {severity : AlertSeverity} {createdBy : String}
    {now : Timestamp} {rule : AlertRule} {event : AlertRuleCreated}
    (h : create id tenantId name subjectType hazardType stageType metricCode operator threshold
      severity createdBy now = .ok (rule, event))
    (hname : DataAcquisition.fits 200 rule.name = true)
    (hcode : DataAcquisition.fits 100 rule.metricCode = true) : rule.Accepted := by
  unfold create at h
  split_ifs at h with h₁ h₂ h₃ h₄
  cases h
  refine ⟨⟨by simpa using h₁, hname⟩, ⟨by simpa using h₂, hcode⟩, ?_⟩
  constructor
  · intro hstage
    by_contra hsubject
    exact h₄ ⟨hsubject, by simp [hstage]⟩
  · intro hsubject
    by_contra hmissing
    exact h₃ ⟨hsubject, by simpa using hmissing⟩

/-! ### Subscriptions -/

/-- The channels in the order in which the set yields them. -/
structure NotificationSubscription where
  id : NotificationSubscriptionId
  tenantId : TenantId
  userId : UserId
  hazardType : Option String
  channels : List NotificationChannelType
  emailAddress : Option String
  phoneNumber : Option String
  isActive : Bool
  createdAt : Timestamp
  nodup : channels.Nodup
  deriving DecidableEq

/-- `NotificationSubscription.subscribe`; the text of the `InvalidNotificationSubscriptionError`. -/
def NotificationSubscription.subscribe (id : NotificationSubscriptionId) (tenantId : TenantId)
    (userId : UserId) (hazardType : Option String) (channels : List NotificationChannelType)
    (nodup : channels.Nodup) (emailAddress phoneNumber : Option String) (now : Timestamp) :
    Except String NotificationSubscription :=
  if channels = [] then .error "A NotificationSubscription must select at least one channel"
  else if .email ∈ channels ∧ missing emailAddress then
    .error "email_address is required when EMAIL is among the selected channels"
  else if .sms ∈ channels ∧ missing phoneNumber then
    .error "phone_number is required when SMS is among the selected channels"
  else .ok { id, tenantId, userId, hazardType, channels, emailAddress, phoneNumber
             isActive := true, createdAt := now, nodup }

/-- What `subscribe` lets through, and the columns hold. -/
structure NotificationSubscription.Accepted (s : NotificationSubscription) : Prop where
  channels : s.channels ≠ []
  email : .email ∈ s.channels → missing s.emailAddress = false
  phone : .sms ∈ s.channels → missing s.phoneNumber = false
  emailFits : ∀ address ∈ s.emailAddress, DataAcquisition.fits 320 address = true
  phoneFits : ∀ number ∈ s.phoneNumber, DataAcquisition.fits 30 number = true

theorem NotificationSubscription.subscribe_accepted {id : NotificationSubscriptionId}
    {tenantId : TenantId} {userId : UserId} {hazardType : Option String}
    {channels : List NotificationChannelType} {nodup : channels.Nodup}
    {emailAddress phoneNumber : Option String} {now : Timestamp} {s : NotificationSubscription}
    (h : subscribe id tenantId userId hazardType channels nodup emailAddress phoneNumber now = .ok s)
    (hemail : ∀ address ∈ s.emailAddress, DataAcquisition.fits 320 address = true)
    (hphone : ∀ number ∈ s.phoneNumber, DataAcquisition.fits 30 number = true) : s.Accepted := by
  unfold subscribe at h
  split_ifs at h with h₁ h₂ h₃
  cases h
  exact ⟨h₁, fun hin => by simpa using fun hm => h₂ ⟨hin, hm⟩,
    fun hin => by simpa using fun hm => h₃ ⟨hin, hm⟩, hemail, hphone⟩

/-- `_resolve_recipient`. -/
def resolveRecipient (channelType : NotificationChannelType)
    (subscription : NotificationSubscription) : Option String :=
  match channelType with
  | .email => subscription.emailAddress
  | .sms => subscription.phoneNumber
  | .inApp => some (toString subscription.userId)

/-- Every recipient fits its column. -/
theorem fits_recipient {s : NotificationSubscription} (h : s.Accepted) {c : NotificationChannelType}
    {recipient : String} (hr : resolveRecipient c s = some recipient) :
    DataAcquisition.fits 320 recipient = true := by
  have hwiden : ∀ {n : ℕ}, n ≤ 320 → DataAcquisition.fits n recipient = true →
      DataAcquisition.fits 320 recipient = true := by
    intro n hn hfits
    simp only [DataAcquisition.fits, Bool.and_eq_true, decide_eq_true_eq] at hfits ⊢
    exact ⟨hfits.1.trans hn, hfits.2⟩
  cases c with
  | email => exact h.emailFits recipient hr
  | sms => exact hwiden (by omega) (h.phoneFits recipient hr)
  | inApp =>
    cases hr
    exact hwiden (by omega) (DataAcquisition.fits_uuid _)

/-! ### Notifications -/

/-- What both factories are told. The assessment is kept as it was sent. -/
structure Alert where
  tenantId : TenantId
  assessmentId : Spelled UUID
  alertRuleId : AlertRuleId
  subscriptionId : NotificationSubscriptionId
  channel : NotificationChannelType
  recipient : String
  severity : AlertSeverity
  metricCode : String
  triggeredValue : PyFloat
  threshold : PyFloat
  operator : AlertOperator
  message : String

structure Notification extends Alert where
  id : NotificationId
  status : NotificationStatus
  error : Option String
  createdAt : Timestamp

structure NotificationSent where
  notificationId : String
  tenantId : String
  assessmentId : String
  alertRuleId : String
  channel : String
  severity : String
  deriving DecidableEq

structure NotificationDeliveryFailed extends NotificationSent where
  error : String
  deriving DecidableEq

inductive NotificationEvent where
  | sent (event : NotificationSent)
  | deliveryFailed (event : NotificationDeliveryFailed)
  deriving DecidableEq

/-- `Notification.sent`. -/
def Notification.sent (id : NotificationId) (alert : Alert) (now : Timestamp) :
    Notification × NotificationEvent :=
  ({ alert with id, status := .sent, error := none, createdAt := now },
   .sent { notificationId := toString id, tenantId := toString alert.tenantId
           assessmentId := alert.assessmentId.text, alertRuleId := toString alert.alertRuleId
           channel := alert.channel.value, severity := alert.severity.value })

/-- `Notification.failed`. -/
def Notification.failed (id : NotificationId) (alert : Alert) (error : String) (now : Timestamp) :
    Notification × NotificationEvent :=
  ({ alert with id, status := .failed, error := some error, createdAt := now },
   .deliveryFailed
    { notificationId := toString id, tenantId := toString alert.tenantId
      assessmentId := alert.assessmentId.text, alertRuleId := toString alert.alertRuleId
      channel := alert.channel.value, severity := alert.severity.value, error })

/-- `event_type`. -/
def NotificationEvent.eventType : NotificationEvent → String
  | .sent _ => "notification.NotificationSent"
  | .deliveryFailed _ => "notification.NotificationDeliveryFailed"

/-- The row of a notification holds its texts. -/
def Notification.storable (self : Notification) : Bool :=
  DataAcquisition.fits 320 self.recipient && DataAcquisition.fits 100 self.metricCode &&
    DataAcquisition.storable self.message && DataAcquisition.storable (self.error.getD "")

/-! ### Channels -/

structure ChannelDeliveryResult where
  delivered : Bool
  error : Option String := none
  deriving DecidableEq

/-- A channel: what comes of the `n`-th send of a run. -/
abbrev NotificationChannel :=
  (n : ℕ) → (recipient subject message : String) → ChannelDeliveryResult

/-- `InAppNotificationChannel`. -/
def inAppNotificationChannel : NotificationChannel := fun _ _ _ _ => { delivered := true }

/-- `UnconfiguredSmsNotificationChannel`. -/
def unconfiguredSmsNotificationChannel : NotificationChannel := fun _ _ _ _ =>
  { delivered := false, error := some "SMS provider not configured" }

/-- `SmtpEmailNotificationChannel`: `sendSync` is what the server makes of a mail, the text of what
    is raised on the way included. -/
def smtpEmailNotificationChannel (smtpHost : Option String)
    (sendSync : (n : ℕ) → (smtpHost recipient subject message : String) → Except String Unit) :
    NotificationChannel := fun n recipient subject message =>
  match smtpHost with
  | none => { delivered := false, error := some "SMTP not configured" }
  | some "" => { delivered := false, error := some "SMTP not configured" }
  | some host =>
    match sendSync n host recipient subject message with
    | .ok () => { delivered := true }
    | .error text => { delivered := false, error := some text }

end GeoRisk.EarlyWarning
