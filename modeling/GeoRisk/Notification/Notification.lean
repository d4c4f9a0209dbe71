import Mathlib
import GeoRisk.Lib.Pages
import GeoRisk.Lib.Table
import GeoRisk.SharedKernel

/-! Alert rules and notifications, and the listing of a tenant's notifications: oldest first, page by
    page. Of both this keeps what the dashboard looks at. -/

namespace GeoRisk.Notifications

structure AlertRuleId where
  value : UUID
  deriving DecidableEq

structure NotificationId where
  value : UUID
  isUuid : value < 2 ^ 128
  deriving DecidableEq

instance : ToString AlertRuleId := ⟨fun i => UUID.str i.value⟩
instance : ToString NotificationId := ⟨fun i => UUID.str i.value⟩

inductive AlertSeverity where
  | low | medium | high | critical
  deriving DecidableEq

def AlertSeverity.value : AlertSeverity → String
  | .low => "LOW"
  | .medium => "MEDIUM"
  | .high => "HIGH"
  | .critical => "CRITICAL"

inductive NotificationStatus where
  | sent | failed
  deriving DecidableEq

def NotificationStatus.value : NotificationStatus → String
  | .sent => "SENT"
  | .failed => "FAILED"

structure AlertRule where
  id : AlertRuleId
  tenantId : TenantId
  isActive : Bool
  createdAt : Timestamp
  deriving DecidableEq

structure Notification where
  id : NotificationId
  tenantId : TenantId
  assessmentId : UUID
  severity : AlertSeverity
  metricCode : String
  message : String
  status : NotificationStatus
  createdAt : Timestamp
  deriving DecidableEq

/-! ### Repositories -/

structure Db where
  alertRules : Lib.Table AlertRule.id
  notifications : Lib.Table Notification.id

namespace Db

/-- The order of the notifications: time, then identifier. -/
abbrev Cursor := Timestamp ×ₗ UUID

def key (n : Notification) : Cursor := toLex (n.createdAt, n.id.value)

def notificationsOf (db : Db) (tenantId : TenantId) : List Notification :=
  db.notifications.rows.filter (·.tenantId = tenantId)

/-- `SqlAlchemyNotificationRepository.list_by_tenant`. -/
def listByTenant (db : Db) (tenantId : TenantId) (limit : ℕ) (cursor : Option Cursor) :
    List Notification × Option Cursor × Bool :=
  Lib.keysetPage key (db.notificationsOf tenantId) limit cursor

/-- `SqlAlchemyAlertRuleRepository.list_by_tenant`; of rules of one time it is not said which comes
    first. -/
def alertRulesOf (db : Db) (tenantId : TenantId) : List AlertRule :=
  (db.alertRules.rows.filter (·.tenantId = tenantId)).insertionSort
    fun r r' => r.createdAt ≤ r'.createdAt

theorem nodup_keys (db : Db) (tenantId : TenantId) :
    ((db.notificationsOf tenantId).map key).Nodup := by
  refine db.notifications.nodup_map_filter (·.tenantId = tenantId) fun n n' hkey => ?_
  have hvalue : n.id.value = n'.id.value := congrArg (fun k => (ofLex k).2) hkey
  cases hn : n.id
  cases hn' : n'.id
  simpa [hn, hn'] using hvalue

end Db

end GeoRisk.Notifications
