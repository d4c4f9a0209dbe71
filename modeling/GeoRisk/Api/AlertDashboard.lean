import Mathlib
import GeoRisk.Uuid
import GeoRisk.Notification.Notification

/-! The alert dashboard. Its contract is newest first; the listing it reads is oldest first and stops
    after a page, which the reader turns around and the query cuts off:

        oldest ── page of 200 ── │ ── newer notifications
               reversed ◀────────┘
               first 10

    So the dashboard shows the newest notifications iff they are all on the page. -/

namespace GeoRisk.Api

open Notifications

/-- `_MAX_ASSESSMENTS_PER_DASHBOARD`, which bounds the notifications too. -/
def MAX_ASSESSMENTS_PER_DASHBOARD : ℕ := 200

/-- `_MAX_RECENT_ITEMS`. -/
def MAX_RECENT_ITEMS : ℕ := 10

/-- `NotificationInfo`, and `NotificationSummaryCard`, which has the same fields. -/
structure NotificationInfo where
  notificationId : String
  assessmentId : String
  severity : String
  status : String
  metricCode : String
  message : String
  createdAt : Timestamp
  deriving DecidableEq

def notificationInfo (n : Notification) : NotificationInfo where
  notificationId := toString n.id
  assessmentId := UUID.str n.assessmentId
  severity := n.severity.value
  status := n.status.value
  metricCode := n.metricCode
  message := n.message
  createdAt := n.createdAt

/-- `CompositionRootNotificationReader.list_notifications`. -/
def listNotifications (db : Db) (tenantId : TenantId) (limit : ℕ) : List NotificationInfo :=
  (((db.listByTenant tenantId limit none).1).map notificationInfo).reverse

/-- `count_by`: how often each key occurs, in the order of first occurrence. -/
def countBy {α : Type} (items : List α) (key : α → String) : List (String × ℕ) :=
  items.foldl (fun counts item =>
    setItem counts (key item) ((counts.lookup (key item)).getD 0 + 1)) []

structure KpiWidget where
  label : String
  value : ℕ
  deriving DecidableEq

structure AlertDashboard where
  totalAlertRules : ℕ
  activeAlertRules : ℕ
  totalNotifications : ℕ
  notificationsBySeverity : List (String × ℕ)
  notificationsByStatus : List (String × ℕ)
  recentNotifications : List NotificationInfo
  kpis : List KpiWidget
  generatedAt : Timestamp
  deriving DecidableEq

/-- `GetAlertDashboardQuery.handle`. -/
def getAlertDashboard (db : Db) (tenantId : TenantId) (now : Timestamp) : AlertDashboard :=
  let alertRules := db.alertRulesOf tenantId
  let notifications := listNotifications db tenantId MAX_ASSESSMENTS_PER_DASHBOARD
  let activeRules := (alertRules.filter (·.isActive)).length
  { totalAlertRules := alertRules.length
    activeAlertRules := activeRules
    totalNotifications := notifications.length
    notificationsBySeverity := countBy notifications (·.severity)
    notificationsByStatus := countBy notifications (·.status)
    recentNotifications := notifications.take MAX_RECENT_ITEMS
    kpis := [⟨"Total Alert Rules", alertRules.length⟩, ⟨"Active Alert Rules", activeRules⟩,
      ⟨"Total Notifications", notifications.length⟩]
    generatedAt := now }

/-! ### What it shows -/

variable {db : Db} {tenantId : TenantId}

/-- The dashboard shows the ten notifications that are greatest in time and identifier, newest first;
    all of them, if there are fewer. -/
def ShowsNewest (db : Db) (tenantId : TenantId) (now : Timestamp) : Prop :=
  ∃ newest, Lib.Newest Db.key MAX_RECENT_ITEMS (db.notificationsOf tenantId) newest ∧
    (getAlertDashboard db tenantId now).recentNotifications = newest.map notificationInfo

/-- What is shown of a notification tells which it is. -/
theorem eq_of_notificationInfo {n n' : Notification} (hn : n ∈ db.notifications.rows)
    (hn' : n' ∈ db.notifications.rows) (h : notificationInfo n = notificationInfo n') : n = n' := by
  have hstr : UUID.str n.id.value = UUID.str n'.id.value :=
    congrArg NotificationInfo.notificationId h
  have hvalue : n.id.value = n'.id.value := by
    have hread := congrArg UUID.fromString hstr
    rw [UUID.fromString_str n.id.isUuid, UUID.fromString_str n'.id.isUuid] at hread
    exact Option.some.inj hread
  have hid : n.id = n'.id := by
    cases hi : n.id
    cases hi' : n'.id
    simpa [hi, hi'] using hvalue
  exact List.inj_on_of_nodup_map db.notifications.nodup hn hn' hid

/-- The notifications behind the cards. -/
theorem recentNotifications_eq (now : Timestamp) :
    (getAlertDashboard db tenantId now).recentNotifications =
      (((Lib.ordered Db.key (db.notificationsOf tenantId)).take
        MAX_ASSESSMENTS_PER_DASHBOARD).reverse.take MAX_RECENT_ITEMS).map notificationInfo := by
  rw [getAlertDashboard, listNotifications, Db.listByTenant, Lib.keysetPage_none, ← List.map_reverse,
    List.map_take]

/-- What the cards show are the newest notifications iff it is they that are taken. -/
theorem showsNewest_iff_take (now : Timestamp) :
    ShowsNewest db tenantId now ↔
      ((Lib.ordered Db.key (db.notificationsOf tenantId)).take
        MAX_ASSESSMENTS_PER_DASHBOARD).reverse.take MAX_RECENT_ITEMS =
      (Lib.ordered Db.key (db.notificationsOf tenantId)).reverse.take MAX_RECENT_ITEMS := by
  have hnodup := db.nodup_keys tenantId
  constructor
  · rintro ⟨newest, hnewest, hcards⟩
    have hrows : ∀ n ∈ newest, n ∈ db.notifications.rows := fun n hn =>
      List.mem_of_mem_filter (hnewest.subset n hn)
    rw [recentNotifications_eq] at hcards
    rw [(Lib.newest_iff hnodup).mp hnewest]
    have hlength := by simpa only [List.length_map] using congrArg List.length hcards
    refine List.ext_getElem hlength fun i hi hi' => ?_
    have hshown : ∀ n ∈ ((Lib.ordered Db.key (db.notificationsOf tenantId)).take
        MAX_ASSESSMENTS_PER_DASHBOARD).reverse.take MAX_RECENT_ITEMS, n ∈ db.notifications.rows := by
      intro n hn
      have hmem := List.mem_of_mem_take (List.mem_reverse.mp (List.mem_of_mem_take hn))
      exact List.mem_of_mem_filter (Lib.mem_ordered.mp hmem)
    refine eq_of_notificationInfo (hshown _ (List.getElem_mem hi)) (hrows _ (List.getElem_mem hi')) ?_
    have hcard := congrArg (fun l => l[i]?) hcards
    simpa only [List.getElem?_map, List.getElem?_eq_getElem hi, List.getElem?_eq_getElem hi',
      Option.map_some, Option.some.injEq] using hcard
  · intro h
    refine ⟨_, Lib.newest_take hnodup _, ?_⟩
    rw [recentNotifications_eq, h]

/-- The dashboard shows the newest notifications iff the tenant has no more than fit on a page. -/
theorem showsNewest_iff (db : Db) (tenantId : TenantId) (now : Timestamp) :
    ShowsNewest db tenantId now ↔
      (db.notificationsOf tenantId).length ≤ MAX_ASSESSMENTS_PER_DASHBOARD := by
  rw [showsNewest_iff_take]
  exact Lib.take_reverse_page_iff (db.nodup_keys tenantId) (by decide)

/-! ### One notification too many -/

/-- The alert of the `n`-th day. -/
def dailyAlert (n : ℕ) : Notification where
  id := ⟨n % 2 ^ 128, mod_isUuid n⟩
  tenantId := ⟨1⟩
  assessmentId := 1
  severity := .high
  metricCode := "fri"
  message := "fri is high"
  status := .sent
  createdAt := n

/-- An alert a day, and one more than fit on the page. -/
def dailyAlerts : Db where
  alertRules := .empty
  notifications := {
    rows := (List.range 201).map dailyAlert
    nodup := by
      rw [List.map_map]
      refine List.Nodup.map_on (fun a ha b hb h => ?_) List.nodup_range
      rw [List.mem_range] at ha hb
      have hvalue : a % 2 ^ 128 = b % 2 ^ 128 := congrArg NotificationId.value h
      omega }

/-- The newest alert is not among the cards. -/
theorem newest_alert_unseen : ¬ ∀ (db : Db) (tenantId : TenantId) (now : Timestamp),
    ShowsNewest db tenantId now := by
  intro h
  have htake := (showsNewest_iff_take 0).mp (h dailyAlerts ⟨1⟩ 0)
  have hlength := (Lib.take_reverse_page_iff (dailyAlerts.nodup_keys ⟨1⟩) (by decide)).mp htake
  revert hlength
  decide +kernel

end GeoRisk.Api
