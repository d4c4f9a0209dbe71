import Mathlib
import GeoRisk.Cursors
import GeoRisk.Identity.Auth
import GeoRisk.Lib.Reader
import GeoRisk.Notification.Notification
import GeoRisk.Orchestration.Handlers
import GeoRisk.Validation.ValidationRun

/-! The listings of assessments, users, notifications and validation runs. Each is a table filtered, in
    the order of time and identifier, and read page by page with cursors that are texts. Whoever reads
    on gets every row once, whatever is inserted meanwhile. -/

namespace GeoRisk.Listings

/-! ### Repositories -/

/-- A page asked for with the text of a cursor; the empty text is none. -/
def withCursor {Row : Type} (other : String → Option PageKey)
    (page : Option PageKey → List Row × Option PageKey × Bool) (cursor : Option String) :
    Option (List Row × Option String × Bool) := do
  let position ←
    match cursor with
    | none => some none
    | some text => if text = "" then some none else (decodeCursor other text).map some
  let (rows, next, hasMore) := page position
  return (rows, next.map encodeCursor, hasMore)

namespace AssessmentRepository

def key (a : Orchestration.Assessment) : PageKey := toLex (a.createdAt, a.id.value)

def matching (db : Orchestration.Db) (tenantId : TenantId)
    (status : Option Orchestration.AssessmentStatus)
    (hazardType : Option Orchestration.HazardType) : List Orchestration.Assessment :=
  db.assessments.rows.filter fun a =>
    a.tenantId = tenantId ∧ (∀ s ∈ status, a.status = s) ∧ ∀ h ∈ hazardType, a.hazardType = h

/-- `SqlAlchemyAssessmentRepository.list_by_tenant`. -/
def listByTenant (other : String → Option PageKey) (db : Orchestration.Db) (tenantId : TenantId)
    (limit : ℕ) (cursor : Option String) (status : Option Orchestration.AssessmentStatus)
    (hazardType : Option Orchestration.HazardType) :
    Option (List Orchestration.Assessment × Option String × Bool) :=
  withCursor other (Lib.keysetPage key (matching db tenantId status hazardType) limit) cursor

end AssessmentRepository

namespace UserRepository

def key (u : Identity.User) : PageKey := toLex (u.createdAt, u.id.value)

def matching (db : Identity.Db) (tenantId : TenantId) : List Identity.User :=
  db.users.rows.filter (·.tenantId = tenantId)

/-- `SqlAlchemyUserRepository.list_by_tenant`. -/
def listByTenant (other : String → Option PageKey) (db : Identity.Db) (tenantId : TenantId)
    (limit : ℕ) (cursor : Option String) : Option (List Identity.User × Option String × Bool) :=
  withCursor other (Lib.keysetPage key (matching db tenantId) limit) cursor

end UserRepository

/-- `SqlAlchemyNotificationRepository.list_by_tenant`. -/
def NotificationRepository.listByTenant (other : String → Option PageKey) (db : Notifications.Db)
    (tenantId : TenantId) (limit : ℕ) (cursor : Option String) :
    Option (List Notifications.Notification × Option String × Bool) :=
  withCursor other (db.listByTenant tenantId limit) cursor

/-- `SqlAlchemyValidationRunRepository.list_by_assessment`. -/
def ValidationRunRepository.listByAssessment (other : String → Option PageKey) (db : Validation.Db)
    (tenantId : TenantId) (assessmentId : String) (limit : ℕ) (cursor : Option String) :
    Option (List Validation.ValidationRun × Option String × Bool) := do
  let assessmentId ← UUID.fromString assessmentId
  withCursor other (db.listByAssessment tenantId assessmentId limit) cursor

/-! ### Pages -/

/-- A time that a `datetime` may have, and an identifier of 128 bits. -/
def Storable (key : PageKey) : Prop := (ofLex key).1 < maxTimestamp ∧ (ofLex key).2 < 2 ^ 128

instance (key : PageKey) : Decidable (Storable key) := inferInstanceAs (Decidable (_ ∧ _))

/-- Rows are inserted only. -/
structure Grows {Row : Type} (key : Row → PageKey) (tables : ℕ → List Row) : Prop where
  inserted : ∀ n, tables n ⊆ tables (n + 1)
  storable : ∀ n, ∀ r ∈ tables n, Storable (key r)

variable {limit : ℕ}

theorem readsExactly_withCursor {Row : Type} {key : Row → PageKey} {tables : ℕ → List Row}
    {other : String → Option PageKey} (hnodup : ∀ n, ((tables n).map key).Nodup)
    (hgrows : Grows key tables) (hlimit : 1 ≤ limit) :
    Lib.ReadsExactly key (decodeCursor other) tables limit
      (Lib.follow fun n => withCursor other (Lib.keysetPage key (tables n) limit)) := by
  have hread : ∀ n, ∀ r ∈ tables n, decodeCursor other (encodeCursor (key r)) = some (key r) :=
    fun n r hr => decodeCursor_encodeCursor other (hgrows.storable n r hr).1
      (hgrows.storable n r hr).2
  have hserves : Lib.Serves key encodeCursor tables limit fun n =>
      withCursor other (Lib.keysetPage key (tables n) limit) := by
    intro n position hposition
    cases position with
    | none => rfl
    | some c =>
      obtain ⟨m, r, hr, rfl⟩ := hposition c rfl
      simp only [Option.map_some, withCursor, if_neg (encodeCursor_ne_empty _), hread m r hr,
        Option.bind_eq_bind, Option.bind_some, Option.pure_def]
  exact Lib.readsExactly hnodup hgrows.inserted hlimit hread hserves

namespace AssessmentRepository

theorem nodup_keys (db : Orchestration.Db) (tenantId : TenantId)
    (status : Option Orchestration.AssessmentStatus)
    (hazardType : Option Orchestration.HazardType) :
    ((matching db tenantId status hazardType).map key).Nodup := by
  refine db.assessments.nodup_map_filter _ fun a a' hkey => ?_
  have hvalue : a.id.value = a'.id.value := congrArg (fun k => (ofLex k).2) hkey
  cases ha : a.id
  cases ha' : a'.id
  simpa [ha, ha'] using hvalue

end AssessmentRepository

namespace UserRepository

theorem nodup_keys (db : Identity.Db) (tenantId : TenantId) :
    ((matching db tenantId).map key).Nodup := by
  refine db.users.nodup_map_filter _ fun u u' hkey => ?_
  have hvalue : u.id.value = u'.id.value := congrArg (fun k => (ofLex k).2) hkey
  cases hu : u.id
  cases hu' : u'.id
  simpa [hu, hu'] using hvalue

end UserRepository

/-- Each of the four listings is read exactly, with a page size from 1 on, from tables that rows are
    inserted into between the requests. -/
theorem listings_read_exactly (other : String → Option PageKey) (tenantId : TenantId)
    (hlimit : 1 ≤ limit) :
    (∀ (dbs : ℕ → Orchestration.Db) status hazardType,
      Grows AssessmentRepository.key
          (fun n => AssessmentRepository.matching (dbs n) tenantId status hazardType) →
        Lib.ReadsExactly AssessmentRepository.key (decodeCursor other)
          (fun n => AssessmentRepository.matching (dbs n) tenantId status hazardType) limit
          (Lib.follow fun n cursor => AssessmentRepository.listByTenant other (dbs n) tenantId limit
            cursor status hazardType)) ∧
    (∀ dbs : ℕ → Identity.Db,
      Grows UserRepository.key (fun n => UserRepository.matching (dbs n) tenantId) →
        Lib.ReadsExactly UserRepository.key (decodeCursor other)
          (fun n => UserRepository.matching (dbs n) tenantId) limit
          (Lib.follow fun n => UserRepository.listByTenant other (dbs n) tenantId limit)) ∧
    (∀ dbs : ℕ → Notifications.Db,
      Grows Notifications.Db.key (fun n => (dbs n).notificationsOf tenantId) →
        Lib.ReadsExactly Notifications.Db.key (decodeCursor other)
          (fun n => (dbs n).notificationsOf tenantId) limit
          (Lib.follow fun n => NotificationRepository.listByTenant other (dbs n) tenantId limit)) ∧
    ∀ (dbs : ℕ → Validation.Db) raw assessmentId, UUID.fromString raw = some assessmentId →
      Grows Validation.Db.key (fun n => (dbs n).runs tenantId assessmentId) →
        Lib.ReadsExactly Validation.Db.key (decodeCursor other)
          (fun n => (dbs n).runs tenantId assessmentId) limit
          (Lib.follow fun n =>
            ValidationRunRepository.listByAssessment other (dbs n) tenantId raw limit) := by
  refine ⟨fun dbs status hazardType hgrows => ?_, fun dbs hgrows => ?_, fun dbs hgrows => ?_,
    fun dbs raw assessmentId hraw hgrows => ?_⟩
  · exact readsExactly_withCursor
      (fun n => AssessmentRepository.nodup_keys (dbs n) tenantId status hazardType) hgrows hlimit
  · exact readsExactly_withCursor (fun n => UserRepository.nodup_keys (dbs n) tenantId) hgrows hlimit
  · exact readsExactly_withCursor (fun n => (dbs n).nodup_keys tenantId) hgrows hlimit
  · have hlist : (fun n => ValidationRunRepository.listByAssessment other (dbs n) tenantId raw limit) =
        fun n => withCursor other ((dbs n).listByAssessment tenantId assessmentId limit) := by
      funext n cursor
      rw [ValidationRunRepository.listByAssessment, hraw, Option.bind_eq_bind, Option.bind_some]
    rw [hlist]
    exact readsExactly_withCursor (fun n => (dbs n).nodup_keys tenantId assessmentId) hgrows hlimit

/-- Three notifications of one time, the last of them sent after the first request. -/
def sampleTables (n : ℕ) : Notifications.Db where
  alertRules := .empty
  notifications :=
    let notification (id : ℕ) (h : id < 2 ^ 128) : Notifications.Notification :=
      { id := ⟨id, h⟩, tenantId := ⟨1⟩, assessmentId := 5, severity := .high,
        metricCode := "rmse", message := "", status := .sent, createdAt := 63840000000000009 }
    ⟨notification 8 (by decide) :: notification 7 (by decide) ::
      if n = 0 then [] else [notification 9 (by decide)], by split <;> decide⟩

theorem sampleTables_grow :
    Grows Notifications.Db.key fun n => (sampleTables n).notificationsOf ⟨1⟩ := by
  refine ⟨fun n => ?_, fun n r hr => ?_⟩
  · rcases n with - | n
    · decide
    · exact List.Subset.refl _
  · have hall : ∀ first : Bool, ∀ r ∈ (sampleTables first.toNat).notificationsOf ⟨1⟩,
        Storable (Notifications.Db.key r) := by
      decide
    rcases n with - | n
    · exact hall false r hr
    · exact hall true r hr

theorem listings_read_exactly_three :
    1 ≤ 1 ∧ Lib.ReadsExactly Notifications.Db.key (decodeCursor fun _ => none)
      (fun n => (sampleTables n).notificationsOf ⟨1⟩) 1
      (Lib.follow fun n =>
        NotificationRepository.listByTenant (fun _ => none) (sampleTables n) ⟨1⟩ 1) :=
  ⟨le_rfl, (listings_read_exactly (fun _ => none) ⟨1⟩ le_rfl).2.2.1 sampleTables sampleTables_grow⟩

end GeoRisk.Listings
