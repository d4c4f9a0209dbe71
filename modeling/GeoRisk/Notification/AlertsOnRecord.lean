import Mathlib
import GeoRisk.Notification.EvaluateAlertRules

/-! Which alerts of a run are on record. The three loops of the engine are one loop over what there is to
    do: an alert to send, or a value that cannot be compared:

        work  [send a₁, send a₂, raise, send a₃]
        run    ──────▶ ──────▶ ✗            a₁ and a₂ are sent, and nothing is on record

    A run that gets to the end of its work commits one notification for each alert, in its order. -/

namespace GeoRisk.EarlyWarning

open Notifications (AlertRuleId NotificationId)

/-! ### The work of a run -/

/-- An alert that is due: everything that is sent, and by what. -/
structure Attempt where
  rule : AlertRule
  value : MetricValue
  subscription : NotificationSubscription
  channelType : NotificationChannelType
  recipient : String
  channel : NotificationChannel

inductive Work where
  | send (attempt : Attempt)
  | raise (text : String)

section Run

variable (ports : Ports) (c : EvaluateAlertRules)

def attempt? (rule : AlertRule) (value : MetricValue) (subscription : NotificationSubscription)
    (channelType : NotificationChannelType) : Option Attempt :=
  match resolveRecipient channelType subscription, ports.channels channelType with
  | some recipient, some channel =>
    some { rule, value, subscription, channelType, recipient, channel }
  | _, _ => none

/-- The alerts of a rule that fires. -/
def fanOut (matching : List NotificationSubscription) (rule : AlertRule) (value : MetricValue) :
    List Attempt :=
  matching.flatMap fun s => s.channels.filterMap (attempt? ports rule value s)

/-- What there is to do for one rule, the `i`-th. -/
def workOf (matching : List NotificationSubscription) (i : ℕ) (rule : AlertRule) : List Work :=
  match ports.metricValue i rule with
  | none => []
  | some value =>
    match rule.operator.evaluate value rule.threshold with
    | .error text => [.raise text]
    | .ok false => []
    | .ok true => (fanOut ports matching rule value).map .send

def work (db : Db) : List Work :=
  match ports.assessmentInfo with
  | none => []
  | some info => (applicableRules c db info).zipIdx.flatMap fun p =>
      workOf ports (matchingSubscriptions c db info) p.2 p.1

def Work.attempt? : Work → Option Attempt
  | .send a => some a
  | .raise _ => none

/-- The alerts of a run, in their order. -/
def attempts (db : Db) : List Attempt := (work ports c db).filterMap Work.attempt?

/-- What comes of the `n`-th send. -/
def Attempt.result (info : AssessmentInfo) (n : ℕ) (a : Attempt) : ChannelDeliveryResult :=
  a.channel n a.recipient a.rule.name (alertMessage info a.rule a.value)

def Attempt.delivery (info : AssessmentInfo) (n : ℕ) (a : Attempt) : Delivery :=
  ⟨a.rule.id, a.subscription.id, a.channelType, a.result info n⟩

/-- The record of the `n`-th send. -/
def Attempt.record (info : AssessmentInfo) (n : ℕ) (a : Attempt) : Notification × NotificationEvent :=
  recordOf (ports.newId n) (alertOf c info a.rule a.value a.subscription a.channelType a.recipient)
    (a.result info n) (ports.clock n)

def send (info : AssessmentInfo) (a : Attempt) : EngineM Unit := fun s =>
  let n := s.deliveries.length
  let sent := s.deliveries ++ [a.delivery info n]
  let record := a.record ports c info n
  match s.db.save record.1 record.2 (ports.clock n) with
  | some db => .ok () { deliveries := sent, db, notifications := s.notifications ++ [record.1] }
  | none => .error .notStored { s with deliveries := sent }

def perform (info : AssessmentInfo) : Work → EngineM Unit
  | .send a => send ports c info a
  | .raise text => throw (.typeError text)

variable {ports c}

theorem deliver_eq (info : AssessmentInfo) (rule : AlertRule) (value : MetricValue)
    (subscription : NotificationSubscription) (channelType : NotificationChannelType) :
    deliver ports c info rule value subscription channelType =
      (attempt? ports rule value subscription channelType).toList.forM (send ports c info) := by
  funext s
  unfold deliver attempt?
  cases resolveRecipient channelType subscription with
  | none => rfl
  | some recipient =>
    cases ports.channels channelType with
    | none => rfl
    | some channel =>
      show _ = (send ports c info _ >>= fun _ => pure ()) s
      rw [bind_pure_unit]
      rfl

theorem forM_send (info : AssessmentInfo) (as : List Attempt) :
    (as.map Work.send).forM (perform ports c info) = as.forM (send ports c info) := by
  simp only [List.forM_eq_forM, List.forM_map]
  rfl

/-- The loop over the rules is a loop over the work. -/
theorem evaluateRule_eq (info : AssessmentInfo) (matching : List NotificationSubscription) (i : ℕ)
    (rule : AlertRule) : evaluateRule ports c info matching i rule =
      (workOf ports matching i rule).forM (perform ports c info) := by
  unfold evaluateRule workOf
  cases ports.metricValue i rule with
  | none => rfl
  | some value =>
    dsimp only
    cases rule.operator.evaluate value rule.threshold with
    | error text => rfl
    | ok fires =>
      cases fires with
      | false => rfl
      | true =>
        dsimp only
        rw [forM_send, fanOut, Lib.forM_flatMap]
        congr 1
        funext subscription
        rw [Lib.forM_filterMap]
        congr 1
        funext channelType
        exact deliver_eq info rule value subscription channelType

/-- The engine is one loop over its work. -/
theorem evaluateAlertRules_eq (s : Session) :
    evaluateAlertRules ports c s =
      match ports.assessmentInfo with
      | none => .ok [] s
      | some info =>
        ((work ports c s.db).forM (perform ports c info) >>= fun _ => do
          return (← get).notifications) s := by
  unfold evaluateAlertRules work
  cases ports.assessmentInfo with
  | none => rfl
  | some info =>
    dsimp only
    rw [Lib.forM_flatMap]
    simp only [← evaluateRule_eq]
    rfl

/-! ### The loop -/

variable (ports c) in
/-- The records of alerts of which the first is the `n`-th sent. -/
def records (info : AssessmentInfo) (n : ℕ) (as : List Attempt) : List Notification :=
  (as.zipIdx n).map fun p => (p.1.record ports c info p.2).1

def deliveries (info : AssessmentInfo) (n : ℕ) (as : List Attempt) : List Delivery :=
  (as.zipIdx n).map fun p => p.1.delivery info p.2

theorem records_cons (info : AssessmentInfo) (n : ℕ) (a : Attempt) (as : List Attempt) :
    records ports c info n (a :: as) =
      (a.record ports c info n).1 :: records ports c info (n + 1) as := rfl

theorem deliveries_cons (info : AssessmentInfo) (n : ℕ) (a : Attempt) (as : List Attempt) :
    deliveries info n (a :: as) = a.delivery info n :: deliveries info (n + 1) as := rfl

/-- The tables take the rows one after the other. -/
def Stores (db : Db) (rows : List Notification) : Prop :=
  (∀ n ∈ rows, n.storable = true ∧ db.notifications.get n.id = none) ∧
    (rows.map Notification.id).Nodup

theorem Db.save_isSome {db : Db} {n : Notification} {event : NotificationEvent} {now : Timestamp} :
    (∃ db', db.save n event now = some db') ↔
      n.storable = true ∧ db.notifications.get n.id = none := by
  unfold Db.save
  split
  · next h =>
    simp only [Bool.or_eq_true, Option.isSome_iff_ne_none, Bool.not_eq_true'] at h
    simp only [reduceCtorEq, exists_false, false_iff, not_and]
    rintro hstorable hget
    rcases h with h | h
    · exact h hget
    · rw [hstorable] at h
      cases h
  · next h =>
    simp only [Bool.or_eq_true, not_or, Option.not_isSome_iff_eq_none, Bool.not_eq_true',
      Bool.not_eq_false] at h
    simp [h.1, h.2]

theorem Db.get_save {db db' : Db} {n : Notification} {event : NotificationEvent} {now : Timestamp}
    (h : db.save n event now = some db') (id : NotificationId) :
    db'.notifications.get id = none ↔ db.notifications.get id = none ∧ id ≠ n.id := by
  unfold Db.save at h
  split at h
  · cases h
  · cases h
    by_cases hid : id = n.id
    · subst hid
      simp
    · simp [Lib.Table.get_put_of_ne _ hid, hid]

theorem Db.rows_save {db db' : Db} {n : Notification} {event : NotificationEvent} {now : Timestamp}
    (h : db.save n event now = some db') :
    db'.notifications.rows = db.notifications.rows ++ [n] := by
  have hget := (Db.save_isSome.mp ⟨db', h⟩).2
  unfold Db.save at h
  split at h
  · cases h
  · cases h
    exact Lib.Table.put_rows_of_fresh hget

theorem stores_cons {db db' : Db} {n : Notification} {event : NotificationEvent} {now : Timestamp}
    (h : db.save n event now = some db') (rows : List Notification) :
    Stores db (n :: rows) ↔ Stores db' rows := by
  have hn := Db.save_isSome.mp ⟨db', h⟩
  simp only [Stores, List.forall_mem_cons, List.map_cons, List.nodup_cons, List.mem_map, not_exists,
    not_and]
  constructor
  · rintro ⟨⟨-, hrows⟩, hne, hnodup⟩
    exact ⟨fun m hm => ⟨(hrows m hm).1, (Db.get_save h _).mpr ⟨(hrows m hm).2, hne m hm⟩⟩, hnodup⟩
  · rintro ⟨hrows, hnodup⟩
    refine ⟨⟨hn, fun m hm => ⟨(hrows m hm).1, ((Db.get_save h _).mp (hrows m hm).2).1⟩⟩,
      fun m hm => ((Db.get_save h _).mp (hrows m hm).2).2, hnodup⟩

/-- What one send does, if it is saved and if it is not. -/
theorem send_cases (info : AssessmentInfo) (a : Attempt) (s : Session) :
    (∃ db, s.db.save (a.record ports c info s.deliveries.length).1
        (a.record ports c info s.deliveries.length).2 (ports.clock s.deliveries.length) = some db ∧
      send ports c info a s = .ok ()
        { deliveries := s.deliveries ++ [a.delivery info s.deliveries.length], db
          notifications :=
            s.notifications ++ [(a.record ports c info s.deliveries.length).1] }) ∨
    (¬ Stores s.db [(a.record ports c info s.deliveries.length).1] ∧
      ∃ s', send ports c info a s = .error .notStored s' ∧
        s'.deliveries = s.deliveries ++ [a.delivery info s.deliveries.length]) := by
  cases hsave : s.db.save (a.record ports c info s.deliveries.length).1
      (a.record ports c info s.deliveries.length).2 (ports.clock s.deliveries.length) with
  | some db =>
    refine Or.inl ⟨db, rfl, ?_⟩
    simp only [send, hsave]
  | none =>
    refine Or.inr ⟨fun hstores => ?_, ?_⟩
    · have hn := hstores.1 _ (List.mem_singleton_self _)
      obtain ⟨db', hdb'⟩ := Db.save_isSome.mpr hn
      rw [hsave] at hdb'
      cases hdb'
    · refine ⟨{ s with deliveries := s.deliveries ++ [a.delivery info s.deliveries.length] }, ?_, rfl⟩
      simp only [send, hsave]

theorem stores_head {db : Db} {n : Notification} {rows : List Notification}
    (h : Stores db (n :: rows)) : Stores db [n] := by
  refine ⟨fun m hm => h.1 m ?_, by simp⟩
  rw [List.mem_singleton.mp hm]
  exact List.mem_cons_self

/-- The loop gets to the end of its work iff nothing raises and every record is stored. -/
theorem perform_ok_iff (info : AssessmentInfo) (ws : List Work) (s : Session) :
    (∃ s', ws.forM (perform ports c info) s = .ok () s') ↔
      (∀ text, .raise text ∉ ws) ∧
        Stores s.db (records ports c info s.deliveries.length (ws.filterMap Work.attempt?)) := by
  induction ws generalizing s with
  | nil => simp [List.forM_eq_forM, records, Stores, pure, EStateM.pure]
  | cons w ws ih =>
    simp only [List.forM_eq_forM, List.forM_cons, Lib.run_bind_ok] at ih ⊢
    cases w with
    | raise text =>
      simp only [List.mem_cons, not_or]
      constructor
      · rintro ⟨s', u, t, h, -⟩
        cases h
      · rintro ⟨h, -⟩
        exact absurd rfl (h text).1
    | send a =>
      have hraise : (∀ text, Work.raise text ∉ Work.send a :: ws) ↔ ∀ text, Work.raise text ∉ ws := by
        simp
      rw [hraise, List.filterMap_cons]
      simp only [Work.attempt?, records_cons]
      rcases @send_cases ports c info a s with ⟨db, hsave, hsend⟩ | ⟨hnot, s', hsend, -⟩
      · rw [stores_cons hsave]
        have hrest := ih { deliveries := s.deliveries ++ [a.delivery info s.deliveries.length], db
                           notifications :=
                             s.notifications ++ [(a.record ports c info s.deliveries.length).1] }
        simp only [List.length_append, List.length_singleton] at hrest
        rw [← hrest]
        constructor
        · rintro ⟨s', u, t, h, hws⟩
          rw [perform, hsend] at h
          cases h
          exact ⟨s', hws⟩
        · rintro ⟨s', hws⟩
          exact ⟨s', (), _, hsend, hws⟩
      · constructor
        · rintro ⟨s'', u, t, h, -⟩
          rw [perform, hsend] at h
          cases h
        · rintro ⟨-, hstores⟩
          exact absurd (stores_head hstores) hnot

/-- What the loop has sent and recorded when it gets to the end. -/
theorem perform_ok (info : AssessmentInfo) (ws : List Work) {s s' : Session}
    (h : ws.forM (perform ports c info) s = .ok () s') :
    s'.deliveries = s.deliveries ++
        deliveries info s.deliveries.length (ws.filterMap Work.attempt?) ∧
      s'.notifications = s.notifications ++
        records ports c info s.deliveries.length (ws.filterMap Work.attempt?) ∧
      s'.db.notifications.rows = s.db.notifications.rows ++
        records ports c info s.deliveries.length (ws.filterMap Work.attempt?) := by
  induction ws generalizing s with
  | nil =>
    cases h
    simp [deliveries, records]
  | cons w ws ih =>
    simp only [List.forM_eq_forM, List.forM_cons, Lib.run_bind_ok] at ih h
    obtain ⟨u, t, hw, hws⟩ := h
    cases w with
    | raise text => cases hw
    | send a =>
      obtain ⟨hdeliveries, hnotifications, hrows⟩ := ih hws
      rw [perform] at hw
      rcases @send_cases ports c info a s with ⟨db, hsave, hsend⟩ | ⟨-, s₁, hsend, -⟩
      · rw [hsend] at hw
        cases hw
        simp only [List.length_append, List.length_singleton] at hdeliveries hnotifications hrows
        simp only [List.filterMap_cons, Work.attempt?, deliveries_cons, records_cons]
        rw [Db.rows_save hsave] at hrows
        simp [hdeliveries, hnotifications, hrows]
      · rw [hsend] at hw
        cases hw

/-- A loop that has nothing to send sends nothing, whether something raises or not. -/
theorem perform_idle (info : AssessmentInfo) {ws : List Work} (h : ws.filterMap Work.attempt? = [])
    (s : Session) : ws.forM (perform ports c info) s = .ok () s ∨
      ∃ e, ws.forM (perform ports c info) s = .error e s := by
  cases ws with
  | nil => exact Or.inl rfl
  | cons w ws =>
    cases w with
    | send a => simp [Work.attempt?] at h
    | raise text => exact Or.inr ⟨_, rfl⟩

/-! ### The run -/

/-- A run commits iff nothing raises and every record is stored; then it has sent and recorded every
    alert. Else its tables are as before. -/
theorem run_cases (db : Db) {info : AssessmentInfo} (hinfo : ports.assessmentInfo = some info) :
    ((∀ text, .raise text ∉ work ports c db) ∧
        Stores db (records ports c info 0 (attempts ports c db)) ∧
        (run ports c db).deliveries = deliveries info 0 (attempts ports c db) ∧
        (run ports c db).committed = records ports c info 0 (attempts ports c db) ∧
        (run ports c db).db.notifications.rows =
          db.notifications.rows ++ records ports c info 0 (attempts ports c db)) ∨
      (¬ ((∀ text, .raise text ∉ work ports c db) ∧
          Stores db (records ports c info 0 (attempts ports c db))) ∧
        (run ports c db).committed = [] ∧ (run ports c db).db = db ∧
        (attempts ports c db = [] → (run ports c db).deliveries = [])) := by
  have hiff := @perform_ok_iff ports c info (work ports c db) ⟨[], db, []⟩
  have hrun := @evaluateAlertRules_eq ports c ⟨[], db, []⟩
  simp only [hinfo] at hrun
  cases hloop : (work ports c db).forM (perform ports c info) ⟨[], db, []⟩ with
  | ok u s =>
    obtain ⟨hraise, hstores⟩ := hiff.mp ⟨s, hloop⟩
    obtain ⟨hdeliveries, hnotifications, hrows⟩ := perform_ok info (work ports c db) hloop
    have hresult : evaluateAlertRules ports c ⟨[], db, []⟩ = .ok s.notifications s :=
      hrun.trans (Lib.run_bind_ok.mpr ⟨u, s, hloop, rfl⟩)
    refine Or.inl ⟨hraise, hstores, ?_, ?_, ?_⟩
    · simp only [run, hresult, hdeliveries, List.nil_append]
      rfl
    · simp only [run, hresult, hnotifications, List.nil_append]
      rfl
    · simp only [run, hresult, hrows]
      rfl
  | error e s =>
    have hresult : evaluateAlertRules ports c ⟨[], db, []⟩ = .error e s :=
      hrun.trans (Lib.run_bind_error.mpr (Or.inl hloop))
    refine Or.inr ⟨fun h => ?_, ?_, ?_, ?_⟩
    · obtain ⟨s', hok⟩ := hiff.mpr h
      rw [hloop] at hok
      cases hok
    · simp only [run, hresult]
    · simp only [run, hresult]
    · intro hidle
      simp only [run, hresult]
      rcases perform_idle info hidle ⟨[], db, []⟩ with h | ⟨e', h⟩
      · rw [hloop] at h
        cases h
      · rw [hloop] at h
        cases h
        rfl

/-! ### The triples -/

variable (ports c) in
/-- The rule applies, its metric is available and it fires, the `i`-th to be evaluated; the
    subscription matches; and the channel is one of its own, is configured, and has a recipient. -/
structure Due (db : Db) (info : AssessmentInfo) (i : ℕ) (r : AlertRule)
    (s : NotificationSubscription) (channelType : NotificationChannelType) : Prop where
  assessment : ports.assessmentInfo = some info
  rule : (r, i) ∈ (applicableRules c db info).zipIdx
  fires : ∃ value, ports.metricValue i r = some value ∧
    r.operator.evaluate value r.threshold = .ok true
  subscription : s ∈ matchingSubscriptions c db info
  channel : channelType ∈ s.channels
  recipient : ∃ recipient, resolveRecipient channelType s = some recipient
  configured : ∃ channel, ports.channels channelType = some channel

theorem attempt?_some {rule : AlertRule} {value : MetricValue} {s : NotificationSubscription}
    {channelType : NotificationChannelType} {a : Attempt} :
    attempt? ports rule value s channelType = some a ↔
      resolveRecipient channelType s = some a.recipient ∧
        ports.channels channelType = some a.channel ∧ a.rule = rule ∧ a.value = value ∧
        a.subscription = s ∧ a.channelType = channelType := by
  unfold attempt?
  split
  · next recipient channel hrecipient hchannel =>
    constructor
    · intro h
      cases h
      exact ⟨hrecipient, hchannel, rfl, rfl, rfl, rfl⟩
    · rintro ⟨hr, hc, rfl, rfl, rfl, rfl⟩
      rw [hrecipient] at hr
      rw [hchannel] at hc
      cases hr
      cases hc
      rfl
  · next hnot =>
    simp only [reduceCtorEq, false_iff]
    rintro ⟨hr, hc, -⟩
    exact hnot _ _ hr hc

theorem mem_fanOut {matching : List NotificationSubscription} {rule : AlertRule}
    {value : MetricValue} {a : Attempt} :
    a ∈ fanOut ports matching rule value ↔
      a.rule = rule ∧ a.value = value ∧ a.subscription ∈ matching ∧
        a.channelType ∈ a.subscription.channels ∧
        resolveRecipient a.channelType a.subscription = some a.recipient ∧
        ports.channels a.channelType = some a.channel := by
  simp only [fanOut, List.mem_flatMap, List.mem_filterMap, attempt?_some]
  constructor
  · rintro ⟨s, hs, channelType, hmem, hr, hc, rfl, rfl, rfl, rfl⟩
    exact ⟨rfl, rfl, hs, hmem, hr, hc⟩
  · rintro ⟨rfl, rfl, hs, hmem, hr, hc⟩
    exact ⟨a.subscription, hs, a.channelType, hmem, hr, hc, rfl, rfl, rfl, rfl⟩

/-- The alerts among the work for one rule. -/
def attemptsOf (ports : Ports) (matching : List NotificationSubscription) (i : ℕ)
    (rule : AlertRule) : List Attempt :=
  (workOf ports matching i rule).filterMap Work.attempt?

theorem filterMap_send (as : List Attempt) : (as.map Work.send).filterMap Work.attempt? = as := by
  rw [List.filterMap_map]
  exact List.filterMap_some

theorem mem_attemptsOf {matching : List NotificationSubscription} {i : ℕ} {rule : AlertRule}
    {a : Attempt} : a ∈ attemptsOf ports matching i rule ↔
      ∃ value, ports.metricValue i rule = some value ∧
        rule.operator.evaluate value rule.threshold = .ok true ∧
        a ∈ fanOut ports matching rule value := by
  unfold attemptsOf workOf
  cases ports.metricValue i rule with
  | none => simp
  | some value =>
    dsimp only
    simp only [Option.some.injEq, exists_eq_left']
    cases rule.operator.evaluate value rule.threshold with
    | error text => simp [Work.attempt?]
    | ok fires =>
      cases fires with
      | false => simp
      | true =>
        show a ∈ ((fanOut ports matching rule value).map Work.send).filterMap Work.attempt? ↔ _
        rw [filterMap_send]
        simp

theorem attempts_eq {db : Db} {info : AssessmentInfo} (hinfo : ports.assessmentInfo = some info) :
    attempts ports c db = (applicableRules c db info).zipIdx.flatMap fun p =>
      attemptsOf ports (matchingSubscriptions c db info) p.2 p.1 := by
  simp only [attempts, work, hinfo, List.filterMap_flatMap]
  rfl

/-- The alerts of a run are for the triples that are due. -/
theorem due_iff {db : Db} {info : AssessmentInfo} (hinfo : ports.assessmentInfo = some info)
    {r : AlertRule} {s : NotificationSubscription} {channelType : NotificationChannelType} :
    (∃ i, Due ports c db info i r s channelType) ↔
      ∃ a ∈ attempts ports c db, a.rule = r ∧ a.subscription = s ∧ a.channelType = channelType := by
  simp only [attempts_eq hinfo, List.mem_flatMap, mem_attemptsOf, mem_fanOut]
  constructor
  · rintro ⟨i, -, hrule, ⟨value, hvalue, hfires⟩, hs, hchannel, ⟨recipient, hr⟩, channel, hc⟩
    exact ⟨⟨r, value, s, channelType, recipient, channel⟩, ⟨(r, i), hrule, value, hvalue, hfires,
      rfl, rfl, hs, hchannel, hr, hc⟩, rfl, rfl, rfl⟩
  · rintro ⟨a, ⟨p, hp, value, hvalue, hfires, hrule, rfl, hs, hchannel, hr, hc⟩, rfl, rfl, rfl⟩
    refine ⟨p.2, hinfo, ?_, ⟨a.value, ?_, ?_⟩, hs, hchannel, ⟨_, hr⟩, _, hc⟩
    · rw [hrule]
      exact hp
    · rw [hrule]
      exact hvalue
    · rw [hrule]
      exact hfires

/-! ### No triple twice -/

/-- What a notification tells of its triple. -/
def Attempt.key (a : Attempt) :
    AlertRuleId × NotificationSubscriptionId × NotificationChannelType :=
  (a.rule.id, a.subscription.id, a.channelType)

def Notification.key (n : Notification) :
    AlertRuleId × NotificationSubscriptionId × NotificationChannelType :=
  (n.alertRuleId, n.subscriptionId, n.channel)

theorem record_key (info : AssessmentInfo) (n : ℕ) (a : Attempt) :
    (a.record ports c info n).1.key = a.key := by
  simp only [Attempt.record, recordOf]
  split <;> rfl

theorem records_key (info : AssessmentInfo) (n : ℕ) (as : List Attempt) :
    (records ports c info n as).map Notification.key = as.map Attempt.key := by
  induction as generalizing n with
  | nil => rfl
  | cons a as ih => rw [records_cons, List.map_cons, List.map_cons, ih, record_key]

theorem nodup_fanOut {matching : List NotificationSubscription}
    (hmatching : (matching.map NotificationSubscription.id).Nodup) (rule : AlertRule)
    (value : MetricValue) : ((fanOut ports matching rule value).map Attempt.key).Nodup := by
  rw [fanOut, List.map_flatMap]
  refine Lib.nodup_flatMap (fun k => k.2.1) hmatching ?_ ?_
  · intro s hs k hk
    obtain ⟨a, ha, rfl⟩ := List.mem_map.mp hk
    obtain ⟨channelType, -, hsome⟩ := List.mem_filterMap.mp ha
    rw [Attempt.key, (attempt?_some.mp hsome).2.2.2.2.1]
  · intro s hs
    rw [List.Nodup, List.pairwise_map, List.pairwise_filterMap]
    refine s.nodup.imp fun hne a ha a' ha' hkey => hne ?_
    rw [← (attempt?_some.mp ha).2.2.2.2.2, ← (attempt?_some.mp ha').2.2.2.2.2]
    exact congrArg (fun k => k.2.2) hkey

/-- No two alerts of a run are for one triple. -/
theorem nodup_attempts (db : Db) : ((attempts ports c db).map Attempt.key).Nodup := by
  cases hinfo : ports.assessmentInfo with
  | none => simp [attempts, work, hinfo]
  | some info =>
    have hmatching : ((matchingSubscriptions c db info).map NotificationSubscription.id).Nodup :=
      db.subscriptions.nodup.sublist ((List.filter_sublist.trans List.filter_sublist).map _)
    have hrules : ((applicableRules c db info).zipIdx.map fun p => p.1.id).Nodup := by
      have hids : ((applicableRules c db info).map AlertRule.id).Nodup :=
        db.alertRules.nodup.sublist ((List.filter_sublist.trans List.filter_sublist).map _)
      rwa [← List.zipIdx_map_fst 0 (applicableRules c db info), List.map_map] at hids
    rw [attempts_eq hinfo, List.map_flatMap]
    refine Lib.nodup_flatMap (fun k => k.1) hrules ?_ ?_
    · intro p _ k hk
      obtain ⟨a, ha, rfl⟩ := List.mem_map.mp hk
      obtain ⟨value, -, -, hmem⟩ := mem_attemptsOf.mp ha
      rw [Attempt.key, (mem_fanOut.mp hmem).1]
    · intro p _
      unfold attemptsOf workOf
      split
      · exact List.nodup_nil
      · split
        · exact List.nodup_nil
        · exact List.nodup_nil
        · rw [filterMap_send]
          exact nodup_fanOut hmatching _ _

/-! ### The texts of a record -/

theorem storable_repr (x : PyFloat) : DataAcquisition.storable x.repr = true := by
  rw [PyFloat.repr, DataAcquisition.storable_ofList, List.all_eq_true]
  intro ch hch
  refine decide_eq_true fun hnul => ?_
  have hmark := PyFloat.isReprChar_reprChars hch
  rw [hnul] at hmark
  exact absurd hmark (by decide)

theorem storable_value {value : MetricValue} {x : PyFloat} (h : value.number = some x) :
    DataAcquisition.storable value.str = true := by
  cases value with
  | int n => exact DataAcquisition.storable_nat n
  | float y => exact storable_repr y
  | object typeName => cases h

theorem storable_alertMessage {info : AssessmentInfo} {rule : AlertRule} {value : MetricValue}
    {x : PyFloat} (hinfo : DataAcquisition.storable info.name = true) (hrule : rule.Accepted)
    (hvalue : value.number = some x) :
    DataAcquisition.storable (alertMessage info rule value) = true := by
  have hseverity : DataAcquisition.storable rule.severity.value = true := by
    cases rule.severity <;> decide
  have hsymbol : DataAcquisition.storable rule.operator.symbol = true := by
    cases rule.operator <;> decide
  have hname := DataAcquisition.storable_of_fits hrule.name.2
  have hcode := DataAcquisition.storable_of_fits hrule.metricCode.2
  have hthreshold := storable_repr rule.threshold
  unfold alertMessage
  simp only [DataAcquisition.storable_append, hseverity, hsymbol, hname, hcode, hinfo,
    storable_value hvalue, hthreshold]
  decide

/-- A record can be stored iff the text of its failure can, if it has failed. -/
theorem record_storable {db : Db} {info : AssessmentInfo} (hinfo : ports.assessmentInfo = some info)
    {a : Attempt} (ha : a ∈ attempts ports c db) (n : ℕ) :
    (a.record ports c info n).1.storable = true ↔ ((a.result info n).delivered = false →
      DataAcquisition.storable (a.result info n).errorText = true) := by
  rw [attempts_eq hinfo] at ha
  obtain ⟨p, hp, ha⟩ := List.mem_flatMap.mp ha
  obtain ⟨value, hvalue, hfires, ha⟩ := mem_attemptsOf.mp ha
  obtain ⟨hrule, rfl, hs, -, hrecipient, -⟩ := mem_fanOut.mp ha
  have hmem : a.rule ∈ db.alertRules.rows := by
    rw [hrule]
    exact List.mem_of_mem_filter (List.mem_of_mem_filter (List.fst_mem_of_mem_zipIdx hp))
  have haccepted := db.rules_accepted _ hmem
  have hsubscription := db.subscriptions_accepted _ (List.mem_of_mem_filter (List.mem_of_mem_filter hs))
  obtain ⟨x, hx⟩ : ∃ x, a.value.number = some x := by
    cases hnumber : a.value.number with
    | some x => exact ⟨x, rfl⟩
    | none =>
      obtain ⟨e, he⟩ := @AlertOperator.evaluate_object p.1.operator _ hnumber p.1.threshold
      rw [hfires] at he
      cases he
  have hmessage := storable_alertMessage (ports.name_storable info hinfo) haccepted hx
  simp only [Attempt.record, recordOf]
  split
  · next hdelivered =>
    simp [Notification.storable, Notification.sent, alertOf, fits_recipient hsubscription hrecipient,
      haccepted.metricCode.2, hmessage, hdelivered]
    decide
  · next hdelivered =>
    simp [Notification.storable, Notification.failed, alertOf,
      fits_recipient hsubscription hrecipient, haccepted.metricCode.2, hmessage, hdelivered]

theorem records_id (info : AssessmentInfo) (as : List Attempt) :
    (records ports c info 0 as).map Notification.id =
      (List.range as.length).map ports.newId := by
  rw [List.range_eq_range', ← List.zipIdx_map_snd, records, List.map_map, List.map_map]
  refine List.map_congr_left fun p _ => ?_
  simp only [Function.comp_apply, Attempt.record, recordOf]
  split <;> rfl

/-! ### What is on record -/

/-- The notification is for the triple. -/
def Notification.isFor (r : AlertRule) (s : NotificationSubscription)
    (channelType : NotificationChannelType) (n : Notification) : Bool :=
  n.key = (r.id, s.id, channelType)

/-- The notification says what came of the delivery. -/
def Delivery.RecordedBy (d : Delivery) (n : Notification) : Prop :=
  n.key = (d.alertRuleId, d.subscriptionId, d.channel) ∧
    (n.status = .sent ↔ d.result.delivered = true)

variable (ports c) in
/-- A run commits one notification for each triple that is due and none else, `SENT` iff it has been
    delivered; and of all it has sent there is a record. -/
structure OnRecord (db : Db) : Prop where
  exactlyOne : ∀ info i r s channelType, Due ports c db info i r s channelType →
    ((run ports c db).committed.filter (Notification.isFor r s channelType)).length = 1
  noOther : ∀ n ∈ (run ports c db).committed, ∃ info i r s channelType,
    Due ports c db info i r s channelType ∧ n.isFor r s channelType = true
  status : ∀ n ∈ (run ports c db).committed, ∃ d ∈ (run ports c db).deliveries, d.RecordedBy n
  recorded : ∀ d ∈ (run ports c db).deliveries, ∃ n ∈ (run ports c db).committed, d.RecordedBy n
  rows : (run ports c db).db.notifications.rows =
    db.notifications.rows ++ (run ports c db).committed

variable (ports c) in
/-- Every metric that a rule of the run finds is a number. -/
def Comparable (db : Db) : Prop :=
  ∀ info, ports.assessmentInfo = some info → ∀ p ∈ (applicableRules c db info).zipIdx,
    ∀ value, ports.metricValue p.2 p.1 = some value → value.number ≠ none

variable (ports c) in
/-- The text of every failure can be stored. -/
def ErrorsStorable (db : Db) : Prop :=
  ∀ info, ports.assessmentInfo = some info → ∀ p ∈ (attempts ports c db).zipIdx,
    (p.1.result info p.2).delivered = false →
      DataAcquisition.storable (p.1.result info p.2).errorText = true

variable (ports c) in
/-- The identifiers drawn for the alerts are new. -/
def NewIds (db : Db) : Prop :=
  (((List.range (attempts ports c db).length).map ports.newId)).Nodup ∧
    ∀ n < (attempts ports c db).length, db.notifications.get (ports.newId n) = none

theorem comparable_iff (db : Db) :
    Comparable ports c db ↔ ∀ text, Work.raise text ∉ work ports c db := by
  unfold Comparable work
  cases ports.assessmentInfo with
  | none => simp
  | some info =>
    simp only [Option.some.injEq, forall_eq', List.mem_flatMap, not_exists, not_and]
    constructor
    · intro h text p hp hmem
      unfold workOf at hmem
      cases hvalue : ports.metricValue p.2 p.1 with
      | none => simp [hvalue] at hmem
      | some value =>
        obtain ⟨x, hx⟩ := Option.ne_none_iff_exists'.mp (h p hp value hvalue)
        simp only [hvalue, AlertOperator.evaluate_number hx] at hmem
        split at hmem
        · next heq => cases heq
        · cases hmem
        · simp at hmem
    · intro h p hp value hvalue hnone
      obtain ⟨text, htext⟩ := @AlertOperator.evaluate_object p.1.operator _ hnone p.1.threshold
      refine h text p hp ?_
      simp [workOf, hvalue, htext]

/-- The tables take the records of a run iff the texts of its failures can be stored and its
    identifiers are new. -/
theorem stores_iff {db : Db} {info : AssessmentInfo} (hinfo : ports.assessmentInfo = some info) :
    Stores db (records ports c info 0 (attempts ports c db)) ↔
      ErrorsStorable ports c db ∧ NewIds ports c db := by
  have hids := @records_id ports c info (attempts ports c db)
  have hnew : (∀ n ∈ records ports c info 0 (attempts ports c db),
      db.notifications.get n.id = none) ↔
      ∀ n < (attempts ports c db).length, db.notifications.get (ports.newId n) = none := by
    rw [← List.forall_mem_map (f := Notification.id)
      (P := fun i => db.notifications.get i = none), hids, List.forall_mem_map]
    simp only [List.mem_range]
  have htexts : (∀ n ∈ records ports c info 0 (attempts ports c db), n.storable = true) ↔
      ErrorsStorable ports c db := by
    rw [records, List.forall_mem_map]
    unfold ErrorsStorable
    constructor
    · intro h info' hinfo' p hp
      rw [hinfo] at hinfo'
      cases hinfo'
      exact (record_storable hinfo (List.fst_mem_of_mem_zipIdx hp) p.2).mp (h p hp)
    · intro h p hp
      exact (record_storable hinfo (List.fst_mem_of_mem_zipIdx hp) p.2).mpr (h info hinfo p hp)
  rw [Stores, forall₂_and, htexts, hnew, hids, NewIds, and_assoc]
  tauto

theorem isFor_iff {r : AlertRule} {s : NotificationSubscription}
    {channelType : NotificationChannelType} {n : Notification} :
    n.isFor r s channelType = true ↔ n.key = (r.id, s.id, channelType) := by
  rw [Notification.isFor, decide_eq_true_eq]

/-- A record says what came of its send. -/
theorem recordedBy_record (info : AssessmentInfo) (n : ℕ) (a : Attempt) :
    (a.delivery info n).RecordedBy (a.record ports c info n).1 := by
  refine ⟨record_key info n a, ?_⟩
  show _ ↔ (a.result info n).delivered = true
  simp only [Attempt.record, recordOf]
  split
  · next h => exact ⟨fun _ => h, fun _ => rfl⟩
  · next h => exact ⟨fun hsent => (nomatch hsent), fun hdelivered => absurd hdelivered h⟩

/-- A run that commits the records of its alerts has everything on record. -/
theorem onRecord_of_records {db : Db} {info : AssessmentInfo}
    (hinfo : ports.assessmentInfo = some info)
    (hdeliveries : (run ports c db).deliveries = deliveries info 0 (attempts ports c db))
    (hcommitted : (run ports c db).committed = records ports c info 0 (attempts ports c db))
    (hrows : (run ports c db).db.notifications.rows =
      db.notifications.rows ++ records ports c info 0 (attempts ports c db)) :
    OnRecord ports c db where
  exactlyOne info' i r s channelType hdue := by
    obtain rfl : info = info' := Option.some.inj (hinfo.symm.trans hdue.assessment)
    obtain ⟨a, ha, rfl, rfl, rfl⟩ := (due_iff hinfo).mp ⟨i, hdue⟩
    have hkeys := @records_key ports c info 0 (attempts ports c db)
    obtain ⟨n, hn, hkey⟩ := List.mem_map.mp (hkeys ▸ List.mem_map_of_mem ha)
    have hone := Lib.length_filter_eq_one (hkeys ▸ nodup_attempts db) hn
    rw [hkey] at hone
    rw [hcommitted]
    exact hone
  noOther n hn := by
    rw [hcommitted] at hn
    obtain ⟨p, hp, rfl⟩ := List.mem_map.mp hn
    obtain ⟨i, hdue⟩ := (due_iff hinfo).mpr ⟨p.1, List.fst_mem_of_mem_zipIdx hp, rfl, rfl, rfl⟩
    exact ⟨info, i, p.1.rule, p.1.subscription, p.1.channelType, hdue, isFor_iff.mpr (record_key ..)⟩
  status n hn := by
    rw [hcommitted] at hn
    obtain ⟨p, hp, rfl⟩ := List.mem_map.mp hn
    rw [hdeliveries]
    exact ⟨_, List.mem_map_of_mem hp, recordedBy_record info p.2 p.1⟩
  recorded d hd := by
    rw [hdeliveries] at hd
    obtain ⟨p, hp, rfl⟩ := List.mem_map.mp hd
    rw [hcommitted]
    exact ⟨_, List.mem_map_of_mem hp, recordedBy_record info p.2 p.1⟩
  rows := by rw [hrows, hcommitted]

/-- A run that sends nothing and commits nothing has everything on record. -/
theorem onRecord_of_idle {db : Db} (hnone : ∀ info i r s channelType,
      ¬ Due ports c db info i r s channelType)
    (hdeliveries : (run ports c db).deliveries = []) (hcommitted : (run ports c db).committed = [])
    (hdb : (run ports c db).db = db) : OnRecord ports c db where
  exactlyOne info i r s channelType hdue := absurd hdue (hnone info i r s channelType)
  noOther n hn := by
    rw [hcommitted] at hn
    cases hn
  status n hn := by
    rw [hcommitted] at hn
    cases hn
  recorded d hd := by
    rw [hdeliveries] at hd
    cases hd
  rows := by rw [hdb, hcommitted, List.append_nil]

/-- A run has everything on record iff it compares numbers only and can store what it records, or no
    alert is due. -/
theorem onRecord_iff_due (db : Db) : OnRecord ports c db ↔
    (Comparable ports c db ∧ ErrorsStorable ports c db ∧ NewIds ports c db) ∨
      ∀ info i r s channelType, ¬ Due ports c db info i r s channelType := by
  cases hinfo : ports.assessmentInfo with
  | none =>
    have hnone : ∀ info i r s channelType, ¬ Due ports c db info i r s channelType := by
      intro info i r s channelType hdue
      rw [hdue.assessment] at hinfo
      cases hinfo
    have hrun := @evaluateAlertRules_eq ports c ⟨[], db, []⟩
    simp only [hinfo] at hrun
    exact iff_of_true (onRecord_of_idle hnone (by simp only [run, hrun]) (by simp only [run, hrun])
      (by simp only [run, hrun])) (Or.inr hnone)
  | some info =>
    rw [comparable_iff, ← stores_iff hinfo]
    rcases run_cases (c := c) db hinfo with
      ⟨hraise, hstores, hdeliveries, hcommitted, hrows⟩ | ⟨hnot, hcommitted, hdb, hidle⟩
    · exact iff_of_true (onRecord_of_records hinfo hdeliveries hcommitted hrows)
        (Or.inl ⟨hraise, hstores⟩)
    · constructor
      · intro h
        refine Or.inr fun info' i r s channelType hdue => ?_
        have hone := h.exactlyOne info' i r s channelType hdue
        rw [hcommitted] at hone
        cases hone
      · rintro (h | hnone)
        · exact absurd h hnot
        · have hattempts : attempts ports c db = [] := by
            refine List.eq_nil_iff_forall_not_mem.mpr fun a ha => ?_
            obtain ⟨i, hdue⟩ := (due_iff hinfo).mpr ⟨a, ha, rfl, rfl, rfl⟩
            exact hnone info i _ _ _ hdue
          exact onRecord_of_idle hnone (hidle hattempts) hcommitted hdb

end Run

end GeoRisk.EarlyWarning
