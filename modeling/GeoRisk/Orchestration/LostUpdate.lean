import Mathlib
import GeoRisk.Lib.Runs
import GeoRisk.Lib.ReadCommitted
import GeoRisk.Orchestration.ConcurrentStages

/-! The command handlers as transactions at READ COMMITTED, two of them on one assessment. A handler
    reads the row twice: when it loads the assessment, and again when `save` looks for the version to
    compare. The columns that differ from what `save` has read are written at the commit.

        load ─▶ entity method ─▶ save: read again, compare versions ─▶ commit

    Alone, a handler does what `handle` does. Of two that load the same version, the one whose `save`
    reads after the other's commit is refused. When both have read before either commits, both
    commit, and the version counts only one of them. -/

namespace GeoRisk.Orchestration

/-- The row `current` after `entity` is put over the row that `save` has read as `model`, and
    flushed. -/
def Assessment.flush (model entity current : Assessment) : Assessment where
  id := current.id
  tenantId := Lib.flushed model.tenantId entity.tenantId current.tenantId
  name := Lib.flushed model.name entity.name current.name
  hazardType := Lib.flushed model.hazardType entity.hazardType current.hazardType
  status := Lib.flushed model.status entity.status current.status
  createdBy := Lib.flushed model.createdBy entity.createdBy current.createdBy
  createdAt := Lib.flushed model.createdAt entity.createdAt current.createdAt
  updatedAt := Lib.flushed model.updatedAt entity.updatedAt current.updatedAt
  cancellationReason :=
    Lib.flushed model.cancellationReason entity.cancellationReason current.cancellationReason
  version := Lib.flushed model.version (model.version + 1) current.version
  workflowTemplateId :=
    Lib.flushed model.workflowTemplateId entity.workflowTemplateId current.workflowTemplateId
  workflowProgress := Lib.flushed model.workflowProgress entity.workflowProgress current.workflowProgress

/-- What the commit writes; the update of a row that is gone fails. -/
def Db.flush (target : Target) (model entity : Assessment) (events : List AssessmentEvent)
    (now : Timestamp) (db : Db) : Option Db :=
  (db.assessments.get model.id).map fun current =>
    { db with
      assessments := db.assessments.put (model.flush entity current)
      outbox := (db.appendEvents entity.id events target.tenantId now).outbox }

/-- What the commit writes for an assessment that `save` has not found; the insert of a row that is
    there fails. -/
def Db.insert (target : Target) (entity : Assessment) (events : List AssessmentEvent)
    (now : Timestamp) (db : Db) : Option Db :=
  if (db.assessments.get entity.id).isSome then none
  else some { db with
    assessments := db.assessments.put { entity with version := 0 }
    outbox := (db.appendEvents entity.id events target.tenantId now).outbox }

abbrev HandlerTxn := Lib.Txn Db Timestamp (Except AssessmentError Assessment)

/-- `save(assessment, expected_version=assessment.version)` and the rest of the handler. -/
def saveTxn (target : Target) (assessment : Assessment) (events : List AssessmentEvent) : HandlerTxn :=
  .query fun now db =>
    match db.assessments.get assessment.id with
    | none => .commit (Db.insert target assessment events now) (.ok assessment)
    | some model =>
      if model.version ≠ assessment.version then
        .rollback (.error ⟨.optimisticConcurrency,
          s!"Assessment {assessment.id} was modified concurrently " ++
          s!"(expected version {assessment.version}, found {model.version})"⟩)
      else .commit (Db.flush target model assessment events now) (.ok assessment)

/-- The entity method, which may read the templates, and what follows. -/
def bodyTxn (c : Command) (target : Target) (loaded : Assessment) : HandlerTxn :=
  .query fun now db =>
    match (c.body now db).run loaded with
    | .error e _ => .rollback (.error e)
    | .ok events assessment => saveTxn target assessment events

/-- The handler of a command, query by query. -/
def handlerTxn (c : Command) (target : Target) : HandlerTxn :=
  .query fun _ db =>
    match loadOr404 db target with
    | .error e => .rollback (.error e)
    | .ok loaded => bodyTxn c target loaded

/-- Two handlers at work. -/
abbrev Duel := Lib.World Bool Db Timestamp (Except AssessmentError Assessment)

def Duel.start (c : Bool → Command) (target : Bool → Target) (db : Db) : Duel :=
  Lib.World.start (fun i => handlerTxn (c i) (target i)) db

/-- The handlers after an interleaving of their steps. -/
def Duel.run (c : Bool → Command) (target : Bool → Target) (db : Db)
    (ts : List (Bool × Timestamp)) : Duel :=
  ts.foldl Lib.World.step (Duel.start c target db)

/-- The handlers one after the other. -/
def serially (c : Bool → Command) (target : Bool → Target) :
    List (Bool × Timestamp) → Db → Except AssessmentError Db
  | [], db => .ok db
  | (i, now) :: order, db => do
    let (db, _) ← handle (c i) (target i) now db
    serially c target order db

def Duel.Committed (w : Duel) (i : Bool) : Prop := ∃ result, w.sessions i = .committed result

def Duel.AtMostOneCommits (w : Duel) : Prop := ∀ i j, w.Committed i → w.Committed j → i = j

/-- The row is what the committed handlers leave in some order, at some times. -/
def Duel.Serializes (c : Bool → Command) (target : Bool → Target) (db : Db) (id : AssessmentId)
    (w : Duel) : Prop :=
  ∃ order : List (Bool × Timestamp), (order.map Prod.fst).Nodup ∧
    (∀ i, i ∈ order.map Prod.fst ↔ w.Committed i) ∧
    ∃ db', serially c target order db = .ok db' ∧
      db'.assessments.get id = w.db.assessments.get id

/-- Two handlers run to their end on one assessment, which both load at the version of the row `a` and
    come to save. -/
structure Contention (c : Bool → Command) (target : Bool → Target) (db : Db) (a : Assessment)
    (ts : List (Bool × Timestamp)) (entity : Bool → Assessment) : Prop where
  row : ∀ i, db.Row (target i) a
  saved : ∀ i, ∃ pre events, pre <+: ts ∧
    (Duel.run c target db pre).sessions i = .running (saveTxn (target i) (entity i) events)
  sameVersion : ∀ i, (entity i).version = a.version
  ended : ∀ i, ((Duel.run c target db ts).sessions i).Ended

/-- One of the handlers takes the step in which its `save` reads the row when the other has
    committed. -/
def SavesAfterCommit (c : Bool → Command) (target : Bool → Target) (db : Db)
    (ts : List (Bool × Timestamp)) (entity : Bool → Assessment) : Prop :=
  ∃ i pre now events, pre ++ [(i, now)] <+: ts ∧
    (Duel.run c target db pre).sessions i = .running (saveTxn (target i) (entity i) events) ∧
    (Duel.run c target db pre).Committed (!i)

/-! ### A handler alone -/

section Alone

variable {c : Command} {target : Target} {now : Timestamp} {db db' : Db} {a a' : Assessment}

theorem flush_self (h : SameIdentity a a') : a.flush a' a = a'.saved := by
  simp [Assessment.flush, Assessment.saved, h.id, h.version]

/-- Saving over the row as it was loaded. -/
theorem flush_loaded {events : List AssessmentEvent} (hsame : SameIdentity a a')
    (hget : db.assessments.get a.id = some a) :
    Db.flush target a a' events now db = some (db.commit target a' events now) := by
  rw [Db.flush, hget, Option.map_some, flush_self hsame]
  rfl

/-- Four steps of a handler with no other in between are what `handle` does. -/
theorem handlerTxn_alone (c : Command) (target : Target) (now : Timestamp) (db : Db) :
    let w := [now, now, now, now].foldl (fun w x => Lib.World.step w ((), x))
      (Lib.World.start (fun _ => handlerTxn c target) db)
    match handle c target now db with
    | .ok (db', a') => w.db = db' ∧ w.sessions () = .committed (.ok a')
    | .error e => w.db = db ∧ w.sessions () = .rolledBack (some (.error e)) := by
  cases hl : loadOr404 db target with
  | error e => simp [handle, hl, bind, Except.bind, Lib.World.step, Lib.World.start, handlerTxn]
  | ok loaded =>
    have hrow := loadOr404_ok.mp hl
    cases hr : (c.body now db).run loaded with
    | error e s =>
      simp [handle, hl, hr, bind, Except.bind, throw, throwThe, MonadExceptOf.throw, Lib.World.step,
        Lib.World.start, handlerTxn, bodyTxn]
    | ok events a' =>
      have hsame := (body_ok.mp ⟨events, hr⟩).same
      have hget : db.assessments.get loaded.id = some loaded := by
        rw [Lib.Table.key_of_get hrow.1]; exact hrow.1
      have hok := handle_ok.mpr ⟨loaded, events, hrow.1, hrow.2, hr, rfl⟩
      simp [hok, Lib.World.step, Lib.World.start, handlerTxn, bodyTxn, saveTxn, hl, hr, hsame.id,
        hsame.version, hget, flush_loaded hsame hget]

end Alone

/-! ### Two handlers -/

section Duel

variable {c : Bool → Command} {target : Bool → Target} {db : Db} {a : Assessment}
  {ts : List (Bool × Timestamp)} {entity : Bool → Assessment} {w : Duel}

/-- The tables may change in any way. -/
abbrev AnyChange (_ _ : Db) : Prop := True

/-- What it saves has this identifier. -/
def Names (id : AssessmentId) (_ : Db) (_ : Option Db) (result : Except AssessmentError Assessment) :
    Prop :=
  ∃ a', result = .ok a' ∧ a'.id = id

/-- It replaces the row, one version above the one its entity was loaded at. -/
def Counts (id : AssessmentId) (db : Db) (new : Option Db)
    (result : Except AssessmentError Assessment) : Prop :=
  ∃ a', result = .ok a' ∧ ∀ b, db.assessments.get id = some b →
    ∃ db' b', new = some db' ∧ db'.assessments.get id = some b' ∧ b'.version = a'.version + 1

/-- It does to the row what the handler on its own does at some time. -/
def CommitsAlone (c : Command) (target : Target) (id : AssessmentId) (db : Db) (new : Option Db)
    (result : Except AssessmentError Assessment) : Prop :=
  ∃ a' now db' db'', result = .ok a' ∧ handle c target now db = .ok (db', a') ∧
    new = some db'' ∧ db''.assessments.get id = db'.assessments.get id

/-- A handler promises what its `save` promises. -/
theorem handlerTxn_keeps {G : Db → Prop}
    {T : Db → Option Db → Except AssessmentError Assessment → Prop} {c : Command} {target : Target}
    (h : ∀ db₁ loaded, G db₁ → loadOr404 db₁ target = .ok loaded → ∀ now db₂ events a', G db₂ →
      (c.body now db₂).run loaded = .ok events a' →
      (saveTxn target a' events).Keeps G AnyChange T db₂) (db : Db) :
    (handlerTxn c target).Keeps G AnyChange T db := by
  intro _ db₁ _ hdb₁
  dsimp only
  split
  · trivial
  · next loaded hload =>
    intro now db₂ _ hdb₂
    dsimp only
    split
    · trivial
    · next events a' hrun => exact h db₁ loaded hdb₁ hload now db₂ events a' hdb₂ hrun

theorem handlerTxn_names (c : Command) {target : Target} (hid : a.id = target.assessmentId.id)
    (db : Db) : (handlerTxn c target).Keeps (fun _ => True) AnyChange (Names a.id) db := by
  refine handlerTxn_keeps (fun db₁ loaded _ hload now db₂ events a' _ hrun => ?_) db
  have hsame : a'.id = a.id :=
    (body_ok.mp ⟨events, hrun⟩).same.id.trans
      ((Lib.Table.key_of_get (loadOr404_ok.mp hload).1).trans hid.symm)
  intro now db₃ _ _
  dsimp only
  split
  · exact fun _ _ _ => ⟨a', rfl, hsame⟩
  · split
    · trivial
    · exact fun _ _ _ => ⟨a', rfl, hsame⟩

theorem handlerTxn_counts (c : Command) {target : Target} (hid : a.id = target.assessmentId.id)
    (db : Db) : (handlerTxn c target).Keeps (fun db => (db.assessments.get a.id).isSome) AnyChange
      (Counts a.id) db := by
  refine handlerTxn_keeps (fun db₁ loaded _ hload now db₂ events a' _ hrun => ?_) db
  have hsame : a'.id = a.id :=
    (body_ok.mp ⟨events, hrun⟩).same.id.trans
      ((Lib.Table.key_of_get (loadOr404_ok.mp hload).1).trans hid.symm)
  intro now db₃ _ hdb₃
  dsimp only
  rw [hsame]
  split
  · next hnone =>
    rw [hnone] at hdb₃
    cases hdb₃
  · next model hmodel =>
    split
    · trivial
    · next hversion =>
      intro db _ _
      refine ⟨a', rfl, fun b hb => ?_⟩
      have hkey : b.id = a.id := Lib.Table.key_of_get hb
      have hkey' : model.id = a.id := Lib.Table.key_of_get hmodel
      rw [Db.flush, hkey', hb]
      refine ⟨_, model.flush a' b, rfl, ?_, ?_⟩
      · rw [← hkey]
        exact Lib.Table.get_put_self _ (model.flush a' b)
      · simp [Assessment.flush, Lib.flushed, not_not.mp hversion]

theorem handlerTxn_alone_keeps (c : Command) {target : Target} (h : db.Row target a) (db' : Db) :
    (handlerTxn c target).Keeps (· = db) AnyChange (CommitsAlone c target a.id) db' := by
  refine handlerTxn_keeps (fun db₁ loaded hdb₁ hload now db₂ events a' hdb₂ hrun => ?_) db'
  subst hdb₁ hdb₂
  obtain ⟨hget, htenant⟩ := loadOr404_ok.mp hload
  obtain rfl : loaded = a := Option.some.inj (hget.symm.trans h.1)
  have hsame := (body_ok.mp ⟨events, hrun⟩).same
  have hid : loaded.id = target.assessmentId.id := Lib.Table.key_of_get hget
  rw [← hid] at hget
  intro now' db₃ _ hdb₃
  subst hdb₃
  dsimp only
  rw [hsame.id, hget]
  dsimp only
  rw [if_neg (not_not.mpr hsame.version.symm)]
  rintro db₄ _ rfl
  have hok := handle_ok.mpr ⟨loaded, events, h.1, htenant, hrun, rfl⟩
  refine ⟨a', now, _, _, rfl, hok, flush_loaded hsame hget, rfl⟩

/-- The row is there. Nothing has changed yet, and whoever commits first does it as if alone; or
    somebody has committed so, and the row is one version above what a committed handler had
    loaded. -/
structure DuelInv (c : Bool → Command) (target : Bool → Target) (db : Db) (a : Assessment)
    (w : Duel) : Prop where
  names : w.Guarded (fun _ => True) AnyChange fun _ => Names a.id
  counts : w.Guarded (fun db => (db.assessments.get a.id).isSome) AnyChange fun _ => Counts a.id
  phase :
    (w.Guarded (· = db) AnyChange (fun i => CommitsAlone (c i) (target i) a.id) ∧
      ∀ i, ¬ w.Committed i) ∨
    ∃ j a' now db', w.sessions j = .committed (.ok a') ∧
      handle (c j) (target j) now db = .ok (db', a') ∧
      ((∀ i, w.Committed i → i = j) → w.db.assessments.get a.id = db'.assessments.get a.id) ∧
      ∃ k a'' b, w.sessions k = .committed (.ok a'') ∧ w.db.assessments.get a.id = some b ∧
        b.version = a''.version + 1

theorem DuelInv.start (h : ∀ i, db.Row (target i) a) :
    DuelInv c target db a (Duel.start c target db) := by
  have hid : ∀ i, a.id = (target i).assessmentId.id := fun i => Lib.Table.key_of_get (h i).1
  refine ⟨.start trivial fun i => handlerTxn_names (c i) (hid i) db,
    .start ?_ fun i => handlerTxn_counts (c i) (hid i) db,
    Or.inl ⟨.start rfl fun i => handlerTxn_alone_keeps (c i) (h i) db, ?_⟩⟩
  · rw [hid true, (h true).1]
    rfl
  · rintro i ⟨r, hr⟩
    cases hr

theorem DuelInv.step (h : DuelInv c target db a w) (t : Bool × Timestamp) :
    DuelInv c target db a (w.step t) := by
  have hnames := h.names.step (fun _ _ => trivial) t trivial trivial
  rcases w.step_commit_or_quiet t with ⟨write, result, db₁, hi, hw, hstep⟩ | ⟨hdb, hcommitted⟩
  · -- the row goes one version above what this handler loaded
    obtain ⟨a', rfl, hcount⟩ := h.counts.commits (fun _ => trivial) hi
    obtain ⟨b, hb⟩ := Option.isSome_iff_exists.mp h.counts.db
    obtain ⟨_, b', hw', hb', hv⟩ := hcount b hb
    obtain rfl := Option.some.inj (hw.symm.trans hw')
    have hself : (w.step t).sessions t.1 = .committed (.ok a') := by rw [hstep]; exact w.set_self ..
    have hrow : (w.step t).db.assessments.get a.id = some b' := by rw [hstep]; exact hb'
    have hcounts := h.counts.step (fun _ _ => trivial) t (by rw [hrow]; rfl) trivial
    refine ⟨hnames, hcounts, Or.inr ?_⟩
    rcases h.phase with ⟨hg, -⟩ | ⟨j, a₁, now, db', hj, hhandle, -, -⟩
    · obtain ⟨a₁, now, db', db'', hr, hhandle, hw'', hsame⟩ := hg.commits (fun _ => trivial) hi
      cases hr
      obtain rfl := Option.some.inj (hw.symm.trans hw'')
      rw [hg.db] at hhandle
      refine ⟨t.1, a', now, db', hself, hhandle, fun _ => ?_, t.1, a', b', hself, hrow, hv⟩
      rw [hstep]
      exact hsame
    · have hne : j ≠ t.1 := by rintro rfl; rw [hi] at hj; cases hj
      refine ⟨j, a₁, now, db', ?_, hhandle, fun honly => ?_, t.1, a', b', hself, hrow, hv⟩
      · rw [hstep]
        exact (w.set_ne hne _).trans hj
      · exact absurd (honly t.1 ⟨_, hself⟩).symm hne
  · refine ⟨hnames, h.counts.step (fun _ _ => trivial) t (by rw [hdb]; exact h.counts.db) trivial, ?_⟩
    have hiff : ∀ i, Duel.Committed (w.step t) i ↔ w.Committed i := fun i => exists_congr (hcommitted i)
    rcases h.phase with ⟨hg, hno⟩ | ⟨j, a₁, now, db', hj, hhandle, honly, k, a₂, b, hk, hb, hv⟩
    · exact Or.inl ⟨hg.step (fun _ _ => trivial) t (by rw [hdb]; exact hg.db) trivial,
        fun i hi => hno i ((hiff i).mp hi)⟩
    · refine Or.inr ⟨j, a₁, now, db', (hcommitted _ _).mpr hj, hhandle, fun hall => ?_, k, a₂, b,
        (hcommitted _ _).mpr hk, by rw [hdb]; exact hb, hv⟩
      rw [hdb]
      exact honly fun i hi => hall i ((hiff i).mpr hi)

theorem DuelInv.run (h : ∀ i, db.Row (target i) a) (ts : List (Bool × Timestamp)) :
    DuelInv c target db a (Duel.run c target db ts) :=
  Lib.inv_foldl (P := DuelInv c target db a) (fun _ t hw => hw.step t) ts (.start h)

/-- What a handler is about to save is the assessment. -/
theorem DuelInv.saves_id (h : DuelInv c target db a w) {i : Bool} {t : Target} {e : Assessment}
    {events : List AssessmentEvent} (hi : w.sessions i = .running (saveTxn t e events)) :
    e.id = a.id := by
  -- whatever it reads it promises to save this one, and so it does over empty tables
  have hpromise := h.names.running i _ hi 0 Db.empty trivial trivial
  obtain ⟨a', hr, hid⟩ := hpromise Db.empty trivial trivial
  cases hr
  exact hid

theorem Duel.run_append (pre post : List (Bool × Timestamp)) :
    Duel.run c target db (pre ++ post) = post.foldl Lib.World.step (Duel.run c target db pre) := by
  rw [Duel.run, List.foldl_append]
  rfl

/-- A session that has reached its commit is committed when all is over. -/
theorem DuelInv.reached {i : Bool} {a' : Assessment} (h : DuelInv c target db a w)
    (hi : (w.sessions i).Reached (.ok a')) (ts : List (Bool × Timestamp)) :
    ((ts.foldl Lib.World.step w).sessions i).Reached (.ok a') := by
  have hstep : ∀ (w : Duel) t, DuelInv c target db a w ∧ (w.sessions i).Reached (.ok a') →
      DuelInv c target db a (w.step t) ∧ ((w.step t).sessions i).Reached (.ok a') := by
    rintro w t ⟨hinv, hr⟩
    refine ⟨hinv.step t, Lib.reached_step t hr fun write hi => ?_⟩
    obtain ⟨a₁, _, hcount⟩ := hinv.counts.commits (fun _ => trivial) hi
    obtain ⟨b, hb⟩ := Option.isSome_iff_exists.mp hinv.counts.db
    obtain ⟨_, _, hwrite, _⟩ := hcount b hb
    simp [hwrite]
  exact (Lib.inv_foldl hstep ts ⟨h, hi⟩).2

/-- The step in which `save` reads the row: over a row of another version the handler rolls back, over
    one of the entity's version it has reached its commit. -/
theorem save_step {i : Bool} {t : Target} {e b : Assessment} {events : List AssessmentEvent}
    (hi : w.sessions i = .running (saveTxn t e events)) (hb : w.db.assessments.get e.id = some b)
    (now : Timestamp) :
    (b.version ≠ e.version →
      ∃ r, (w.step (i, now)).sessions i = .running (.rollback r)) ∧
    (b.version = e.version → ((w.step (i, now)).sessions i).Reached (.ok e)) := by
  unfold Lib.World.step
  simp only [hi, saveTxn, hb, Lib.World.set_self]
  constructor
  · intro hne
    rw [if_pos hne]
    exact ⟨_, rfl⟩
  · intro heq
    rw [if_neg (not_not.mpr heq)]
    rfl

section Contention

variable (h : Contention c target db a ts entity)
include h

theorem Contention.inv (pre : List (Bool × Timestamp)) :
    DuelInv c target db a (Duel.run c target db pre) :=
  .run h.row pre

/-- Each handler has a step in which its `save` reads the row. -/
theorem Contention.savePoint (i : Bool) : ∃ pre now post events, ts = pre ++ (i, now) :: post ∧
    (Duel.run c target db pre).sessions i = .running (saveTxn (target i) (entity i) events) := by
  obtain ⟨pre, events, ⟨rest, rfl⟩, hi⟩ := h.saved i
  have hended := h.ended i
  rw [Duel.run_append] at hended
  obtain ⟨mid, now, post, rfl, hsame⟩ := Lib.World.exists_step_of_ended (by rw [hi]; exact id) hended
  refine ⟨pre ++ mid, now, post, events, by simp, ?_⟩
  rw [Duel.run_append, hsame, hi]

/-- Before anybody has committed, a `save` finds the version it expects. -/
theorem Contention.save_fresh {i : Bool} {pre post : List (Bool × Timestamp)} {now : Timestamp}
    {events : List AssessmentEvent} (hts : ts = pre ++ (i, now) :: post)
    (hi : (Duel.run c target db pre).sessions i =
      .running (saveTxn (target i) (entity i) events))
    (hno : ¬ (Duel.run c target db pre).Committed (!i)) :
    (Duel.run c target db ts).sessions i = .committed (.ok (entity i)) := by
  have hinv := h.inv pre
  have hid := hinv.saves_id hi
  have hnobody : ∀ j, ¬ (Duel.run c target db pre).Committed j := by
    rintro j ⟨r, hr⟩
    rcases Bool.eq_or_eq_not j i with rfl | rfl
    · rw [hi] at hr
      cases hr
    · exact hno ⟨r, hr⟩
  have hdb : (Duel.run c target db pre).db = db := by
    rcases hinv.phase with ⟨hg, -⟩ | ⟨j, a', -, -, hj, -⟩
    · exact hg.db
    · exact absurd ⟨_, hj⟩ (hnobody j)
  have hrow : (Duel.run c target db pre).db.assessments.get (entity i).id = some a := by
    rw [hdb, hid, Lib.Table.key_of_get (h.row i).1]
    exact (h.row i).1
  have hreached := (hinv.step (i, now)).reached
    ((save_step hi hrow now).2 (h.sameVersion i).symm) post
  have hended := h.ended i
  rw [hts, Duel.run_append, List.foldl_cons] at hended ⊢
  exact hreached.committed hended

/-- What has committed is what was saved. -/
theorem Contention.committed_eq {i : Bool} {pre : List (Bool × Timestamp)}
    {r : Except AssessmentError Assessment} (hpre : pre <+: ts)
    (hr : (Duel.run c target db pre).sessions i = .committed r) : r = .ok (entity i) := by
  obtain ⟨rest, hrest⟩ := hpre
  have hfinal : (Duel.run c target db ts).sessions i = .committed r := by
    rw [← hrest, Duel.run_append, Lib.World.foldl_of_ended (by rw [hr]; trivial), hr]
  obtain ⟨pre', now, post, events, hts, hi⟩ := h.savePoint i
  have hinv := h.inv pre'
  obtain ⟨b, hb⟩ := Option.isSome_iff_exists.mp hinv.counts.db
  rw [← hinv.saves_id hi] at hb
  obtain ⟨hstale, hfresh⟩ := save_step hi hb now
  rw [hts, Duel.run_append, List.foldl_cons] at hfinal
  by_cases hversion : b.version = (entity i).version
  · have hreached := (hinv.step (i, now)).reached (hfresh hversion) post
    rw [hfinal] at hreached
    exact hreached
  · obtain ⟨r', hr'⟩ := hstale hversion
    exact absurd hfinal (Lib.never_commits hr' post r)

/-- After the other has committed, a `save` finds another version. -/
theorem Contention.save_stale {i : Bool} {pre post : List (Bool × Timestamp)} {now : Timestamp}
    {events : List AssessmentEvent} (hts : ts = pre ++ (i, now) :: post)
    (hi : (Duel.run c target db pre).sessions i =
      .running (saveTxn (target i) (entity i) events))
    (hother : (Duel.run c target db pre).Committed (!i)) : ¬ (Duel.run c target db ts).Committed i := by
  have hinv := h.inv pre
  have hprefix : pre <+: ts := ⟨_, hts.symm⟩
  obtain ⟨k, a', b, hk, hb, hv⟩ : ∃ k a' b,
      (Duel.run c target db pre).sessions k = .committed (.ok a') ∧
      (Duel.run c target db pre).db.assessments.get a.id = some b ∧ b.version = a'.version + 1 := by
    rcases hinv.phase with ⟨-, hno⟩ | ⟨-, -, -, -, -, -, -, hcounted⟩
    · exact absurd hother (hno _)
    · exact hcounted
  have hversion : b.version ≠ (entity i).version := by
    have hsame := Except.ok.inj (h.committed_eq hprefix hk)
    rw [hv, hsame, h.sameVersion, h.sameVersion]
    omega
  rw [← hinv.saves_id hi] at hb
  obtain ⟨r', hr'⟩ := (save_step hi hb now).1 hversion
  rintro ⟨r, hr⟩
  rw [hts, Duel.run_append, List.foldl_cons] at hr
  exact Lib.never_commits hr' post r hr

end Contention

/-- Two handlers that come to save one version of an assessment: at most one commits, and the row is
    the result of a serial order, iff one of them reads the row for its `save` when the other has
    committed. -/
theorem lostUpdate_iff (h : Contention c target db a ts entity) :
    (Duel.run c target db ts).AtMostOneCommits ∧
        (Duel.run c target db ts).Serializes c target db a.id ↔
      SavesAfterCommit c target db ts entity := by
  constructor
  · -- when both have read in time, both commit
    rintro ⟨hone, -⟩
    by_contra hlate
    have hall : ∀ i, (Duel.run c target db ts).Committed i := by
      intro i
      obtain ⟨pre, now, post, events, hts, hi⟩ := h.savePoint i
      refine ⟨_, h.save_fresh hts hi fun hother => hlate ⟨i, pre, now, events, ⟨post, ?_⟩, hi, hother⟩⟩
      rw [hts, List.append_assoc, List.singleton_append]
    exact Bool.false_ne_true (hone false true (hall false) (hall true))
  · rintro ⟨i, pre, now, events, ⟨post, hts⟩, hi, hother⟩
    rw [List.append_assoc, List.singleton_append] at hts
    have hrefused := h.save_stale hts.symm hi hother
    have honly : ∀ j, (Duel.run c target db ts).Committed j → j = !i := by
      intro j hj
      rcases Bool.eq_or_eq_not j i with rfl | rfl
      · exact absurd hj hrefused
      · rfl
    refine ⟨fun j k hj hk => (honly j hj).trans (honly k hk).symm, ?_⟩
    have hcommitted : (Duel.run c target db ts).Committed (!i) := by
      obtain ⟨r, hr⟩ := hother
      refine ⟨r, ?_⟩
      rw [← hts, Duel.run_append, Lib.World.foldl_of_ended (by rw [hr]; trivial), hr]
    rcases (h.inv ts).phase with ⟨-, hno⟩ | ⟨j, a', now', db', hj, hhandle, hrow, -⟩
    · exact absurd hcommitted (hno _)
    · obtain rfl := honly j ⟨_, hj⟩
      refine ⟨[(!i, now')], by simp, fun k => ⟨fun hk => ?_, fun hk => ?_⟩, db', ?_, (hrow honly).symm⟩
      · rw [List.mem_singleton.mp hk]
        exact hcommitted
      · rw [honly k hk]
        exact List.mem_singleton.mpr rfl
      · simp [serially, hhandle, bind, Except.bind]

/-- Two stages are started at once. -/
def startBoth (i : Bool) : Command := .executeStage (stageOf i) "user"

/-- Both load; one saves and commits, and then the other saves. -/
def oneAfterTheOther : List (Bool × Timestamp) :=
  [(false, 0), (true, 0), (false, 1), (true, 1), (false, 2), (false, 3), (true, 4), (true, 5)]

/-- Both load, both save, both commit. -/
def sideBySide : List (Bool × Timestamp) :=
  [(false, 0), (true, 0), (false, 1), (true, 1), (false, 2), (true, 2), (false, 3), (true, 3)]

/-- The entity each handler saves. -/
def startedBy (i : Bool) : Assessment :=
  twoStagesAssessment.withStage ((twoStagesAssessment.workflowProgress.get (stageOf i)).started 1) 1

/-- Both come to save what they have loaded. -/
theorem startBoth_contention (rest : List (Bool × Timestamp)) (hended : ∀ i, ((Duel.run startBoth
    (fun _ => sampleTarget) twoStagesDb (sideBySide.take 4 ++ rest)).sessions i).Ended) :
    Contention startBoth (fun _ => sampleTarget) twoStagesDb twoStagesAssessment
      (sideBySide.take 4 ++ rest) startedBy where
  row _ := ⟨rfl, rfl⟩
  saved i := by
    refine ⟨sideBySide.take 4, ?_⟩
    cases i <;> exact ⟨_, List.prefix_append .., rfl⟩
  sameVersion _ := rfl
  ended := hended

/-- One of the two starts is refused, and the other one is there. -/
theorem lostUpdate_iff_starts :
    (Duel.run startBoth (fun _ => sampleTarget) twoStagesDb oneAfterTheOther).AtMostOneCommits ∧
        (Duel.run startBoth (fun _ => sampleTarget) twoStagesDb oneAfterTheOther).Serializes startBoth
          (fun _ => sampleTarget) twoStagesDb twoStagesAssessment.id ↔
      SavesAfterCommit startBoth (fun _ => sampleTarget) twoStagesDb oneAfterTheOther startedBy :=
  lostUpdate_iff (startBoth_contention [(false, 2), (false, 3), (true, 4), (true, 5)]
    (by rintro (_ | _) <;> trivial))

/-- Two users start two stages at once; both handlers commit. -/
theorem start_lost : ¬ ∀ (c : Bool → Command) (target : Bool → Target) (db : Db) (a : Assessment)
    (ts : List (Bool × Timestamp)) (entity : Bool → Assessment),
    Contention c target db a ts entity →
    (Duel.run c target db ts).AtMostOneCommits ∧
      (Duel.run c target db ts).Serializes c target db a.id := by
  intro h
  obtain ⟨hone, _⟩ := h _ _ _ _ _ _
    (startBoth_contention (sideBySide.drop 4) (by rintro (_ | _) <;> trivial))
  exact Bool.false_ne_true (hone false true ⟨_, rfl⟩ ⟨_, rfl⟩)

end Duel

end GeoRisk.Orchestration
