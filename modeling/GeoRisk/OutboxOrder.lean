import Mathlib
import GeoRisk.Identity.LoginHandler

/-! Is the order of an aggregate's events total? The sequence numbers are 1, …, n as long as every
    commit finds the events of the aggregate as they were when its handler appended the first of its
    own; otherwise two events get one number:

        append (max + 1 = 1) ──────────────────────────────▶ commit  1
                    append (max + 1 = 1) ──▶ commit  1 -/

namespace GeoRisk

section Order

variable {ι D Event A : Type} [DecidableEq ι] [HasOutbox D Event]

abbrev HandlerTrace (ι D A : Type) := Lib.Traced ι D Timestamp A

/-- Every handler is about to begin. -/
def handlersStart (handlers : ι → Handler D Event A) (db : D) : HandlerTrace ι D A :=
  .start (fun i => (handlers i).txn []) db

/-- The sequence numbers of the aggregate are 1, …, n, each once. -/
def TotallyOrdered (aggregateType aggregateId : String) (s : HandlerTrace ι D A) : Prop :=
  Lib.Dense (numbersIn aggregateType aggregateId s.world.db)

/-- If the step commits events of the aggregate, no other has been committed since the handler
    appended the first of them. -/
def AppendsUndisturbed (handlers : ι → Handler D Event A) (aggregateType aggregateId : String) :
    HandlerTrace ι D A → ι × Timestamp → Prop :=
  Lib.Undisturbed (numbersIn aggregateType aggregateId)
    fun i => (handlers i).firstAppend aggregateType aggregateId

/-- Over any interleaving of any handlers, an aggregate's events are totally ordered throughout iff
    every commit is undisturbed. -/
theorem totallyOrdered_iff_undisturbed (handlers : ι → Handler D Event A)
    (aggregateType aggregateId : String) {db : D}
    (hdb : Lib.Dense (numbersIn aggregateType aggregateId db)) (schedule : List (ι × Timestamp)) :
    Lib.AllStates Lib.Traced.step (TotallyOrdered aggregateType aggregateId)
        (handlersStart handlers db) schedule ↔
      Lib.AllSteps Lib.Traced.step (AppendsUndisturbed handlers aggregateType aggregateId)
        (handlersStart handlers db) schedule :=
  Lib.dense_iff_undisturbed hdb (fun i => (handlers i).ends) schedule

end Order

/-! ### Two failed logins -/

open Identity

/-- An address nobody has registered, twice. -/
def strangerLogins : Bool → IdentityHandler := fun _ =>
  loginHandler plainPorts "nobody@example.org" "secret" ⟨⟨10⟩, "first", "a"⟩

/-- Both draw their number before either commits. -/
def loginsTogether : List (Bool × Timestamp) :=
  [(false, 0), (true, 0), (false, 1), (true, 1), (false, 2), (true, 2)]

theorem totallyOrdered_iff_undisturbed_logins :
    Lib.AllStates Lib.Traced.step (TotallyOrdered "LoginAttempt" "nobody@example.org")
        (handlersStart strangerLogins aliceDb) loginsTogether ↔
      Lib.AllSteps Lib.Traced.step
        (AppendsUndisturbed strangerLogins "LoginAttempt" "nobody@example.org")
        (handlersStart strangerLogins aliceDb) loginsTogether :=
  totallyOrdered_iff_undisturbed strangerLogins "LoginAttempt" "nobody@example.org"
    (by decide) loginsTogether

/-- Both events have the sequence number 1. -/
theorem one_number_twice : ¬ ∀ (handlers : Bool → IdentityHandler) (db : Db)
    (aggregateType aggregateId : String) (schedule : List (Bool × Timestamp)), db.outbox = [] →
    Lib.AllStates Lib.Traced.step (TotallyOrdered aggregateType aggregateId)
      (handlersStart handlers db) schedule := by
  intro h
  have hlast := (h strangerLogins aliceDb "LoginAttempt" "nobody@example.org" loginsTogether rfl).last
  have hnumbers : numbersIn "LoginAttempt" "nobody@example.org"
      (loginsTogether.foldl Lib.Traced.step (handlersStart strangerLogins aliceDb)).world.db =
        [1, 1] := by
    decide +kernel
  rw [TotallyOrdered, hnumbers] at hlast
  exact absurd hlast (by decide)

end GeoRisk
