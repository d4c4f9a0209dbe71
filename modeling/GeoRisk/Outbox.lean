import Mathlib
import GeoRisk.SharedKernel
import GeoRisk.Lib.Numbering

/-! Command handlers that append events, as transactions at READ COMMITTED. `append_event` draws the
    next sequence number of the aggregate when it is called, over the events that are committed by
    then and those the handler has appended itself; they are stored when it commits. The index on
    the sequence number is not unique, so nothing is checked there:

        query ─▶ append_event ─▶ append_event ─▶ commit: the other writes, and the events

    `Handler` is any such program: the handlers of all contexts are among them. Row locks, which a
    handler may hold from a flush on, only leave out some of the interleavings. -/

namespace GeoRisk

/-- The sequence numbers of the events of one aggregate. -/
def sequenceNumbers {Event : Type} (outbox : List (OutboxEvent Event))
    (aggregateType aggregateId : String) : List ℕ :=
  (outbox.filter fun e => e.aggregateType = aggregateType ∧ e.aggregateId = aggregateId).map
    (·.sequenceNumber)

/-- Tables one of which is the outbox. -/
class HasOutbox (D : Type) (Event : outParam Type) where
  outbox : D → List (OutboxEvent Event)
  setOutbox : List (OutboxEvent Event) → D → D
  outbox_setOutbox : ∀ events db, outbox (setOutbox events db) = events

/-- What is left of a command handler. -/
inductive Handler (D Event A : Type) where
  | query (next : Timestamp → D → Handler D Event A)
  | appendEvent (aggregateType aggregateId : String) (payload : Event) (tenantId : Option TenantId)
      (next : Handler D Event A)
  | commit (write : D → Option D) (result : A)
  | rollback (result : A)

namespace Handler

variable {D Event A : Type} [HasOutbox D Event]

open HasOutbox

/-- The handler as a transaction, with the events it has appended so far. -/
def txn (pending : List (OutboxEvent Event)) : Handler D Event A → Lib.Txn D Timestamp A
  | query next => .query fun now db => (next now db).txn pending
  | appendEvent aggregateType aggregateId payload tenantId next => .query fun now db =>
    next.txn (pending ++ [{
      aggregateType, aggregateId, payload, tenantId, occurredAt := now
      sequenceNumber := nextSeq (outbox db ++ pending) aggregateType aggregateId }])
  | commit write result =>
    .commit (fun db => (write db).map (setOutbox (outbox db ++ pending))) result
  | rollback result => .rollback result

/-- The tables as the handler found them when it first appended an event of the aggregate, if its
    reads have come that far. -/
def firstAppend (aggregateType aggregateId : String) :
    Handler D Event A → List (Timestamp × D) → Option D
  | query next, (now, db) :: reads => (next now db).firstAppend aggregateType aggregateId reads
  | appendEvent type id _ _ next, (_, db) :: reads =>
    if type = aggregateType ∧ id = aggregateId then some db
    else next.firstAppend aggregateType aggregateId reads
  | _, _ => none

end Handler

/-! ### What a handler appends -/

section Ends

variable {D Event A : Type} [HasOutbox D Event] {aggregateType aggregateId : String}

open HasOutbox

theorem sequenceNumbers_append (events events' : List (OutboxEvent Event)) :
    sequenceNumbers (events ++ events') aggregateType aggregateId =
      sequenceNumbers events aggregateType aggregateId ++
        sequenceNumbers events' aggregateType aggregateId := by
  simp [sequenceNumbers]

/-- The number drawn is the next one over all events so far. -/
theorem nextSeq_append (events events' : List (OutboxEvent Event)) :
    nextSeq (events ++ events') aggregateType aggregateId =
      Lib.nextNumber (sequenceNumbers events aggregateType aggregateId ++
        sequenceNumbers events' aggregateType aggregateId) := by
  rw [← sequenceNumbers_append]
  rfl

/-- The sequence numbers of the aggregate, in the tables. -/
def numbersIn (aggregateType aggregateId : String) (db : D) : List ℕ :=
  sequenceNumbers (outbox db) aggregateType aggregateId

/-- What has been read stays read. -/
theorem mem_reads_concat {reads : List (Timestamp × D)} {d : D} (h : d ∈ reads.map Prod.snd)
    (r : Timestamp × D) : d ∈ (reads ++ [r]).map Prod.snd := by
  rw [List.map_append]
  exact List.mem_append_left _ h

/-- A handler that has come from `handler` to `rest` adds at its commit what it has drawn: the
    induction is on `rest`, over what has been read and appended on the way. -/
theorem Handler.ends_of_pending {handler rest : Handler D Event A}
    {pending : List (OutboxEvent Event)} {reads : List (Timestamp × D)} (seen : List D)
    (hseen : ∀ d ∈ seen, d ∈ reads.map Prod.snd)
    (hpending : sequenceNumbers pending aggregateType aggregateId =
      Lib.drawn [] (seen.map (numbersIn aggregateType aggregateId)))
    (hfirst : ∀ reads', handler.firstAppend aggregateType aggregateId (reads ++ reads') =
      seen.head?.or (rest.firstAppend aggregateType aggregateId reads')) :
    (rest.txn pending).Ends
      (fun reads write _ => Lib.AddsDrawn (numbersIn aggregateType aggregateId)
        (handler.firstAppend aggregateType aggregateId reads) reads write)
      (fun _ => True) reads := by
  induction rest generalizing pending reads seen with
  | query next ih =>
    intro now db
    refine ih now db seen (fun d hd => mem_reads_concat (hseen d hd) _) hpending fun reads' => ?_
    rw [List.append_assoc, hfirst]
    rfl
  | appendEvent type id payload tenantId next ih =>
    intro now db
    by_cases hsame : type = aggregateType ∧ id = aggregateId
    · obtain ⟨rfl, rfl⟩ := hsame
      refine ih (seen ++ [db]) (fun d hd => ?_) ?_ fun reads' => ?_
      · rcases List.mem_append.mp hd with hd | hd
        · exact mem_reads_concat (hseen d hd) _
        · rw [List.map_append]
          exact List.mem_append_right _ hd
      · rw [sequenceNumbers_append, List.map_append, List.map_singleton, Lib.drawn_concat, ← hpending,
          nextSeq_append]
        simp [sequenceNumbers, numbersIn]
      · rw [List.append_assoc, hfirst]
        cases seen <;> simp [firstAppend]
    · refine ih seen (fun d hd => mem_reads_concat (hseen d hd) _) ?_ fun reads' => ?_
      · rw [sequenceNumbers_append, ← hpending]
        simp [sequenceNumbers, hsame]
      · rw [List.append_assoc, hfirst]
        simp [firstAppend, hsame]
  | commit write result =>
    refine ⟨seen, hseen, ?_, fun d d' hwrite => ?_⟩
    · have hlast := hfirst []
      rw [List.append_nil] at hlast
      rw [hlast]
      simp [firstAppend]
    · obtain ⟨d₁, -, rfl⟩ := Option.map_eq_some_iff.mp hwrite
      rw [numbersIn, outbox_setOutbox, sequenceNumbers_append, hpending]
      rfl
  | rollback => trivial

theorem Handler.ends (handler : Handler D Event A) :
    (handler.txn []).Ends
      (fun reads write _ => Lib.AddsDrawn (numbersIn aggregateType aggregateId)
        (handler.firstAppend aggregateType aggregateId reads) reads write)
      (fun _ => True) [] :=
  handler.ends_of_pending [] (by simp) rfl fun _ => rfl

end Ends

end GeoRisk
