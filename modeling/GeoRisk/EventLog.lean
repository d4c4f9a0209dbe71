import GeoRisk.Outbox

/-! The events of one aggregate, read from the outbox in the order of their sequence numbers. While one
    handler runs at a time, that is the order they were appended in:

        append_event:  max + 1   ▶   the new event is the last of its aggregate,
                                     and nowhere among the events of another -/

namespace GeoRisk

variable {Event : Type}

/-- The events of an aggregate, by sequence number. -/
def eventsOf (outbox : List (OutboxEvent Event)) (aggregateType aggregateId : String) :
    List Event :=
  ((outbox.filter fun e => e.aggregateType = aggregateType ∧ e.aggregateId = aggregateId).mergeSort
    fun e e' => e.sequenceNumber ≤ e'.sequenceNumber).map (·.payload)

/-- Every aggregate has its events in the order of their numbers. -/
def InOrder (outbox : List (OutboxEvent Event)) : Prop :=
  ∀ aggregateType aggregateId, (sequenceNumbers outbox aggregateType aggregateId).Pairwise (· < ·)

section

variable {outbox : List (OutboxEvent Event)} {aggregateType aggregateId type id : String}

theorem inOrder_nil : InOrder ([] : List (OutboxEvent Event)) := fun _ _ => List.Pairwise.nil

/-- Read in order, the events are as they were appended. -/
theorem InOrder.eventsOf_eq (h : InOrder outbox) (aggregateType aggregateId : String) :
    eventsOf outbox aggregateType aggregateId =
      (outbox.filter fun e => e.aggregateType = aggregateType ∧ e.aggregateId = aggregateId).map
        (·.payload) := by
  have hsorted := List.pairwise_map.mp (h aggregateType aggregateId)
  rw [eventsOf, List.mergeSort_of_pairwise]
  exact hsorted.imp fun hlt => decide_eq_true hlt.le

theorem lt_nextSeq {n : ℕ} (h : n ∈ sequenceNumbers outbox aggregateType aggregateId) :
    n < nextSeq outbox aggregateType aggregateId :=
  Nat.lt_succ_of_le ((Lib.foldl_max_le_iff.mp le_rfl).2 n h)

theorem InOrder.appendEvent (h : InOrder outbox) (type id : String) (payload : Event)
    (tenantId : Option TenantId) (now : Timestamp) :
    InOrder (appendEvent outbox type id payload tenantId now) := by
  intro aggregateType aggregateId
  rw [GeoRisk.appendEvent, sequenceNumbers_append]
  refine List.pairwise_append.mpr ⟨h aggregateType aggregateId, ?_, ?_⟩
  · by_cases hkey : type = aggregateType ∧ id = aggregateId <;> simp [sequenceNumbers, hkey]
  · intro n hn m hm
    -- the one new number is drawn past those of its own aggregate
    obtain ⟨e, he, rfl⟩ := List.mem_map.mp hm
    obtain ⟨hmem, hkey⟩ := List.mem_filter.mp he
    obtain rfl := List.mem_singleton.mp hmem
    obtain ⟨rfl, rfl⟩ := of_decide_eq_true hkey
    exact lt_nextSeq hn

theorem eventsOf_appendEvent_self (h : InOrder outbox) (payload : Event)
    (tenantId : Option TenantId) (now : Timestamp) :
    eventsOf (appendEvent outbox type id payload tenantId now) type id =
      eventsOf outbox type id ++ [payload] := by
  rw [(h.appendEvent type id payload tenantId now).eventsOf_eq, h.eventsOf_eq, appendEvent]
  simp

theorem eventsOf_appendEvent_of_ne (payload : Event) (tenantId : Option TenantId) (now : Timestamp)
    (hne : ¬ (type = aggregateType ∧ id = aggregateId)) :
    eventsOf (appendEvent outbox type id payload tenantId now) aggregateType aggregateId =
      eventsOf outbox aggregateType aggregateId := by
  simp only [eventsOf, appendEvent, List.filter_append]
  rw [List.filter_cons_of_neg (by simpa using hne), List.filter_nil, List.append_nil]

/-- Events appended one after the other. -/
def appendAll (outbox : List (OutboxEvent Event)) (type id : String) (tenantId : Option TenantId)
    (now : Timestamp) (events : List Event) : List (OutboxEvent Event) :=
  events.foldl (fun outbox event => appendEvent outbox type id event tenantId now) outbox

theorem InOrder.appendAll (h : InOrder outbox) (type id : String) (tenantId : Option TenantId) (now : Timestamp)
    (events : List Event) : InOrder (appendAll outbox type id tenantId now events) := by
  induction events generalizing outbox with
  | nil => exact h
  | cons event events ih => exact ih (h.appendEvent type id event tenantId now)

theorem eventsOf_appendAll_self (h : InOrder outbox) (tenantId : Option TenantId)
    (now : Timestamp) (events : List Event) :
    eventsOf (appendAll outbox type id tenantId now events) type id =
      eventsOf outbox type id ++ events := by
  induction events generalizing outbox with
  | nil => exact (List.append_nil _).symm
  | cons event events ih =>
    have hrest := ih (h.appendEvent type id event tenantId now)
    rw [eventsOf_appendEvent_self h, List.append_assoc, List.singleton_append] at hrest
    exact hrest

theorem eventsOf_appendAll_of_ne (tenantId : Option TenantId) (now : Timestamp)
    (events : List Event) (hne : ¬ (type = aggregateType ∧ id = aggregateId)) :
    eventsOf (appendAll outbox type id tenantId now events) aggregateType aggregateId =
      eventsOf outbox aggregateType aggregateId := by
  induction events generalizing outbox with
  | nil => rfl
  | cons event events ih =>
    have hrest := @ih (GeoRisk.appendEvent outbox type id event tenantId now)
    rw [eventsOf_appendEvent_of_ne _ _ _ hne] at hrest
    exact hrest

end

end GeoRisk
