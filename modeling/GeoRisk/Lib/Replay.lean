import Mathlib.Data.List.Basic

/-! What a log says of the thing it is about. The first event tells how it began, and every later one
    what has become of it:

        e₁ ──start──▶ v₁ ──apply e₂──▶ v₂ ──apply e₃──▶ v₃

    A log is right about a state when replaying it gives what the state looks like; it stays right
    when every step of the state writes events that carry its look to the next. -/

namespace Lib

variable {Event View State : Type} {start : Event → Option View} {apply : View → Event → View}

/-- The last view of a log. -/
def replay (start : Event → Option View) (apply : View → Event → View) : List Event → Option View
  | [] => none
  | e :: es => (start e).map (es.foldl apply ·)

theorem replay_append {es : List Event} {v : View} (h : replay start apply es = some v)
    (es' : List Event) : replay start apply (es ++ es') = some (es'.foldl apply v) := by
  cases es with
  | nil => cases h
  | cons e es =>
    obtain ⟨u, hu, rfl⟩ := Option.map_eq_some_iff.mp h
    rw [List.cons_append, replay, hu, Option.map_some, List.foldl_append]

/-- Step lemma: a log that is right about a state is right about the next one, if the step writes what
    carries the look of the one to that of the other. -/
theorem replay_step {look : State → View} {s s' : State} {es es' : List Event}
    (h : replay start apply es = some (look s)) (hstep : es'.foldl apply (look s) = look s') :
    replay start apply (es ++ es') = some (look s') := by
  rw [replay_append h, hstep]

end Lib
