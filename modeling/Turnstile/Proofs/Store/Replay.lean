import Turnstile.Store.Statement

/-!
# Replaying statements

Statements that are applied one after another take a table from one content to another; the replay
fails where one of them is refused.  Replaying a list is replaying its parts in order, so the content
after many transactions is built up transaction by transaction.
-/

namespace Turnstile.Store

/-- The rows after statements one after another, nothing if one of them is refused. -/
def replay : List Statement → List Row → Option (List Row)
  | [], rows => some rows
  | stmt :: rest, rows =>
    match stmt.apply rows with
    | .ok (after, _) => replay rest after
    | .error _ => none

@[simp]
theorem replay_nil (rows : List Row) : replay [] rows = some rows := rfl

theorem replay_append (first second : List Statement) (rows : List Row) :
    replay (first ++ second) rows = (replay first rows).bind (replay second) := by
  induction first generalizing rows with
  | nil => rfl
  | cons stmt rest ih =>
    simp only [List.cons_append, replay]
    cases stmt.apply rows with
    | error f => rfl
    | ok result => exact ih result.1

theorem replay_concat {done : List Statement} {base rows after : List Row} {stmt : Statement}
    {affected : Nat} (hdone : replay done base = some rows)
    (happly : stmt.apply rows = .ok (after, affected)) :
    replay (done ++ [stmt]) base = some after := by
  rw [replay_append, hdone]
  simp [replay, happly]

/-- What a longer replay reaches, it reaches through the rows of the shorter one. -/
theorem replay_append_eq_some {first second : List Statement} {base rows after : List Row}
    (hfirst : replay first base = some rows) :
    replay (first ++ second) base = some after ↔ replay second rows = some after := by
  rw [replay_append, hfirst, Option.bind_some]

end Turnstile.Store
