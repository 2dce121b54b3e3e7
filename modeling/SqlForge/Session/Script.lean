import SqlForge.Session.Basic

/-!
A driver that answers from a script: it hands out prepared rows, and fails from some point on if it
is told to.
-/

namespace SqlForge

structure Script where
  /-- The answers to queries, in order; when they are used up there are no rows. -/
  rows : List (List Row)
  affected : Nat
  key : Int64
  /-- How many statements are answered before all others fail, and how they fail. -/
  failure : Option (Nat × String)
  /-- How many statements there have been. -/
  answered : Nat := 0

namespace Script

/-- Answers a statement, or fails without using up anything of the script. -/
def reply {α : Type} (answer : Script → α × Script) : StateM Script (Reply α) := fun script =>
  let counted := { script with answered := script.answered + 1 }
  let failing := script.failure.filter fun (after, _) => after ≤ script.answered
  match failing with
  | some (_, text) => (⟨.error (.driver text), 1⟩, counted)
  | none =>
    let (a, script) := answer counted
    (⟨.ok a, 1⟩, script)

def driver : Driver Script where
  select _ := reply fun script => (script.rows.headD [], { script with rows := script.rows.tail })
  execute _ := reply fun script => (true, script)
  affect _ := reply fun script => (script.affected, script)
  lastKey := fun script => (⟨.ok script.key, 1⟩, script)

end Script

end SqlForge
