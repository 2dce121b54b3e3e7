/-!
When steps that may fail succeed.
-/

namespace SqlForge

variable {ε α β : Type}

theorem bind_eq_ok {x : Except ε α} {f : α → Except ε β} {b : β}
    : x >>= f = .ok b ↔ ∃ a, x = .ok a ∧ f a = .ok b := by
  cases x with
  | error e => simp [bind, Except.bind]
  | ok a => simp [bind, Except.bind]

theorem map_eq_ok {x : Except ε α} {f : α → β} {b : β}
    : f <$> x = .ok b ↔ ∃ a, x = .ok a ∧ f a = b := by
  cases x with
  | error e => simp [Functor.map, Except.map]
  | ok a => simp [Functor.map, Except.map]

theorem pure_eq_ok {a b : α} : (pure a : Except ε α) = .ok b ↔ a = b := by
  simp [pure, Except.pure]

theorem ok_bind {a : α} {f : α → Except ε β} : (.ok a : Except ε α) >>= f = f a := rfl

theorem error_bind {e : ε} {f : α → Except ε β} : (.error e : Except ε α) >>= f = .error e := rfl

theorem bind_pure_eq_error {x : Except ε α} {f : α → β} {e : ε}
    : (x >>= fun a => pure (f a)) = .error e ↔ x = .error e := by
  cases x with
  | error found => rw [error_bind, Except.error.injEq, Except.error.injEq]
  | ok a => simp [ok_bind, pure, Except.pure]

/-- The first element at fault stops the pass over a list. -/
theorem mapM_eq_error_iff {f : α → Except ε β} {fault : α → Option ε}
    (h : ∀ a e, f a = .error e ↔ fault a = some e) (xs : List α) (e : ε)
    : xs.mapM f = .error e ↔ xs.findSome? fault = some e := by
  induction xs with
  | nil => exact iff_of_false nofun nofun
  | cons x xs ih =>
    rw [List.mapM_cons, List.findSome?_cons]
    cases hx : f x with
    | error found =>
      rw [(h x found).mp hx, error_bind, Except.error.injEq, Option.some.injEq]
    | ok y =>
      have hnone : fault x = none := by
        apply Option.eq_none_iff_forall_ne_some.mpr
        intro found hfound
        have herror := (h x found).mpr hfound
        rw [hx] at herror
        cases herror
      rw [hnone, ok_bind, bind_pure_eq_error]
      exact ih

end SqlForge
