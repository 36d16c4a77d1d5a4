import ScriptSandbox.Guest.Engine

/-!
# Rules for sessions

How the parts of a session follow on each other, and with what a session can stop.
-/
namespace ScriptSandbox.Guest.Session

variable {σ : Type}

/-- A session goes on where its first part left the machine. -/
theorem run_bind {α β : Type} (session : Session α) (next : α → Session β) (machine : Machine) :
    (session >>= next).run machine =
      match session.run machine with
      | (.ok value, after) => (next value).run after
      | (.error stop, after) => (.error stop, after) := by
  change (ExceptT.bindCont next (session.run machine).1) (session.run machine).2 = _
  rcases session.run machine with ⟨_ | _, _⟩ <;> rfl

@[simp] theorem fail_bind {α β : Type} (fault : Fault) (next : α → Session β) :
    fail fault >>= next = fail fault := rfl

@[simp] theorem map_fail {α β : Type} (next : α → β) (fault : Fault) :
    next <$> (fail fault : Session α) = fail fault := rfl

theorem get_run (machine : Machine) :
    (get : Session Machine).run machine = (.ok machine, machine) := rfl

theorem call_run (around : Surroundings) (trapped : Fault) (activity : Activity σ)
    (machine : Machine) :
    (call around trapped activity).run machine =
      match machine.run around activity with
      | (.finished globals result, after) => (.ok (globals, result), after)
      | (.trapped, after) => (.error (.failed trapped), after)
      | (.panicked, after) => (.error .panicked, after)
      | (.waiting, after) => (.error .waiting, after) := rfl

/-- Where a session stops, its stop is of a kind. -/
def StopsAs {α : Type} (session : Session α) (kind : Stop → Prop) : Prop :=
  ∀ machine stop after, session.run machine = (.error stop, after) → kind stop

section StopsAs

variable {α β : Type} {kind : Stop → Prop}

theorem StopsAs.mono {session : Session α} {wider : Stop → Prop} (stops : session.StopsAs kind)
    (so : ∀ stop, kind stop → wider stop) : session.StopsAs wider :=
  fun machine stop after ended => so stop (stops machine stop after ended)

theorem StopsAs.bind {session : Session α} {next : α → Session β} (first : session.StopsAs kind)
    (further : ∀ value, (next value).StopsAs kind) : (session >>= next).StopsAs kind := by
  intro machine stop after ended
  rw [run_bind] at ended
  split at ended
  next value middle _ => exact further value middle stop after ended
  next failed =>
    cases ended
    exact first machine stop after failed

theorem pure_stopsAs (value : α) : (pure value : Session α).StopsAs kind :=
  fun _ _ _ ended => nomatch ended

theorem StopsAs.map {session : Session α} (first : session.StopsAs kind) (change : α → β) :
    (change <$> session).StopsAs kind := by
  rw [map_eq_pure_bind]
  exact first.bind fun _ => pure_stopsAs _

theorem get_stopsAs : (get : Session Machine).StopsAs kind := fun _ _ _ ended => nomatch ended

theorem set_stopsAs (machine : Machine) : (set machine : Session PUnit).StopsAs kind :=
  fun _ _ _ ended => nomatch ended

theorem fail_stopsAs {fault : Fault} (so : kind (.failed fault)) :
    (fail fault : Session α).StopsAs kind := by
  intro machine stop after ended
  cases ended
  exact so

theorem call_stopsAs {around : Surroundings} {trapped : Fault} {activity : Activity σ}
    (traps : kind (.failed trapped)) (panics : kind .panicked) (waits : kind .waiting) :
    (call around trapped activity).StopsAs kind := by
  intro machine stop after ended
  rw [call_run] at ended
  split at ended <;> cases ended <;> assumption

end StopsAs

/-- Where a session has a value, it is of a kind. -/
def Gives {α : Type} (session : Session α) (kind : α → Prop) : Prop :=
  ∀ machine value after, session.run machine = (.ok value, after) → kind value

section Gives

variable {α β : Type} {kind : β → Prop}

theorem pure_gives {value : β} (so : kind value) : (pure value : Session β).Gives kind := by
  intro machine found after ended
  cases ended
  exact so

theorem Gives.bind {session : Session α} {next : α → Session β}
    (further : ∀ value, (next value).Gives kind) : (session >>= next).Gives kind := by
  intro machine found after ended
  rw [run_bind] at ended
  split at ended
  next value middle _ => exact further value middle found after ended
  next => cases ended

/-- What comes after a first part has only to go on from the values that this part gives. -/
theorem StopsAs.bind_given {stops : Stop → Prop} {given : α → Prop} {session : Session α}
    {next : α → Session β} (first : session.StopsAs stops) (gives : session.Gives given)
    (further : ∀ value, given value → (next value).StopsAs stops) :
    (session >>= next).StopsAs stops := by
  intro machine stop after ended
  rw [run_bind] at ended
  split at ended
  next value middle found =>
    exact further value (gives machine value middle found) middle stop after ended
  next failed =>
    cases ended
    exact first machine stop after failed

end Gives

end ScriptSandbox.Guest.Session
