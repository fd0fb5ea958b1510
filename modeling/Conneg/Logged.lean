import Conneg.Event

/-!
# Conneg.Logged

Computations that log events: a value and the events in the order in which they
happened. Sequencing appends the events of the second step to those of the
first.
-/

namespace Conneg

/-- A value and the events logged on the way to it. -/
structure Logged (α : Type) where
  value : α
  events : List Event

namespace Logged

variable {α β : Type}

instance : Monad Logged where
  pure a := ⟨a, []⟩
  bind x f := ⟨(f x.value).value, x.events ++ (f x.value).events⟩

@[simp] theorem value_pure (a : α) : (pure a : Logged α).value = a := rfl

@[simp] theorem events_pure (a : α) : (pure a : Logged α).events = [] := rfl

@[simp] theorem value_bind (x : Logged α) (f : α → Logged β) :
    (x >>= f).value = (f x.value).value := rfl

/-- Events are in the order in which they are logged. -/
@[simp] theorem events_bind (x : Logged α) (f : α → Logged β) :
    (x >>= f).events = x.events ++ (f x.value).events := rfl

@[simp] theorem value_map (x : Logged α) (f : α → β) : (f <$> x).value = f x.value := rfl

/-- Changing a value logs nothing. -/
@[simp] theorem events_map (x : Logged α) (f : α → β) : (f <$> x).events = x.events :=
  List.append_nil _

/-- Logged values are the same if their values and their events are. -/
@[ext] theorem ext {x y : Logged α} (hv : x.value = y.value)
    (he : x.events = y.events) : x = y := by
  cases x; cases y; simp_all

instance : LawfulMonad Logged :=
  LawfulMonad.mk' Logged
    (fun _ => Logged.ext rfl (List.append_nil _))
    (fun _ _ => Logged.ext rfl (List.nil_append _))
    (fun _ _ _ => Logged.ext rfl (List.append_assoc _ _ _))

/-- Logs one event. -/
def log (e : Event) : Logged Unit := ⟨(), [e]⟩

@[simp] theorem events_log (e : Event) : (log e).events = [e] := rfl

end Logged

end Conneg
