import Speedup.Failure
import Speedup.Log

/-!
# Attempts

A computation that logs and may fail. What is logged before a failure stays logged.
-/

namespace Speedup

/-- What is logged, and the result or the failure that follows it. -/
structure Attempt (α : Type) where
  log : List Log.Entry
  result : Except Failure α

namespace Attempt

variable {α β : Type}

/-- The next attempt is only made with a result. -/
def andThen (a : Attempt α) (next : α → Attempt β) : Attempt β :=
  match a.result with
  | .error f => ⟨a.log, .error f⟩
  | .ok x => ⟨a.log ++ (next x).log, (next x).result⟩

instance : Monad Attempt where
  pure x := ⟨[], .ok x⟩
  bind := andThen

def ofResult (result : Except Failure α) : Attempt α := ⟨[], result⟩

def note (entries : List Log.Entry) : Attempt Unit := ⟨entries, .ok ()⟩

end Attempt

end Speedup
