/-!
# Failures

What is told when the work cannot be done: a message and what lies behind it, outermost first.
-/

namespace Speedup

structure Failure where
  message : String
  causes : List String
  deriving DecidableEq, Repr

namespace Failure

def plain (message : String) : Failure := ⟨message, []⟩

def line (f : Failure) : String := String.intercalate ": " (f.message :: f.causes)

def indentRest (width : Nat) (text : String) : String :=
  String.ofList (text.toList.flatMap fun c =>
    if c = '\n' then '\n' :: List.replicate width ' ' else [c])

/-- The causes, numbered if there are several. -/
def causeLines (causes : List String) : List String :=
  if causes.length = 1 then causes.map fun cause => "    " ++ indentRest 4 cause
  else causes.zipIdx.map fun (cause, i) => "    " ++ Nat.repr i ++ ": " ++ indentRest 7 cause

def text (f : Failure) : String :=
  "Error: " ++ f.message ++
    if f.causes.isEmpty then "" else
      "\n\nCaused by:\n" ++ String.intercalate "\n" (causeLines f.causes)

end Failure

end Speedup
