import Speedup.Double.Arithmetic

/-!
# Statistics of a sample

A sample is a list of numbers. Mean and variance are one-pass estimators: they take the numbers in
their order and correct a running value by each. The definitions ask of the numbers only what
they use, so they can be read over any kind of number.

In the program: `mean`, `median` and `geometric_mean`.
-/

namespace Speedup

/-- What the statistics of a sample ask of numbers. -/
class Measurable (α : Type) extends Add α, Sub α, Mul α, Div α, NatCast α where
  /-- The numerical order, strictly. -/
  less : α → α → Bool
  /-- The order used for sorting, in which any two numbers are comparable. -/
  sortLE : α → α → Bool
  /-- Whether it is no number and does not take part in a minimum or maximum. -/
  isUndefined : α → Bool

/-- Numbers with logarithms, and how to tell those that have one. -/
class Logarithmic (α : Type) extends Measurable α where
  ln : α → α
  exp : α → α
  isFinite : α → Bool

instance : Logarithmic Double where
  less := Double.lt
  sortLE := Double.totalLE
  isUndefined := Double.isNaN
  ln := Double.ln
  exp := Double.exp
  isFinite := Double.isFinite

namespace Sample

variable {α : Type}

section Measurable

variable [Measurable α]

/-! ## Mean and variance -/

/-- The estimators after some of the numbers: how many, their mean, and the sum of the squared
deviations from it. -/
structure Running (α : Type) where
  count : Nat
  mean : α
  squares : α

namespace Running

def start : Running α := ⟨0, ((0 : Nat) : α), ((0 : Nat) : α)⟩

/-- Takes one number: its distance from the mean is spread over all numbers so far. -/
def add (r : Running α) (x : α) : Running α :=
  let n : α := ((r.count + 1 : Nat) : α)
  let step := (x - r.mean) / n
  ⟨r.count + 1, r.mean + step, r.squares + step * step * n * (n - ((1 : Nat) : α))⟩

end Running

def running (xs : List α) : Running α := xs.foldl Running.add Running.start

theorem running_concat (xs : List α) (x : α) : running (xs ++ [x]) = (running xs).add x := by
  simp [running]

@[simp] theorem count_running (xs : List α) : (running xs).count = xs.length := by
  suffices ∀ (r : Running α), (xs.foldl Running.add r).count = r.count + xs.length by
    simpa [running, Running.start] using this Running.start
  intro r
  induction xs generalizing r with
  | nil => rfl
  | cons x xs ih => simp [ih, Running.add]; omega

theorem mean_running_concat (xs : List α) (x : α) : (running (xs ++ [x])).mean =
    (running xs).mean + (x - (running xs).mean) / ((xs.length + 1 : Nat) : α) := by
  rw [running_concat, ← count_running xs]
  rfl

/-- The arithmetic mean; a sample without numbers has none. -/
def mean (xs : List α) : Option α := if xs.isEmpty then none else some (running xs).mean

theorem mean_of_ne_nil {xs : List α} (some_number : xs ≠ []) :
    mean xs = some (running xs).mean := by
  rw [mean, List.isEmpty_eq_false_iff.mpr some_number]
  rfl

/-- The variance of a sample; fewer than two numbers have none. -/
def variance (xs : List α) : Option α :=
  if xs.length < 2 then none
  else some ((running xs).squares / ((xs.length : α) - ((1 : Nat) : α)))

/-! ## Median -/

def sorted (xs : List α) : List α := xs.mergeSort Measurable.sortLE

/-- The middle number in sorting order, or the midpoint of the two middle ones. -/
def median (xs : List α) : Option α :=
  let ys := sorted xs
  let half := ys.length / 2
  if ys.length % 2 = 1 then ys[half]?
  else
    match ys[half - 1]?, ys[half]? with
    | some left, some right => some ((left + right) / ((2 : Nat) : α))
    | _, _ => none

/-! ## Extremes -/

/-- The least number, the first of several equal ones. -/
def least (xs : List α) : Option α :=
  (xs.filter (!Measurable.isUndefined ·)).foldl
    (fun best x =>
      match best with
      | none => some x
      | some b => some (if Measurable.less x b then x else b)) none

/-- The greatest number, the first of several equal ones. -/
def greatest (xs : List α) : Option α :=
  (xs.filter (!Measurable.isUndefined ·)).foldl
    (fun best x =>
      match best with
      | none => some x
      | some b => some (if Measurable.less b x then x else b)) none

end Measurable

/-! ## Geometric mean -/

section Logarithmic

variable [Logarithmic α]

/-- The numbers a geometric mean is taken of: the finite ones above zero. -/
def usable (xs : List α) : List α :=
  xs.filter fun x => Logarithmic.isFinite x && Measurable.less ((0 : Nat) : α) x

/-- The geometric mean of the usable numbers; a single one is its own mean, and without any there
is none. -/
def geometricMean (xs : List α) : Option α :=
  match usable xs with
  | [] => none
  | [x] => some x
  | xs => (mean (xs.map Logarithmic.ln)).map Logarithmic.exp

end Logarithmic

end Sample

end Speedup
