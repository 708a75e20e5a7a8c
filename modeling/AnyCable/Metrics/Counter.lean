import Mathlib.Data.UInt

/-! # Interval counters

`Counter` (`metrics/counter.go`) keeps a running `value` and, at each
`UpdateDelta` (called for every counter by `Metrics.rotate`), records the
difference to the value of the previous rotation. `IntervalValue` reports that
difference, but takes `lastIntervalValue == 0` to mean "never rotated" and then
reports `Value()`.

The abstract side is a tally of what was added since the last rotation and in
the last completed interval. The code agrees with it before the first rotation
and whenever the value at the last rotation is non-zero (`intervalValue_run`);
a counter still at zero when it is rotated reports everything added since
(`intervalValue_after_zero_rotation`).
-/

namespace AnyCable.Metrics
set_option autoImplicit false

structure Counter where
  value : UInt64
  lastIntervalValue : UInt64
  lastIntervalDelta : UInt64
  deriving DecidableEq, Repr

def newCounter : Counter := ⟨0, 0, 0⟩

namespace Counter

def intervalValue (c : Counter) : UInt64 :=
  if c.lastIntervalValue = 0 then c.value else c.lastIntervalDelta

def add (c : Counter) (n : UInt64) : Counter := { c with value := c.value + n }

def inc (c : Counter) : Counter := c.add 1

def updateDelta (c : Counter) : Counter :=
  { c with lastIntervalDelta := c.value - c.lastIntervalValue, lastIntervalValue := c.value }

end Counter

inductive Op where
  | add (n : UInt64)
  | inc
  | updateDelta
  deriving DecidableEq, Repr

def Counter.apply (c : Counter) : Op → Counter
  | .add n => c.add n
  | .inc => c.inc
  | .updateDelta => c.updateDelta

def Counter.run (c : Counter) (ops : List Op) : Counter := ops.foldl Counter.apply c

@[simp] theorem Counter.run_nil (c : Counter) : c.run [] = c := rfl

@[simp] theorem Counter.run_append_singleton (c : Counter) (ops : List Op) (op : Op) :
    c.run (ops ++ [op]) = (c.run ops).apply op := by
  simp [Counter.run]

/-! ## What the interval law asks for -/

structure Tally where
  sinceLast : UInt64
  lastInterval : Option UInt64
  deriving DecidableEq, Repr

def Tally.apply (t : Tally) : Op → Tally
  | .add n => { t with sinceLast := t.sinceLast + n }
  | .inc => { t with sinceLast := t.sinceLast + 1 }
  | .updateDelta => ⟨0, some t.sinceLast⟩

def tally (ops : List Op) : Tally := ops.foldl Tally.apply ⟨0, none⟩

@[simp] theorem tally_nil : tally [] = ⟨0, none⟩ := rfl

@[simp] theorem tally_append_singleton (ops : List Op) (op : Op) :
    tally (ops ++ [op]) = (tally ops).apply op := by
  simp [tally]

def intendedIntervalValue (c : Counter) (t : Tally) : UInt64 := t.lastInterval.getD c.value

/-- How the counter's fields carry the tally: the value is the value of the
last rotation plus what came since, and the stored delta is the last interval's
amount once there has been a rotation. -/
structure Tracks (c : Counter) (t : Tally) : Prop where
  value_eq : c.value = c.lastIntervalValue + t.sinceLast
  unrotated : t.lastInterval = none → c.lastIntervalValue = 0
  delta_eq : ∀ d, t.lastInterval = some d → c.lastIntervalDelta = d

theorem tracks_start : Tracks newCounter ⟨0, none⟩ where
  value_eq := rfl
  unrotated _ := rfl
  delta_eq _ h := by cases h

theorem tracks_apply {c : Counter} {t : Tally} (h : Tracks c t) (op : Op) :
    Tracks (c.apply op) (t.apply op) := by
  cases op with
  | add n =>
    refine ⟨?_, h.unrotated, h.delta_eq⟩
    simp only [Counter.apply, Counter.add, Tally.apply, h.value_eq, add_assoc]
  | inc =>
    refine ⟨?_, h.unrotated, h.delta_eq⟩
    simp only [Counter.apply, Counter.inc, Counter.add, Tally.apply, h.value_eq, add_assoc]
  | updateDelta =>
    refine ⟨by simp [Counter.apply, Counter.updateDelta, Tally.apply], (fun h' => by cases h'), ?_⟩
    rintro d ⟨⟩
    simp [Counter.apply, Counter.updateDelta, h.value_eq]

theorem tracks_run (ops : List Op) : Tracks (newCounter.run ops) (tally ops) := by
  induction ops using List.reverseRecOn with
  | nil => exact tracks_start
  | append_singleton ops op ih =>
    rw [Counter.run_append_singleton, tally_append_singleton]
    exact tracks_apply ih op

/-- Before the first rotation `IntervalValue` is `Value`, and afterwards it is
the amount added in the last completed interval (modulo 2^64), provided the
counter's value at that rotation was not zero. -/
theorem intervalValue_run (ops : List Op)
    (h : (tally ops).lastInterval = none ∨ (newCounter.run ops).lastIntervalValue ≠ 0) :
    (newCounter.run ops).intervalValue = intendedIntervalValue (newCounter.run ops) (tally ops) := by
  have hT := tracks_run ops
  unfold Counter.intervalValue intendedIntervalValue
  cases hLast : (tally ops).lastInterval with
  | none => simp [hT.unrotated hLast]
  | some d =>
    have hNe : (newCounter.run ops).lastIntervalValue ≠ 0 := by simpa [hLast] using h
    simp [hNe, hT.delta_eq d hLast]

theorem intervalValue_run_after_add :
    ((tally [.add 5, .updateDelta]).lastInterval = none ∨
      (newCounter.run [.add 5, .updateDelta]).lastIntervalValue ≠ 0) ∧
    (newCounter.run [.add 5, .updateDelta]).intervalValue =
      intendedIntervalValue (newCounter.run [.add 5, .updateDelta]) (tally [.add 5, .updateDelta]) :=
  ⟨.inr (by decide), intervalValue_run [.add 5, .updateDelta] (.inr (by decide))⟩

/-- A counter rotated while its value is zero (untouched, or wrapped around to
zero) reads as never rotated: for every `n`, after `UpdateDelta` and `Add(n)`
`IntervalValue` is `n`, although nothing was added in the completed interval. -/
theorem intervalValue_after_zero_rotation (n : UInt64) :
    (newCounter.run [.updateDelta, .add n]).intervalValue = n ∧
      intendedIntervalValue (newCounter.run [.updateDelta, .add n]) (tally [.updateDelta, .add n]) = 0 := by
  constructor
  · simp [Counter.run, Counter.apply, Counter.intervalValue, Counter.add, Counter.updateDelta,
      newCounter]
  · rfl

end AnyCable.Metrics
