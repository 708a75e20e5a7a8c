import AnyCable.Metrics.Counter
import AnyCable.Lib.GoMap

/-! # Gauges and the metrics registry

A `Gauge` (`metrics/gauge.go`) holds a `uint64`: `Inc` adds one and `Dec` adds
`^uint64(0)`, so a gauge decremented at zero wraps around.

`Registry`, the `Metrics` of `metrics/metrics.go`, keeps the counters and the gauges by name.
`RegisterCounter` and `RegisterGauge` put a new one under the name, replacing
one already there. `Counter(name)` and `Gauge(name)` return nil for a name
never registered, and the method called on it then dereferences nil: a panic,
`none` here. `rotate` calls `UpdateDelta` on every counter, and
`IntervalSnapshot` writes every counter's `IntervalValue` and then every
gauge's `Value` into one map, so a gauge hides a counter of its name
(`lookup_intervalSnapshot`).
-/

namespace AnyCable.Metrics
open GoMap
set_option autoImplicit false

structure Gauge where
  value : UInt64
  deriving DecidableEq, Repr

def newGauge : Gauge := ⟨0⟩

namespace Gauge

/-- `Set(value int)` stores `uint64(value)`, two's complement for a negative value. -/
def set (_ : Gauge) (value : Int) : Gauge := ⟨UInt64.ofInt value⟩

def set64 (_ : Gauge) (value : UInt64) : Gauge := ⟨value⟩

def inc (g : Gauge) : Gauge := ⟨g.value + 1⟩

def dec (g : Gauge) : Gauge := ⟨g.value + ~~~0⟩

def Counts (g : Gauge) (n : Nat) : Prop := g.value = UInt64.ofNat n

theorem counts_newGauge : newGauge.Counts 0 := rfl

theorem counts_inc {g : Gauge} {n : Nat} (h : g.Counts n) : g.inc.Counts (n + 1) := by
  unfold Counts inc at *
  rw [h, UInt64.ofNat_add]
  rfl

theorem counts_dec {g : Gauge} {n : Nat} (h : g.Counts (n + 1)) : g.dec.Counts n := by
  unfold Counts dec at *
  apply UInt64.toNat_inj.mp
  rw [h, UInt64.toNat_add, UInt64.toNat_ofNat', UInt64.toNat_ofNat']
  have hAll : (~~~(0 : UInt64)).toNat = 2 ^ 64 - 1 := rfl
  rw [hAll]
  omega

end Gauge

/-- `metrics.Metrics`: the counters and the gauges by name. -/
structure Registry where
  counters : Map String Counter
  gauges : Map String Gauge

def newMetrics : Registry := ⟨∅, ∅⟩

namespace Registry

variable (m : Registry)

def registerCounter (name : String) : Registry :=
  { m with counters := m.counters.insert name newCounter }

def registerGauge (name : String) : Registry :=
  { m with gauges := m.gauges.insert name newGauge }

/-- `m.Counter(name)` followed by a method that updates the counter. -/
def updateCounter (name : String) (f : Counter → Counter) : Option Registry :=
  (m.counters.lookup name).map fun c => { m with counters := m.counters.insert name (f c) }

/-- `m.Gauge(name)` followed by a method that updates the gauge. -/
def updateGauge (name : String) (f : Gauge → Gauge) : Option Registry :=
  (m.gauges.lookup name).map fun g => { m with gauges := m.gauges.insert name (f g) }

def rotate : Registry :=
  { m with counters := m.counters.entries.foldl (fun cs e => cs.insert e.1 e.2.updateDelta) m.counters }

def intervalSnapshot : Map String UInt64 :=
  let snapshot := m.counters.entries.foldl (fun s e => s.insert e.1 e.2.intervalValue) ∅
  m.gauges.entries.foldl (fun s e => s.insert e.1 e.2.value) snapshot

theorem lookup_intervalSnapshot (name : String) :
    m.intervalSnapshot.lookup name =
      ((m.gauges.lookup name).map Gauge.value).or ((m.counters.lookup name).map Counter.intervalValue) := by
  unfold intervalSnapshot
  rw [lookup_foldl_insert (fun _ g => g.value) _ m.gauges.nodupKeys,
    lookup_foldl_insert (fun _ c => c.intervalValue) _ m.counters.nodupKeys]
  cases hGauge : m.gauges.entries.dlookup name <;> cases hCounter : m.counters.entries.dlookup name <;>
    simp [AList.lookup, hGauge, hCounter]

theorem mem_registerGauge (name k : String) : k ∈ (m.registerGauge name).gauges ↔ k = name ∨ k ∈ m.gauges :=
  AList.mem_insert m.gauges

@[simp] theorem gauges_registerCounter (name : String) : (m.registerCounter name).gauges = m.gauges := rfl

theorem updateGauge_of_mem {name : String} (h : name ∈ m.gauges) (f : Gauge → Gauge) :
    ∃ m', m.updateGauge name f = some m' ∧ ∀ k, k ∈ m'.gauges ↔ k ∈ m.gauges := by
  obtain ⟨g, hg⟩ := Option.isSome_iff_exists.mp (AList.lookup_isSome.mpr h)
  refine ⟨{ m with gauges := m.gauges.insert name (f g) }, by simp [updateGauge, hg], fun k => ?_⟩
  rw [AList.mem_insert]
  constructor
  · rintro (rfl | hk)
    · exact h
    · exact hk
  · exact Or.inr

theorem lookup_rotate (name : String) :
    m.rotate.counters.lookup name = (m.counters.lookup name).map Counter.updateDelta := by
  unfold rotate
  rw [lookup_foldl_insert (fun _ c => c.updateDelta) _ m.counters.nodupKeys]
  cases hCounter : m.counters.entries.dlookup name <;> simp [AList.lookup, hCounter]

def rotateRound (m m' : Registry) : Prop := m' = m.rotate

end Registry

end AnyCable.Metrics
