import AnyCable.Lib.StopLoop
import AnyCable.Metrics.Registry

/-! # The node's metrics and its stats collector

`NewNode` (`node/node.go`) registers the node's gauges and counters in the
shared `Metrics` (`registerMetrics`), and `Start` runs `collectStats` in its own
goroutine: every `StatsRefreshInterval` it sets the six gauges from the Go
runtime, the hub and the disconnect queue (`collectStatsOnce`). `Shutdown`
stops it by `close(n.shutdownCh)` followed by `n.shutdownCh = nil`.
`Metrics.Run` rotates the counters in the same kind of loop, and
`Metrics.Shutdown` stops it the same way.

Both loops read the field in their `select` each round, which is the pattern
of `StopLoop`. `collectStatsOnce` calls `Gauge(name)` six times, and a name
never registered would give nil; the gauges `registerMetrics` registers stay
registered, so the collector never fails (`collectStatsOnce_registered`). A
`Shutdown` that lands while the collector or the rotation is in its body
leaves that loop waiting on a nil channel: it never returns and keeps setting
the gauges or rotating the counters (`loops_outlive_shutdown`).
-/

namespace AnyCable.Node
open Metrics
set_option autoImplicit false

def metricsGoroutines : String := "goroutines_num"
def metricsMemSys : String := "mem_sys_bytes"
def metricsClientsNum : String := "clients_num"
def metricsUniqClientsNum : String := "clients_uniq_num"
def metricsStreamsNum : String := "broadcast_streams_num"
def metricsDisconnectQueue : String := "disconnect_queue_size"

def metricsFailedAuths : String := "failed_auths_total"
def metricsReceivedMsg : String := "client_msg_total"
def metricsFailedCommandReceived : String := "failed_client_msg_total"
def metricsBroadcastMsg : String := "broadcast_msg_total"
def metricsUnknownBroadcast : String := "failed_broadcast_msg_total"
def metricsSentMsg : String := "server_msg_total"
def metricsFailedSent : String := "failed_server_msg_total"
def metricsDataSent : String := "data_sent_total"
def metricsDataReceived : String := "data_rcvd_total"

def nodeGauges : List String :=
  [metricsGoroutines, metricsMemSys, metricsClientsNum, metricsUniqClientsNum, metricsStreamsNum,
    metricsDisconnectQueue]

def nodeCounters : List String :=
  [metricsFailedAuths, metricsReceivedMsg, metricsFailedCommandReceived, metricsBroadcastMsg,
    metricsUnknownBroadcast, metricsSentMsg, metricsFailedSent, metricsDataSent, metricsDataReceived]

/-- `Node.registerMetrics`: the gauges, then the counters; the descriptions are
left out. -/
def registerMetrics (m : Registry) : Registry :=
  nodeCounters.foldl Registry.registerCounter (nodeGauges.foldl Registry.registerGauge m)

structure Sample where
  goroutines : Int
  memSys : UInt64
  clients : Int
  uniqClients : Int
  streams : Int
  disconnectQueue : Int

def collectStatsOnce (m : Registry) (s : Sample) : Option Registry := do
  let m ← m.updateGauge metricsGoroutines (·.set s.goroutines)
  let m ← m.updateGauge metricsMemSys (·.set64 s.memSys)
  let m ← m.updateGauge metricsClientsNum (·.set s.clients)
  let m ← m.updateGauge metricsUniqClientsNum (·.set s.uniqClients)
  let m ← m.updateGauge metricsStreamsNum (·.set s.streams)
  m.updateGauge metricsDisconnectQueue (·.set s.disconnectQueue)

def collectRound (m m' : Registry) : Prop := ∃ s, collectStatsOnce m s = some m'

/-! ## The gauges are registered -/

def GaugesRegistered (m : Registry) : Prop := ∀ name ∈ nodeGauges, name ∈ m.gauges

theorem mem_foldl_registerGauge (names : List String) (m : Registry) (k : String) :
    k ∈ (names.foldl Registry.registerGauge m).gauges ↔ k ∈ names ∨ k ∈ m.gauges := by
  induction names generalizing m with
  | nil => simp
  | cons name names ih =>
    rw [List.foldl_cons, ih, Registry.mem_registerGauge, List.mem_cons]
    tauto

theorem gauges_foldl_registerCounter (names : List String) (m : Registry) :
    (names.foldl Registry.registerCounter m).gauges = m.gauges := by
  induction names generalizing m with
  | nil => rfl
  | cons name names ih => rw [List.foldl_cons, ih, Registry.gauges_registerCounter]

theorem gaugesRegistered_registerMetrics (m : Registry) : GaugesRegistered (registerMetrics m) := by
  intro name hName
  rw [registerMetrics, gauges_foldl_registerCounter, mem_foldl_registerGauge]
  exact Or.inl hName

theorem updateGauge_registered {m : Registry} (h : GaugesRegistered m) (name : String) (hName : name ∈ nodeGauges)
    (f : Gauge → Gauge) : ∃ m', m.updateGauge name f = some m' ∧ GaugesRegistered m' := by
  obtain ⟨m', hUpdate, hMem⟩ := m.updateGauge_of_mem (h name hName) f
  exact ⟨m', hUpdate, fun k hk => (hMem k).mpr (h k hk)⟩

theorem collectStatsOnce_registered {m : Registry} (h : GaugesRegistered m) (s : Sample) :
    ∃ m', collectStatsOnce m s = some m' ∧ GaugesRegistered m' := by
  obtain ⟨m₁, h₁, hReg₁⟩ := updateGauge_registered h metricsGoroutines (by simp [nodeGauges]) (·.set s.goroutines)
  obtain ⟨m₂, h₂, hReg₂⟩ := updateGauge_registered hReg₁ metricsMemSys (by simp [nodeGauges]) (·.set64 s.memSys)
  obtain ⟨m₃, h₃, hReg₃⟩ := updateGauge_registered hReg₂ metricsClientsNum (by simp [nodeGauges]) (·.set s.clients)
  obtain ⟨m₄, h₄, hReg₄⟩ := updateGauge_registered hReg₃ metricsUniqClientsNum (by simp [nodeGauges]) (·.set s.uniqClients)
  obtain ⟨m₅, h₅, hReg₅⟩ := updateGauge_registered hReg₄ metricsStreamsNum (by simp [nodeGauges]) (·.set s.streams)
  obtain ⟨m₆, h₆, hReg₆⟩ := updateGauge_registered hReg₅ metricsDisconnectQueue (by simp [nodeGauges]) (·.set s.disconnectQueue)
  exact ⟨m₆, by simp [collectStatsOnce, h₁, h₂, h₃, h₄, h₅, h₆], hReg₆⟩

/-! ## The loops outlive `Shutdown` -/

/-- A node whose metrics went through `registerMetrics` (whatever was registered
before), started and shut down: in some interleaving `Shutdown` finishes while
`collectStats` is in its body, and from there the collector never returns and
keeps setting the gauges, as many times as one likes. The rotation loop of
`Metrics.Run` on any registry outlives `Metrics.Shutdown` the same way. -/
theorem loops_outlive_shutdown (m : Registry) :
    StopLoop.OutlivesStopper collectRound (StopLoop.start (registerMetrics m)) ∧
      StopLoop.OutlivesStopper Registry.rotateRound (StopLoop.start m) := by
  constructor
  · refine StopLoop.outlives_stopper GaugesRegistered (fun d hReg => ?_) _ (gaugesRegistered_registerMetrics m)
    obtain ⟨m', hOnce, hReg'⟩ := collectStatsOnce_registered hReg ⟨0, 0, 0, 0, 0, 0⟩
    exact ⟨m', ⟨_, hOnce⟩, hReg'⟩
  · exact StopLoop.outlives_stopper (fun _ => True) (fun d _ => ⟨d.rotate, rfl, trivial⟩) m trivial

end AnyCable.Node
