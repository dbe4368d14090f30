/-
Module: KubeSchedulerSim.Simulator.Core
Purpose: `simulator.Simulate` (src/pkg/simulator/core.go), the entry point `Run` calls. It
  builds the simulator, hands it the cluster's workload, adds the daemon sets' pods, places
  the cluster's pods (`RunCluster`), exports snapshots, optionally loads a new workload and
  deschedules, then schedules the apps one after another. Every pod left unscheduled on the
  way is collected, and the result is those pods with the nodes' status. The stages the
  source's comments mark are named (`prepareCluster`, `afterInitSchedule`,
  `descheduleStage`, `descheduleInflation`), so that a run's intermediate states can be
  named too.
Trusted boundary: the simulator is `simulator.Interface`, which src/ declares but does not
  implement. Its methods are fields of `SimulatorOps` acting on an opaque state `S`, which
  holds everything they share, the global `math/rand` source included. Also fields of
  `SimulatorOps`: `New`, `GetValidPodExcludeDaemonSet`, `utils.MakeValidPodsByDaemonset`,
  `CreateClusterResourceFromClusterConfig`, `os.MkdirAll` (whether it succeeds), and the
  four stage tags.
  `GetCustomConfig` returns the custom config given to `New` through `WithCustomConfig`.
  An export writes a file and changes nothing else: it is recorded as the file's path and
  what the method writes there, from the state it reads.
  Logging, `utils.ReportFailedPods` and the deferred `Close` only print or release, and are
  left out, as are files written before a later step fails.
  The two copies of `Simulate` in core.go differ only in their prints.
Main exports: ResourceTypes, WorkloadTuningConfig, CustomConfig, Snapshot, FileWrite,
  SimulatorOps, exportPodSnapshotYaml, exportInitSchedule, exportPostDeschedule,
  scheduleApps, prepareCluster, afterInitSchedule, descheduleStage, descheduleInflation,
  simulate
-/
import KubeSchedulerSim.Apply.Applier

namespace KubeSchedulerSim

/-! ### Data -/

/-- `simulator.ResourceTypes`: the nodes, pods and daemon sets `Simulate` reads; the other
kinds of object travel along in `others`. -/
structure ResourceTypes (Nd Pd D W : Type) where
  nodes : List Nd
  pods : List Pd
  daemonSets : List D
  others : W

/-- `v1alpha1.WorkloadTuningConfig`. -/
structure WorkloadTuningConfig where
  ratio : ℚ
  seed : Int
deriving DecidableEq, Repr

/-- What `Simulate` reads of `v1alpha1.CustomConfig`. -/
structure CustomConfig where
  workloadTuningConfig : WorkloadTuningConfig
  /-- `ExportConfig.PodSnapshotYamlFilePrefix`. -/
  podSnapshotYamlFilePrefix : String
  /-- `ExportConfig.NodeSnapshotCSVFilePrefix`. -/
  nodeSnapshotCSVFilePrefix : String
  /-- `WorkloadInflationConfig.Ratio`. -/
  workloadInflationRatio : ℚ
  newWorkloadConfig : String
  /-- `DescheduleConfig.Policy`. -/
  deschedulePolicy : String
deriving DecidableEq, Repr

/-- What an export method writes, from the simulator state `sim` it reads. -/
inductive Snapshot (S U : Type) where
  /-- `ExportPodSnapshotInYaml(unscheduledPods, path)`. -/
  | podYaml (sim : S) (unscheduledPods : List U)
  /-- `ExportNodeSnapshotInCSV(path)`. -/
  | nodeCsv (sim : S)
  /-- `ExportPodSnapshotInCSV(path)`. -/
  | podCsv (sim : S)

/-- A file an export writes. -/
structure FileWrite (S U : Type) where
  path : String
  snapshot : Snapshot S U

/-- What `Simulate` calls that src/ does not define. -/
structure SimulatorOps (S Nd Pd D W U P : Type) where
  /-- `New(WithSchedulerConfig(s), WithKubeConfig(k), WithCustomConfig(c))`. -/
  new : String → String → CustomConfig → Except String S
  getValidPodExcludeDaemonSet : ResourceTypes Nd Pd D W → Except String (List Pd)
  /-- `utils.MakeValidPodsByDaemonset(item, nodes)`. -/
  makeValidPodsByDaemonset : D → List Nd → Except String (List Pd)
  createClusterResourceFromClusterConfig : String → Except String (ResourceTypes Nd Pd D W)
  /-- Whether `os.MkdirAll(dir, 0777)` succeeds. -/
  mkdirAll : String → Bool
  tagInitSchedule : String
  tagPostDeschedule : String
  tagScheduleInflation : String
  tagDescheduleInflation : String
  setWorkloadPods : S → List Pd → S
  setTypicalPods : S → S
  setSkylinePods : S → S
  clusterGpuFragReport : S → S
  /-- `rand.Seed(seed)`, then the `rand.Int()` drawn for the debug line. -/
  seedRand : S → Int → S
  /-- `SortClusterPods(pods)`: the pods in the order it leaves the slice in. -/
  sortClusterPods : S → List Pd → List Pd × S
  recordPodTotalResourceReq : S → List Pd → S
  recordNodeTotalResource : S → List Nd → S
  tunePodsByNodeTotalResource : S → List Pd → WorkloadTuningConfig → List Pd × S
  runCluster : S → ResourceTypes Nd Pd D W → Except String (List U × S)
  clusterAnalysis : S → String → S
  runWorkloadInflationEvaluation : S → String → S
  descheduleCluster : S → List U × S
  scheduleApp : S → AppResource (ResourceTypes Nd Pd D W) → Except String (List U × S)
  getClusterNodeStatus : S → List (NodeStatus P)

variable {S Nd Pd D W U P : Type}

/-! ### The exports -/

/-- The pod snapshot in YAML of a stage: `prefix/tag/pod-snapshot.yaml`, written when the
directory can be made. -/
def exportPodSnapshotYaml (ops : SimulatorOps S Nd Pd D W U P) (customConfig : CustomConfig)
    (tag : String) (sim : S) (unscheduledPods : List U) : List (FileWrite S U) :=
  if customConfig.podSnapshotYamlFilePrefix ≠ "" then
    let fileDir := customConfig.podSnapshotYamlFilePrefix ++ "/" ++ tag
    if ops.mkdirAll fileDir then [⟨fileDir ++ "/" ++ "pod-snapshot.yaml", .podYaml sim unscheduledPods⟩]
    else []
  else []

/-- The exports after the first placement: the pod snapshot in YAML, then the node and pod
snapshots in CSV, under the directory of the `InitSchedule` tag. -/
def exportInitSchedule (ops : SimulatorOps S Nd Pd D W U P) (customConfig : CustomConfig)
    (sim : S) (unscheduledPods : List U) : List (FileWrite S U) :=
  exportPodSnapshotYaml ops customConfig ops.tagInitSchedule sim unscheduledPods ++
    if customConfig.nodeSnapshotCSVFilePrefix ≠ "" then
      let fileDir := customConfig.nodeSnapshotCSVFilePrefix ++ "/" ++ ops.tagInitSchedule
      if ops.mkdirAll fileDir then
        [⟨fileDir ++ "/" ++ "node-snapshot.csv", .nodeCsv sim⟩,
          ⟨fileDir ++ "/" ++ "pod-snapshot.csv", .podCsv sim⟩]
      else []
    else []

/-- The exports after descheduling. The CSV block calls `ExportNodeSnapshotInCSV` for both
files, `pod-snapshot.csv` included. -/
def exportPostDeschedule (ops : SimulatorOps S Nd Pd D W U P) (customConfig : CustomConfig)
    (sim : S) (unscheduledPods : List U) : List (FileWrite S U) :=
  exportPodSnapshotYaml ops customConfig ops.tagPostDeschedule sim unscheduledPods ++
    if customConfig.nodeSnapshotCSVFilePrefix ≠ "" then
      let fileDir := customConfig.nodeSnapshotCSVFilePrefix ++ "/" ++ ops.tagPostDeschedule
      if ops.mkdirAll fileDir then
        [⟨fileDir ++ "/" ++ "node-snapshot.csv", .nodeCsv sim⟩,
          ⟨fileDir ++ "/" ++ "pod-snapshot.csv", .nodeCsv sim⟩]
      else []
    else []

/-! ### `Simulate` -/

/-- The last loop of `Simulate`: each app scheduled on the state the previous one left, its
unscheduled pods appended to `failedPods`, the first error returned. -/
def scheduleApps (ops : SimulatorOps S Nd Pd D W U P) (sim : S) (failedPods : List U)
    (apps : List (AppResource (ResourceTypes Nd Pd D W))) : Except String (List U × S) :=
  apps.foldlM (fun acc app => do
      let (unscheduledPods, sim) ← ops.scheduleApp acc.2 app
      pure (acc.1 ++ unscheduledPods, sim))
    (failedPods, sim)

/-- The daemon-set loop of `Simulate`: each daemon set's pods on the cluster's nodes,
appended to the cluster's pods, the first error returned. -/
def addDaemonSetPods (ops : SimulatorOps S Nd Pd D W U P) (cluster : ResourceTypes Nd Pd D W) :
    Except String (ResourceTypes Nd Pd D W) :=
  cluster.daemonSets.foldlM (fun cluster item => do
      let validPods ← ops.makeValidPodsByDaemonset item cluster.nodes
      pure { cluster with pods := cluster.pods ++ validPods })
    cluster

/-- The part of `Simulate` before `RunCluster`: the simulator built from the configs, the
cluster's workload handed to it, the random source seeded, the daemon sets' pods added, and
the cluster's pods sorted, recorded and tuned. -/
def prepareCluster (ops : SimulatorOps S Nd Pd D W U P) (cluster : ResourceTypes Nd Pd D W)
    (schedulerConfig kubeConfig : String) (customConfig : CustomConfig) :
    Except String (S × ResourceTypes Nd Pd D W) := do
  let sim ← ops.new schedulerConfig kubeConfig customConfig
  let pods ← ops.getValidPodExcludeDaemonSet cluster
  let cluster := { cluster with pods := pods }
  let sim := ops.clusterGpuFragReport
    (ops.setSkylinePods (ops.setTypicalPods (ops.setWorkloadPods sim cluster.pods)))
  let sim := ops.seedRand sim customConfig.workloadTuningConfig.seed
  let cluster ← addDaemonSetPods ops cluster
  -- run cluster
  let (pods, sim) := ops.sortClusterPods sim cluster.pods
  let cluster := { cluster with pods := pods }
  let sim := ops.recordNodeTotalResource (ops.recordPodTotalResourceReq sim cluster.pods)
    cluster.nodes
  let (pods, sim) := if customConfig.workloadTuningConfig.ratio > 0 then
      ops.tunePodsByNodeTotalResource sim cluster.pods customConfig.workloadTuningConfig
    else (cluster.pods, sim)
  pure (sim, { cluster with pods := pods })

/-- The part of `Simulate` between the InitSchedule exports and the descheduling: the
inflation evaluation, then the new workload when one is configured. -/
def afterInitSchedule (ops : SimulatorOps S Nd Pd D W U P) (customConfig : CustomConfig)
    (sim : S) : Except String S :=
  let sim := if customConfig.workloadInflationRatio > 1 then
      ops.runWorkloadInflationEvaluation sim ops.tagScheduleInflation
    else sim
  if customConfig.newWorkloadConfig ≠ "" then do
    let resources ← ops.createClusterResourceFromClusterConfig customConfig.newWorkloadConfig
    let newWorkloadPods ← ops.getValidPodExcludeDaemonSet resources
    pure (ops.clusterGpuFragReport (ops.setTypicalPods (ops.setWorkloadPods sim newWorkloadPods)))
  else pure sim

/-- "evict some pods in the cluster and reschedule them": with a deschedule policy, the pods
`DescheduleCluster` leaves unscheduled, the state after the analysis, and the PostDeschedule
exports; without one, none of them. -/
def descheduleStage (ops : SimulatorOps S Nd Pd D W U P) (customConfig : CustomConfig)
    (sim : S) : List U × S × List (FileWrite S U) :=
  if customConfig.deschedulePolicy ≠ "" then
    let (unscheduledPods, sim) := ops.descheduleCluster sim
    let sim := ops.clusterGpuFragReport (ops.clusterAnalysis sim ops.tagPostDeschedule)
    (unscheduledPods, sim, exportPostDeschedule ops customConfig sim unscheduledPods)
  else ([], sim, [])

/-- The inflation evaluation after a new workload or a descheduling. -/
def descheduleInflation (ops : SimulatorOps S Nd Pd D W U P) (customConfig : CustomConfig)
    (sim : S) : S :=
  if (customConfig.newWorkloadConfig ≠ "" ∨ customConfig.deschedulePolicy ≠ "") ∧
      customConfig.workloadInflationRatio > 1 then
    ops.runWorkloadInflationEvaluation sim ops.tagDescheduleInflation
  else sim

/-- `Simulate`, with the files its exports write. -/
def simulate (ops : SimulatorOps S Nd Pd D W U P) (cluster : ResourceTypes Nd Pd D W)
    (apps : List (AppResource (ResourceTypes Nd Pd D W))) (schedulerConfig kubeConfig : String)
    (customConfig : CustomConfig) :
    Except String (SimulateResult U P × List (FileWrite S U)) := do
  let (sim, cluster) ← prepareCluster ops cluster schedulerConfig kubeConfig customConfig
  let (unscheduledPods, sim) ← ops.runCluster sim cluster
  let sim := ops.clusterAnalysis sim ops.tagInitSchedule
  let files := exportInitSchedule ops customConfig sim unscheduledPods
  let sim ← afterInitSchedule ops customConfig sim
  let (deschedulePods, sim, postFiles) := descheduleStage ops customConfig sim
  let sim := descheduleInflation ops customConfig sim
  -- schedule pods
  let (failedPods, sim) ← scheduleApps ops sim (unscheduledPods ++ deschedulePods) apps
  pure (⟨failedPods, ops.getClusterNodeStatus sim⟩, files ++ postFiles)

end KubeSchedulerSim
