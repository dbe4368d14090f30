/-
Module: KubeSchedulerSim.Proofs.SimulateRun
Purpose: What a run of `Simulate` writes and collects, for every simulator. The app loop
  schedules the apps in order, each on the state the previous one left, stops at the first
  `ScheduleApp` error, and otherwise appends each app's unscheduled pods to the failed pods
  in app order. The files a successful run writes are the InitSchedule exports, followed by
  the PostDeschedule exports when a deschedule policy is set. The PostDeschedule CSV block
  calls `ExportNodeSnapshotInCSV` for its `pod-snapshot.csv`, so that file holds a node
  snapshot, and every pod snapshot in CSV a run writes is InitSchedule's. The failed pods
  are those `RunCluster`, `DescheduleCluster` and the apps left, in that order, each from
  the state the stage before it left (`simulate_eq_ok_inv`), so when `Run` calls this
  `Simulate`, its `Success!` means every one of them left none, on the cluster and the apps
  `Run` loaded (`applier_run_success_all_scheduled`).
Trusted boundary: as KubeSchedulerSim.Simulator.Core.
Main exports: appsTrace, scheduleApps_eq, descheduleStage_of_policy, simulate_eq_ok_inv,
  simulate_files, simulate_postDeschedule_podCsv_holds_nodeSnapshot,
  applier_run_success_all_scheduled
-/
import KubeSchedulerSim.Simulator.Core
import KubeSchedulerSim.Proofs.ApplierRun

namespace KubeSchedulerSim

variable {S Nd Pd D W U P : Type}

/-! ### The app loop -/

/-- The apps scheduled one after another from `sim`: the pods each left unscheduled, in
app order, and the last state; the first error. -/
def appsTrace (ops : SimulatorOps S Nd Pd D W U P) :
    S → List (AppResource (ResourceTypes Nd Pd D W)) → Except String (List (List U) × S)
  | sim, [] => .ok ([], sim)
  | sim, app :: apps => do
    let r ← ops.scheduleApp sim app
    let rest ← appsTrace ops r.2 apps
    pure (r.1 :: rest.1, rest.2)

/-- The last loop of `Simulate` schedules the apps in order, each on the state the previous
one left, stops at the first error, and otherwise appends every app's unscheduled pods to
`failedPods`, in app order. -/
theorem scheduleApps_eq (ops : SimulatorOps S Nd Pd D W U P) (sim : S) (failedPods : List U)
    (apps : List (AppResource (ResourceTypes Nd Pd D W))) :
    scheduleApps ops sim failedPods apps =
      (appsTrace ops sim apps).map fun trace => (failedPods ++ trace.1.flatten, trace.2) := by
  induction apps generalizing sim failedPods with
  | nil => simp [scheduleApps, appsTrace, List.foldlM_nil]
  | cons app apps ih =>
    unfold scheduleApps at ih ⊢
    rw [List.foldlM_cons, appsTrace]
    cases ops.scheduleApp sim app with
    | error e => rfl
    | ok r =>
      simp only [except_bind_ok, pure_bind, ih]
      cases appsTrace ops r.2 apps <;> simp

/-! ### The exports -/

section Exports

variable {ops : SimulatorOps S Nd Pd D W U P} {customConfig : CustomConfig} {sim sim' : S}
  {unscheduledPods : List U} {w : FileWrite S U}

theorem exportPodSnapshotYaml_snapshot {tag : String}
    (hw : w ∈ exportPodSnapshotYaml ops customConfig tag sim unscheduledPods) :
    w.snapshot = .podYaml sim unscheduledPods := by
  unfold exportPodSnapshotYaml at hw
  split_ifs at hw <;> simp_all

/-- The only pod snapshot in CSV of the InitSchedule exports is
`prefix/InitSchedule/pod-snapshot.csv`. -/
theorem exportInitSchedule_podCsv (hw : w ∈ exportInitSchedule ops customConfig sim unscheduledPods)
    (hcsv : w.snapshot = .podCsv sim') :
    w.path = customConfig.nodeSnapshotCSVFilePrefix ++ "/" ++ ops.tagInitSchedule ++ "/" ++
      "pod-snapshot.csv" := by
  unfold exportInitSchedule at hw
  rcases List.mem_append.1 hw with hw | hw
  · rw [exportPodSnapshotYaml_snapshot hw] at hcsv
    cases hcsv
  · dsimp only at hw
    split_ifs at hw <;> simp only [List.mem_cons, List.not_mem_nil, or_false] at hw
    rcases hw with rfl | rfl
    · cases hcsv
    · rfl

/-- The PostDeschedule exports write no pod snapshot in CSV. -/
theorem exportPostDeschedule_not_podCsv
    (hw : w ∈ exportPostDeschedule ops customConfig sim unscheduledPods) :
    w.snapshot ≠ .podCsv sim' := by
  unfold exportPostDeschedule at hw
  rcases List.mem_append.1 hw with hw | hw
  · rw [exportPodSnapshotYaml_snapshot hw]
    exact Snapshot.noConfusion
  · dsimp only at hw
    split_ifs at hw <;> simp only [List.mem_cons, List.not_mem_nil, or_false] at hw
    rcases hw with rfl | rfl <;> exact Snapshot.noConfusion

/-- With a CSV prefix and a directory that can be made, the PostDeschedule exports write the
node snapshot to `prefix/PostDeschedule/pod-snapshot.csv`. -/
theorem nodeCsv_mem_exportPostDeschedule (sim : S) (unscheduledPods : List U)
    (hcsv : customConfig.nodeSnapshotCSVFilePrefix ≠ "")
    (hdir : ops.mkdirAll (customConfig.nodeSnapshotCSVFilePrefix ++ "/" ++ ops.tagPostDeschedule)) :
    ⟨customConfig.nodeSnapshotCSVFilePrefix ++ "/" ++ ops.tagPostDeschedule ++ "/" ++
      "pod-snapshot.csv", .nodeCsv sim⟩ ∈ exportPostDeschedule ops customConfig sim unscheduledPods := by
  simp [exportPostDeschedule, hcsv, hdir]

end Exports

/-! ### A whole run -/

section Run

variable {ops : SimulatorOps S Nd Pd D W U P} {cluster : ResourceTypes Nd Pd D W}
  {apps : List (AppResource (ResourceTypes Nd Pd D W))} {schedulerConfig kubeConfig : String}
  {customConfig : CustomConfig} {result : SimulateResult U P} {files : List (FileWrite S U)}

theorem descheduleStage_of_policy (ops : SimulatorOps S Nd Pd D W U P) {customConfig : CustomConfig}
    (h : customConfig.deschedulePolicy ≠ "") (sim : S) :
    descheduleStage ops customConfig sim = ((ops.descheduleCluster sim).1,
      ops.clusterGpuFragReport (ops.clusterAnalysis (ops.descheduleCluster sim).2 ops.tagPostDeschedule),
      exportPostDeschedule ops customConfig
        (ops.clusterGpuFragReport (ops.clusterAnalysis (ops.descheduleCluster sim).2
          ops.tagPostDeschedule)) (ops.descheduleCluster sim).1) := by
  rw [descheduleStage, if_pos h]

theorem descheduleStage_of_not_policy (ops : SimulatorOps S Nd Pd D W U P)
    {customConfig : CustomConfig} (h : ¬ customConfig.deschedulePolicy ≠ "") (sim : S) :
    descheduleStage ops customConfig sim = ([], sim, []) := by
  rw [descheduleStage, if_neg h]

/-- What a successful run did, stage by stage: `prepareCluster` handed `RunCluster` a state
and a cluster, `RunCluster` left `unscheduledPods`, the stages after the InitSchedule
analysis reached `sim₂`, the descheduling stage ran from there, and the apps were scheduled
one after another from the state the inflation evaluation left. The failed pods are those of
`RunCluster`, the descheduling and the apps, in that order; the nodes' status is read from
the state the last app left; the files are the InitSchedule exports, then the descheduling
stage's. -/
theorem simulate_eq_ok_inv
    (h : simulate ops cluster apps schedulerConfig kubeConfig customConfig = .ok (result, files)) :
    ∃ sim cl unscheduledPods sim₁ sim₂ trace,
      prepareCluster ops cluster schedulerConfig kubeConfig customConfig = .ok (sim, cl) ∧
      ops.runCluster sim cl = .ok (unscheduledPods, sim₁) ∧
      afterInitSchedule ops customConfig (ops.clusterAnalysis sim₁ ops.tagInitSchedule) =
        .ok sim₂ ∧
      appsTrace ops (descheduleInflation ops customConfig
        (descheduleStage ops customConfig sim₂).2.1) apps = .ok trace ∧
      files = exportInitSchedule ops customConfig (ops.clusterAnalysis sim₁ ops.tagInitSchedule)
        unscheduledPods ++ (descheduleStage ops customConfig sim₂).2.2 ∧
      result = ⟨unscheduledPods ++ (descheduleStage ops customConfig sim₂).1 ++ trace.1.flatten,
        ops.getClusterNodeStatus trace.2⟩ := by
  simp only [simulate, except_bind_eq_ok_iff, scheduleApps_eq, except_map_eq_ok_iff,
    except_pure_eq_ok, Except.ok.injEq, Prod.mk.injEq] at h
  obtain ⟨⟨sim, cl⟩, hprep, ⟨u₀, sim₁⟩, hrun, sim₂, hafter, _, ⟨trace, htrace, rfl⟩, h⟩ := h
  obtain ⟨rfl, rfl⟩ := h
  exact ⟨sim, cl, u₀, sim₁, sim₂, trace, hprep, hrun, hafter, htrace, rfl, rfl⟩

/-- The files a successful run writes: the InitSchedule exports, then the PostDeschedule
exports when a deschedule policy is set. -/
theorem simulate_files
    (h : simulate ops cluster apps schedulerConfig kubeConfig customConfig = .ok (result, files)) :
    ∃ sim unscheduledPods post,
      files = exportInitSchedule ops customConfig sim unscheduledPods ++ post ∧
      if customConfig.deschedulePolicy ≠ "" then
        ∃ sim' unscheduledPods', post = exportPostDeschedule ops customConfig sim' unscheduledPods'
      else post = [] := by
  obtain ⟨-, -, _, _, sim₂, -, -, -, -, -, rfl, -⟩ := simulate_eq_ok_inv h
  refine ⟨_, _, _, rfl, ?_⟩
  split_ifs with hp
  · rw [descheduleStage_of_policy ops hp]
    exact ⟨_, _, rfl⟩
  · rw [descheduleStage_of_not_policy ops hp]

/-- A run with a deschedule policy and a CSV prefix whose PostDeschedule directory can be
made writes a node snapshot to `prefix/PostDeschedule/pod-snapshot.csv`, and every pod
snapshot in CSV the run writes goes to `prefix/InitSchedule/pod-snapshot.csv`: the pods'
state after descheduling is never exported in CSV. -/
theorem simulate_postDeschedule_podCsv_holds_nodeSnapshot
    (h : simulate ops cluster apps schedulerConfig kubeConfig customConfig = .ok (result, files))
    (hpolicy : customConfig.deschedulePolicy ≠ "")
    (hcsv : customConfig.nodeSnapshotCSVFilePrefix ≠ "")
    (hdir : ops.mkdirAll (customConfig.nodeSnapshotCSVFilePrefix ++ "/" ++ ops.tagPostDeschedule)) :
    (∃ sim, ⟨customConfig.nodeSnapshotCSVFilePrefix ++ "/" ++ ops.tagPostDeschedule ++ "/" ++
      "pod-snapshot.csv", .nodeCsv sim⟩ ∈ files) ∧
    ∀ w ∈ files, ∀ sim, w.snapshot = .podCsv sim →
      w.path = customConfig.nodeSnapshotCSVFilePrefix ++ "/" ++ ops.tagInitSchedule ++ "/" ++
        "pod-snapshot.csv" := by
  obtain ⟨sim, unscheduledPods, post, rfl, hpost⟩ := simulate_files h
  rw [if_pos hpolicy] at hpost
  obtain ⟨sim', unscheduledPods', rfl⟩ := hpost
  refine ⟨⟨sim', List.mem_append_right _ (nodeCsv_mem_exportPostDeschedule _ _ hcsv hdir)⟩, ?_⟩
  intro w hw s hs
  rcases List.mem_append.1 hw with hw | hw
  · exact exportInitSchedule_podCsv hw hs
  · exact absurd hs (exportPostDeschedule_not_podCsv hw)

/-- A simulator on an empty cluster whose every step succeeds and changes nothing, with the
stage tags of the source's comments. -/
def emptyClusterOps : SimulatorOps Unit Unit Unit Unit Unit Unit Unit where
  new _ _ _ := .ok ()
  getValidPodExcludeDaemonSet _ := .ok []
  makeValidPodsByDaemonset _ _ := .ok []
  createClusterResourceFromClusterConfig _ := .ok ⟨[], [], [], ()⟩
  mkdirAll _ := true
  tagInitSchedule := "InitSchedule"
  tagPostDeschedule := "PostDeschedule"
  tagScheduleInflation := "ScheduleInflation"
  tagDescheduleInflation := "DescheduleInflation"
  setWorkloadPods sim _ := sim
  setTypicalPods sim := sim
  setSkylinePods sim := sim
  clusterGpuFragReport sim := sim
  seedRand sim _ := sim
  sortClusterPods sim pods := (pods, sim)
  recordPodTotalResourceReq sim _ := sim
  recordNodeTotalResource sim _ := sim
  tunePodsByNodeTotalResource sim pods _ := (pods, sim)
  runCluster sim _ := .ok ([], sim)
  clusterAnalysis sim _ := sim
  runWorkloadInflationEvaluation sim _ := sim
  descheduleCluster sim := ([], sim)
  scheduleApp sim _ := .ok ([], sim)
  getClusterNodeStatus _ := []

/-- A deschedule policy and CSV exports under `out`. -/
def descheduleExportConfig : CustomConfig := ⟨⟨0, 0⟩, "", "out", 0, "", "binPacking"⟩

end Run

/-! ### `Run` over `Simulate` -/

section Apply

variable {ops : SimulatorOps S Nd Pd D W U P} {K : Type}
  {env : ApplyEnv (ResourceTypes Nd Pd D W) K CustomConfig U P} {applier : Applier CustomConfig}

/-- When `Run`'s `Simulate` is this one, `Success!` means, for the apps and the cluster `Run`
loaded and the names it selected: the state and cluster `prepareCluster` built went through
`RunCluster` with no pod left unscheduled, `DescheduleCluster`, when a policy is set, left
none from the state the stages after InitSchedule reached, no `ScheduleApp` left any from
the state the inflation evaluation left, and the resource check accepted the status of the
nodes the last app left. -/
theorem applier_run_success_all_scheduled
    (hsim : ∀ cluster apps schedulerConfig kubeConfig customConfig,
      env.simulate cluster apps schedulerConfig kubeConfig customConfig =
        (simulate ops cluster apps schedulerConfig kubeConfig customConfig).map Prod.fst)
    (h : applier.run env = .ok .success) :
    ∃ resourceMap resourceList clusterResource selectedAppNameList sim cl sim₁ sim₂ trace,
      env.loadApps applier.appList = .ok (resourceMap, resourceList) ∧
      env.loadCluster applier.cluster = .ok clusterResource ∧
      (if applier.interactive then env.ask resourceList else pure resourceList) =
        .ok selectedAppNameList ∧
      prepareCluster ops clusterResource applier.schedulerConfig applier.cluster.kubeConfig
        applier.customConfig = .ok (sim, cl) ∧
      ops.runCluster sim cl = .ok ([], sim₁) ∧
      afterInitSchedule ops applier.customConfig (ops.clusterAnalysis sim₁ ops.tagInitSchedule) =
        .ok sim₂ ∧
      (applier.customConfig.deschedulePolicy ≠ "" → (ops.descheduleCluster sim₂).1 = []) ∧
      appsTrace ops (descheduleInflation ops applier.customConfig
          (descheduleStage ops applier.customConfig sim₂).2.1)
        (selectedResourceList env.zeroResources resourceMap selectedAppNameList) = .ok trace ∧
      (∀ pods ∈ trace.1, pods = []) ∧
      ∃ reason, satisfyResourceSetting env.toResourceEnv (ops.getClusterNodeStatus trace.2) =
        .ok (true, reason) := by
  obtain ⟨resourceMap, resourceList, clusterResource, selected, result, hload, hcl, hask, hres,
    hj⟩ := judged_of_applier_run h
  rw [hsim, except_map_eq_ok_iff] at hres
  obtain ⟨⟨_, files⟩, hrun, rfl⟩ := hres
  obtain ⟨sim, cl, u₀, sim₁, sim₂, trace, hprep, hcluster, hafter, htrace, -, rfl⟩ :=
    simulate_eq_ok_inv hrun
  obtain ⟨hnil, hcheck⟩ := (judgeSimulateResult_eq_success_iff _ _).1 hj
  simp only [List.append_eq_nil, List.flatten_eq_nil_iff] at hnil
  obtain ⟨⟨rfl, hD⟩, hpods⟩ := hnil
  refine ⟨resourceMap, resourceList, clusterResource, selected, sim, cl, sim₁, sim₂, trace, hload,
    hcl, hask, hprep, hcluster, hafter, fun hp => ?_, htrace, hpods, hcheck⟩
  rwa [descheduleStage_of_policy ops hp] at hD

/-- The apply command over `emptyClusterOps`, with the limits and storage of `halfUsedEnv`
and every loader succeeding. -/
def emptyClusterApplyEnv :
    ApplyEnv (ResourceTypes Unit Unit Unit Unit) Unit CustomConfig Unit Unit :=
  { halfUsedEnv with
    processChart := fun _ _ => .ok []
    getYamlContentFromDirectory := fun _ => .ok []
    getObjectFromYamlContent := fun _ => .ok ⟨[], [], [], ()⟩
    createKubeClient := fun _ => .ok ()
    createClusterResourceFromClient := fun _ => .ok ⟨[], [], [], ()⟩
    createClusterResourceFromClusterConfig := fun _ => .ok ⟨[], [], [], ()⟩
    ask := .ok
    simulate := fun cluster apps schedulerConfig kubeConfig customConfig =>
      (simulate emptyClusterOps cluster apps schedulerConfig kubeConfig customConfig).map Prod.fst
    zeroResources := ⟨[], [], [], ()⟩ }

/-- A custom cluster, no apps, and a deschedule policy. -/
def descheduleApplier : Applier CustomConfig :=
  ⟨⟨"", "cluster"⟩, [], "", false, descheduleExportConfig⟩

theorem applier_run_success_all_scheduled_emptyCluster :
    (∀ cluster apps schedulerConfig kubeConfig customConfig,
      emptyClusterApplyEnv.simulate cluster apps schedulerConfig kubeConfig customConfig =
        (simulate emptyClusterOps cluster apps schedulerConfig kubeConfig customConfig).map
          Prod.fst) ∧
    descheduleApplier.run emptyClusterApplyEnv = .ok .success ∧
    ∃ resourceMap resourceList clusterResource selectedAppNameList sim cl sim₁ sim₂ trace,
      emptyClusterApplyEnv.loadApps descheduleApplier.appList = .ok (resourceMap, resourceList) ∧
      emptyClusterApplyEnv.loadCluster descheduleApplier.cluster = .ok clusterResource ∧
      (if descheduleApplier.interactive then emptyClusterApplyEnv.ask resourceList
        else pure resourceList) = .ok selectedAppNameList ∧
      prepareCluster emptyClusterOps clusterResource descheduleApplier.schedulerConfig
        descheduleApplier.cluster.kubeConfig descheduleApplier.customConfig = .ok (sim, cl) ∧
      emptyClusterOps.runCluster sim cl = .ok ([], sim₁) ∧
      afterInitSchedule emptyClusterOps descheduleApplier.customConfig
        (emptyClusterOps.clusterAnalysis sim₁ emptyClusterOps.tagInitSchedule) = .ok sim₂ ∧
      (descheduleApplier.customConfig.deschedulePolicy ≠ "" →
        (emptyClusterOps.descheduleCluster sim₂).1 = []) ∧
      appsTrace emptyClusterOps (descheduleInflation emptyClusterOps descheduleApplier.customConfig
          (descheduleStage emptyClusterOps descheduleApplier.customConfig sim₂).2.1)
        (selectedResourceList emptyClusterApplyEnv.zeroResources resourceMap
          selectedAppNameList) = .ok trace ∧
      (∀ pods ∈ trace.1, pods = []) ∧
      ∃ reason, satisfyResourceSetting emptyClusterApplyEnv.toResourceEnv
        (emptyClusterOps.getClusterNodeStatus trace.2) = .ok (true, reason) :=
  have hcheck : satisfyResourceSetting halfUsedEnv ([] : List (NodeStatus Unit)) =
      .ok (true, "") := by
    show Except.ok (occupancyVerdict 100 100 100 ResourceTotals.zero) = _
    simp [occupancyVerdict, ResourceTotals.zero, milliValue, occupancyRate, int64OfFloat, F64.mul,
      F64.div, F64.ofInt]
  have hrun : descheduleApplier.run emptyClusterApplyEnv = .ok .success :=
    (judgeSimulateResult_eq_success_iff halfUsedEnv ⟨([] : List Unit), []⟩).2 ⟨rfl, _, hcheck⟩
  ⟨fun _ _ _ _ _ => rfl, hrun, applier_run_success_all_scheduled (fun _ _ _ _ _ => rfl) hrun⟩

end Apply

end KubeSchedulerSim
