/-
Module: KubeSchedulerSim.Apply.Applier
Purpose: The command that runs one simulation (src/pkg/apply/apply.go). `NewApplier` reads
  the Simon config file into an applier and `validate` checks it before anything runs:
  exactly one cluster source, and every path it names must exist. `Applier.Run` loads every
  app (a Helm chart or a directory of manifests) into `resourceMap` under its name, loads the
  cluster, picks the apps to deploy, hands them to `simulator.Simulate`, and judges the
  outcome: with every pod scheduled, `satisfyResourceSetting` compares the cluster's average
  CPU, memory and volume-group occupancy with limits read from the environment.
Trusted boundary: what `Run` and `satisfyResourceSetting` call that src/ does not define is
  a field of `ApplyEnv` and `ResourceEnv` (charts and YAML, the kube client, the interactive
  survey, `Simulate`, `os.Getenv`, `strconv.Atoi`, the storage annotation's JSON, the two pod
  helpers of utils, and the names of the three environment variables); reading and decoding
  the config file are the fields of `ConfigEnv`; `os.Stat` is `Stat`; `log.Fatalf` and
  `os.Exit(1)` end the process, as `ApplyError.fatal` and `NewApplierError`;
  `resource.Quantity` is `ℚ` and `MilliValue` rounds up. The occupancy rates are computed in
  `float64` (`KubeSchedulerSim.Numeric.Float64`): each conversion, the division and the
  product by 100 round, and Go's `int(x)` truncates toward zero. A rate over a zero total is
  `NaN` or an infinity in Go, whose conversion to `int` Go leaves to the implementation; the
  model divides by zero as `ℚ` does, giving the rate `0`.
Main exports: Cluster, AppInfo, Applier, validate, Options, ConfigEnv, newApplier,
  AppResource, NodeStatus, SimulateResult, ResourceEnv, occupancyRate, satisfyResourceSetting,
  ApplyEnv, ApplyEnv.loadApps, selectedResourceList, judgeSimulateResult, Applier.run
-/
import KubeSchedulerSim.Plugin.Pwr
import KubeSchedulerSim.Numeric.Float64

namespace KubeSchedulerSim

/-! ### The applier and `validate` -/

/-- `v1alpha1.Cluster`: a real cluster through a kubeconfig, or a simulated one described
by a directory of manifests. -/
structure Cluster where
  kubeConfig : String
  customCluster : String
deriving DecidableEq, Repr

/-- `v1alpha1.AppInfo`. -/
structure AppInfo where
  name : String
  path : String
  chart : Bool
deriving DecidableEq, Repr

/-- `Applier`, with the fields `validate` and `Run` read; `C` is `v1alpha1.CustomConfig`,
which `Run` only passes on to `Simulate`. -/
structure Applier (C : Type) where
  cluster : Cluster
  appList : List AppInfo
  schedulerConfig : String
  interactive : Bool
  customConfig : C

/-- `os.Stat` on a path: `none` when it succeeds, the error's text otherwise. -/
abbrev Stat := String → Option String

/-- One path check of `validate`: `fmt.Errorf(pre + "%v ", err)` when `os.Stat` fails. -/
def statCheck (stat : Stat) (path pre : String) : Except String Unit :=
  match stat path with
  | some err => .error (pre ++ err ++ " ")
  | none => .ok ()

/-- `validate`. -/
def validate {C : Type} (stat : Stat) (applier : Applier C) : Except String Unit := do
  let kubeConfig := applier.cluster.kubeConfig
  let customCluster := applier.cluster.customCluster
  if kubeConfig.length = 0 ∧ customCluster.length = 0 ∨
      kubeConfig.length ≠ 0 ∧ customCluster.length ≠ 0 then
    throw "only one of values of both kubeConfig and customConfig must exist "
  if kubeConfig.length ≠ 0 then statCheck stat kubeConfig "invalid path of kubeConfig: "
  if customCluster.length ≠ 0 then statCheck stat customCluster "invalid path of customConfig: "
  if applier.schedulerConfig.length ≠ 0 then
    statCheck stat applier.schedulerConfig "invalid path of scheduler config: "
  applier.appList.forM fun app =>
    statCheck stat app.path ("invalid path of " ++ app.name ++ " app: ")

/-! ### `NewApplier` -/

/-- `Options`, without `UseGreed` and `ExtendedResources`, which `Run` never reads. -/
structure Options where
  simonConfig : String
  defaultSchedulerConfigFile : String
  interactive : Bool
deriving DecidableEq, Repr

/-- The part of `v1alpha1.Simon`'s spec `NewApplier` reads. -/
structure SimonSpec (C : Type) where
  cluster : Cluster
  appList : List AppInfo
  customConfig : C

/-- What `NewApplier` calls that src/ does not define, each with its error's text. -/
structure ConfigEnv (C : Type) where
  /-- `ioutil.ReadFile`. -/
  readFile : String → Except String String
  /-- `yaml.YAMLToJSON`. -/
  yamlToJSON : String → Except String String
  /-- `json.Unmarshal` into a `v1alpha1.Simon`. -/
  unmarshalSimon : String → Except String (SimonSpec C)
  stat : Stat

/-- How `NewApplier` ends the process: `log.Fatalf`, or `validate`'s error printed before
`os.Exit(1)`. -/
inductive NewApplierError where
  | fatal (msg : String)
  | exit (printed : String)
deriving DecidableEq, Repr

/-- `NewApplier`. -/
def newApplier {C : Type} (env : ConfigEnv C) (opts : Options) : Except NewApplierError (Applier C) := do
  let configFile ← (env.readFile opts.simonConfig).mapError fun err =>
    .fatal ("failed to read config file(" ++ opts.simonConfig ++ "): " ++ err)
  let configJSON ← (env.yamlToJSON configFile).mapError fun err =>
    .fatal ("failed to unmarshal config file(" ++ opts.simonConfig ++ ") to json: " ++ err)
  let simonCR ← (env.unmarshalSimon configJSON).mapError fun err =>
    .fatal ("failed to unmarshal config json to object: " ++ err)
  let applier : Applier C := {
    cluster := simonCR.cluster
    appList := simonCR.appList
    customConfig := simonCR.customConfig
    schedulerConfig := opts.defaultSchedulerConfigFile
    interactive := opts.interactive }
  (validate env.stat applier).mapError .exit
  pure applier

/-! ### `satisfyResourceSetting` -/

/-- `simulator.AppResource`. -/
structure AppResource (R : Type) where
  name : String
  resource : R

/-- What is read of a `simontype.NodeStatus`: the node's name, its allocatable CPU and
memory, its local-storage annotation, and the pods placed on it. -/
structure NodeStatus (P : Type) where
  nodeName : String
  allocatableCpu : ℚ
  allocatableMemory : ℚ
  localStorage : Option String
  pods : List P

/-- `simontype.SimulateResult`. -/
structure SimulateResult (U P : Type) where
  unscheduledPods : List U
  nodeStatus : List (NodeStatus P)

/-- A volume group of a node's local-storage annotation, in bytes. -/
structure VG where
  requested : Int
  capacity : Int
deriving DecidableEq, Repr

/-- What `satisfyResourceSetting` calls that src/ does not define. -/
structure ResourceEnv (P : Type) where
  /-- `os.Getenv`: `""` when unset. -/
  getenv : String → String
  /-- `strconv.Atoi`, its error's text on failure. -/
  atoi : String → Except String Int
  /-- `simontype.EnvMaxCPU`. -/
  envMaxCPU : String
  /-- `simontype.EnvMaxMemory`. -/
  envMaxMemory : String
  /-- `simontype.EnvMaxVG`. -/
  envMaxVG : String
  /-- `ffjson.Unmarshal` of the annotation into `utils.NodeStorage`: its volume groups, or
  `none` when it fails. -/
  unmarshalNodeStorage : String → Option (List VG)
  /-- `utils.GetAllPodsPtrFromNodeStatus`. -/
  getAllPodsPtrFromNodeStatus : List (NodeStatus P) → List P
  /-- The CPU and memory requests of `utils.GetPodsTotalRequestsAndLimitsByNodeName`. -/
  getPodsTotalRequestsByNodeName : List P → String → ℚ × ℚ

variable {P : Type}

/-- One of the three limits: `100` when the variable is empty; a set value must parse, and
one above `100` or below `0` becomes `100`. -/
def ResourceEnv.limit (env : ResourceEnv P) (name : String) : Except String Int :=
  let str := env.getenv name
  if str ≠ "" then
    match env.atoi str with
    | .error e => .error ("failed to convert env " ++ name ++ " to int: " ++ e ++ " ")
    | .ok v => .ok (if v > 100 ∨ v < 0 then 100 else v)
  else .ok 100

/-- The sums of the loop over the node statuses. -/
structure ResourceTotals where
  allocatableCpu : ℚ
  allocatableMemory : ℚ
  usedCpu : ℚ
  usedMemory : ℚ
  vgRequested : Int
  vgCapacity : Int
deriving DecidableEq, Repr

/-- The sums before the loop. -/
def ResourceTotals.zero : ResourceTotals := ⟨0, 0, 0, 0, 0, 0⟩

/-- The volume groups of one annotation, added to the sums. -/
def ResourceTotals.addVGs (acc : ResourceTotals) (vgs : List VG) : ResourceTotals :=
  vgs.foldl (fun acc vg => { acc with
    vgRequested := acc.vgRequested + vg.requested
    vgCapacity := acc.vgCapacity + vg.capacity }) acc

/-- One pass of the loop over the node statuses: the node's allocatable resources, the
requests of its pods, and the volume groups of its annotation, which must parse. -/
def ResourceEnv.totalsStep (env : ResourceEnv P) (allPods : List P) (acc : ResourceTotals)
    (status : NodeStatus P) : Except String ResourceTotals :=
  let reqs := env.getPodsTotalRequestsByNodeName allPods status.nodeName
  let acc : ResourceTotals := { acc with
    allocatableCpu := acc.allocatableCpu + status.allocatableCpu
    allocatableMemory := acc.allocatableMemory + status.allocatableMemory
    usedCpu := acc.usedCpu + reqs.1
    usedMemory := acc.usedMemory + reqs.2 }
  match status.localStorage with
  | none => .ok acc
  | some nodeStorageStr =>
    match env.unmarshalNodeStorage nodeStorageStr with
    | none => .error ("error when unmarshal json data, node is " ++ status.nodeName ++ "\n")
    | some vgs => .ok (acc.addVGs vgs)

/-- `Quantity.MilliValue`: the quantity in thousandths, rounded up. -/
def milliValue (q : ℚ) : Int := ⌈q * 1000⌉

/-- `int(float64(used) / float64(total) * 100)`, every step in `float64`. -/
def occupancyRate (used total : Int) : Int :=
  int64OfFloat (F64.mul (F64.div (F64.ofInt used) (F64.ofInt total)) 100)

/-- The text of a rejection. -/
def overMessage (resource : String) (rate limit : Int) : String :=
  "the average occupancy rate(" ++ toString rate ++ "%) of " ++ resource ++
    " goes beyond the env setting(" ++ toString limit ++ "%)\n"

/-- The verdict on the sums, against the three limits: CPU first, then memory, then the
volume groups when any capacity exists. -/
def occupancyVerdict (maxcpu maxmem maxvg : Int) (totals : ResourceTotals) : Bool × String :=
  let cpuOccupancyRate :=
    occupancyRate (milliValue totals.usedCpu) (milliValue totals.allocatableCpu)
  let memoryOccupancyRate :=
    occupancyRate (milliValue totals.usedMemory) (milliValue totals.allocatableMemory)
  if cpuOccupancyRate > maxcpu then (false, overMessage "cpu" cpuOccupancyRate maxcpu)
  else if memoryOccupancyRate > maxmem then
    (false, overMessage "memory" memoryOccupancyRate maxmem)
  else if totals.vgCapacity ≠ 0 then
    let vgOccupancyRate := occupancyRate totals.vgRequested totals.vgCapacity
    if vgOccupancyRate > maxvg then (false, overMessage "vg" vgOccupancyRate maxvg)
    else (true, "")
  else (true, "")

/-- `satisfyResourceSetting`: the three limits, then the sums over the node statuses, then
the verdict. -/
def satisfyResourceSetting (env : ResourceEnv P) (nodeStatuses : List (NodeStatus P)) :
    Except String (Bool × String) := do
  let maxcpu ← env.limit env.envMaxCPU
  let maxmem ← env.limit env.envMaxMemory
  let maxvg ← env.limit env.envMaxVG
  let allPods := env.getAllPodsPtrFromNodeStatus nodeStatuses
  let totals ← nodeStatuses.foldlM (env.totalsStep allPods) ResourceTotals.zero
  pure (occupancyVerdict maxcpu maxmem maxvg totals)

/-! ### `Applier.Run` -/

/-- What `Run` calls that src/ does not define, beyond `satisfyResourceSetting`'s. `R` is
`simulator.ResourceTypes`, `K` the kube client, `C` the custom config, `U` an unscheduled
pod. -/
structure ApplyEnv (R K C U P : Type) extends ResourceEnv P where
  /-- `chart.ProcessChart(name, path)`. -/
  processChart : String → String → Except String (List String)
  /-- `utils.GetYamlContentFromDirectory(path)`. -/
  getYamlContentFromDirectory : String → Except String (List String)
  /-- `simulator.GetObjectFromYamlContent(content)`. -/
  getObjectFromYamlContent : List String → Except String R
  /-- `utils.CreateKubeClient(kubeConfig)`. -/
  createKubeClient : String → Except String K
  /-- `simulator.CreateClusterResourceFromClient(client)`. -/
  createClusterResourceFromClient : K → Except String R
  /-- `simulator.CreateClusterResourceFromClusterConfig(path)`. -/
  createClusterResourceFromClusterConfig : String → Except String R
  /-- The names the user ticks in `survey.Ask` among the given ones, or its error. -/
  ask : List String → Except String (List String)
  /-- `simulator.Simulate(cluster, apps, WithSchedulerConfig(s), WithKubeConfig(k),
  WithCustomConfig(c))`. -/
  simulate : R → List (AppResource R) → String → String → C → Except String (SimulateResult U P)
  /-- The zero `ResourceTypes`, what `resourceMap[name]` gives for a name it lacks. -/
  zeroResources : R

/-- How `Run` fails: an error it returns, or `log.Fatalf`, which ends the process. -/
inductive ApplyError where
  | returned (err : String)
  | fatal (msg : String)
deriving DecidableEq, Repr

/-- How `Run` ends when it returns `nil`: `Success!`, or `Failed!` after the reason the
resource check printed, or after the count of unscheduled pods. -/
inductive RunVerdict where
  | success
  | unsatisfied (reason : String)
  | unscheduled (count : Nat)
deriving DecidableEq, Repr

variable {R K C U : Type}

/-- The body of the first loop of `Run`: an app's manifests, from its chart or its
directory, turned into objects. -/
def ApplyEnv.loadApp (env : ApplyEnv R K C U P) (app : AppInfo) : Except String R := do
  let content ← if app.chart then env.processChart app.name app.path
    else env.getYamlContentFromDirectory app.path
  env.getObjectFromYamlContent content

/-- The first loop of `Run`: `resourceMap[app.Name] = appResource`, the name appended to
`resourceList`, stopping at the first error. -/
def ApplyEnv.loadApps (env : ApplyEnv R K C U P) (appList : List AppInfo) :
    Except String ((String → Option R) × List String) :=
  appList.foldlM (fun acc app => do
      let appResource ← env.loadApp app
      pure (Function.update acc.1 app.name (some appResource), acc.2 ++ [app.name]))
    (fun _ => none, [])

/-- The cluster: through the kube client when a kubeconfig is set, from the custom cluster's
manifests otherwise. -/
def ApplyEnv.loadCluster (env : ApplyEnv R K C U P) (cluster : Cluster) : Except String R :=
  if cluster.kubeConfig ≠ "" then do
    let kubeclient ← env.createKubeClient cluster.kubeConfig
    env.createClusterResourceFromClient kubeclient
  else env.createClusterResourceFromClusterConfig cluster.customCluster

/-- `selectedResourceList`: each selected name with what `resourceMap` holds for it. -/
def selectedResourceList (zero : R) (resourceMap : String → Option R) (names : List String) :
    List (AppResource R) :=
  names.map fun name => ⟨name, (resourceMap name).getD zero⟩

/-- The end of `Run`: with every pod scheduled, the resource check decides. -/
def judgeSimulateResult (env : ResourceEnv P) (result : SimulateResult U P) :
    Except ApplyError RunVerdict :=
  if result.unscheduledPods.length = 0 then
    match satisfyResourceSetting env result.nodeStatus with
    | .error err => .error (.returned err)
    | .ok (false, reason) => .ok (.unsatisfied reason)
    | .ok (true, _) => .ok .success
  else .ok (.unscheduled result.unscheduledPods.length)

/-- `Applier.Run`. -/
def Applier.run (env : ApplyEnv R K C U P) (applier : Applier C) :
    Except ApplyError RunVerdict := do
  let (resourceMap, resourceList) ← (env.loadApps applier.appList).mapError .returned
  let clusterResource ← (env.loadCluster applier.cluster).mapError .returned
  let selectedAppNameList ←
    if applier.interactive then (env.ask resourceList).mapError .fatal else pure resourceList
  let result ← (env.simulate clusterResource
    (selectedResourceList env.zeroResources resourceMap selectedAppNameList)
    applier.schedulerConfig applier.cluster.kubeConfig applier.customConfig).mapError .returned
  judgeSimulateResult env.toResourceEnv result

end KubeSchedulerSim
