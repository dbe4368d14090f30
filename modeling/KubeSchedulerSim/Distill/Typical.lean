/-
Module: KubeSchedulerSim.Distill.Typical
Purpose: `GetTypicalPods` and `SortTargetPodInDecreasingCount` (src/pkg/utils/frag.go), the
  distiller that turns the workload into the reference distribution the fragmentation
  estimator weighs nodes against. It counts every admitted request shape with a weight
  (heavier for whole-GPU requests when `GpuResWeight > 0`), lists the shapes by decreasing
  count, then grows a prefix `PodIncreaseStep` shapes at a time until it holds
  `PodPopularityThreshold` percent of the total, and renormalises what it keeps.
  Two things of the runtime are explicit here. The count map is a Go map, and `range`
  visits it in an order the runtime picks: `MapOrder` is that choice, any permutation.
  The outer loop has no bound of its own: the model carries `fuel`, the iterations left,
  and answers `none` when it runs out.
  Every `float64` operation rounds (`KubeSchedulerSim.Numeric.Float64`): the weights, the
  counts and `total` are `float64` sums, and so are `cumNumPods`, `expectedNumPods` and the
  percentages.
Trusted boundary: a workload is the list of its pods' `GetPodResource` values; the two
  `simontype` defaults are parameters (`TypicalPodsDefaults`); the order
  `sort.Sort(sort.Reverse(pl))` produces is taken from the spec (decreasing count, any
  order among equal counts); `1 + float64(GpuNumber) * GpuResWeight` is two roundings, as
  amd64 computes it (Go lets other architectures fuse it into one); the log lines are left
  out.
Main exports: TypicalPodsConfig, MapOrder, countPods, sortTargetPodInDecreasingCount,
  fillPrefix, growPrefix, getTypicalPods
-/
import KubeSchedulerSim.Resource.Types
import KubeSchedulerSim.Numeric.Float64

namespace KubeSchedulerSim

/-- `v1alpha1.TypicalPodsConfig`. -/
structure TypicalPodsConfig where
  isInvolvedCpuPods : Bool
  gpuResWeight : ℚ
  podPopularityThreshold : Int
  podIncreaseStep : Int
deriving DecidableEq, Repr

/-- `simontype.DefaultTypicalPodPopularityThreshold` and
`simontype.DefaultTypicalPodIncreaseStep` (not in the source given). -/
structure TypicalPodsDefaults where
  typicalPodPopularityThreshold : Int
  typicalPodIncreaseStep : Int
deriving DecidableEq, Repr

/-- The threshold the loop uses: the configured one when positive. -/
def TypicalPodsConfig.threshold (config : TypicalPodsConfig) (defaults : TypicalPodsDefaults) :
    Int :=
  if config.podPopularityThreshold > 0 then config.podPopularityThreshold
  else defaults.typicalPodPopularityThreshold

/-- The step the loop uses: the configured one when positive. -/
def TypicalPodsConfig.step (config : TypicalPodsConfig) (defaults : TypicalPodsDefaults) : Int :=
  if config.podIncreaseStep > 0 then config.podIncreaseStep else defaults.typicalPodIncreaseStep

/-! ### Counting -/

/-- Whether the first loop counts the request: CPU-only requests only when
`IsInvolvedCpuPods`. -/
def TypicalPodsConfig.admits (config : TypicalPodsConfig) (tgtPodRes : PodResource) : Bool :=
  !(!config.isInvolvedCpuPods && tgtPodRes.gpuNumber == 0)

/-- `weightedCnt`: whole-GPU requests weigh `1 + float64(GpuNumber) * GpuResWeight` when
`GpuResWeight > 0`, every other request `1`. -/
def TypicalPodsConfig.weightedCnt (config : TypicalPodsConfig) (tgtPodRes : PodResource) : ℚ :=
  if config.gpuResWeight > 0 ∧ tgtPodRes.milliGpu = milli then
    F64.add 1 (F64.mul (F64.ofInt tgtPodRes.gpuNumber) config.gpuResWeight)
  else 1

/-- The entries of `tgtPodResCntMap`, in the order they were first written. -/
abbrev CountMap := List (PodResource × ℚ)

/-- `tgtPodResCntMap[tgtPodRes] = cnt + weightedCnt`, or `= weightedCnt` for a new key. -/
def addCount (m : CountMap) (r : PodResource) (w : ℚ) : CountMap :=
  if r ∈ m.map Prod.fst then m.map fun e => if e.1 = r then (e.1, F64.add e.2 w) else e
  else m ++ [(r, w)]

/-- One pass of the first loop of `GetTypicalPods`: the map and `total`. -/
def countStep (config : TypicalPodsConfig) (acc : CountMap × ℚ) (tgtPodRes : PodResource) :
    CountMap × ℚ :=
  if config.admits tgtPodRes then
    let weightedCnt := config.weightedCnt tgtPodRes
    (addCount acc.1 tgtPodRes weightedCnt, F64.add acc.2 weightedCnt)
  else acc

/-- The first loop of `GetTypicalPods`. -/
def countPods (config : TypicalPodsConfig) (allPods : List PodResource) : CountMap × ℚ :=
  allPods.foldl (countStep config) ([], 0)

/-! ### Sorting -/

/-- The order `range` visits a Go map in: any order of its entries. -/
structure MapOrder where
  enumerate : CountMap → CountMap
  perm : ∀ m, List.Perm (enumerate m) m

/-- Modelled from the spec: `SortTargetPodInDecreasingCount` lists the map's entries by
decreasing count; `TargetPodList.Less`, which orders the count, is not in the source
given. `sort.Sort` is not stable, so among equal counts any order can come out; a stable
sort of any enumeration of the map reaches every such order. -/
def sortTargetPodInDecreasingCount (order : MapOrder) (tgtPodResMap : CountMap) :
    TargetPodList :=
  ((order.enumerate tgtPodResMap).map fun e => ⟨e.1, e.2⟩).mergeSort
    fun a b => decide (b.percentage ≤ a.percentage)

/-! ### Growing the prefix -/

/-- The state of the second loop: `tgtPodList` is `done ++ rest` with `i = done.length`;
the entries of `done` have been divided by `total`. -/
structure PrefixState where
  done : TargetPodList
  rest : TargetPodList
  podResNum : Int
  cumNumPods : ℚ

/-- The inner loop `for i < podResNum && i < len(tgtPodList)`. -/
def fillPrefix (total : ℚ) (podResNum : Int) :
    TargetPodList → TargetPodList → ℚ → TargetPodList × TargetPodList × ℚ
  | done, [], cumNumPods => (done, [], cumNumPods)
  | done, t :: rest, cumNumPods =>
    if (done.length : Int) < podResNum then
      fillPrefix total podResNum (done ++ [{ t with percentage := F64.div t.percentage total }])
        rest (F64.add cumNumPods t.percentage)
    else (done, t :: rest, cumNumPods)

/-- One pass of the outer loop: raise `podResNum` by the step, then run the inner loop. -/
def prefixStep (total : ℚ) (step : Int) (s : PrefixState) : PrefixState :=
  let podResNum := s.podResNum + step
  let (done, rest, cumNumPods) := fillPrefix total podResNum s.done s.rest s.cumNumPods
  ⟨done, rest, podResNum, cumNumPods⟩

/-- The outer loop `for cumNumPods < expectedNumPods`, with `fuel` iterations left. -/
def growPrefix (total expectedNumPods : ℚ) (step : Int) : Nat → PrefixState → Option PrefixState
  | 0, s => if s.cumNumPods < expectedNumPods then none else some s
  | fuel + 1, s =>
    if s.cumNumPods < expectedNumPods then
      growPrefix total expectedNumPods step fuel (prefixStep total step s)
    else some s

/-- `GetTypicalPods`: the whole list when the loop consumed every shape, otherwise the
prefix renormalised by `cumNumPods / total`. -/
def getTypicalPods (defaults : TypicalPodsDefaults) (order : MapOrder) (fuel : Nat)
    (config : TypicalPodsConfig) (allPods : List PodResource) : Option TargetPodList :=
  let (tgtPodResCntMap, total) := countPods config allPods
  let tgtPodList := sortTargetPodInDecreasingCount order tgtPodResCntMap
  let expectedNumPods := F64.div (F64.mul (F64.ofInt (config.threshold defaults)) total) 100
  (growPrefix total expectedNumPods (config.step defaults) fuel
      ⟨[], tgtPodList, 0, 0⟩).map fun s =>
    if s.done.length ≥ tgtPodList.length then s.done ++ s.rest
    else s.done.map fun t =>
      { t with percentage := F64.div t.percentage (F64.div s.cumNumPods total) }

end KubeSchedulerSim
