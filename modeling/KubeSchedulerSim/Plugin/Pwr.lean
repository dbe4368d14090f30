/-
Module: KubeSchedulerSim.Plugin.Pwr
Purpose: The energy-aware score plugin of src/pkg/simulator/plugin/pwr_score.go:
  `calculatePWRShareFragExtendScore`, `allocateGpuIdBasedOnPWRScore` and
  `PWRScorePlugin.Score`. A GPU-share request is tried on every GPU that can hold it; the
  node's energy rise, through a sigmoid, scores each try, and the loop keeps the first GPU
  of highest score (`gpuId == ""` marks "none yet", a later GPU replaces the kept one only
  with a strictly higher score). A whole-GPU request is scored on the node after `Sub`.
Trusted boundary: the helpers the plugin calls that are not in the source given are the
  fields of `PwrEnv`; `float64` is `ℚ`; `int64(x)` truncates toward zero;
  `framework.MaxNodeScore` and `framework.MinNodeScore` are 100 and 0.
Main exports: PwrEnv, int64OfFloat, shareOnGpu, pwrShareStep,
  calculatePWRShareFragExtendScore, allocateGpuIdBasedOnPWRScore, PwrStatus,
  PWRScorePlugin.score
-/
import KubeSchedulerSim.Resource.Ops
import Mathlib.Data.Rat.Floor

namespace KubeSchedulerSim

/-- `framework.MaxNodeScore`. -/
def maxNodeScore : Int := 100

/-- `framework.MinNodeScore`. -/
def minNodeScore : Int := 0

/-- `int64(x)` for a `float64` in range: truncation toward zero. -/
def int64OfFloat (x : ℚ) : Int :=
  if 0 ≤ x then ⌊x⌋ else ⌈x⌉

/-- What `PWRScorePlugin` calls that the source given does not define. -/
structure PwrEnv where
  /-- `NodeResource.GetEnergyConsumptionNode`: the node's CPU and GPU energy. -/
  getEnergyConsumptionNode : NodeResource → ℚ × ℚ
  /-- `sigmoid`. -/
  sigmoid : ℚ → ℚ
  /-- `simontype.AllocateExclusiveGpuId`. -/
  allocateExclusiveGpuId : NodeResource → PodResource → String
  /-- The node `NodeResource.Sub` returns together with an error. -/
  subOnError : NodeResource → PodResource → NodeResource
  /-- `NodeResource.Repr`. -/
  nodeRepr : NodeResource → String
  /-- `PodResource.Repr`. -/
  podRepr : PodResource → String

/-- `CPU_energy + GPU_energy` of a node. -/
def PwrEnv.nodeEnergy (env : PwrEnv) (n : NodeResource) : ℚ :=
  (env.getEnergyConsumptionNode n).1 + (env.getEnergyConsumptionNode n).2

/-- `int64(sigmoid((old_node_energy - new_node_energy) / 1000) * MaxNodeScore)`. -/
def PwrEnv.energyScore (env : PwrEnv) (oldNodeEnergy newNodeEnergy : ℚ) : Int :=
  int64OfFloat (env.sigmoid ((oldNodeEnergy - newNodeEnergy) / 1000) * maxNodeScore)

/-- `newNodeRes` of the loop: the request's CPU taken from the node and its GPU millis from
GPU `i`. -/
def shareOnGpu (nodeRes : NodeResource) (podRes : PodResource) (i : Nat) : NodeResource :=
  { nodeRes with
    milliCpuLeft := nodeRes.milliCpuLeft - podRes.milliCpu
    milliGpuLeftList :=
      nodeRes.milliGpuLeftList.set i (nodeRes.milliGpuLeftList.getD i 0 - podRes.milliGpu) }

/-- One pass of the loop over the node's GPUs, at GPU `i`, on `(score, gpuId)`. -/
def pwrShareStep (env : PwrEnv) (nodeRes : NodeResource) (podRes : PodResource)
    (oldNodeEnergy : ℚ) (acc : Int × String) (i : Nat) : Int × String :=
  if nodeRes.milliGpuLeftList.getD i 0 ≥ podRes.milliGpu then
    let fragScore := env.energyScore oldNodeEnergy (env.nodeEnergy (shareOnGpu nodeRes podRes i))
    if acc.2 == "" || fragScore > acc.1 then (fragScore, toString i) else acc
  else acc

/-- `calculatePWRShareFragExtendScore`: the node's score and the GPU chosen. -/
def calculatePWRShareFragExtendScore (env : PwrEnv) (nodeRes : NodeResource)
    (podRes : PodResource) (_typicalPods : TargetPodList) : Int × String :=
  let oldNodeEnergy := env.nodeEnergy nodeRes
  if podRes.gpuNumber == 1 && podRes.milliGpu < milli then
    (List.range nodeRes.milliGpuLeftList.length).foldl
      (pwrShareStep env nodeRes podRes oldNodeEnergy) (0, "")
  else
    let newNodeRes := match nodeRes.sub podRes with
      | .ok n => n
      | .error _ => env.subOnError nodeRes podRes
    (env.energyScore oldNodeEnergy (env.nodeEnergy newNodeRes),
      env.allocateExclusiveGpuId nodeRes podRes)

/-- `allocateGpuIdBasedOnPWRScore`: the GPU `calculatePWRShareFragExtendScore` chose. -/
def allocateGpuIdBasedOnPWRScore (env : PwrEnv) (nodeRes : NodeResource) (podRes : PodResource)
    (typicalPods : TargetPodList) : String :=
  (calculatePWRShareFragExtendScore env nodeRes podRes typicalPods).2

/-- `framework.Status` as `Score` builds it. -/
inductive PwrStatus where
  | success
  | error (message : String)
deriving DecidableEq, Repr

/-- `PWRScorePlugin.Score`, from what it reads: whether `PodRequestsAndLimits` is empty, the
node `GetNodeResourceViaHandleAndName` finds, and the pod's `GetPodResource`. -/
def PWRScorePlugin.score (env : PwrEnv) (podRequestsEmpty : Bool) (nodeName : String)
    (nodeResPtr : Option NodeResource) (podRes : PodResource) (typicalPods : TargetPodList) :
    Int × PwrStatus :=
  if podRequestsEmpty then (maxNodeScore, .success)
  else match nodeResPtr with
    | none => (minNodeScore, .error ("failed to get nodeRes(" ++ nodeName ++ ")\n"))
    | some nodeRes =>
      if !isNodeAccessibleToPod nodeRes podRes then
        (minNodeScore, .error ("Node (" ++ nodeName ++ ") " ++ env.nodeRepr nodeRes ++
          " does not match GPU type request of pod " ++ env.podRepr podRes ++ "\n"))
      else ((calculatePWRShareFragExtendScore env nodeRes podRes typicalPods).1, .success)

end KubeSchedulerSim
