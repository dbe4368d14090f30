import KubeSchedulerSim.Resource.Types
import KubeSchedulerSim.Resource.Ops
import KubeSchedulerSim.Numeric.Float64
import KubeSchedulerSim.Frag.Category
import KubeSchedulerSim.Frag.Bellman
import KubeSchedulerSim.Proofs.BellmanBound
import KubeSchedulerSim.Proofs.BellmanTermination
import KubeSchedulerSim.Proofs.BellmanMemo
import KubeSchedulerSim.Frag.Amount
import KubeSchedulerSim.Distill.Skyline
import KubeSchedulerSim.Distill.Typical
import KubeSchedulerSim.Proofs.TypicalPods
import KubeSchedulerSim.Proofs.TypicalDistribution
import KubeSchedulerSim.Plugin.Pwr
import KubeSchedulerSim.Proofs.PwrChoice
import KubeSchedulerSim.Algo.Greed
import KubeSchedulerSim.Proofs.GreedOrder
import KubeSchedulerSim.Apply.Applier
import KubeSchedulerSim.Proofs.ApplierRun
import KubeSchedulerSim.Simulator.Core
import KubeSchedulerSim.Proofs.SimulateRun
