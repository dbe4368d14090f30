/-
Module: KubeSchedulerSim.Distill.Skyline
Purpose: `GetSkylinePods` and its one consumer, `NodeGpuFragBasedOnSkyline`
  (src/pkg/utils/frag.go). The distiller sorts the workload's requests stably by
  `(MilliCpu, MilliGpu)` and sweeps, keeping a request when it has strictly more CPU and
  strictly fewer GPU millis than the last one kept. The sweep's invariant: what is kept is a
  strict staircase, drawn from the input, whose last step is at most every request still
  to come in the sort order, and which covers every request already seen by a request at
  most as large in both coordinates. The staircase is a summary of `(MilliCpu, MilliGpu)`
  only, while the usefulness test also counts GPUs, so the skyline can call a node wasted
  that a dropped request would still use (`nodeGpuFragBasedOnSkyline_gpuNumber_gap`).
Trusted boundary: a workload is the list of its pods' `GetPodResource` values.
Main exports: getSkylinePods, skylineSweep_spec, getSkylinePods_pareto,
  nodeGpuFragBasedOnSkyline, nodeGpuFragBasedOnSkyline_getSkylinePods
-/
import KubeSchedulerSim.Resource.Types

namespace KubeSchedulerSim

/-- The comparison `GetSkylinePods` hands to `sort.SliceStable`. -/
def skylineLess (a b : PodResource) : Bool :=
  decide (a.milliCpu < b.milliCpu) || (decide (a.milliCpu = b.milliCpu) && decide (a.milliGpu < b.milliGpu))

/-- Whether the sweep keeps `p` after `skylinePods`. -/
def acceptsSkyline (skylinePods : SkylinePodList) (p : PodResource) : Bool :=
  match skylinePods.getLast? with
  | none => true
  | some last => decide (p.milliCpu > last.milliCpu ∧ p.milliGpu < last.milliGpu)

/-- The sweep of `GetSkylinePods` over the sorted requests. -/
def skylineSweep : SkylinePodList → List PodResource → SkylinePodList
  | skylinePods, [] => skylinePods
  | skylinePods, p :: podResList =>
    skylineSweep (if acceptsSkyline skylinePods p then skylinePods ++ [p] else skylinePods)
      podResList

/-- `GetSkylinePods`: a stable sort by `skylineLess`, then the sweep. -/
def getSkylinePods (allPods : List PodResource) : SkylinePodList :=
  skylineSweep [] (allPods.mergeSort fun a b => !skylineLess b a)

/-- `a` asks for at most what `b` asks for, in CPU and in GPU millis. -/
def Dominates (a b : PodResource) : Prop := a.milliCpu ≤ b.milliCpu ∧ a.milliGpu ≤ b.milliGpu

instance (a b : PodResource) : Decidable (Dominates a b) :=
  inferInstanceAs (Decidable (_ ∧ _))

/-- One step of a staircase: strictly more CPU, strictly fewer GPU millis. -/
def SkylineStep (a b : PodResource) : Prop := a.milliCpu < b.milliCpu ∧ b.milliGpu < a.milliGpu

theorem skylineStep_trans {a b c : PodResource} (hab : SkylineStep a b) (hbc : SkylineStep b c) :
    SkylineStep a c :=
  ⟨hab.1.trans hbc.1, hbc.2.trans hab.2⟩

/-- Appending an accepted request keeps the staircase. -/
theorem pairwise_append_of_acceptsSkyline {S : SkylinePodList} {p : PodResource}
    (hS : S.Pairwise SkylineStep) (hacc : acceptsSkyline S p = true) :
    (S ++ [p]).Pairwise SkylineStep := by
  refine List.pairwise_append.mpr ⟨hS, List.pairwise_singleton _ _, ?_⟩
  intro s hs q hq
  rw [List.mem_singleton] at hq
  subst hq
  cases hlast : S.getLast? with
  | none => simp_all
  | some last =>
    simp only [acceptsSkyline, hlast, decide_eq_true_eq] at hacc
    have hstep : SkylineStep last q := ⟨hacc.1, hacc.2⟩
    obtain ⟨ys, rfl⟩ := List.getLast?_eq_some_iff.mp hlast
    rcases List.mem_append.mp hs with hs | hs
    · exact skylineStep_trans ((List.pairwise_append.mp hS).2.2 s hs last (by simp)) hstep
    · rw [List.mem_singleton] at hs; exact hs ▸ hstep

/-- A rejected request is covered by the last one kept, when that one is not after it in
the sort order. -/
theorem dominates_of_not_acceptsSkyline {S : SkylinePodList} {p last : PodResource}
    (hlast : S.getLast? = some last) (hacc : acceptsSkyline S p = false)
    (horder : skylineLess p last = false) : Dominates last p := by
  simp only [acceptsSkyline, hlast, decide_eq_false_iff_not] at hacc
  simp only [skylineLess, Bool.or_eq_false_iff, Bool.and_eq_false_iff, decide_eq_false_iff_not]
    at horder
  constructor <;> omega

/-- The invariant of the sweep. -/
theorem skylineSweep_spec : ∀ (rest : List PodResource) (S : SkylinePodList),
    rest.Pairwise (fun a b => !skylineLess b a) →
    (∀ last, S.getLast? = some last → ∀ q ∈ rest, skylineLess q last = false) →
    S.Pairwise SkylineStep →
    (skylineSweep S rest).Pairwise SkylineStep ∧
    (∀ s ∈ skylineSweep S rest, s ∈ S ∨ s ∈ rest) ∧
    (∀ s ∈ S, s ∈ skylineSweep S rest) ∧
    (∀ r ∈ rest, ∃ s ∈ skylineSweep S rest, Dominates s r)
  | [], S, _, _, hS => ⟨hS, fun _ h => .inl h, fun _ h => h, by simp⟩
  | p :: rest, S, hsorted, hlast, hS => by
    obtain ⟨hp, hrest⟩ := List.pairwise_cons.mp hsorted
    have hS' : (if acceptsSkyline S p then S ++ [p] else S).Pairwise SkylineStep := by
      split_ifs with hacc
      · exact pairwise_append_of_acceptsSkyline hS hacc
      · exact hS
    have hlast' : ∀ last, (if acceptsSkyline S p then S ++ [p] else S).getLast? = some last →
        ∀ q ∈ rest, skylineLess q last = false := by
      intro last hl q hq
      split_ifs at hl
      · rw [List.getLast?_concat, Option.some.injEq] at hl
        subst hl; simpa using hp q hq
      · exact hlast last hl q (List.mem_cons_of_mem _ hq)
    obtain ⟨h₁, h₂, h₃, h₄⟩ := skylineSweep_spec rest _ hrest hlast' hS'
    have hsub : ∀ s ∈ S, s ∈ (if acceptsSkyline S p then S ++ [p] else S) := by
      intro s hs; split_ifs <;> simp [hs]
    refine ⟨h₁, fun s hs => ?_, fun s hs => h₃ s (hsub s hs), ?_⟩
    · rcases h₂ s hs with hs | hs
      · split_ifs at hs
        · rcases List.mem_append.mp hs with hs | hs
          · exact .inl hs
          · exact .inr (List.mem_singleton.1 hs ▸ List.mem_cons_self _ _)
        · exact .inl hs
      · exact .inr (List.mem_cons_of_mem _ hs)
    · intro r hr
      rcases List.mem_cons.mp hr with rfl | hr
      · cases hacc : acceptsSkyline S r
        · cases hl : S.getLast? with
          | none => simp [acceptsSkyline, hl] at hacc
          | some last =>
            exact ⟨last, h₃ last (hsub last (List.mem_of_getLast?_eq_some hl)),
              dominates_of_not_acceptsSkyline hl hacc (hlast last hl r (List.mem_cons_self _ _))⟩
        · exact ⟨r, h₃ r (by simp [hacc]), le_refl _, le_refl _⟩
      · exact h₄ r hr

/-- `GetSkylinePods` returns the Pareto-minimal shapes: a strict staircase (increasing
CPU, decreasing GPU millis, so no kept request is at most another in both), drawn from the
workload, covering every request of the workload by one at most as large in both. -/
theorem getSkylinePods_pareto (allPods : List PodResource) :
    (getSkylinePods allPods).Pairwise SkylineStep ∧
    (∀ s ∈ getSkylinePods allPods, s ∈ allPods) ∧
    (∀ r ∈ allPods, ∃ s ∈ getSkylinePods allPods, Dominates s r) := by
  have hsorted := @List.sorted_mergeSort _ (fun a b => !skylineLess b a)
    (fun a b c hab hbc => by
      simp only [skylineLess, Bool.not_eq_true', Bool.or_eq_false_iff, Bool.and_eq_false_iff,
        decide_eq_false_iff_not] at hab hbc ⊢
      omega)
    (fun a b => by
      simp only [skylineLess, Bool.or_eq_true, Bool.not_eq_true', Bool.or_eq_false_iff,
        Bool.and_eq_false_iff, decide_eq_false_iff_not]
      omega)
    allPods
  obtain ⟨h₁, h₂, -, h₄⟩ := skylineSweep_spec _ [] hsorted (by simp) List.Pairwise.nil
  refine ⟨h₁, fun s hs => ?_, fun r hr => h₄ r (List.mem_mergeSort.mpr hr)⟩
  rcases h₂ s hs with hs | hs
  · cases hs
  · exact List.mem_mergeSort.mp hs

/-! ### NodeGpuFragBasedOnSkyline -/

/-- The test of `NodeGpuFragBasedOnSkyline`: the request's CPU and GPUs fit on the node. -/
def fitsOnNode (nodeRes : NodeResource) (podRes : PodResource) : Bool :=
  decide (podRes.milliCpu ≤ nodeRes.milliCpuLeft) && canNodeHostPodOnGpuMemory nodeRes podRes

/-- `NodeGpuFragBasedOnSkyline`: zero as soon as one skyline request fits, otherwise all the
node's free GPU millis. -/
def nodeGpuFragBasedOnSkyline (nodeRes : NodeResource) (skylinePods : SkylinePodList) : Int :=
  if skylinePods.any (fitsOnNode nodeRes) then 0 else getGpuMilliLeftTotal nodeRes

/-- A request fits wherever a larger one fits, as long as it asks for no more GPUs (or at
most one). -/
theorem fitsOnNode_of_dominates {n : NodeResource} {a b : PodResource} (hdom : Dominates a b)
    (hnum : a.gpuNumber ≤ max b.gpuNumber 1) (h : fitsOnNode n b = true) :
    fitsOnNode n a = true := by
  simp only [fitsOnNode, Bool.and_eq_true, decide_eq_true_eq, canNodeHostPodOnGpuMemory,
    canHostLoop_eq_true_iff] at h ⊢
  have hcount : fittingGpus b.milliGpu n.milliGpuLeftList ≤ fittingGpus a.milliGpu n.milliGpuLeftList :=
    List.countP_mono_left fun x _ hx => by
      simp only [decide_eq_true_eq] at hx ⊢; have := hdom.2; omega
  refine ⟨by have := hdom.1; omega, ?_⟩
  have : (fittingGpus b.milliGpu n.milliGpuLeftList : Int) ≤ fittingGpus a.milliGpu n.milliGpuLeftList :=
    Int.ofNat_le.mpr hcount
  omega

/-- The skyline only over-reports waste: a node the workload finds wasted the skyline finds
wasted too. It reports exactly what the workload does when GPU counts never grow as requests
get smaller (a request at most another in CPU and GPU millis asks for at most as many GPUs,
or for at most one); in particular when every request asks for at most one GPU. -/
theorem nodeGpuFragBasedOnSkyline_getSkylinePods (n : NodeResource) (W : List PodResource) :
    (nodeGpuFragBasedOnSkyline n W = getGpuMilliLeftTotal n →
      nodeGpuFragBasedOnSkyline n (getSkylinePods W) = getGpuMilliLeftTotal n) ∧
    ((∀ a ∈ W, ∀ b ∈ W, Dominates a b → a.gpuNumber ≤ max b.gpuNumber 1) →
      nodeGpuFragBasedOnSkyline n (getSkylinePods W) = nodeGpuFragBasedOnSkyline n W) := by
  obtain ⟨-, hsub, hcover⟩ := getSkylinePods_pareto W
  have hmono : (getSkylinePods W).any (fitsOnNode n) = true → W.any (fitsOnNode n) = true := by
    simp only [List.any_eq_true]
    rintro ⟨s, hs, hfit⟩
    exact ⟨s, hsub s hs, hfit⟩
  refine ⟨fun hW => ?_, fun hnum => ?_⟩
  · unfold nodeGpuFragBasedOnSkyline at hW ⊢
    split_ifs at hW ⊢ with hS h
    · exact hW
    · exact absurd (hmono hS) h
    · rfl
    · rfl
  · have : (getSkylinePods W).any (fitsOnNode n) = W.any (fitsOnNode n) := by
      refine Bool.eq_iff_iff.mpr ⟨hmono, fun h => ?_⟩
      obtain ⟨w, hw, hfit⟩ := List.any_eq_true.mp h
      obtain ⟨s, hs, hdom⟩ := hcover w hw
      exact List.any_eq_true.mpr ⟨s, hs,
        fitsOnNode_of_dominates hdom (hnum s (hsub s hs) w hw hdom) hfit⟩
    simp only [nodeGpuFragBasedOnSkyline, this]

/-- A workload of one-GPU requests on a one-GPU node. -/
theorem nodeGpuFragBasedOnSkyline_getSkylinePods_oneGpu :
    (∀ a ∈ [(⟨500, 0, 500, 1, ""⟩ : PodResource), ⟨1000, 0, 1000, 1, ""⟩],
      ∀ b ∈ [(⟨500, 0, 500, 1, ""⟩ : PodResource), ⟨1000, 0, 1000, 1, ""⟩],
        Dominates a b → a.gpuNumber ≤ max b.gpuNumber 1) ∧
    nodeGpuFragBasedOnSkyline ⟨"node", 2000, 0, [1000], ""⟩
        (getSkylinePods [⟨500, 0, 500, 1, ""⟩, ⟨1000, 0, 1000, 1, ""⟩]) =
      nodeGpuFragBasedOnSkyline ⟨"node", 2000, 0, [1000], ""⟩
        [⟨500, 0, 500, 1, ""⟩, ⟨1000, 0, 1000, 1, ""⟩] := by
  have h : ∀ a ∈ [(⟨500, 0, 500, 1, ""⟩ : PodResource), ⟨1000, 0, 1000, 1, ""⟩],
      ∀ b ∈ [(⟨500, 0, 500, 1, ""⟩ : PodResource), ⟨1000, 0, 1000, 1, ""⟩],
        Dominates a b → a.gpuNumber ≤ max b.gpuNumber 1 := by decide
  exact ⟨h, (nodeGpuFragBasedOnSkyline_getSkylinePods _ _).2 h⟩

/-- Half a CPU and a whole GPU on each of eight GPUs. -/
def eightGpuPod : PodResource := ⟨500, 0, 1000, 8, ""⟩

/-- A whole CPU and one whole GPU. -/
def oneGpuPod : PodResource := ⟨1000, 0, 1000, 1, ""⟩

/-- Two CPUs and one idle GPU. -/
def oneGpuNode : NodeResource := ⟨"node", 2000, 0, [1000], ""⟩

/-- The eight-GPU request is at most the one-GPU request in CPU and GPU millis, so the sweep
drops the one-GPU request; the node can host the one-GPU request but not the eight-GPU one,
so the skyline calls the node wasted while the workload would still use it. -/
theorem nodeGpuFragBasedOnSkyline_gpuNumber_gap :
    getSkylinePods [eightGpuPod, oneGpuPod] = [eightGpuPod] ∧
    nodeGpuFragBasedOnSkyline oneGpuNode (getSkylinePods [eightGpuPod, oneGpuPod]) = 1000 ∧
    nodeGpuFragBasedOnSkyline oneGpuNode [eightGpuPod, oneGpuPod] = 0 := by
  have hsky : getSkylinePods [eightGpuPod, oneGpuPod] = [eightGpuPod] := by
    rw [getSkylinePods, List.mergeSort_of_sorted (by decide)]
    rfl
  exact ⟨hsky, by rw [hsky]; rfl, rfl⟩

end KubeSchedulerSim
