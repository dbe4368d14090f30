/-
Module: KubeSchedulerSim.Frag.Bellman
Purpose: `NodeGpuFragBellman` (src/pkg/utils/frag.go), the expected-fragmentation recursion
  FGD scores with. The value of a node is its GPU total when the typical pods already see
  all of it as fragmented, zero when nothing is left or the path probability `cumProb` has
  made the node negligible, and otherwise the probability-weighted sum over the typical
  pods of what remains after placing each one (or the whole total when it does not fit).
  Values are cached in a table shared by every call of a scheduling cycle and keyed by
  the node alone. The source recurses without a bound, so the model carries `fuel`, the
  depth left, and answers `none` when it runs out; `nodeGpuFragBellman_mono_le` says that
  more fuel never changes an answer.
Trusted boundary: `float64` is `ℚ`; the table is sequential (the races of concurrent
  scorers are outside a functional model).
Main exports: Memo, bellmanPods, nodeGpuFragBellman, nodeGpuFragBellman_eq_some,
  nodeGpuFragBellman_mono_le
-/
import KubeSchedulerSim.Frag.Category

namespace KubeSchedulerSim

/-! ### The table -/

/-- The `sync.Map` of `NodeGpuFragBellman`: the latest `Store` for a key shadows the
earlier ones. -/
structure Memo where
  entries : List (NodeResourceFlat × ℚ)

/-- The table a scheduling cycle starts with. -/
def Memo.empty : Memo := ⟨[]⟩

/-- `dp.Load`. -/
def Memo.load (dp : Memo) (k : NodeResourceFlat) : Option ℚ := dp.entries.lookup k

/-- `dp.Store`. -/
def Memo.store (dp : Memo) (k : NodeResourceFlat) (v : ℚ) : Memo := ⟨(k, v) :: dp.entries⟩

@[simp] theorem Memo.load_empty (k : NodeResourceFlat) : Memo.empty.load k = none := rfl

@[simp] theorem Memo.load_store (dp : Memo) (k k' : NodeResourceFlat) (v : ℚ) :
    (dp.store k v).load k' = if k' = k then some v else dp.load k' := by
  by_cases h : k' = k
  · simp [Memo.store, Memo.load, h]
  · have hb : (k' == k) = false := by simpa using h
    simp [Memo.store, Memo.load, List.lookup_cons, h, hb]

/-! ### The recursion -/

/-- `gamma`, the discount of the source, `1.0`. -/
def bellmanGamma : ℚ := 1

/-- `delta`, the frag-ratio mass at which the recursion stops, `0.999`. -/
def bellmanDelta : ℚ := 999 / 1000

/-- The loop over the typical pods of `NodeGpuFragBellman`, given the recursive call.
A pod that `Sub` refuses adds the node's whole GPU total at its probability; one that fits
adds the value of the node it leaves, at its probability, reached with the path probability
multiplied by it. -/
def bellmanPods (bellman : NodeResource → Memo → ℚ → Option (ℚ × Memo))
    (nodeRes : NodeResource) (gpuMilliLeftTotal cumProb : ℚ) :
    TargetPodList → ℚ → Memo → Option (ℚ × Memo)
  | [], pvSum, dp => some (pvSum, dp)
  | pod :: pods, pvSum, dp =>
    let p := pod.percentage
    match nodeRes.sub pod.targetPodResource with
    | .error _ => bellmanPods bellman nodeRes gpuMilliLeftTotal cumProb pods
        (pvSum + gpuMilliLeftTotal * p) dp
    | .ok newNodeRes =>
      match bellman newNodeRes dp (cumProb * p) with
      | none => none
      | some (v, dp') => bellmanPods bellman nodeRes gpuMilliLeftTotal cumProb pods
          (pvSum + v * p) dp'

/-- The body of `NodeGpuFragBellman` for one node, given the recursive call for the nodes
it reaches. -/
def bellmanCall (typicalPods : TargetPodList)
    (bellman : NodeResource → Memo → ℚ → Option (ℚ × Memo))
    (nodeRes : NodeResource) (dp : Memo) (cumProb : ℚ) : Option (ℚ × Memo) :=
  let nodeResKey := nodeRes.flatten "bellman"
  match dp.load nodeResKey with
  | some frag => some (frag, dp)
  | none =>
    let gpuMilliLeftTotal : ℚ := getGpuMilliLeftTotal nodeRes
    if gpuMilliLeftTotal = 0 then some (0, dp)
    else if gpuMilliLeftTotal * cumProb < 1 then some (0, dp)
    else if (nodeGpuFragRatio nodeRes typicalPods).fragRatioSumExceptQ3 < bellmanDelta then
      match bellmanPods bellman nodeRes gpuMilliLeftTotal cumProb typicalPods 0 dp with
      | none => none
      | some (pvSum, dp') =>
        let frag := 0 + pvSum * bellmanGamma
        some (frag, dp'.store nodeResKey frag)
    else some (gpuMilliLeftTotal, dp.store nodeResKey gpuMilliLeftTotal)

/-- `NodeGpuFragBellman`, with `fuel` the depth of recursion left. -/
def nodeGpuFragBellman (typicalPods : TargetPodList) :
    Nat → NodeResource → Memo → ℚ → Option (ℚ × Memo)
  | 0, _, _, _ => none
  | fuel + 1, nodeRes, dp, cumProb =>
    bellmanCall typicalPods (nodeGpuFragBellman typicalPods fuel) nodeRes dp cumProb

@[simp] theorem nodeGpuFragBellman_zero (P : TargetPodList) (n : NodeResource) (dp : Memo)
    (c : ℚ) : nodeGpuFragBellman P 0 n dp c = none := rfl

@[simp] theorem nodeGpuFragBellman_succ (P : TargetPodList) (fuel : Nat) (n : NodeResource)
    (dp : Memo) (c : ℚ) :
    nodeGpuFragBellman P (fuel + 1) n dp c =
      bellmanCall P (nodeGpuFragBellman P fuel) n dp c := rfl

/-! ### What one call can do -/

section Inversion

variable {P : TargetPodList} {bellman : NodeResource → Memo → ℚ → Option (ℚ × Memo)}
  {n : NodeResource} {dp dp' : Memo} {c v : ℚ}

/-- The four ways a call can return: a table hit, a cutoff to zero, the frag-ratio cutoff
to the whole total (stored), or the sum over the typical pods (stored). -/
theorem bellmanCall_eq_some (h : bellmanCall P bellman n dp c = some (v, dp')) :
    (dp.load (n.flatten "bellman") = some v ∧ dp' = dp) ∨
    (dp.load (n.flatten "bellman") = none ∧
      ((getGpuMilliLeftTotal n : ℚ) = 0 ∨ (getGpuMilliLeftTotal n : ℚ) * c < 1) ∧
      v = 0 ∧ dp' = dp) ∨
    (dp.load (n.flatten "bellman") = none ∧ (getGpuMilliLeftTotal n : ℚ) ≠ 0 ∧
      1 ≤ (getGpuMilliLeftTotal n : ℚ) * c ∧
      bellmanDelta ≤ (nodeGpuFragRatio n P).fragRatioSumExceptQ3 ∧
      v = getGpuMilliLeftTotal n ∧ dp' = dp.store (n.flatten "bellman") v) ∨
    (dp.load (n.flatten "bellman") = none ∧ (getGpuMilliLeftTotal n : ℚ) ≠ 0 ∧
      1 ≤ (getGpuMilliLeftTotal n : ℚ) * c ∧
      (nodeGpuFragRatio n P).fragRatioSumExceptQ3 < bellmanDelta ∧
      ∃ pvSum dp'', bellmanPods bellman n (getGpuMilliLeftTotal n) c P 0 dp
          = some (pvSum, dp'') ∧
        v = 0 + pvSum * bellmanGamma ∧ dp' = dp''.store (n.flatten "bellman") v) := by
  dsimp only [bellmanCall] at h
  cases hload : dp.load (n.flatten "bellman") with
  | some frag =>
    simp only [hload, Option.some.injEq, Prod.mk.injEq] at h
    exact .inl ⟨h.1 ▸ rfl, h.2.symm⟩
  | none =>
    simp only [hload] at h
    split_ifs at h with h₀ h₁ h₂
    · simp only [Option.some.injEq, Prod.mk.injEq] at h
      exact .inr (.inl ⟨rfl, .inl h₀, h.1.symm, h.2.symm⟩)
    · simp only [Option.some.injEq, Prod.mk.injEq] at h
      exact .inr (.inl ⟨rfl, .inr h₁, h.1.symm, h.2.symm⟩)
    · split at h
      · cases h
      · next pvSum dp'' hpods =>
        simp only [Option.some.injEq, Prod.mk.injEq] at h
        exact .inr (.inr (.inr ⟨rfl, h₀, not_lt.mp h₁, h₂, pvSum, dp'', hpods, h.1.symm,
          h.1 ▸ h.2.symm⟩))
    · simp only [Option.some.injEq, Prod.mk.injEq] at h
      exact .inr (.inr (.inl ⟨rfl, h₀, not_lt.mp h₁, not_lt.mp h₂, h.1.symm, h.1 ▸ h.2.symm⟩))

/-- A call runs out of fuel only inside its loop over the typical pods. -/
theorem bellmanCall_eq_none (h : bellmanCall P bellman n dp c = none) :
    dp.load (n.flatten "bellman") = none ∧ (getGpuMilliLeftTotal n : ℚ) ≠ 0 ∧
      1 ≤ (getGpuMilliLeftTotal n : ℚ) * c ∧
      (nodeGpuFragRatio n P).fragRatioSumExceptQ3 < bellmanDelta ∧
      bellmanPods bellman n (getGpuMilliLeftTotal n) c P 0 dp = none := by
  dsimp only [bellmanCall] at h
  cases hload : dp.load (n.flatten "bellman") with
  | some frag => simp [hload] at h
  | none =>
    simp only [hload] at h
    split_ifs at h with h₀ h₁ h₂
    · split at h
      · next hpods => exact ⟨rfl, h₀, not_lt.mp h₁, h₂, hpods⟩
      · cases h

/-- One pod of the loop, when `Sub` refuses it. -/
theorem bellmanPods_cons_error {g : ℚ} {pod : TargetPod} {pods : TargetPodList}
    {pvSum : ℚ} {e : SubError} (hsub : n.sub pod.targetPodResource = .error e) :
    bellmanPods bellman n g c (pod :: pods) pvSum dp =
      bellmanPods bellman n g c pods (pvSum + g * pod.percentage) dp := by
  simp only [bellmanPods, hsub]

/-- One pod of the loop, when `Sub` places it. -/
theorem bellmanPods_cons_ok {g : ℚ} {pod : TargetPod} {pods : TargetPodList}
    {pvSum : ℚ} {n' : NodeResource} (hsub : n.sub pod.targetPodResource = .ok n') :
    bellmanPods bellman n g c (pod :: pods) pvSum dp =
      (bellman n' dp (c * pod.percentage)).bind fun r =>
        bellmanPods bellman n g c pods (pvSum + r.1 * pod.percentage) r.2 := by
  simp only [bellmanPods, hsub]
  cases bellman n' dp (c * pod.percentage) <;> rfl

end Inversion

/-! ### Fuel -/

section Fuel

variable {rec₁ rec₂ : NodeResource → Memo → ℚ → Option (ℚ × Memo)}

/-- The loop only needs its recursive call to answer where the call it was given answers. -/
theorem bellmanPods_mono (hrec : ∀ n dp c r, rec₁ n dp c = some r → rec₂ n dp c = some r)
    (n : NodeResource) (g c : ℚ) (pods : TargetPodList) :
    ∀ pvSum dp r, bellmanPods rec₁ n g c pods pvSum dp = some r →
      bellmanPods rec₂ n g c pods pvSum dp = some r := by
  induction pods with
  | nil => intro _ _ _ h; exact h
  | cons pod pods ih =>
    intro pvSum dp r h
    cases hsub : n.sub pod.targetPodResource with
    | error e => rw [bellmanPods_cons_error hsub] at h ⊢; exact ih _ _ _ h
    | ok n' =>
      rw [bellmanPods_cons_ok hsub] at h ⊢
      obtain ⟨r₁, h₁, h₂⟩ := Option.bind_eq_some.mp h
      rw [hrec _ _ _ _ h₁]
      exact ih _ _ _ h₂

theorem bellmanCall_mono (P : TargetPodList)
    (hrec : ∀ n dp c r, rec₁ n dp c = some r → rec₂ n dp c = some r)
    {n : NodeResource} {dp : Memo} {c : ℚ} {r : ℚ × Memo}
    (h : bellmanCall P rec₁ n dp c = some r) : bellmanCall P rec₂ n dp c = some r := by
  dsimp only [bellmanCall] at h ⊢
  cases hload : dp.load (n.flatten "bellman") with
  | some frag => simpa only [hload] using h
  | none =>
    simp only [hload] at h ⊢
    split_ifs at h ⊢
    · exact h
    · exact h
    · split at h
      · cases h
      · next hpods => rw [bellmanPods_mono hrec _ _ _ _ _ _ _ hpods]; exact h
    · exact h

end Fuel

theorem nodeGpuFragBellman_mono (P : TargetPodList) :
    ∀ fuel n dp c r, nodeGpuFragBellman P fuel n dp c = some r →
      nodeGpuFragBellman P (fuel + 1) n dp c = some r
  | 0, _, _, _, _, h => by cases h
  | fuel + 1, _, _, _, _, h => bellmanCall_mono P (nodeGpuFragBellman_mono P fuel) h

/-- More fuel never changes an answer. -/
theorem nodeGpuFragBellman_mono_le {P : TargetPodList} {fuel fuel' : Nat} (hle : fuel ≤ fuel')
    {n : NodeResource} {dp : Memo} {c : ℚ} {r : ℚ × Memo}
    (h : nodeGpuFragBellman P fuel n dp c = some r) :
    nodeGpuFragBellman P fuel' n dp c = some r := by
  induction hle with
  | refl => exact h
  | step _ ih => exact nodeGpuFragBellman_mono P _ _ _ _ _ ih

end KubeSchedulerSim
