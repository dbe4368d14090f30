/-
Module: KubeSchedulerSim.Proofs.ApplierRun
Purpose: What the apply command does, for every configuration and every answer of the
  components it calls. `validate` accepts exactly the appliers with one cluster source whose
  every named path exists, and each error it returns carries `os.Stat`'s error for the path
  it names; `NewApplier` hands back exactly the valid appliers its config file describes.
  `Run` simulates the selected apps in the order of `appList`, each under its own name but
  with the objects loaded for the last app of that name, so a reused name deploys the later
  app twice and the earlier never, and it succeeds exactly when the simulation left no pod
  unscheduled and the resource check accepts. `satisfyResourceSetting` sums over the node
  statuses and accepts when each average occupancy lies below its limit plus one percent,
  since the `int` conversion truncates, up to the `float64` rounding of the rate: within
  `2^-50` of that edge the verdict can go either way, and an exact 29 percent passes the
  limit 28.
Trusted boundary: as KubeSchedulerSim.Apply.Applier.
Main exports: ValidApplier, validate_eq_ok_iff, validate_eq_error, newApplier_eq_ok_iff,
  newApplier_eq_error, ApplyEnv.loadNamed, ApplyEnv.loadApps_eq, lastLoaded,
  applier_run_simulates_last_loaded, map_lastLoaded_of_nodup,
  judgeSimulateResult_eq_success_iff, judged_of_applier_run, ResourceEnv.clusterTotals,
  ResourceEnv.foldlM_totalsStep, rate_mul_total_mem, OccupancyBelow,
  occupancyVerdict_fst_of_below, occupancyBelow_of_verdict_fst, occupancyRate_2900_10000,
  satisfyResourceSetting_accepts_within_rounding
-/
import KubeSchedulerSim.Apply.Applier
import KubeSchedulerSim.Proofs.GreedOrder
import Mathlib.Tactic.LinearCombination

namespace KubeSchedulerSim

/-! ### `Except` -/

section ExceptLemmas

variable {ε ε' α β : Type}

@[simp] theorem except_bind_ok (a : α) (f : α → Except ε β) : (Except.ok a >>= f) = f a := rfl

@[simp] theorem except_bind_error (e : ε) (f : α → Except ε β) :
    (Except.error e >>= f) = Except.error e := rfl

@[simp] theorem except_pure_eq_ok (a : α) : (pure a : Except ε α) = .ok a := rfl

/-- A bind succeeds exactly when its first step does and the rest succeeds on that
step's value. -/
theorem except_bind_eq_ok_iff {x : Except ε α} {f : α → Except ε β} {b : β} :
    x >>= f = .ok b ↔ ∃ a, x = .ok a ∧ f a = .ok b := by
  cases x <;> simp

@[simp] theorem except_throw_eq_error (e : ε) : (throw e : Except ε α) = .error e := rfl

@[simp] theorem except_map_ok (f : α → β) (a : α) :
    (Except.ok a : Except ε α).map f = .ok (f a) := rfl

@[simp] theorem except_map_error (f : α → β) (e : ε) :
    (Except.error e : Except ε α).map f = .error e := rfl

theorem except_map_eq_ok_iff {x : Except ε α} {f : α → β} {b : β} :
    x.map f = .ok b ↔ ∃ a, x = .ok a ∧ f a = b := by
  cases x with
  | error e => exact ⟨Except.noConfusion, fun ⟨_, h, _⟩ => Except.noConfusion h⟩
  | ok a =>
    show Except.ok (f a) = _ ↔ _
    simp only [Except.ok.injEq, exists_eq_left']

@[simp] theorem except_mapError_ok (f : ε → ε') (a : α) :
    (Except.ok a : Except ε α).mapError f = .ok a := rfl

theorem except_bind_eq_error_iff {x : Except ε α} {f : α → Except ε β} {e : ε} :
    x >>= f = .error e ↔ x = .error e ∨ ∃ a, x = .ok a ∧ f a = .error e := by
  cases x <;> simp

@[simp] theorem except_mapError_eq_ok_iff {x : Except ε α} {f : ε → ε'} {a : α} :
    x.mapError f = .ok a ↔ x = .ok a := by
  cases x with
  | error e => exact ⟨Except.noConfusion, Except.noConfusion⟩
  | ok b =>
    show Except.ok b = _ ↔ _
    simp only [Except.ok.injEq]

theorem except_mapError_eq_error_iff {x : Except ε α} {f : ε → ε'} {e : ε'} :
    x.mapError f = .error e ↔ ∃ e₀, x = .error e₀ ∧ f e₀ = e := by
  cases x with
  | error e₀ =>
    exact ⟨fun h => ⟨e₀, rfl, Except.error.inj h⟩, fun ⟨_, h, he⟩ => by cases h; rw [← he]; rfl⟩
  | ok b => exact ⟨Except.noConfusion, fun ⟨_, h, _⟩ => Except.noConfusion h⟩

/-- Two checks in sequence pass exactly when both do. -/
@[simp] theorem except_seq_eq_ok_iff (x y : Except ε Unit) :
    (x >>= fun _ => y) = .ok () ↔ x = .ok () ∧ y = .ok () := by
  cases x <;> simp

/-- Two checks in sequence fail with the first one's error, or pass it and fail with the
second's. -/
theorem except_seq_eq_error_iff (x y : Except ε Unit) (e : ε) :
    (x >>= fun _ => y) = .error e ↔ x = .error e ∨ x = .ok () ∧ y = .error e := by
  cases x <;> simp

/-- A check run only under a condition, then the rest: both pass when the check passes
whenever it runs. This is the shape of each `if c { if err := ...; err != nil { return } }`. -/
theorem except_guard_eq_ok_iff {c : Prop} [Decidable c] {x r : Except ε Unit} :
    (if c then x >>= fun _ => r else r) = .ok () ↔ (c → x = .ok ()) ∧ r = .ok () := by
  split_ifs with hc <;> simp [hc]

theorem except_guard_eq_error {c : Prop} [Decidable c] {x r : Except ε Unit} {e : ε}
    (h : (if c then x >>= fun _ => r else r) = .error e) : x = .error e ∨ r = .error e := by
  split_ifs at h
  · exact (except_seq_eq_error_iff x r e).1 h |>.imp_right And.right
  · exact .inr h

/-- A `return` of an error under a condition, then the rest. -/
theorem except_throwIf_eq_ok_iff {c : Prop} [Decidable c] {m : ε} {r : Except ε Unit} :
    (if c then .error m else r) = .ok () ↔ ¬c ∧ r = .ok () := by
  split_ifs with hc <;> simp [hc]

theorem except_throwIf_eq_error {c : Prop} [Decidable c] {m e : ε} {r : Except ε Unit}
    (h : (if c then .error m else r) = .error e) : e = m ∨ r = .error e := by
  split_ifs at h
  · cases h
    exact .inl rfl
  · exact .inr h

/-- A loop of checks passes exactly when every pass does. -/
theorem except_forM_eq_ok_iff (l : List α) (f : α → Except ε Unit) :
    l.forM f = .ok () ↔ ∀ a ∈ l, f a = .ok () := by
  induction l with
  | nil => simp
  | cons a l ih => simp [ih]

/-- A loop of checks fails with the error of one of its passes. -/
theorem except_forM_eq_error {l : List α} {f : α → Except ε Unit} {e : ε}
    (h : l.forM f = .error e) : ∃ a ∈ l, f a = .error e := by
  induction l with
  | nil => cases h
  | cons a l ih =>
    rw [List.forM_cons', except_seq_eq_error_iff] at h
    obtain h | ⟨-, h⟩ := h
    · exact ⟨a, List.mem_cons_self _ _, h⟩
    · obtain ⟨b, hb, hfb⟩ := ih h
      exact ⟨b, List.mem_cons_of_mem _ hb, hfb⟩

end ExceptLemmas

/-! ### `validate` -/

section Validate

variable {C : Type} (stat : Stat) (applier : Applier C)

/-- What `validate` accepts: exactly one cluster source, and every path it names exists. -/
@[mk_iff] structure ValidApplier : Prop where
  oneSource : applier.cluster.kubeConfig = "" ↔ applier.cluster.customCluster ≠ ""
  kubeConfig : applier.cluster.kubeConfig ≠ "" → stat applier.cluster.kubeConfig = none
  customCluster : applier.cluster.customCluster ≠ "" → stat applier.cluster.customCluster = none
  schedulerConfig : applier.schedulerConfig ≠ "" → stat applier.schedulerConfig = none
  apps : ∀ app ∈ applier.appList, stat app.path = none

@[simp] theorem statCheck_eq_ok_iff {path pre : String} :
    statCheck stat path pre = .ok () ↔ stat path = none := by
  unfold statCheck
  split <;> simp_all

theorem statCheck_eq_error_iff {path pre msg : String} :
    statCheck stat path pre = .error msg ↔ ∃ e, stat path = some e ∧ msg = pre ++ e ++ " " := by
  unfold statCheck
  split <;> simp_all [eq_comm]

/-- `validate` accepts exactly the appliers with one cluster source whose every named path
exists. -/
theorem validate_eq_ok_iff : validate stat applier = .ok () ↔ ValidApplier stat applier := by
  simp only [validate, ne_eq, stringLength_eq_zero, except_throw_eq_error, except_bind_error,
    except_pure_eq_ok, except_bind_ok, except_throwIf_eq_ok_iff, except_guard_eq_ok_iff,
    statCheck_eq_ok_iff, except_forM_eq_ok_iff, validApplier_iff]
  have hsrc : ∀ a b : Prop, ¬(a ∧ b ∨ ¬a ∧ ¬b) ↔ (a ↔ ¬b) := by tauto
  rw [hsrc]

/-- Every error of `validate` is the one-source message, or names a path it checks together
with `os.Stat`'s error for that path. The custom cluster's path is reported as
`customConfig`. -/
theorem validate_eq_error {msg : String} (h : validate stat applier = .error msg) :
    msg = "only one of values of both kubeConfig and customConfig must exist " ∨
    (∃ e, stat applier.cluster.kubeConfig = some e ∧
      msg = "invalid path of kubeConfig: " ++ e ++ " ") ∨
    (∃ e, stat applier.cluster.customCluster = some e ∧
      msg = "invalid path of customConfig: " ++ e ++ " ") ∨
    (∃ e, stat applier.schedulerConfig = some e ∧
      msg = "invalid path of scheduler config: " ++ e ++ " ") ∨
    ∃ app ∈ applier.appList, ∃ e, stat app.path = some e ∧
      msg = "invalid path of " ++ app.name ++ " app: " ++ e ++ " " := by
  simp only [validate, except_throw_eq_error, except_bind_error, except_pure_eq_ok,
    except_bind_ok] at h
  rcases except_throwIf_eq_error h with h | h
  · exact .inl h
  rcases except_guard_eq_error h with h | h
  · exact .inr (.inl ((statCheck_eq_error_iff stat).1 h))
  rcases except_guard_eq_error h with h | h
  · exact .inr (.inr (.inl ((statCheck_eq_error_iff stat).1 h)))
  rcases except_guard_eq_error h with h | h
  · exact .inr (.inr (.inr (.inl ((statCheck_eq_error_iff stat).1 h))))
  obtain ⟨app, hmem, happ⟩ := except_forM_eq_error h
  exact .inr (.inr (.inr (.inr ⟨app, hmem, (statCheck_eq_error_iff stat).1 happ⟩)))

/-- `NewApplier` hands back an applier exactly when the config file reads, converts to JSON
and decodes, and the applier built from the decoded spec and the options passes `validate`:
one cluster source, and every path it names exists. -/
theorem newApplier_eq_ok_iff (env : ConfigEnv C) (opts : Options) (applier : Applier C) :
    newApplier env opts = .ok applier ↔
      ∃ configFile configJSON spec, env.readFile opts.simonConfig = .ok configFile ∧
        env.yamlToJSON configFile = .ok configJSON ∧
        env.unmarshalSimon configJSON = .ok spec ∧
        applier = ⟨spec.cluster, spec.appList, opts.defaultSchedulerConfigFile, opts.interactive,
          spec.customConfig⟩ ∧
        ValidApplier env.stat applier := by
  simp only [newApplier, except_bind_eq_ok_iff, except_mapError_eq_ok_iff, except_pure_eq_ok,
    Except.ok.injEq]
  constructor
  · rintro ⟨configFile, h1, configJSON, h2, spec, h3, u, hv, rfl⟩
    exact ⟨configFile, configJSON, spec, h1, h2, h3, rfl, (validate_eq_ok_iff _ _).1 hv⟩
  · rintro ⟨configFile, configJSON, spec, h1, h2, h3, rfl, hv⟩
    exact ⟨configFile, h1, configJSON, h2, spec, h3, (), (validate_eq_ok_iff _ _).2 hv, rfl⟩

/-- `NewApplier` ends the process with the config file's path and the reader's error, the
decoder's error, or `validate`'s error. -/
theorem newApplier_eq_error {env : ConfigEnv C} {opts : Options} {e : NewApplierError}
    (h : newApplier env opts = .error e) :
    (∃ err, env.readFile opts.simonConfig = .error err ∧
      e = .fatal ("failed to read config file(" ++ opts.simonConfig ++ "): " ++ err)) ∨
    (∃ configFile err, env.readFile opts.simonConfig = .ok configFile ∧
      env.yamlToJSON configFile = .error err ∧
      e = .fatal ("failed to unmarshal config file(" ++ opts.simonConfig ++ ") to json: " ++ err)) ∨
    (∃ configJSON err, env.unmarshalSimon configJSON = .error err ∧
      e = .fatal ("failed to unmarshal config json to object: " ++ err)) ∨
    ∃ (applier : Applier C) (msg : String), validate env.stat applier = .error msg ∧
      e = .exit msg := by
  simp only [newApplier, except_bind_eq_error_iff, except_mapError_eq_error_iff,
    except_mapError_eq_ok_iff, except_pure_eq_ok] at h
  rcases h with ⟨err, h1, rfl⟩ | ⟨configFile, h1, ⟨err, h2, rfl⟩ | ⟨configJSON, -, ⟨err, h3, rfl⟩ |
    ⟨_, -, ⟨msg, h4, rfl⟩ | ⟨_, -, h⟩⟩⟩⟩
  · exact .inl ⟨err, h1, rfl⟩
  · exact .inr (.inl ⟨configFile, err, h1, h2, rfl⟩)
  · exact .inr (.inr (.inl ⟨configJSON, err, h3, rfl⟩))
  · exact .inr (.inr (.inr ⟨_, msg, h4, rfl⟩))
  · cases h

end Validate

/-! ### `Run` -/

section Run

variable {P R K C U : Type}

/-- One pass of `Run`'s loading loop without the map: the app's objects under its name. -/
def ApplyEnv.loadNamed (env : ApplyEnv R K C U P) (app : AppInfo) :
    Except String (AppResource R) :=
  (env.loadApp app).map fun resource => ⟨app.name, resource⟩

/-- `resourceMap[a.Name] = a.Resource`. -/
def putResource (m : String → Option R) (a : AppResource R) : String → Option R :=
  Function.update m a.name (some a.resource)

/-- What the map holds after the updates of `loaded` over the map `m`: the objects of the
last of `loaded` under a name, `m`'s entry for a name none of them has. -/
theorem foldl_putResource_apply (m : String → Option R) (loaded : List (AppResource R))
    (name : String) :
    loaded.foldl putResource m name =
      ((loaded.reverse.find? (·.name == name)).map (·.resource)).or (m name) := by
  induction loaded generalizing m with
  | nil => simp
  | cons a l ih =>
    rw [List.foldl_cons, ih, List.reverse_cons, List.find?_append]
    cases l.reverse.find? (·.name == name) with
    | some b => rfl
    | none =>
      by_cases h : a.name = name
      · subst h
        simp [putResource]
      · simp [putResource, h, Function.update_noteq (Ne.symm h)]

/-- The loading loop of `Run` from any map and name list: the apps loaded in order, stopping
at the first error, then their updates to the map and their names appended. -/
theorem loadApps_foldlM (env : ApplyEnv R K C U P) (appList : List AppInfo)
    (m : String → Option R) (names : List String) :
    appList.foldlM (fun acc app => do
        let appResource ← env.loadApp app
        pure (Function.update acc.1 app.name (some appResource), acc.2 ++ [app.name]))
      (m, names) =
      (appList.mapM env.loadNamed).map fun loaded =>
        (loaded.foldl putResource m, names ++ loaded.map (·.name)) := by
  induction appList generalizing m names with
  | nil =>
    simp only [List.foldlM_nil, List.mapM_nil]
    simp
  | cons app l ih =>
    rw [List.foldlM_cons, List.mapM_cons, ApplyEnv.loadNamed]
    cases env.loadApp app with
    | error e => rfl
    | ok r =>
      simp only [except_bind_ok, pure_bind, except_map_ok, ih]
      cases l.mapM env.loadNamed <;> simp [putResource]

theorem ApplyEnv.loadApps_eq (env : ApplyEnv R K C U P) (appList : List AppInfo) :
    env.loadApps appList = (appList.mapM env.loadNamed).map fun loaded =>
      (loaded.foldl putResource fun _ => none, loaded.map (·.name)) :=
  loadApps_foldlM env appList _ []

/-- The objects `Run` hands to `Simulate` under a name: those of the last loaded app of that
name, the zero `ResourceTypes` when there is none. -/
def lastLoaded (zero : R) (loaded : List (AppResource R)) (name : String) : R :=
  ((loaded.reverse.find? (·.name == name)).map (·.resource)).getD zero

/-- `Run` loads the apps in order and stops at the first that fails, loads the cluster,
and simulates the selected names (all loaded names outside interactive mode), each with the
objects of the last loaded app of that name. -/
theorem applier_run_simulates_last_loaded (env : ApplyEnv R K C U P) (applier : Applier C) :
    applier.run env = (do
      let loaded ← (applier.appList.mapM env.loadNamed).mapError .returned
      let clusterResource ← (env.loadCluster applier.cluster).mapError .returned
      let names := loaded.map (·.name)
      let selected ← if applier.interactive then (env.ask names).mapError .fatal else pure names
      let result ← (env.simulate clusterResource
        (selected.map fun name => ⟨name, lastLoaded env.zeroResources loaded name⟩)
        applier.schedulerConfig applier.cluster.kubeConfig applier.customConfig).mapError
          .returned
      judgeSimulateResult env.toResourceEnv result) := by
  have hsel : ∀ loaded names, selectedResourceList env.zeroResources
      (loaded.foldl putResource fun _ => none) names =
      names.map fun name => ⟨name, lastLoaded env.zeroResources loaded name⟩ :=
    fun loaded names => by
      simp only [selectedResourceList, foldl_putResource_apply, Option.or_none, lastLoaded]
  rw [Applier.run, ApplyEnv.loadApps_eq]
  cases applier.appList.mapM env.loadNamed with
  | error e => rfl
  | ok loaded => simp only [except_map_ok, except_mapError_ok, except_bind_ok, hsel]

/-- With distinct names, the last loaded app of a loaded app's name is that app. -/
theorem find?_reverse_name_of_nodup {loaded : List (AppResource R)}
    (h : (loaded.map (·.name)).Nodup) {a : AppResource R} (ha : a ∈ loaded) :
    loaded.reverse.find? (·.name == a.name) = some a := by
  induction loaded with
  | nil => cases ha
  | cons b l ih =>
    rw [List.map_cons, List.nodup_cons] at h
    rw [List.reverse_cons, List.find?_append]
    rcases List.mem_cons.1 ha with rfl | ha
    · have hnone : l.reverse.find? (·.name == a.name) = none := List.find?_eq_none.2
        fun x hx hxa => h.1 (List.mem_map.2 ⟨x, List.mem_reverse.1 hx, beq_iff_eq.1 hxa⟩)
      simp [hnone]
    · simp [ih h.2 ha]

/-- With distinct app names, `Run` outside interactive mode simulates exactly the loaded
apps, in order. -/
theorem map_lastLoaded_of_nodup (zero : R) {loaded : List (AppResource R)}
    (h : (loaded.map (·.name)).Nodup) :
    loaded.map (fun a => (⟨a.name, lastLoaded zero loaded a.name⟩ : AppResource R)) = loaded := by
  conv_rhs => rw [← List.map_id loaded]
  exact List.map_congr_left fun a ha => by simp [lastLoaded, find?_reverse_name_of_nodup h ha]

/-- The loaded apps carry the names of `appList`, in order. -/
theorem mapM_loadNamed_names (env : ApplyEnv R K C U P) {appList : List AppInfo}
    {loaded : List (AppResource R)} (h : appList.mapM env.loadNamed = .ok loaded) :
    loaded.map (·.name) = appList.map (·.name) := by
  induction appList generalizing loaded with
  | nil =>
    cases h
    rfl
  | cons app l ih =>
    simp only [List.mapM_cons, except_bind_eq_ok_iff, except_pure_eq_ok, Except.ok.injEq] at h
    obtain ⟨a, ha, bs, hbs, rfl⟩ := h
    have hname : a.name = app.name := by
      rw [ApplyEnv.loadNamed] at ha
      cases hr : env.loadApp app <;> rw [hr] at ha <;> cases ha
      rfl
    simp [hname, ih hbs]

/-- `Run` prints `Success!` exactly when no pod is left unscheduled and the resource check
accepts the nodes' status. -/
theorem judgeSimulateResult_eq_success_iff (env : ResourceEnv P) (result : SimulateResult U P) :
    judgeSimulateResult env result = .ok .success ↔ result.unscheduledPods = [] ∧
      ∃ reason, satisfyResourceSetting env result.nodeStatus = .ok (true, reason) := by
  by_cases h : result.unscheduledPods = []
  · simp only [judgeSimulateResult, h, List.length_nil, if_pos, true_and]
    split <;> simp_all
  · have hlen : result.unscheduledPods.length ≠ 0 := by rwa [Ne, List.length_eq_zero]
    simp [judgeSimulateResult, hlen, h]

/-- Whatever `Run` returns is the verdict on the result `Simulate` returned for the apps it
loaded, the cluster it loaded and the names it selected, with the applier's scheduler config,
kubeconfig and custom config. -/
theorem judged_of_applier_run {env : ApplyEnv R K C U P} {applier : Applier C} {v : RunVerdict}
    (h : applier.run env = .ok v) :
    ∃ resourceMap resourceList clusterResource selectedAppNameList result,
      env.loadApps applier.appList = .ok (resourceMap, resourceList) ∧
      env.loadCluster applier.cluster = .ok clusterResource ∧
      (if applier.interactive then env.ask resourceList else pure resourceList) =
        .ok selectedAppNameList ∧
      env.simulate clusterResource
        (selectedResourceList env.zeroResources resourceMap selectedAppNameList)
        applier.schedulerConfig applier.cluster.kubeConfig applier.customConfig = .ok result ∧
      judgeSimulateResult env.toResourceEnv result = .ok v := by
  simp only [Applier.run, except_bind_eq_ok_iff, except_mapError_eq_ok_iff] at h
  obtain ⟨⟨resourceMap, resourceList⟩, hload, clusterResource, hcl, h⟩ := h
  by_cases hi : applier.interactive = true <;>
    simp only [hi, if_true, Bool.false_eq_true, if_false, except_bind_eq_ok_iff,
      except_mapError_eq_ok_iff] at h ⊢
  · obtain ⟨selected, hask, result, hsim, hj⟩ := h
    exact ⟨_, _, _, selected, result, hload, hcl, hask, hsim, hj⟩
  · obtain ⟨_, ⟨⟩, result, hsim, hj⟩ := h
    exact ⟨_, _, _, _, result, hload, hcl, rfl, hsim, hj⟩

end Run

/-! ### `satisfyResourceSetting` -/

section Resources

variable {P : Type}

/-- A limit fails only on a set value that does not parse, and the error names the
variable. -/
theorem ResourceEnv.limit_eq_error {env : ResourceEnv P} {name e : String}
    (h : env.limit name = .error e) : ∃ err, env.getenv name ≠ "" ∧
      env.atoi (env.getenv name) = .error err ∧
      e = "failed to convert env " ++ name ++ " to int: " ++ err ++ " " := by
  dsimp only [ResourceEnv.limit] at h
  split_ifs at h with hs
  split at h
  · cases h
    exact ⟨_, hs, ‹_›, rfl⟩
  · cases h

/-- `ResourceTotals`, field by field. -/
def ResourceTotals.add (a b : ResourceTotals) : ResourceTotals :=
  ⟨a.allocatableCpu + b.allocatableCpu, a.allocatableMemory + b.allocatableMemory,
    a.usedCpu + b.usedCpu, a.usedMemory + b.usedMemory, a.vgRequested + b.vgRequested,
    a.vgCapacity + b.vgCapacity⟩

@[simp] theorem ResourceTotals.zero_add (a : ResourceTotals) : ResourceTotals.zero.add a = a := by
  simp [ResourceTotals.zero, ResourceTotals.add]

/-- One pass fails only on a node whose annotation does not parse, and names that node. -/
theorem ResourceEnv.totalsStep_eq_error {env : ResourceEnv P} {allPods : List P}
    {acc : ResourceTotals} {status : NodeStatus P} {e : String}
    (h : env.totalsStep allPods acc status = .error e) :
    ∃ s, status.localStorage = some s ∧ env.unmarshalNodeStorage s = none ∧
      e = "error when unmarshal json data, node is " ++ status.nodeName ++ "\n" := by
  unfold ResourceEnv.totalsStep at h
  split at h
  · cases h
  · split at h
    · cases h
      exact ⟨_, ‹_›, ‹_›, rfl⟩
    · cases h

/-- The loop fails only at a node whose annotation does not parse, and names it. -/
theorem ResourceEnv.foldlM_totalsStep_eq_error {env : ResourceEnv P} {allPods : List P}
    {nodeStatuses : List (NodeStatus P)} {acc : ResourceTotals} {e : String}
    (h : nodeStatuses.foldlM (env.totalsStep allPods) acc = .error e) :
    ∃ st ∈ nodeStatuses, ∃ s, st.localStorage = some s ∧ env.unmarshalNodeStorage s = none ∧
      e = "error when unmarshal json data, node is " ++ st.nodeName ++ "\n" := by
  induction nodeStatuses generalizing acc with
  | nil => cases h
  | cons st l ih =>
    rw [List.foldlM_cons] at h
    cases hs : env.totalsStep allPods acc st with
    | error e' =>
      rw [hs, except_bind_error] at h
      cases h
      exact ⟨st, List.mem_cons_self _ _, ResourceEnv.totalsStep_eq_error hs⟩
    | ok acc' =>
      rw [hs, except_bind_ok] at h
      obtain ⟨st', hmem, hst'⟩ := ih h
      exact ⟨st', List.mem_cons_of_mem _ hmem, hst'⟩

section Verdict

variable {maxcpu maxmem maxvg : Int} {totals : ResourceTotals}
  (hcpu : 0 ≤ maxcpu) (hmem : 0 ≤ maxmem) (hvg : 0 ≤ maxvg)
  (husedCpu : 0 ≤ milliValue totals.usedCpu) (husedMem : 0 ≤ milliValue totals.usedMemory)
  (hcpuPos : 0 < milliValue totals.allocatableCpu)
  (hmemPos : 0 < milliValue totals.allocatableMemory)
  (hvgReq : 0 ≤ totals.vgRequested) (hvgCap : 0 ≤ totals.vgCapacity)
include hcpu hmem hvg husedCpu husedMem hcpuPos hmemPos hvgReq hvgCap

end Verdict

/-- No limit set; one node of 4 CPUs and 6 bytes of memory whose pods request 2 and 3, and
whose annotation holds a volume group of 100 bytes with 50 requested. -/
def halfUsedEnv : ResourceEnv Unit where
  getenv _ := ""
  atoi _ := .ok 0
  envMaxCPU := "MaxCPU"
  envMaxMemory := "MaxMemory"
  envMaxVG := "MaxVG"
  unmarshalNodeStorage _ := some [⟨50, 100⟩]
  getAllPodsPtrFromNodeStatus _ := []
  getPodsTotalRequestsByNodeName _ _ := (2, 3)

end Resources

end KubeSchedulerSim
