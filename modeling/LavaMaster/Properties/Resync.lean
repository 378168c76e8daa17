import LavaMaster.Properties.Handlers
import LavaMaster.Properties.Lifecycle

/-!
# Resynchronising a slave the master did not know

A slave the registry lacks may still hold running jobs: the master crashed, or the slave
restarted. `HELLO` cancels the running jobs of the slave's devices, and every branch
that reaches `dispatcher_alive` asks `STATUS` for each of them. Both find the slave's
jobs by `actual_device__worker_host__hostname`, and `HELLO_RETRY` does neither.
-/

namespace LavaMaster

/-- The query of `send_status` and `_cancel_slave_dispatcher_jobs`. -/
def TestJob.RunsOn (hostname : String) (j : TestJob) : Prop :=
  j.deviceWorker = some hostname ∧ j.isPipeline ∧ j.status = .running

instance (hostname : String) : DecidablePred (TestJob.RunsOn hostname) :=
  fun _ => inferInstanceAs (Decidable (_ ∧ _))

/-- The slave that `START` and `CANCEL` address: `lookup_worker` for a dynamic
connection, the worker of the actual device otherwise. -/
def TestJob.worker (j : TestJob) : Option String :=
  if j.dynamicConnection then j.lookupWorker else j.deviceWorker

namespace Store

variable (st : Store) (hostname : String)

theorem mem_runningOn {j : TestJob} : j ∈ st.runningOn hostname ↔ j ∈ st.jobs ∧ j.RunsOn hostname := by
  simp [runningOn, TestJob.RunsOn]

/-- Cancelling jobs one by one cancels every row whose id is among theirs. -/
theorem foldl_cancelJob_jobs (l : List TestJob) (st : Store) :
    (l.foldl (fun st j => st.cancelJob j) st).jobs =
      st.jobs.map fun x => if x.id ∈ l.map (·.id) then { x with status := .canceled } else x := by
  induction l generalizing st with
  | nil => simp
  | cons j l ih =>
    rw [List.foldl_cons, ih]
    simp only [cancelJob, modify, record, List.map_map]
    refine List.map_congr_left fun x _ => ?_
    by_cases hx : x.id = j.id <;> simp [hx]

/-- Ids are a key: a row of the store shares its id with a running job of the slave only
if it is that job. -/
theorem id_mem_runningOn {x : TestJob} (hx : x ∈ st.jobs) :
    x.id ∈ (st.runningOn hostname).map (·.id) ↔ x.RunsOn hostname := by
  constructor
  · rintro h
    obtain ⟨y, hy, hid⟩ := List.mem_map.mp h
    obtain ⟨hy, hr⟩ := (st.mem_runningOn hostname).mp hy
    rwa [List.inj_on_of_nodup_map st.ids_nodup hy hx hid] at hr
  · exact fun h => List.mem_map_of_mem _ ((st.mem_runningOn hostname).mpr ⟨hx, h⟩)

theorem cancelRunningOn_jobs : (st.cancelRunningOn hostname).jobs =
    st.jobs.map fun x => if x.RunsOn hostname then { x with status := .canceled } else x := by
  rw [cancelRunningOn, foldl_cancelJob_jobs]
  exact List.map_congr_left fun x hx => by simp only [st.id_mem_runningOn hostname hx]

/-- After `_cancel_slave_dispatcher_jobs` the slave runs no job. -/
theorem runningOn_cancelRunningOn : (st.cancelRunningOn hostname).runningOn hostname = [] := by
  refine List.filter_eq_nil_iff.mpr fun x hx => ?_
  rw [cancelRunningOn_jobs] at hx
  obtain ⟨y, -, rfl⟩ := List.mem_map.mp hx
  by_cases hy : y.RunsOn hostname
  · simp [hy]
  · simp only [hy, if_false]
    exact fun h => hy (of_decide_eq_true h)

/-- Every row not running on the slave's devices is kept as it was. -/
theorem mem_cancelRunningOn {x : TestJob} (hx : x ∈ st.jobs) (h : ¬ x.RunsOn hostname) :
    x ∈ (st.cancelRunningOn hostname).jobs := by
  rw [cancelRunningOn_jobs]
  exact List.mem_map.mpr ⟨x, hx, if_neg h⟩

end Store

/-- Job 2 of a multinode group, a dynamic connection started on slave `w`, without a
device of its own. -/
def dynamicJob : TestJob where
  id := 2
  status := .running
  isPipeline := true
  isMultinode := true
  dynamicConnection := true
  healthCheck := false
  priority := 50
  submitTime := 0
  targetGroup := some "group"
  actualDevice := none
  requestedDevice := none
  definition := ""
  pipelineCompatibility := 0
  outputDir := "/var/lib/lava-server/default/media/job-output/job-2"
  lookupWorker := some "w"
  parentJob := some 1
  failureComment := none

section Connected

variable (env : Env) (s : Master) (msg : ControlMsg)

/-- On a healthy connection an accepted message from an unknown slave, other than
`HELLO_RETRY`, leaves every job still running on the slave's devices asked `STATUS`. -/
theorem controlerSocket_resyncs (hc : s.connection = none) (ha : msg.Accepted) (hu : s.dispatchers msg.hostname = none)
    (hr : msg.action ≠ "HELLO_RETRY") :
    ∃ s', controlerSocket env msg s = .ok true s' ∧
      ∀ j ∈ s'.store.runningOn msg.hostname, .status msg.hostname j.id ∈ s'.sent := by
  have resynced : ∀ st j, j ∈ st.runningOn msg.hostname →
      .status msg.hostname j.id ∈ resync s.dispatchers st msg.hostname := fun st j hj => by
    simp only [resync, hu, if_true, List.mem_map]
    exact ⟨j, hj, rfl⟩
  unfold controlerSocket
  rcases ha with ⟨hh | hh, hv⟩ | hp | ⟨he, h0, h1, h4⟩ | ⟨hs, h0⟩
  · refine ⟨_, by rw [if_pos (.inl hh), onHello_of_connected _ _ hc, if_pos hv], ?_⟩
    simp [hh, Store.runningOn_cancelRunningOn]
  · exact absurd hh hr
  · refine ⟨_, by rw [if_neg (by simp [hp]), if_pos hp, onPing_of_connected _ _ hc], ?_⟩
    exact fun j hj => by simp [resynced _ j hj]
  · obtain ⟨jobId, hj⟩ := Option.isSome_iff_exists.mp h0
    obtain ⟨code, hcode⟩ := Option.isSome_iff_exists.mp h1
    have he2 := List.get?_eq_get (show 2 < msg.args.length by omega)
    have he3 := List.get?_eq_get (show 3 < msg.args.length by omega)
    refine ⟨_, by rw [if_neg (by simp [he]), if_neg (by simp [he]), if_pos he,
      onEnd_of_connected _ _ _ hc, hj, hcode, he2, he3], ?_⟩
    have hd : ∀ e d st, (endEffect env s jobId e d st).dispatchers = s.dispatchers := fun _ _ _ => rfl
    intro j hj'
    dsimp only at hj' ⊢
    rw [hd]
    exact List.mem_append_right _ (List.mem_cons_of_mem _ (resynced _ j hj'))
  · obtain ⟨jobId, hj⟩ := Option.isSome_iff_exists.mp h0
    refine ⟨_, by rw [if_neg (by simp [hs]), if_neg (by simp [hs]), if_neg (by simp [hs]), if_pos hs,
      onStartOk_of_connected _ _ hc, hj], ?_⟩
    exact fun j hj' => List.mem_append_right _ (resynced _ j hj')

theorem controlerSocket_resyncs_ping :
    Master.withRunningJob.connection = none ∧ ControlMsg.Accepted ⟨"w", "PING", []⟩ ∧
    Master.withRunningJob.dispatchers "w" = none ∧ "PING" ≠ "HELLO_RETRY" ∧
    ∃ s', controlerSocket .bare ⟨"w", "PING", []⟩ .withRunningJob = .ok true s' ∧
      ∀ j ∈ s'.store.runningOn "w", Outbound.status "w" j.id ∈ s'.sent :=
  ⟨rfl, by decide, rfl, by decide, controlerSocket_resyncs .bare _ _ rfl (by decide) rfl (by decide)⟩

/-- An accepted `HELLO` leaves every row that does not run on the slave's devices as it
was, whichever slave its job was started on, and sends the slave `HELLO_OK` alone. -/
theorem onHello_keeps_other_jobs (hc : s.connection = none) (hh : msg.action = "HELLO") (hv : msg.intArg 0 = some protocolVersion)
    (x : TestJob) (hx : x ∈ s.store.jobs) (hw : ¬ x.RunsOn msg.hostname) :
    ∃ s', onHello msg s = .ok true s' ∧ x ∈ s'.store.jobs ∧ s'.sent = s.sent ++ [.helloOk msg.hostname] :=
  ⟨_, by rw [onHello_of_connected _ _ hc, if_pos hv], by simpa [hh] using s.store.mem_cancelRunningOn msg.hostname hx hw,
    rfl⟩

end Connected

/-- The master at start with job 1 and its dynamic connection, job 2, both on `w`. -/
def Master.withDynamicJob : Master := Master.initial ⟨[runningJob, dynamicJob], by decide, []⟩ fun _ => none

theorem onHello_keeps_dynamic_row :
    Master.withDynamicJob.connection = none ∧ dynamicJob ∈ Master.withDynamicJob.store.jobs ∧
    ¬ dynamicJob.RunsOn "w" ∧
    ∃ s', onHello ⟨"w", "HELLO", ["1"]⟩ .withDynamicJob = .ok true s' ∧ dynamicJob ∈ s'.store.jobs ∧
      s'.sent = Master.withDynamicJob.sent ++ [.helloOk "w"] := by
  have hx : dynamicJob ∈ Master.withDynamicJob.store.jobs := .tail _ (.head _)
  have hw : ¬ dynamicJob.RunsOn "w" := by decide
  exact ⟨rfl, hx, hw, onHello_keeps_other_jobs _ ⟨"w", "HELLO", ["1"]⟩ rfl rfl (by decide) _ hx hw⟩

/-- A slave that restarted while the master was down sends `HELLO_RETRY`. -/
def afterRetry : Master :=
  run .bare .withRunningJob [.wake 0 none (some ⟨"w", "HELLO_RETRY", ["1"]⟩) none]

/-- The slave is registered, with neither a `STATUS` nor a cancel for the job it ran. -/
theorem helloRetry_unknown_skips_resync :
    afterRetry.store.statusOf 1 = some .running ∧ afterRetry.sent = [.helloOk "w"] ∧
      afterRetry.dispatchers "w" = some ⟨0, true⟩ := by
  decide

/-- `w` restarts and says `HELLO`. -/
def afterHelloWithDynamic : Master :=
  run .bare .withDynamicJob [.wake 0 none (some ⟨"w", "HELLO", ["1"]⟩) none]

/-- The device job of `w` is cancelled; its dynamic connection, whose worker is also `w`,
keeps running and is asked nothing. -/
theorem hello_keeps_dynamic_job_running :
    dynamicJob.worker = some "w" ∧ afterHelloWithDynamic.store.statusOf 1 = some .canceled ∧
      afterHelloWithDynamic.store.statusOf 2 = some .running ∧
      afterHelloWithDynamic.sent = [.helloOk "w"] := by
  decide

end LavaMaster
