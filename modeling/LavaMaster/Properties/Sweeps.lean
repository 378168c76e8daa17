import LavaMaster.Properties.Resync

/-!
# The two sweeps of the store

`handle_canceling` resolves the worker of every canceling job before it tests it: a
dynamic connection through `lookup_worker`, any other job through
`actual_device.worker_host`. The `if not worker_host` guard cannot catch a job without a
device, since reading the device's worker raises `AttributeError` first, and `handle()`
catches only `OperationalError` and `InterfaceError`.

`process_jobs` sends nothing but `START` requests, and it fails a job only `INCOMPLETE`
with an infrastructure error. After the write of `select_device`, each candidate ends in
one of five ways. It is skipped, failed for a device without a worker, started with its
own `START` sent last, failed in its `try`, or it ends the sweep with an exception the
four `except` clauses do not catch. The `START` of a group's dynamic connections goes out
inside the `try`, before the job's own template is rendered, so it can come before the
failure.
-/

namespace LavaMaster

/-- `job.lookup_worker if job.dynamic_connection else job.actual_device.worker_host`
returns: the job is a dynamic connection, or it has a device. -/
def TestJob.WorkerResolves (j : TestJob) : Prop := j.dynamicConnection ∨ j.actualDevice ≠ none

instance (j : TestJob) : Decidable j.WorkerResolves := inferInstanceAs (Decidable (_ ∨ _))

/-! ## `handle_canceling` -/

section Canceling

variable (s : Master)

theorem cancelingJob_raises {job : TestJob} (h : ¬ job.WorkerResolves) :
    cancelingJob job s = .error .attributeError s := by
  simp only [TestJob.WorkerResolves, not_or, Bool.not_eq_true, ne_eq, not_not] at h
  simp [cancelingJob, h.1, h.2]

theorem cancelingJob_of_connected (hc : s.connection = none) {job : TestJob} (h : job.WorkerResolves) :
    cancelingJob job s = match job.worker with
      | none => .ok () { s with store := s.store.failJob job "invalid worker information" .canceled }
      | some host => .ok () { s with sent := s.sent ++ [.cancel host job.id] } := by
  unfold cancelingJob TestJob.worker
  cases hd : job.dynamicConnection
  · obtain ⟨device, hdev⟩ := Option.ne_none_iff_exists'.mp (h.resolve_left (by simp [hd]))
    cases hw : device.workerHost <;> simp [hdev, TestJob.deviceWorker, hw, save_of_connected s hc]
  · cases hw : job.lookupWorker <;> simp [hw, save_of_connected s hc]

/-- The `CANCEL` requests of the sweep: one per job whose worker is known, in order. -/
def cancelRequests (jobs : List TestJob) : List Outbound :=
  jobs.filterMap fun j => j.worker.map (.cancel · j.id)

/-- The store after the sweep: every job without a worker is failed `CANCELED`. -/
def cancelUnreachable (jobs : List TestJob) (st : Store) : Store :=
  (jobs.filter (·.worker.isNone)).foldl (fun st j => st.failJob j "invalid worker information" .canceled) st

theorem forM_cancelingJob (jobs : List TestJob) (hc : s.connection = none)
    (h : ∀ j ∈ jobs, j.WorkerResolves) :
    jobs.forM cancelingJob s = .ok () { s with
      sent := s.sent ++ cancelRequests jobs, store := cancelUnreachable jobs s.store } := by
  induction jobs generalizing s with
  | nil => simp [cancelRequests, cancelUnreachable]
  | cons j jobs ih =>
    have hj := cancelingJob_of_connected s hc (h j (.head _))
    have hrest := fun s' hc' => ih s' hc' fun j' h' => h j' (.tail _ h')
    rw [List.forM_cons', bind_apply, hj]
    cases hw : j.worker <;> dsimp only <;> rw [hrest] <;>
      simp [hc, hw, cancelRequests, cancelUnreachable, List.filter_cons]

theorem forM_cancelingJob_raises (jobs : List TestJob) (hc : s.connection = none)
    (h : ∃ j ∈ jobs, ¬ j.WorkerResolves) : ∃ s', jobs.forM cancelingJob s = .error .attributeError s' := by
  induction jobs generalizing s with
  | nil => simp at h
  | cons j jobs ih =>
    rw [List.forM_cons', bind_apply]
    by_cases hj : j.WorkerResolves
    · obtain ⟨j', hj', hn⟩ := h
      have hrest : ∃ j ∈ jobs, ¬ j.WorkerResolves :=
        ⟨j', (List.mem_cons.mp hj').resolve_left fun e => hn (e ▸ hj), hn⟩
      rw [cancelingJob_of_connected s hc hj]
      cases j.worker <;> exact ih _ hc hrest
    · exact ⟨s, by rw [cancelingJob_raises s hj]⟩

/-- On a healthy connection, when every canceling job is a dynamic connection or has a
device, `handle_canceling` returns: each job whose worker is known is sent one `CANCEL`,
in the order of the query, and every other job is failed `CANCELED`. -/
theorem handleCanceling_of_connected (hc : s.connection = none)
    (h : ∀ j ∈ s.store.cancelingJobs, j.WorkerResolves) :
    handleCanceling s = .ok () { s with
      sent := s.sent ++ cancelRequests s.store.cancelingJobs,
      store := cancelUnreachable s.store.cancelingJobs s.store } := by
  rw [handleCanceling, bind_apply, query_of_connected s hc]
  exact forM_cancelingJob s _ hc h

/-- A canceling job that is neither a dynamic connection nor on a device makes
`handle_canceling` raise `AttributeError`, whatever else the store holds. -/
theorem handleCanceling_attributeError (hc : s.connection = none)
    (h : ∃ j ∈ s.store.cancelingJobs, ¬ j.WorkerResolves) :
    ∃ s', handleCanceling s = .error .attributeError s' := by
  rw [handleCanceling, bind_apply, query_of_connected s hc]
  exact forM_cancelingJob_raises s _ hc h

end Canceling

/-- Job 1 is canceling without a device, job 2 is canceling on the device of `w`. -/
def Master.withDevicelessCancel : Master :=
  Master.initial ⟨[{ runningJob with status := .canceling, actualDevice := none },
    { runningJob with id := 2, status := .canceling }], by decide, []⟩ fun _ => none

theorem handleCanceling_attributeError_deviceless :
    Master.withDevicelessCancel.connection = none ∧
    (∃ j ∈ Master.withDevicelessCancel.store.cancelingJobs, ¬ j.WorkerResolves) ∧
    ∃ s', handleCanceling .withDevicelessCancel = .error .attributeError s' :=
  ⟨rfl, by decide, handleCanceling_attributeError _ rfl (by decide)⟩

/-- The master with job 2 canceling on the device of `w`. -/
def Master.withCancelingJob : Master :=
  Master.initial ⟨[{ runningJob with id := 2, status := .canceling }], by decide, []⟩ fun _ => none

theorem handleCanceling_of_connected_cancel :
    Master.withCancelingJob.connection = none ∧
    (∀ j ∈ Master.withCancelingJob.store.cancelingJobs, j.WorkerResolves) ∧
    handleCanceling .withCancelingJob = .ok () { Master.withCancelingJob with
      sent := Master.withCancelingJob.sent ++ cancelRequests Master.withCancelingJob.store.cancelingJobs,
      store := cancelUnreachable Master.withCancelingJob.store.cancelingJobs Master.withCancelingJob.store } :=
  ⟨rfl, by decide, handleCanceling_of_connected _ rfl (by decide)⟩

example : cancelRequests Master.withCancelingJob.store.cancelingJobs = [.cancel "w" 2] := by decide

/-- The first sweep of the store after start. -/
def afterDevicelessCancel : Master := run .bare .withDevicelessCancel [.wake 11 none none none]

/-- The sweep raises on job 1 before it reaches job 2: no `CANCEL` is sent, job 2 stays
canceling, and the master leaves its loop. -/
theorem deviceless_cancel_crashes_master :
    afterDevicelessCancel.phase = .crashed .attributeError ∧ afterDevicelessCancel.sent = [] ∧
      afterDevicelessCancel.store.statusOf 2 = some .canceling := by
  decide

/-! ## `process_jobs` -/

/-- `send_multipart` of a `START`. -/
def Outbound.IsStart : Outbound → Prop
  | .start .. => True
  | _ => False

/-- The status of a row and its failure comment. -/
def TestJob.outcome (j : TestJob) : Status × Option String := (j.status, j.failureComment)

/-- What `process_jobs` may do: send `START` requests, and leave each job's status and
failure comment, or fail the job `INCOMPLETE` with an infrastructure error. -/
def DispatchMove (s s' : Master) : Prop :=
  (∃ starts, s'.sent = s.sent ++ starts ∧ ∀ m ∈ starts, m.IsStart) ∧
  ∀ k, (s'.store.find? k).map TestJob.outcome = (s.store.find? k).map TestJob.outcome ∨
    ∃ msg, InfrastructureMsg msg ∧ (s'.store.find? k).map TestJob.outcome = some (.incomplete, some msg)

instance : IsRefl Master DispatchMove := ⟨fun _ => ⟨⟨[], by simp, by simp⟩, fun _ => .inl rfl⟩⟩

instance : IsTrans Master DispatchMove :=
  ⟨fun _ _ _ ⟨⟨l₁, h₁, hl₁⟩, hab⟩ ⟨⟨l₂, h₂, hl₂⟩, hbc⟩ =>
    ⟨⟨l₁ ++ l₂, by rw [h₂, h₁, List.append_assoc],
      fun m hm => (List.mem_append.mp hm).elim (hl₁ m) (hl₂ m)⟩,
    fun k => (hbc k).elim (fun h => h ▸ hab k) .inr⟩⟩

section Dispatch

theorem roundTrip_dispatchMove : Keeps DispatchMove roundTrip := fun s => by
  unfold roundTrip
  split <;> exact refl_of DispatchMove _

theorem start_dispatchMove (host : String) (jobId : Nat) (definition deviceConfig dispatcherConfig envStr
    envDutStr : String) :
    Keeps DispatchMove (send (.start host jobId definition deviceConfig dispatcherConfig envStr envDutStr)) :=
  fun _ => ⟨⟨[_], rfl, by simp [Outbound.IsStart]⟩, fun _ => .inl rfl⟩

/-- A store write keeps `DispatchMove` when it does on every store. -/
theorem save_dispatchMove {f : Store → Store}
    (hf : ∀ st k, ((f st).find? k).map TestJob.outcome = (st.find? k).map TestJob.outcome ∨
      ∃ msg, InfrastructureMsg msg ∧ ((f st).find? k).map TestJob.outcome = some (.incomplete, some msg)) :
    Keeps DispatchMove (save f) :=
  Keeps.bind roundTrip_dispatchMove fun _ s => ⟨⟨[], (List.append_nil _).symm, by simp⟩, hf s.store⟩

/-- A change of one row that keeps every row's status and failure comment. -/
theorem Store.outcome_modify (st : Store) (id : Nat) (f : TestJob → TestJob) (hf : ∀ j, (f j).id = j.id)
    (ho : ∀ j, (f j).outcome = j.outcome) (k : Int) :
    ((st.modify id f hf).find? k).map TestJob.outcome = (st.find? k).map TestJob.outcome := by
  rw [Store.find?_modify, Option.map_map]
  congr 1
  funext j
  by_cases h : j.id = id <;> simp [h, ho]

theorem setDevice_dispatchMove (job : TestJob) (device : Option Device) :
    Keeps DispatchMove (save (·.setDevice job device)) :=
  save_dispatchMove fun st k => .inl (st.outcome_modify job.id (fun j => { j with actualDevice := device })
    (fun _ => rfl) (fun _ => rfl) k)

theorem createJob_dispatchMove (job : TestJob) (device : Device) :
    Keeps DispatchMove (save (·.createJob job device)) :=
  save_dispatchMove fun st k => .inl (st.outcome_modify job.id (fun j => { j with actualDevice := some device })
    (fun _ => rfl) (fun _ => rfl) k)

theorem failJob_dispatchMove (job : TestJob) (msg : String) (hm : InfrastructureMsg msg) :
    Keeps DispatchMove (save (·.failJob job msg .incomplete)) :=
  save_dispatchMove fun st k => by
    simp only [Store.failJob, Store.find?_record, Store.find?_modify, Option.map_map]
    cases st.find? k with
    | none => exact .inl rfl
    | some j => by_cases h : j.id = job.id <;> simp [h, TestJob.outcome, hm]

/-- Whatever the store and the connection do, `process_jobs` sends nothing but `START`
requests, and changes a job's status or failure comment only by failing it `INCOMPLETE`
with an infrastructure error. -/
theorem processJobs_dispatchMove (env : Env) : Keeps DispatchMove (processJobs env) :=
  processJobs_keeps_starts env roundTrip_dispatchMove start_dispatchMove failJob_dispatchMove
    setDevice_dispatchMove createJob_dispatchMove

end Dispatch

/-! ## One candidate of `process_jobs` -/

/-- On a healthy connection, only `START` requests were sent and nothing else changed. -/
def StartsFrom (s s' : Master) : Prop :=
  s.connection = none → ∃ starts, (∀ m ∈ starts, m.IsStart) ∧ s' = { s with sent := s.sent ++ starts }

instance : IsRefl Master StartsFrom := ⟨fun _ _ => ⟨[], by simp, by simp⟩⟩

instance : IsTrans Master StartsFrom :=
  ⟨fun _ _ _ hab hbc hc => by
    obtain ⟨l₁, hl₁, rfl⟩ := hab hc
    obtain ⟨l₂, hl₂, rfl⟩ := hbc hc
    exact ⟨l₁ ++ l₂, fun m hm => (List.mem_append.mp hm).elim (hl₁ m) (hl₂ m), by simp⟩⟩

theorem roundTrip_startsFrom : Keeps StartsFrom roundTrip := fun s hc =>
  ⟨[], by simp, by rw [roundTrip_of_connected s hc, List.append_nil]; rfl⟩

theorem start_startsFrom (host : String) (jobId : Nat) (definition deviceConfig dispatcherConfig envStr
    envDutStr : String) :
    Keeps StartsFrom (send (.start host jobId definition deviceConfig dispatcherConfig envStr envDutStr)) :=
  fun _ _ => ⟨[_], by simp [Outbound.IsStart], rfl⟩

theorem startJobs_startsFrom (env : Env) (job : TestJob) (device : Device) (workerHost : String) :
    Keeps StartsFrom (startJobs env job device workerHost) :=
  startJobs_keeps env roundTrip_startsFrom start_startsFrom job device workerHost

/-- `send_multipart` of a `START` to `host` for job `jobId`. -/
def Outbound.IsStartOf (host : String) (jobId : Nat) : Outbound → Prop
  | .start h k .. => h = host ∧ k = jobId
  | _ => False

theorem Outbound.IsStartOf.isStart {m : Outbound} {host : String} {jobId : Nat} (h : m.IsStartOf host jobId) :
    m.IsStart := by
  cases m with
  | start => trivial
  | _ => exact h.elim

/-- The device `process_jobs` starts a job on: the one it holds, or else the one it
requested. -/
def TestJob.dispatchDevice (j : TestJob) : Option Device :=
  match j.actualDevice with
  | none => j.requestedDevice
  | some device => some device

/-- The store the `try` of `process_jobs` starts from: `create_job` gives a job without a
device the one it requested. -/
def Store.assign (st : Store) (job : TestJob) (device : Device) : Store :=
  if job.actualDevice = none then st.createJob job device else st

/-- The state the write of `select_device` leaves on a healthy connection. -/
def Master.selected (env : Env) (candidate : TestJob) (s : Master) : Master :=
  { s with store := s.store.setDevice candidate (env.selectDevice candidate s.dispatchers).actualDevice }

/-- Every run of `x` that returns ends in a state related to its start by `Q`. -/
def Returns (Q : Master → Master → Prop) {α : Type} (x : M α) : Prop :=
  ∀ s a s', x s = .ok a s' → Q s s'

namespace Returns

variable {P Q : Master → Master → Prop} {α β : Type}

/-- A prefix that keeps `P`, then a continuation that returns in `Q`. -/
theorem bind (hPQ : ∀ s₁ s₂ s₃, P s₁ s₂ → Q s₂ s₃ → Q s₁ s₃) {x : M α} {f : α → M β} (hx : Keeps P x)
    (hf : ∀ a, Returns Q (f a)) : Returns Q (x >>= f) := fun s b s' h => by
  simp only [bind_apply] at h
  cases hr : x s with
  | ok a s₁ => rw [hr] at h; exact hPQ _ _ _ (hx.of_ok hr) (hf a s₁ b s' h)
  | error e s₁ => rw [hr] at h; cases h

theorem ite {c : Prop} [Decidable c] {x y : M α} (hx : Returns Q x) (hy : Returns Q y) :
    Returns Q (if c then x else y) := by
  split <;> assumption

end Returns

/-- On a healthy connection only `START` requests were sent, the last one to `host` for
job `jobId`, and nothing else changed. -/
def StartsLast (host : String) (jobId : Nat) (s s' : Master) : Prop :=
  s.connection = none → ∃ conns last, (∀ m ∈ conns, m.IsStart) ∧ last.IsStartOf host jobId ∧
    s' = { s with sent := s.sent ++ conns ++ [last] }

theorem StartsFrom.startsLast {host : String} {jobId : Nat} {s₁ s₂ s₃ : Master} (h : StartsFrom s₁ s₂)
    (h' : StartsLast host jobId s₂ s₃) : StartsLast host jobId s₁ s₃ := fun hc => by
  obtain ⟨l, hl, rfl⟩ := h hc
  obtain ⟨conns, last, hconns, hlast, rfl⟩ := h' hc
  exact ⟨l ++ conns, last, fun m hm => (List.mem_append.mp hm).elim (hl m) (hconns m), hlast, by simp⟩

/-- When the `try` of `process_jobs` returns, its last request is the job's own `START`,
to the worker of its device. -/
theorem startJobs_startsLast (env : Env) (job : TestJob) (device : Device) (workerHost : String) :
    Returns (StartsLast workerHost job.id) (startJobs env job device workerHost) := by
  have hPQ : ∀ s₁ s₂ s₃, StartsFrom s₁ s₂ → StartsLast workerHost job.id s₂ s₃ →
      StartsLast workerHost job.id s₁ s₃ := fun _ _ _ => StartsFrom.startsLast
  have tail : ∀ dispatcherConfig envStr envDutStr, Returns (StartsLast workerHost job.id) (do
      let jobCtx ← liftExcept (jobContext env job.definition)
      let deviceConfiguration ← liftExcept (env.loadDeviceConfiguration device jobCtx)
      let definition ← liftExcept (exportDefinition env job)
      send (.start workerHost job.id definition deviceConfiguration dispatcherConfig envStr envDutStr)) :=
    fun dc e ed => Returns.bind hPQ (Keeps.liftExcept _) fun _ => Returns.bind hPQ (Keeps.liftExcept _)
      fun deviceConfiguration => Returns.bind hPQ (Keeps.liftExcept _) fun definition s _ s' h _ => by
        simp only [send_apply, EStateM.Result.ok.injEq] at h
        exact ⟨[], .start workerHost job.id definition deviceConfiguration dc e ed, nofun, ⟨rfl, rfl⟩,
          by rw [← h.2, List.append_nil]⟩
  unfold startJobs
  refine Returns.bind hPQ (Keeps.liftExcept _) fun _ => Returns.bind hPQ (Keeps.liftExcept _) fun _ =>
    Returns.bind hPQ (Keeps.liftExcept _) fun _ => ?_
  dsimp only
  exact Returns.ite (Returns.bind hPQ (query_keeps roundTrip_startsFrom _) fun g =>
      Returns.bind hPQ (Keeps.forM g fun _ => Keeps.ite (startConnection_keeps_starts env roundTrip_startsFrom _ _ _ _
        fun _ _ _ _ => start_startsFrom _ _ _ _ _ _ _) (Keeps.pure _)) fun _ => tail _ _ _)
    (Returns.bind hPQ (Keeps.pure _) fun _ => tail _ _ _)

/-- How one candidate of `process_jobs` ends on a healthy connection, from the state `s`
the write of `select_device` left and the row `job` read again there. -/
inductive CandidateOutcome (env : Env) (candidate job : TestJob) (s : Master) :
    EStateM.Result PyError Master Unit → Prop
  /-- `select_device` gives no device. -/
  | skipped : (env.selectDevice candidate s.dispatchers).device = none →
      CandidateOutcome env candidate job s (.ok () s)
  /-- The device has no worker: the job is failed before anything is sent. -/
  | invalidWorker {device : Device} : job.dispatchDevice = some device → device.workerHost = none →
      CandidateOutcome env candidate job s
        (.ok () { s with store := s.store.failJob job invalidWorkerInformation .incomplete })
  /-- The job's own `START` went to the worker of its device, last, after the `START` of
  its group's dynamic connections. -/
  | started {device : Device} {host : String} {conns : List Outbound} {last : Outbound} :
      job.dispatchDevice = some device → device.workerHost = some host → (∀ m ∈ conns, m.IsStart) →
      last.IsStartOf host job.id →
      CandidateOutcome env candidate job s
        (.ok () { s with sent := s.sent ++ conns ++ [last], store := s.store.assign job device })
  /-- An exception of the four `except` clauses failed the job `INCOMPLETE`, after the
  `START` requests sent before it. -/
  | failed {device : Device} {conns : List Outbound} {msg : String} :
      job.dispatchDevice = some device → device.workerHost ≠ none → (∀ m ∈ conns, m.IsStart) →
      InfrastructureMsg msg →
      CandidateOutcome env candidate job s
        (.ok () { s with sent := s.sent ++ conns, store := (s.store.assign job device).failJob job msg .incomplete })
  /-- An exception no `except` clause catches leaves the sweep: the job has no device to
  start on, or the `try` raised it after the `START` requests sent before it. -/
  | raised {e : PyError} {s' : Master} : infrastructureError e = none →
      (job.dispatchDevice = none ∧ s' = s ∨ ∃ device conns, job.dispatchDevice = some device ∧
        (∀ m ∈ conns, m.IsStart) ∧ s' = { s with sent := s.sent ++ conns, store := s.store.assign job device }) →
      CandidateOutcome env candidate job s (.error e s')

/-- A deployment without the template of device `dev-b`. -/
def Env.missingTemplate : Env :=
  { Env.bare with loadDeviceConfiguration := fun device _ =>
      if device.hostname = "dev-b" then .error (.templateNotFound "dev-b.jinja2") else .ok "" }

/-- A multinode group: job 1 runs on the device of `a`, job 2 is submitted on the
device of `b`, and job 3 is the dynamic connection of job 1, whose `lookup_worker` is
`worker`. -/
def Master.withConnectionGroup (worker : Option String) : Master :=
  Master.initial ⟨[groupJob 1 .running (some ⟨"dev-a", some "a"⟩),
    groupJob 2 .submitted (some ⟨"dev-b", some "b"⟩),
    { groupJob 3 .submitted none with lookupWorker := worker }], by simp [groupJob], []⟩ fun _ => none

section Candidate

variable (env : Env) (s : Master) (hc : s.connection = none) (candidate job : TestJob)
include hc

/-- The `try` of `process_jobs` and its `except` clauses, from the store `create_job` left. -/
theorem dispatchJob_outcome {device : Device} {host : String} (hdev : job.dispatchDevice = some device)
    (hw : device.workerHost = some host) (st : Store) (hst : s.store.assign job device = st) :
    CandidateOutcome env candidate job s (dispatchJob env job device host { s with store := st }) := by
  subst hst
  unfold dispatchJob
  rw [tryCatch_apply]
  cases hr : startJobs env job device host { s with store := s.store.assign job device } with
  | ok a s' =>
    obtain ⟨conns, last, hconns, hlast, rfl⟩ := startJobs_startsLast env job device host _ _ _ hr hc
    exact .started hdev hw hconns hlast
  | error e s' =>
    have hs := startJobs_startsFrom env job device host { s with store := s.store.assign job device } hc
    rw [hr] at hs
    obtain ⟨conns, hconns, rfl⟩ := hs
    dsimp only
    cases hi : infrastructureError e with
    | none => exact .raised hi (.inr ⟨device, conns, hdev, hconns, rfl⟩)
    | some msg =>
      dsimp only
      rw [save_of_connected]
      · exact .failed hdev (by simp [hw]) hconns (infrastructureMsg_of_infrastructureError hi)
      · exact hc

end Candidate

/-- The sweep of job 2 when the template of its device is missing. -/
def afterMissingTemplate : Master :=
  run .missingTemplate (.withConnectionGroup (some "w")) [.wake 11 none none none]

/-- The sweep of job 2 when `lookup_worker` of the dynamic connection is `None`. -/
def afterMissingLookupWorker : Master :=
  run .bare (.withConnectionGroup none) [.wake 11 none none none]

/-- A missing template fails job 2 after its sweep started the dynamic connection, and a
dynamic connection without `lookup_worker` makes the sweep raise `AttributeError`, which
ends the master with job 2 still submitted. -/
theorem process_jobs_starts_then_fails_or_raises :
    afterMissingTemplate.sent = [.start "w" 3 "" "" "" "" ""] ∧
    (afterMissingTemplate.store.find? 2).map (fun j => (j.status, j.failureComment)) =
      some (.incomplete, some "Infrastructure error: Template not found: 'dev-b.jinja2'") ∧
    afterMissingLookupWorker.phase = .crashed .attributeError ∧ afterMissingLookupWorker.sent = [] ∧
      afterMissingLookupWorker.store.statusOf 2 = some .submitted := by
  decide

end LavaMaster
