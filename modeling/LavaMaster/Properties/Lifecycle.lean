import LavaMaster.Properties.Frame

/-!
# The life cycle of a job

Every store write of the master ends a job (`cancel_job`, and `fail_job` with a final
status), leaves its status (`create_job`), or starts it (`start_job`, for `START_OK`).
So along any run, whatever the database connection does, a job's status ends where it
started, at a terminal status, or at `RUNNING` through a `START_OK` naming the job. That
`START_OK` may come from any slave and find the job in any status.
-/

namespace LavaMaster

/-- `msg` is a `START_OK` for job `k`. -/
def ControlMsg.Starts (k : Int) (msg : ControlMsg) : Prop :=
  msg.action = "START_OK" ∧ msg.intArg 0 = some k

/-- A pass of the main loop on a `START_OK` for job `k`. -/
def Event.StartsJob (k : Int) : Event → Prop
  | .wake _ _ (some msg) _ => msg.Starts k
  | _ => False

/-- From `s` to `s'` the status of job `k` stays, becomes terminal, or becomes `RUNNING`
where `starts` holds. -/
def StatusMove (k : Int) (starts : Prop) (s s' : Master) : Prop :=
  s'.store.statusOf k = s.store.statusOf k ∨
  (s'.store.statusOf k).map Status.isTerminal = some true ∨
  (starts ∧ s'.store.statusOf k = some .running)

instance (k : Int) (P : Prop) : IsRefl Master (StatusMove k P) := ⟨fun _ => .inl rfl⟩

instance (k : Int) (P : Prop) : IsTrans Master (StatusMove k P) :=
  ⟨fun _ _ _ hab hbc => by
    rcases hbc with h | h | h
    · rwa [StatusMove, h]
    · exact .inr (.inl h)
    · exact .inr (.inr h)⟩

section Moves

variable {k : Int} {P : Prop}

theorem StatusMove.mono {Q : Prop} {s s' : Master} (h : StatusMove k P s s') (hPQ : P → Q) :
    StatusMove k Q s s' := by
  rcases h with h | h | ⟨hp, h⟩
  · exact .inl h
  · exact .inr (.inl h)
  · exact .inr (.inr ⟨hPQ hp, h⟩)

theorem statusMove_of_store {s s' : Master} (h : s'.store = s.store) : StatusMove k P s s' :=
  .inl (by rw [h])

/-- A computation that leaves the store keeps every `StatusMove`. -/
theorem keeps_of_store {α : Type} {x : M α} (hx : ∀ s, (x s).state.store = s.store) :
    Keeps (StatusMove k P) x :=
  fun s => statusMove_of_store (hx s)

theorem roundTrip_statusMove : Keeps (StatusMove k P) roundTrip :=
  keeps_of_store fun s => by unfold roundTrip; split <;> rfl

theorem send_statusMove (m : Outbound) : Keeps (StatusMove k P) (send m) :=
  keeps_of_store fun _ => rfl

theorem alive_statusMove (hostname : String) : Keeps (StatusMove k P) (alive hostname) :=
  keeps_of_store fun s => by simp only [alive_apply]; split <;> rfl

theorem newDispatcher_statusMove (hostname : String) : Keeps (StatusMove k P) (newDispatcher hostname) :=
  keeps_of_store fun _ => rfl

theorem atomic_statusMove {α : Type} {x : M α} (hx : Keeps (StatusMove k P) x) :
    Keeps (StatusMove k P) (atomic x) := by
  intro s
  have h := hx s
  simp only [atomic_apply]
  cases hr : x s with
  | ok a s' => rw [hr] at h; exact h
  | error e s' => exact statusMove_of_store rfl

theorem save_statusMove {f : Store → Store} (hf : ∀ s : Master, StatusMove k P s { s with store := f s.store }) :
    Keeps (StatusMove k P) (save f) :=
  Keeps.bind roundTrip_statusMove fun _ s => hf s

/-- A finaliser that gives one job a terminal status. -/
theorem statusMove_end (s : Master) (id : Nat) (f : TestJob → TestJob) (hf : ∀ j, (f j).id = j.id)
    (c : StoreCall) (v : Status) (hv : ∀ j, (f j).status = v) (ht : v.isTerminal) :
    StatusMove k P s { s with store := (s.store.modify id f hf).record c } := by
  rcases s.store.statusOf_modify_cases id f hf v hv k with h | ⟨-, h⟩
  · exact .inl h
  · exact .inr (.inl (by simp only [Store.statusOf_record, h, Option.map_some', ht]))

theorem cancelJob_statusMove (job : TestJob) : Keeps (StatusMove k P) (save (·.cancelJob job)) :=
  save_statusMove fun s => statusMove_end s job.id _ _ _ .canceled (fun _ => rfl) rfl

theorem failJob_statusMove (job : TestJob) (msg : String) (status : Status) (ht : status.isTerminal) :
    Keeps (StatusMove k P) (save (·.failJob job msg status)) :=
  save_statusMove fun s => statusMove_end s job.id _ _ _ status (fun _ => rfl) ht

theorem setDevice_statusMove (job : TestJob) (device : Option Device) :
    Keeps (StatusMove k P) (save (·.setDevice job device)) :=
  save_statusMove fun s => .inl (s.store.statusOf_setDevice job device k)

theorem createJob_statusMove (job : TestJob) (device : Device) :
    Keeps (StatusMove k P) (save (·.createJob job device)) :=
  save_statusMove fun s => .inl (s.store.statusOf_createJob job device k)

theorem startJob_statusMove (job : TestJob) (hP : (job.id : Int) = k → P) :
    Keeps (StatusMove k P) (save (·.startJob job)) := by
  refine save_statusMove fun s => ?_
  rcases s.store.statusOf_modify_cases job.id (fun j => { j with status := .running }) (fun _ => rfl)
    .running (fun _ => rfl) k with h | ⟨hk, h⟩
  · exact .inl h
  · exact .inr (.inr ⟨hP hk.symm, h⟩)

/-- The transaction of `START_OK` starts the job its id names, and only that one. -/
theorem startTransaction_statusMove (jobId : Int) (hP : jobId = k → P) :
    Keeps (StatusMove k P) (atomic (getJob jobId >>= fun job => save (·.startJob job))) :=
  atomic_statusMove <| Keeps.bind_ok (getJob_keeps roundTrip_statusMove jobId) fun s job s' h =>
    startJob_statusMove job (fun hk => hP ((s'.store.find?_id (getJob_ok s h)).symm.trans hk)) s'

/-- A pass moves job `k` to `RUNNING` only on a `START_OK` for it. -/
theorem iteration_statusMove (env : Env) (signal : Option Signal) (message : Option ControlMsg)
    (hP : ∀ msg, message = some msg → msg.Starts k → P) :
    Keeps (StatusMove k P) (iteration env signal message) :=
  iteration_keeps env roundTrip_statusMove send_statusMove (fun _ _ _ ht => failJob_statusMove _ _ _ ht)
    setDevice_statusMove createJob_statusMove (keeps_of_store fun _ => rfl) (keeps_of_store fun _ => rfl)
    (keeps_of_store fun _ => rfl) signal message fun msg hm =>
      controlerSocket_keeps env roundTrip_statusMove send_statusMove
        (fun _ _ _ ht => failJob_statusMove _ _ _ ht) newDispatcher_statusMove alive_statusMove
        (fun hx _ => atomic_statusMove hx) cancelJob_statusMove (fun _ _ => keeps_of_store fun _ => rfl)
        (fun _ _ => save_statusMove fun _ => .inl rfl) msg
        fun hs jobId hj => startTransaction_statusMove jobId fun hk => hP msg hm ⟨hs, hk ▸ hj⟩

end Moves

section Run

variable (env : Env)

theorem step_statusMove (s : Master) (e : Event) (k : Int) :
    StatusMove k (e.StartsJob k) s (step env s e) := by
  cases e with
  | pollError => exact .inl rfl
  | wake now signal message c =>
    obtain ⟨ph, rt, h⟩ := step_wake_eq env s now signal message c
    rw [h]
    split_ifs
    · exact iteration_statusMove env signal message (fun msg hm hs => by subst hm; exact hs)
        { s with now := now, connection := c }
    · exact .inl rfl
  | frame now msg =>
    obtain ⟨_, _, _, _, _, _, h⟩ := step_frame_eq env s now msg
    exact statusMove_of_store (by rw [h])

theorem run_statusMove (s : Master) (events : List Event) (k : Int) :
    StatusMove k (∃ e ∈ events, e.StartsJob k) s (run env s events) := by
  induction events generalizing s with
  | nil => exact .inl rfl
  | cons e events ih =>
    exact trans_of _ ((step_statusMove env s e k).mono fun h => ⟨e, .head _, h⟩)
      ((ih _).mono fun ⟨e', he', h⟩ => ⟨e', .tail _ he', h⟩)

end Run

/-- Job 1, running on device `dev` of slave `w`. -/
def runningJob : TestJob where
  id := 1
  status := .running
  isPipeline := true
  isMultinode := false
  dynamicConnection := false
  healthCheck := false
  priority := 50
  submitTime := 0
  targetGroup := none
  actualDevice := some ⟨"dev", some "w"⟩
  requestedDevice := some ⟨"dev", some "w"⟩
  definition := ""
  pipelineCompatibility := 0
  outputDir := "/var/lib/lava-server/default/media/job-output/job-1"
  lookupWorker := none
  parentJob := none
  failureComment := none

/-- The master at start, with job 1 running on `w`'s device and an empty disk. -/
def Master.withRunningJob : Master := Master.initial ⟨[runningJob], List.nodup_singleton _, []⟩ fun _ => none

/-- `w` ends job 1. -/
def afterEnd : Master := run .bare .withRunningJob [.wake 0 none (some ⟨"w", "END", ["1", "0", "", ""]⟩) none]

/-- Then `x`, which was never sent a `START`, answers `START_OK 1`. -/
def afterLateStartOk : Master := run .bare afterEnd [.wake 1 none (some ⟨"x", "START_OK", ["1"]⟩) none]

/-- Job `id` of the multinode group `g`: a job on `device`, or without one a dynamic
connection of job 1, started on slave `w`. -/
def groupJob (id : Nat) (status : Status) (device : Option Device) : TestJob where
  id := id
  status := status
  isPipeline := true
  isMultinode := true
  dynamicConnection := device.isNone
  healthCheck := false
  priority := 50
  submitTime := 0
  targetGroup := some "g"
  actualDevice := device
  requestedDevice := device
  definition := ""
  pipelineCompatibility := 0
  outputDir := "/var/lib/lava-server/default/media/job-output/job-" ++ toString id
  lookupWorker := if device.isNone then some "w" else none
  parentJob := if device.isNone then some 1 else none
  failureComment := none

/-- One sweep over a group of two submitted jobs on devices of `a` and `b` and a running
dynamic connection. -/
def afterGroupSweep : Master :=
  run .bare (Master.initial ⟨[groupJob 1 .submitted (some ⟨"dev-a", some "a"⟩),
    groupJob 2 .submitted (some ⟨"dev-b", some "b"⟩), groupJob 3 .running none], by decide, []⟩
    fun _ => none) [.wake 11 none none none]

/-- Each of the two device jobs sends the running connection a `START`. -/
theorem sweep_starts_dynamic_job_twice :
    afterGroupSweep.sent = [.start "w" 3 "" "" "" "" "", .start "a" 1 "" "" "" "" "",
      .start "w" 3 "" "" "" "" "", .start "b" 2 "" "" "" "" ""] ∧
    afterGroupSweep.store.statusOf 3 = some .running := by
  decide

end LavaMaster
