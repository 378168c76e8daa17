import LavaMaster.Model.Python
import Mathlib.Data.List.Sort

/-!
# The job store

The rows of `TestJob` and `Device` the master reads, the queries of
`dispatcher-master.py`, and the store operations it calls from
`lava_scheduler_app.dbutils`. That module is not part of the source here: the
operations follow the specification of the store interface. Beyond the fields the master
reads, what they write is unknown, so the store also keeps the calls committed to it, in
order. A store keeps its job ids distinct, as the primary key does.
-/

namespace LavaMaster

inductive Status
  | submitted | running | complete | incomplete | canceled | canceling
  deriving DecidableEq, Repr

/-- `COMPLETE`, `INCOMPLETE` and `CANCELED` end a job. -/
def Status.isTerminal : Status → Bool
  | complete | incomplete | canceled => true
  | _ => false

structure Device where
  hostname : String
  /-- `worker_host.hostname`; `none` when the admin left `worker_host` unset. -/
  workerHost : Option String
  deriving DecidableEq, Repr

/-- The fields of a `TestJob` row the master reads or writes. `lookupWorker` is the
hostname of `lookup_worker`, `parentJob` the id of `get_parent_job`. -/
structure TestJob where
  id : Nat
  status : Status
  isPipeline : Bool
  isMultinode : Bool
  dynamicConnection : Bool
  healthCheck : Bool
  priority : Nat
  submitTime : Nat
  targetGroup : Option String
  actualDevice : Option Device
  requestedDevice : Option Device
  definition : String
  pipelineCompatibility : Int
  outputDir : String
  lookupWorker : Option String
  parentJob : Option Nat
  failureComment : Option String
  deriving DecidableEq, Repr

/-- `actual_device__worker_host__hostname`: null when the job has no device. -/
def TestJob.deviceWorker (job : TestJob) : Option String :=
  job.actualDevice.bind (·.workerHost)

/-- A call of the `dbutils` functions that write the store. `parse_job_description` reads
the description the job's `description.yaml` holds. -/
inductive StoreCall
  | createJob (id : Nat) (device : Device)
  | startJob (id : Nat)
  | cancelJob (id : Nat)
  | failJob (id : Nat) (failMsg : String) (jobStatus : Status)
  | parseJobDescription (id : Nat) (description : Option String)
  deriving DecidableEq, Repr

structure Store where
  jobs : List TestJob
  ids_nodup : (jobs.map (·.id)).Nodup
  /-- The calls of `dbutils` committed to the store, oldest first. -/
  calls : List StoreCall

namespace Store

variable (st : Store)

/-- `TestJob.objects.get(id=...)`. -/
def find? (id : Int) : Option TestJob := st.jobs.find? fun j => (j.id : Int) = id

def statusOf (id : Int) : Option Status := (st.find? id).map (·.status)

/-- Save a change to one row; the change keeps the primary key. -/
def modify (id : Nat) (f : TestJob → TestJob) (hf : ∀ j, (f j).id = j.id) : Store where
  jobs := st.jobs.map fun j => if j.id = id then f j else j
  ids_nodup := by
    have : (st.jobs.map fun j => if j.id = id then f j else j).map (·.id) = st.jobs.map (·.id) := by
      simp only [List.map_map]
      exact List.map_congr_left fun j _ => by by_cases h : j.id = id <;> simp [h, hf]
    exact this ▸ st.ids_nodup
  calls := st.calls

/-- Commit a call of `dbutils`. -/
def record (c : StoreCall) : Store := { st with calls := st.calls ++ [c] }

@[simp] theorem find?_record (c : StoreCall) (k : Int) : (st.record c).find? k = st.find? k := rfl

@[simp] theorem calls_record (c : StoreCall) : (st.record c).calls = st.calls ++ [c] := rfl

@[simp] theorem calls_modify (id : Nat) (f : TestJob → TestJob) (hf : ∀ j, (f j).id = j.id) :
    (st.modify id f hf).calls = st.calls := rfl

@[simp] theorem statusOf_record (c : StoreCall) (k : Int) : (st.record c).statusOf k = st.statusOf k := rfl

theorem find?_modify (id : Nat) (f : TestJob → TestJob) (hf : ∀ j, (f j).id = j.id) (k : Int) :
    (st.modify id f hf).find? k = (st.find? k).map fun j => if j.id = id then f j else j := by
  simp only [find?, modify, List.find?_map]
  congr 2
  funext j
  by_cases h : j.id = id <;> simp [h, hf]

theorem find?_id {k : Int} {j : TestJob} (h : st.find? k = some j) : (j.id : Int) = k := by
  simpa using List.find?_some h

/-- Ids are a key: a row of the store is the one its id finds. -/
theorem find?_of_mem {j : TestJob} (hj : j ∈ st.jobs) : st.find? j.id = some j := by
  cases h : st.find? j.id with
  | none => exact absurd (decide_eq_true rfl) (List.find?_eq_none.mp h j hj)
  | some x =>
    have hid : x.id = j.id := by exact_mod_cast st.find?_id h
    rw [List.inj_on_of_nodup_map st.ids_nodup (List.mem_of_find?_eq_some h) hj hid]

theorem statusOf_modify (id : Nat) (f : TestJob → TestJob) (hf : ∀ j, (f j).id = j.id) (k : Int) :
    (st.modify id f hf).statusOf k =
      if k = id then (st.find? k).map (fun j => (f j).status) else st.statusOf k := by
  simp only [statusOf, find?_modify]
  cases h : st.find? k with
  | none => simp
  | some j =>
    obtain rfl := st.find?_id h
    by_cases hk : j.id = id <;> simp [hk, Int.ofNat_inj]

/-- A change that sets the status to `v` leaves every other job's status, and makes this
job's `v` if it exists. -/
theorem statusOf_modify_cases (id : Nat) (f : TestJob → TestJob) (hf : ∀ j, (f j).id = j.id)
    (v : Status) (hv : ∀ j, (f j).status = v) (k : Int) :
    (st.modify id f hf).statusOf k = st.statusOf k ∨ (k = id ∧ (st.modify id f hf).statusOf k = some v) := by
  rw [statusOf_modify]
  by_cases hk : k = id
  · subst hk
    cases h : st.find? id <;> simp [statusOf, hv, h]
  · exact .inl (if_neg hk)

/-- The candidates of `process_jobs`: submitted pipeline jobs with a device, ordered
by `-health_check, -priority, submit_time, target_group, id`. -/
def dispatchOrder (a b : TestJob) : Ordering :=
  (compare b.healthCheck a.healthCheck).then <|
  (compare b.priority a.priority).then <|
  (compare a.submitTime b.submitTime).then <|
  (groupOrder a.targetGroup b.targetGroup).then (compare a.id b.id)
where
  /-- Ascending, with the null group last, as the database sorts it. -/
  groupOrder : Option String → Option String → Ordering
    | some g, some h => compare g h
    | some _, none => .lt
    | none, some _ => .gt
    | none, none => .eq

def submittedCandidates : List TestJob :=
  (st.jobs.filter fun j => j.status = .submitted ∧ j.isPipeline ∧ j.actualDevice ≠ none).insertionSort
    fun a b => dispatchOrder a b ≠ .gt

theorem mem_submittedCandidates {j : TestJob} : j ∈ st.submittedCandidates ↔
    j ∈ st.jobs ∧ j.status = .submitted ∧ j.isPipeline ∧ j.actualDevice ≠ none := by
  simp [submittedCandidates, List.mem_insertionSort]

/-- The candidates of `process_jobs` are rows of the store, so their ids are distinct. -/
theorem submittedCandidates_ids_nodup : (st.submittedCandidates.map (·.id)).Nodup :=
  ((List.perm_insertionSort _ _).map _).nodup_iff.mpr (st.ids_nodup.sublist ((List.filter_sublist _).map _))

/-- The query of `send_status` and `_cancel_slave_dispatcher_jobs`. -/
def runningOn (hostname : String) : List TestJob :=
  st.jobs.filter fun j => j.deviceWorker = some hostname ∧ j.isPipeline ∧ j.status = .running

/-- The query of `handle_canceling`. -/
def cancelingJobs : List TestJob :=
  st.jobs.filter fun j => j.status = .canceling ∧ j.isPipeline

/-- `job.sub_jobs_list`: the jobs of the job's multinode group. -/
def subJobsList (job : TestJob) : List TestJob :=
  st.jobs.filter fun j => j.targetGroup = job.targetGroup

/-- What `select_device` leaves of the job: "selecting device can change the job", so
the row holds whatever device the scheduler left it. -/
def setDevice (job : TestJob) (device : Option Device) : Store :=
  st.modify job.id (fun j => { j with actualDevice := device }) fun _ => rfl

/-- Modelled from the spec: `create_job(job, device)` persists the assignment. -/
def createJob (job : TestJob) (device : Device) : Store :=
  (st.modify job.id (fun j => { j with actualDevice := some device }) fun _ => rfl).record
    (.createJob job.id device)

theorem statusOf_setDevice (job : TestJob) (device : Option Device) (k : Int) :
    (st.setDevice job device).statusOf k = st.statusOf k := by
  rw [setDevice, statusOf_modify]
  split_ifs <;> simp [statusOf]

theorem statusOf_createJob (job : TestJob) (device : Device) (k : Int) :
    (st.createJob job device).statusOf k = st.statusOf k := by
  rw [createJob, statusOf_record, statusOf_modify]
  split_ifs <;> simp [statusOf]

/-- Modelled from the spec: `start_job(job)` transitions the job to `RUNNING`. -/
def startJob (job : TestJob) : Store :=
  (st.modify job.id (fun j => { j with status := .running }) fun _ => rfl).record (.startJob job.id)

/-- Modelled from the spec: `cancel_job(job)`, the cancel finaliser. -/
def cancelJob (job : TestJob) : Store :=
  (st.modify job.id (fun j => { j with status := .canceled }) fun _ => rfl).record (.cancelJob job.id)

/-- Modelled from the spec: `fail_job(job, fail_msg, job_status)` ends the job with the
given status and records the message. -/
def failJob (job : TestJob) (failMsg : String) (jobStatus : Status) : Store :=
  (st.modify job.id (fun j => { j with status := jobStatus, failureComment := some failMsg })
    fun _ => rfl).record (.failJob job.id failMsg jobStatus)

/-- Modelled from the spec: `parse_job_description(job)` parses the job's description
into the store. -/
def parseJobDescription (job : TestJob) (description : Option String) : Store :=
  st.record (.parseJobDescription job.id description)

end Store

end LavaMaster
