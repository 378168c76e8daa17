import LavaMaster.Properties.Frame

/-!
# What the control handlers do on a healthy connection

With every round trip answered, each branch of `controler_socket` returns, and its
effect is one explicit update of the state: the sender is touched in the registry, the
replies and `STATUS` requests are appended to the sent messages, and the store changes
by the branch's own operations.
-/

namespace LavaMaster

/-- The registry after `SlaveDispatcher.alive` on a known slave, or after
`SlaveDispatcher(hostname, online=True)` on a new one. -/
def touch (reg : String → Option SlaveDispatcher) (hostname : String) (now : Nat) :
    String → Option SlaveDispatcher :=
  Function.update reg hostname (some ((reg hostname).elim (.init now true) (·.alive now)))

/-- The `STATUS` requests `dispatcher_alive` sends: one per running job of a slave it did
not know. -/
def resync (reg : String → Option SlaveDispatcher) (st : Store) (hostname : String) : List Outbound :=
  if reg hostname = none then (st.runningOn hostname).map fun j => .status hostname j.id else []

/-- The messages `controler_socket` accepts. -/
def ControlMsg.Accepted (msg : ControlMsg) : Prop :=
  ((msg.action = "HELLO" ∨ msg.action = "HELLO_RETRY") ∧ msg.intArg 0 = some protocolVersion) ∨
  msg.action = "PING" ∨
  (msg.action = "END" ∧ (msg.intArg 0).isSome ∧ (msg.intArg 1).isSome ∧ 4 ≤ msg.args.length) ∨
  (msg.action = "START_OK" ∧ (msg.intArg 0).isSome)

instance (msg : ControlMsg) : Decidable msg.Accepted :=
  inferInstanceAs (Decidable (_ ∨ _))

/-- The store after the `try` of the `END` branch for a job it found: the parsed
description, then the status transaction. -/
def endStore (env : Env) (st : Store) (job : TestJob) (errorMsg description : String) (status : Status) :
    Store :=
  let parsed := st.parseJobDescription job (some ((env.decompress description).getD ""))
  (if job.status = .canceling then parsed.cancelJob job else parsed).failJob job errorMsg status

/-- The calls of `END` for a job it found: `parse_job_description`, `cancel_job` when the
job was canceling, and one `fail_job`. -/
theorem endStore_calls (env : Env) (st : Store) (job : TestJob) (errorMsg description : String)
    (status : Status) : (endStore env st job errorMsg description status).calls = st.calls ++
      .parseJobDescription job.id (some ((env.decompress description).getD "")) ::
        ((if job.status = .canceling then [.cancelJob job.id] else []) ++ [.failJob job.id errorMsg status]) := by
  unfold endStore
  split_ifs <;> simp [Store.failJob, Store.cancelJob, Store.parseJobDescription]

/-- The state after the `try` of the `END` branch: nothing for an unknown job, else
`description.yaml`, the parsed description and the status transaction. -/
def endEffect (env : Env) (s : Master) (jobId : Int) (errorMsg description : String)
    (status : Status) : Master :=
  { s with
    files := match s.store.find? jobId with
      | none => s.files
      | some job => Function.update s.files (pathJoin job.outputDir ["description.yaml"])
          (some ((env.decompress description).getD ""))
    store := match s.store.find? jobId with
      | none => s.store
      | some job => endStore env s.store job errorMsg description status }

namespace Store

/-- The store after the transaction of `START_OK`. -/
def startById (st : Store) (jobId : Int) : Store :=
  match st.find? jobId with
  | none => st
  | some job => st.startJob job

/-- The store after `_cancel_slave_dispatcher_jobs`. -/
def cancelRunningOn (st : Store) (hostname : String) : Store :=
  (st.runningOn hostname).foldl (fun st j => st.cancelJob j) st

end Store

section Connected

variable (env : Env) (s : Master) (msg : ControlMsg) (hc : s.connection = none)
include hc

theorem sendStatus_of_connected (hostname : String) :
    sendStatus hostname s = .ok () { s with
      sent := s.sent ++ (s.store.runningOn hostname).map fun j => .status hostname j.id } := by
  simp [sendStatus, query_of_connected s hc, forM_send_of_connected _ _ _ hc]

theorem dispatcherAlive_of_connected (hostname : String) :
    dispatcherAlive hostname s = .ok () { s with
      dispatchers := touch s.dispatchers hostname s.now,
      sent := s.sent ++ resync s.dispatchers s.store hostname } := by
  cases hd : s.dispatchers hostname with
  | none =>
    simp [dispatcherAlive, hd, sendStatus_of_connected, hc, touch, resync, SlaveDispatcher.alive,
      SlaveDispatcher.init]
  | some d => simp [dispatcherAlive, hd, touch, resync]

theorem cancelSlaveDispatcherJobs_of_connected (hostname : String) :
    cancelSlaveDispatcherJobs hostname s =
      .ok () { s with store := s.store.cancelRunningOn hostname } := by
  simp [cancelSlaveDispatcherJobs, query_of_connected s hc, forM_save_of_connected _ _ _ hc,
    Store.cancelRunningOn]

theorem onHello_of_connected : onHello msg s =
    if msg.intArg 0 = some protocolVersion then .ok true { s with
      sent := s.sent ++ [.helloOk msg.hostname],
      dispatchers := touch s.dispatchers msg.hostname s.now,
      store := if msg.action = "HELLO" then s.store.cancelRunningOn msg.hostname else s.store }
    else .ok false s := by
  unfold onHello
  cases hv : msg.intArg 0 with
  | none => simp
  | some v =>
    by_cases h1 : v = protocolVersion
    · cases hd : s.dispatchers msg.hostname <;> by_cases ha : msg.action = "HELLO" <;>
        simp [h1, hd, ha, cancelSlaveDispatcherJobs_of_connected, hc, touch, SlaveDispatcher.alive,
          SlaveDispatcher.init]
    · simp [h1]

theorem onPing_of_connected : onPing msg s = .ok true { s with
    sent := s.sent ++ .pong msg.hostname :: resync s.dispatchers s.store msg.hostname,
    dispatchers := touch s.dispatchers msg.hostname s.now } := by
  simp [onPing, dispatcherAlive_of_connected, hc, resync]

theorem endJob_of_connected (jobId : Int) (errorMsg description : String) (status : Status) :
    exceptDoesNotExist (endJob env jobId errorMsg description status) s =
      .ok () (endEffect env s jobId errorMsg description status) := by
  cases hj : s.store.find? jobId with
  | none =>
    cases s
    subst hc
    simp [exceptDoesNotExist, endJob, getJob_of_connected, hj, endEffect]
  | some job =>
    by_cases hcan : job.status = .canceling <;>
      simp [exceptDoesNotExist, endJob, getJob_of_connected, hc, hj, endEffect, endStore, saveDescription,
        parseJobDescription, Store.parseJobDescription, save_of_connected, Store.find?_modify, hcan,
        Store.cancelJob]

theorem onEnd_of_connected : onEnd env msg s =
    match msg.intArg 0, msg.intArg 1, msg.args.get? 2, msg.args.get? 3 with
    | some jobId, some jobStatus, some errorMsg, some description =>
      let s' := endEffect env s jobId errorMsg description (if jobStatus ≠ 0 then .incomplete else .complete)
      .ok true { s' with
        sent := s'.sent ++ .endOk msg.hostname jobId :: resync s'.dispatchers s'.store msg.hostname,
        dispatchers := touch s'.dispatchers msg.hostname s'.now }
    | _, _, _, _ => .ok false s := by
  unfold onEnd
  rcases msg.intArg 0 with _ | jobId <;> rcases msg.intArg 1 with _ | jobStatus <;>
    rcases msg.args.get? 2 with _ | errorMsg <;> rcases msg.args.get? 3 with _ | description <;>
    simp [endJob_of_connected, hc]
  simp [dispatcherAlive_of_connected, hc, endEffect]

theorem onStartOk_of_connected : onStartOk msg s =
    match msg.intArg 0 with
    | some jobId =>
      let st := s.store.startById jobId
      .ok true { s with
        store := st,
        sent := s.sent ++ resync s.dispatchers st msg.hostname,
        dispatchers := touch s.dispatchers msg.hostname s.now }
    | none => .ok false s := by
  unfold onStartOk
  cases hv : msg.intArg 0 with
  | none => simp
  | some jobId =>
    cases hj : s.store.find? jobId <;>
      simp [exceptDoesNotExist, getJob_of_connected, hc, hj, save_of_connected,
        dispatcherAlive_of_connected, Store.startById]

/-- On a healthy connection `controler_socket` returns, touches the sender exactly when
it accepts the message, and keeps the clock. -/
theorem controlerSocket_of_connected : ∃ b s', controlerSocket env msg s = .ok b s' ∧
    s'.dispatchers = (if msg.Accepted then touch s.dispatchers msg.hostname s.now else s.dispatchers) ∧
    s'.now = s.now ∧ s'.connection = none := by
  unfold controlerSocket
  by_cases hh : msg.action = "HELLO" ∨ msg.action = "HELLO_RETRY"
  · have hacc : msg.Accepted ↔ msg.intArg 0 = some protocolVersion := by
      rcases hh with hh | hh <;> simp [ControlMsg.Accepted, hh]
    rw [if_pos hh, onHello_of_connected _ _ hc]
    by_cases hv : msg.intArg 0 = some protocolVersion <;> simp [hv, hacc, hc]
  rw [if_neg hh]
  by_cases hp : msg.action = "PING"
  · have hacc : msg.Accepted := by simp [ControlMsg.Accepted, hp]
    simp [hp, hacc, onPing_of_connected _ _ hc, hc]
  rw [if_neg hp]
  by_cases he : msg.action = "END"
  · have h4 : 4 ≤ msg.args.length ↔ (msg.args.get? 3).isSome := by
      rw [Option.isSome_iff_ne_none, Ne, List.get?_eq_none]; omega
    have hacc : msg.Accepted ↔
        (msg.intArg 0).isSome ∧ (msg.intArg 1).isSome ∧ (msg.args.get? 3).isSome := by
      simp [ControlMsg.Accepted, he, h4]
    rw [if_pos he, onEnd_of_connected _ _ _ hc]
    simp only [hacc]
    rcases h0 : msg.intArg 0 with _ | j <;> rcases h1 : msg.intArg 1 with _ | c <;>
      rcases h2 : msg.args.get? 2 with _ | e <;> rcases h3 : msg.args.get? 3 with _ | d <;>
      simp_all [endEffect]
    obtain ⟨h, -⟩ := List.getElem?_eq_some_iff.mp h3
    omega
  rw [if_neg he]
  by_cases hs : msg.action = "START_OK"
  · have hacc : msg.Accepted ↔ (msg.intArg 0).isSome := by simp [ControlMsg.Accepted, hs]
    rw [if_pos hs, onStartOk_of_connected _ _ hc]
    simp only [hacc]
    rcases h0 : msg.intArg 0 with _ | j <;> simp [hc]
  · have hacc : ¬ msg.Accepted := by simp_all [ControlMsg.Accepted]
    simp [hs, hacc, hc]

end Connected

end LavaMaster
