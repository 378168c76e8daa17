import LavaMaster.Model.MainLoop

/-!
# Frame conditions

`Keeps R x` says that every run of `x`, whether it returns or raises, ends in a state
related to its start by `R`. For a preorder `R` the combinators of the handlers keep
it as soon as their primitive steps do, so a frame condition of the whole dispatch
sweep follows from one obligation per store operation it calls.
-/

namespace LavaMaster

def Keeps (R : Master → Master → Prop) {α : Type} (x : M α) : Prop := ∀ s, R s (x s).state

/-- Nothing is sent. -/
def Silent (s s' : Master) : Prop := s'.sent = s.sent

instance : IsRefl Master Silent := ⟨fun _ => rfl⟩

instance : IsTrans Master Silent := ⟨fun _ _ _ h h' => h'.trans h⟩

namespace Keeps

variable {R : Master → Master → Prop} {α β : Type}

theorem pure [IsRefl Master R] (a : α) : Keeps R (Pure.pure a) := fun s => refl_of R s

theorem throw [IsRefl Master R] (e : PyError) : Keeps R (MonadExcept.throw e : M α) :=
  fun s => refl_of R s

theorem get [IsRefl Master R] : Keeps R (MonadState.get : M Master) := fun s => refl_of R s

theorem liftExcept [IsRefl Master R] (r : Except PyError α) : Keeps R (LavaMaster.liftExcept r) := by
  cases r <;> exact fun s => refl_of R s

/-- `bind` from one state, where the continuation need only keep `R` after the result
`x` gives there. -/
theorem bind_at [IsTrans Master R] {x : M α} {f : α → M β} {s : Master} (hx : R s (x s).state)
    (hf : ∀ a s', x s = .ok a s' → R s' (f a s').state) : R s ((x >>= f) s).state := by
  simp only [bind_apply]
  cases hr : x s with
  | ok a s' => rw [hr] at hx; exact trans_of R hx (hf a s' hr)
  | error e s' => rw [hr] at hx; exact hx

/-- `bind`, where the continuation need only keep `R` after a result of `x`. -/
theorem bind_ok [IsTrans Master R] {x : M α} {f : α → M β} (hx : Keeps R x)
    (hf : ∀ s a s', x s = .ok a s' → R s' (f a s').state) : Keeps R (x >>= f) :=
  fun s => bind_at (hx s) (hf s)

theorem bind [IsTrans Master R] {x : M α} {f : α → M β} (hx : Keeps R x) (hf : ∀ a, Keeps R (f a)) :
    Keeps R (x >>= f) :=
  bind_ok hx fun _ a s' _ => hf a s'

/-- `try` from one state, where the handler need only keep `R` after the exception `x`
raises there. -/
theorem tryCatch_at [IsTrans Master R] {x : M α} {h : PyError → M α} {s : Master} (hx : R s (x s).state)
    (hh : ∀ e s', x s = .error e s' → R s' (h e s').state) : R s ((MonadExcept.tryCatch x h) s).state := by
  simp only [tryCatch_apply]
  cases hr : x s with
  | ok a s' => rw [hr] at hx; exact hx
  | error e s' => rw [hr] at hx; exact trans_of R hx (hh e s' hr)

theorem tryCatch [IsTrans Master R] {x : M α} {h : PyError → M α} (hx : Keeps R x) (hh : ∀ e, Keeps R (h e)) :
    Keeps R (MonadExcept.tryCatch x h) :=
  fun s => tryCatch_at (hx s) fun e s' _ => hh e s'

/-- A loop over `l` keeps `R` when its body does for the elements of `l`. -/
theorem forM_of_mem [IsRefl Master R] [IsTrans Master R] (l : List α) {f : α → M PUnit}
    (hf : ∀ a ∈ l, Keeps R (f a)) : Keeps R (l.forM f) := by
  induction l with
  | nil => exact pure _
  | cons a l ih => exact bind (hf a (.head _)) fun _ => ih fun b hb => hf b (.tail _ hb)

theorem forM [IsRefl Master R] [IsTrans Master R] (l : List α) {f : α → M PUnit} (hf : ∀ a, Keeps R (f a)) :
    Keeps R (l.forM f) :=
  forM_of_mem l fun a _ => hf a

theorem of_ok {x : M α} (hx : Keeps R x) {s s' : Master} {a : α} (h : x s = .ok a s') : R s s' := by
  have := hx s
  rwa [h] at this

theorem of_error {x : M α} (hx : Keeps R x) {s s' : Master} {e : PyError} (h : x s = .error e s') :
    R s s' := by
  have := hx s
  rwa [h] at this

theorem ite {c : Prop} [Decidable c] {x y : M α} (hx : Keeps R x) (hy : Keeps R y) :
    Keeps R (if c then x else y) := by
  split <;> assumption

/-- `transaction.atomic` keeps a relation that survives putting the first store back. -/
theorem atomic (hR : ∀ s s', R s s' → R s { s' with store := s.store }) {x : M α} (hx : Keeps R x) :
    Keeps R (LavaMaster.atomic x) := fun s => by
  have h := hx s
  simp only [atomic_apply]
  cases hr : x s <;> rw [hr] at h
  · exact h
  · exact hR _ _ h

/-- `transaction.atomic` around a block that sends nothing needs the relation to survive
putting the first store back only after such a block. -/
theorem atomic_silent (hR : ∀ s s', R s s' → s'.sent = s.sent → R s { s' with store := s.store }) {x : M α}
    (hx : Keeps R x) (hs : Keeps Silent x) : Keeps R (LavaMaster.atomic x) := fun s => by
  have h := hx s
  have h' := hs s
  simp only [atomic_apply]
  cases hr : x s <;> rw [hr] at h h'
  · exact h
  · exact hR _ _ h h'

theorem mono {R' : Master → Master → Prop} (h : ∀ s s', R s s' → R' s s') {x : M α} (hx : Keeps R x) :
    Keeps R' x :=
  fun s => h _ _ (hx s)

end Keeps

/-! ## The dispatch sweep touches the state only through its store calls -/

/-- The `fail_job` messages of `process_jobs` all start with `Infrastructure error: `. -/
def InfrastructureMsg (msg : String) : Prop := ∃ rest, msg = "Infrastructure error: " ++ rest

theorem InfrastructureMsg.append {msg : String} (h : InfrastructureMsg msg) (b : String) :
    InfrastructureMsg (msg ++ b) :=
  let ⟨rest, hr⟩ := h
  ⟨rest ++ b, by rw [hr, String.append_assoc]⟩

theorem InfrastructureMsg.of_leading {msg : String} (h : "Infrastructure error: ".data <+: msg.data) :
    InfrastructureMsg msg :=
  let ⟨t, ht⟩ := h
  ⟨⟨t⟩, String.ext (by rw [← ht]; rfl)⟩

theorem infrastructureMsg_invalidWorkerInformation : InfrastructureMsg invalidWorkerInformation :=
  .of_leading (by decide)

/-- Each message of the four `except` clauses starts with the common text. -/
theorem infrastructureMsg_of_infrastructureError {e : PyError} {msg : String}
    (h : infrastructureError e = some msg) : InfrastructureMsg msg := by
  cases e <;> simp only [infrastructureError, Option.some.injEq, reduceCtorEq] at h <;> subst h <;>
    repeat apply InfrastructureMsg.append
  all_goals exact .of_leading (by decide)

/-- The requests of the sweeps of the store, `START` and `CANCEL`: the controler socket
sends only the others, its replies and `STATUS`. -/
def Outbound.FromSweep : Outbound → Prop
  | .start .. | .cancel .. => True
  | _ => False

instance : DecidablePred Outbound.FromSweep := fun
  | .start .. | .cancel .. => isTrue trivial
  | .helloOk _ | .pong _ | .endOk .. | .status .. => isFalse id

section Sweep

variable (env : Env) {R : Master → Master → Prop} [IsRefl Master R] [IsTrans Master R]
  (hrt : Keeps R roundTrip) (hsend : ∀ m, Keeps R (send m))
  (hfail : ∀ job msg status, status.isTerminal → Keeps R (save (·.failJob job msg status)))
  (hstart : ∀ host jobId definition deviceConfig dispatcherConfig envStr envDutStr,
    Keeps R (send (.start host jobId definition deviceConfig dispatcherConfig envStr envDutStr)))
  (hcancelMsg : ∀ host jobId, Keeps R (send (.cancel host jobId)))
  (hinfra : ∀ job msg, InfrastructureMsg msg → Keeps R (save (·.failJob job msg .incomplete)))
  (hanswer : ∀ m, ¬ m.FromSweep → Keeps R (send m))

include hrt in
theorem query_keeps {α : Type} (f : Store → α) : Keeps R (query f) :=
  Keeps.bind hrt fun _ => Keeps.bind Keeps.get fun _ => Keeps.pure _

include hrt in
theorem getJob_keeps (jobId : Int) : Keeps R (getJob jobId) := by
  refine Keeps.bind (query_keeps hrt _) fun j => ?_
  split
  · exact Keeps.pure _
  · exact Keeps.throw _

theorem roundTrip_silent : Keeps Silent roundTrip := fun s => by
  unfold roundTrip
  split <;> rfl

theorem save_silent (f : Store → Store) : Keeps Silent (save f) :=
  Keeps.bind roundTrip_silent fun _ _ => rfl

include hrt in
/-- The connection's `START` goes to its `lookup_worker` and names it. -/
theorem startConnection_keeps_starts (groupJob : TestJob) (dc e ed : String)
    (hconn : ∀ host definition deviceConfig, groupJob.lookupWorker = some host →
      Keeps R (send (.start host groupJob.id definition deviceConfig dc e ed))) :
    Keeps R (startConnection env groupJob dc e ed) := by
  unfold startConnection
  split
  · refine Keeps.bind (query_keeps hrt _) fun p => ?_
    split
    · refine Keeps.bind (Keeps.liftExcept _) fun _ => ?_
      split
      · exact Keeps.bind (Keeps.liftExcept _) fun _ =>
          Keeps.bind (Keeps.liftExcept _) fun _ => hconn _ _ _ ‹_›
      · exact Keeps.throw _
    · exact Keeps.throw _
  · exact Keeps.throw _

include hrt hsend in
theorem startConnection_keeps (groupJob : TestJob) (dc e ed : String) :
    Keeps R (startConnection env groupJob dc e ed) :=
  startConnection_keeps_starts env hrt groupJob dc e ed fun _ _ _ _ => hsend _

include hrt hstart in
theorem startJobs_keeps (job : TestJob) (device : Device) (workerHost : String) :
    Keeps R (startJobs env job device workerHost) := by
  unfold startJobs
  refine Keeps.bind (Keeps.liftExcept _) fun _ => Keeps.bind (Keeps.liftExcept _) fun _ =>
    Keeps.bind (Keeps.liftExcept _) fun _ => ?_
  dsimp only
  refine Keeps.ite (Keeps.bind (query_keeps hrt _) fun g => Keeps.bind (Keeps.forM g fun _ =>
    Keeps.ite (startConnection_keeps_starts env hrt _ _ _ _ fun _ _ _ _ => hstart _ _ _ _ _ _ _)
      (Keeps.pure _)) fun _ => ?_)
    (Keeps.bind (Keeps.pure _) fun _ => ?_)
  all_goals exact Keeps.bind (Keeps.liftExcept _) fun _ => Keeps.bind (Keeps.liftExcept _) fun _ =>
    Keeps.bind (Keeps.liftExcept _) fun _ => hstart _ _ _ _ _ _ _

include hrt hstart hinfra in
/-- A failure `process_jobs` catches fails the job `INCOMPLETE` with an infrastructure
error. -/
theorem dispatchJob_keeps_starts (job : TestJob) (device : Device) (workerHost : String) :
    Keeps R (dispatchJob env job device workerHost) := by
  refine Keeps.tryCatch (startJobs_keeps env hrt hstart _ _ _) fun e => ?_
  split
  · exact hinfra _ _ (infrastructureMsg_of_infrastructureError ‹_›)
  · exact Keeps.throw _

include hrt hsend hfail in
theorem dispatchJob_keeps (job : TestJob) (device : Device) (workerHost : String) :
    Keeps R (dispatchJob env job device workerHost) :=
  dispatchJob_keeps_starts env hrt (fun _ _ _ _ _ _ _ => hsend _) (fun _ _ _ => hfail _ _ _ rfl) job device
    workerHost

include hrt in
/-- One candidate of `process_jobs`, from the state the write of `select_device` leaves: it
keeps a preorder when the writes that follow keep it on the candidate's row read again:
`fail_job` on a device without a worker, `create_job` on a row without a device, and the
`try` on a row holding the device whose worker it starts the job on. -/
theorem processJob_keeps_selected (candidate : TestJob) (s : Master)
    (hinvalid : ∀ s job, job.id = candidate.id →
      R s (save (·.failJob job invalidWorkerInformation .incomplete) s).state)
    (hcreate : ∀ s job device, job.id = candidate.id → s.store.find? job.id = some job →
      job.actualDevice = none → R s (save (·.createJob job device) s).state)
    (hdispatch : ∀ s job device workerHost, job.id = candidate.id →
      s.store.find? job.id = some { job with actualDevice := some device } →
      device.workerHost = some workerHost → R s (dispatchJob env job device workerHost s).state) :
    R (save (·.setDevice candidate (env.selectDevice candidate s.dispatchers).actualDevice) s).state
      (processJob env candidate s).state := by
  unfold processJob
  rw [bind_apply, get_apply]
  dsimp only
  rw [bind_apply]
  cases save (·.setDevice candidate (env.selectDevice candidate s.dispatchers).actualDevice) s with
  | error e s₁ => exact refl_of R s₁
  | ok _ s₁ =>
    dsimp only
    cases (env.selectDevice candidate s.dispatchers).device with
    | none => exact refl_of R s₁
    | some _ =>
      refine Keeps.bind_at (getJob_keeps hrt _ s₁) fun job s₂ hj => ?_
      have hfound := getJob_ok s₁ hj
      have hid : job.id = candidate.id := by exact_mod_cast s₂.store.find?_id hfound
      have hrow : s₂.store.find? job.id = some job := by rw [hid]; exact hfound
      cases ha : job.actualDevice with
      | none =>
        cases hd : job.requestedDevice with
        | none => exact refl_of R s₂
        | some device =>
          dsimp only
          cases hw : device.workerHost with
          | none => exact hinvalid s₂ job hid
          | some workerHost =>
            refine Keeps.bind_at (hcreate s₂ job device hid hrow ha) fun _ s₃ hs =>
              hdispatch s₃ job device workerHost hid ?_ hw
            rw [(save_ok s₂ hs).1]
            simp [Store.createJob, Store.find?_modify, hrow]
      | some device =>
        dsimp only
        cases hw : device.workerHost with
        | none => exact hinvalid s₂ job hid
        | some workerHost => exact hdispatch s₂ job device workerHost hid (by rw [hrow, ← ha]) hw

include hrt in
/-- One candidate of `process_jobs`, from one state: it keeps a preorder when the write of
`select_device` keeps it there and the writes that follow keep it. -/
theorem processJob_keeps_at (candidate : TestJob) (s : Master)
    (hselect : ∀ device, R s (save (·.setDevice candidate device) s).state)
    (hinvalid : ∀ s job, job.id = candidate.id →
      R s (save (·.failJob job invalidWorkerInformation .incomplete) s).state)
    (hcreate : ∀ s job device, job.id = candidate.id → s.store.find? job.id = some job →
      job.actualDevice = none → R s (save (·.createJob job device) s).state)
    (hdispatch : ∀ s job device workerHost, job.id = candidate.id →
      s.store.find? job.id = some { job with actualDevice := some device } →
      device.workerHost = some workerHost → R s (dispatchJob env job device workerHost s).state) :
    R s (processJob env candidate s).state :=
  trans_of R (hselect _) (processJob_keeps_selected env hrt candidate s hinvalid hcreate hdispatch)

include hrt hinfra in
/-- One candidate of `process_jobs` keeps a preorder when `select_device` keeps it,
`create_job` keeps it on a row without a device, and the `try` keeps it from every state
whose store holds the job's row with the device whose worker it is started on. -/
theorem processJob_keeps_rows (candidate : TestJob)
    (hselect : ∀ device, Keeps R (save (·.setDevice candidate device)))
    (hcreate : ∀ s job device, s.store.find? job.id = some job → job.actualDevice = none →
      R s (save (·.createJob job device) s).state)
    (hdispatch : ∀ s job device workerHost, s.store.find? job.id = some { job with actualDevice := some device } →
      device.workerHost = some workerHost → R s (dispatchJob env job device workerHost s).state) :
    Keeps R (processJob env candidate) := fun s =>
  processJob_keeps_at env hrt candidate s (fun d => hselect d s)
    (fun s job _ => hinfra job _ infrastructureMsg_invalidWorkerInformation s)
    (fun s job device _ => hcreate s job device) fun s job device workerHost _ => hdispatch s job device workerHost

include hrt hstart hinfra in
/-- `process_jobs` keeps every preorder its `START` requests, its calls of `select_device`
and `create_job` and its infrastructure failures keep. -/
theorem processJobs_keeps_starts (hselect : ∀ job device, Keeps R (save (·.setDevice job device)))
    (hcreate : ∀ job device, Keeps R (save (·.createJob job device))) : Keeps R (processJobs env) :=
  Keeps.bind (query_keeps hrt _) fun _ => Keeps.forM _ fun c =>
    processJob_keeps_rows env hrt hinfra c (hselect c) (fun s job device _ _ => hcreate job device s)
      fun s _ _ _ _ _ => dispatchJob_keeps_starts env hrt hstart hinfra _ _ _ s

include hrt hsend hfail in
/-- `process_jobs` keeps every preorder its sends and its calls of `select_device`,
`create_job` and `fail_job` keep. -/
theorem processJobs_keeps (hselect : ∀ job device, Keeps R (save (·.setDevice job device)))
    (hcreate : ∀ job device, Keeps R (save (·.createJob job device))) : Keeps R (processJobs env) :=
  processJobs_keeps_starts env hrt (fun _ _ _ _ _ _ _ => hsend _) (fun _ _ _ => hfail _ _ _ rfl) hselect hcreate

include hrt hfail hcancelMsg in
/-- `handle_canceling` sends nothing but `CANCEL` requests. -/
theorem handleCanceling_keeps : Keeps R handleCanceling := by
  unfold handleCanceling
  refine Keeps.bind (query_keeps hrt _) fun js => Keeps.forM _ fun job => ?_
  unfold cancelingJob
  dsimp only
  have tail : ∀ w : Option String, Keeps R (match w with
      | none => save fun x => x.failJob job "invalid worker information" .canceled
      | some host => send (.cancel host job.id)) := fun w => by
    split
    · exact hfail _ _ _ rfl
    · exact hcancelMsg _ _
  refine Keeps.ite (Keeps.bind (Keeps.pure _) tail) ?_
  split
  · exact Keeps.bind (Keeps.pure _) tail
  · exact Keeps.bind (Keeps.throw _) tail

/-! ## The handlers of the controler socket, through the same primitives -/

variable (hstatus : ∀ host jobId, Keeps R (send (.status host jobId)))
  (hnew : ∀ w, Keeps R (newDispatcher w)) (halive : ∀ w, Keeps R (alive w))
  (hatomic : ∀ {α : Type} {x : M α}, Keeps R x → Keeps Silent x → Keeps R (atomic x))
  (hcancel : ∀ job, Keeps R (save (·.cancelJob job)))
  (hfiles : ∀ job description, Keeps R (saveDescription env job description))
  (hrows : ∀ job description (s : Master), job ∈ s.store.jobs → R s (saveDescription env job description s).state)
  (hparse : ∀ job description, Keeps R (save (·.parseJobDescription job description)))
  (hsendStatus : ∀ hostname, Keeps R (sendStatus hostname))
  (hreply : ∀ m, ¬ m.FromSweep → (∀ host jobId, m ≠ .status host jobId) → Keeps R (send m))

include hrt hstatus in
theorem sendStatus_keeps (hostname : String) : Keeps R (sendStatus hostname) :=
  Keeps.bind (query_keeps hrt _) fun _ => Keeps.forM _ fun _ => Keeps.bind hrt fun _ => hstatus _ _

include hnew halive hsendStatus in
/-- `dispatcher_alive` keeps `R` when its `send_status` does. -/
theorem dispatcherAlive_keeps_of (hostname : String) : Keeps R (dispatcherAlive hostname) := by
  refine Keeps.bind Keeps.get fun _ => ?_
  dsimp only
  exact Keeps.ite (Keeps.bind (hnew _) fun _ => Keeps.bind (hsendStatus _) fun _ => halive _)
    (Keeps.bind (Keeps.pure _) fun _ => halive _)

include hrt hstatus hnew halive in
/-- `dispatcher_alive` sends nothing but `STATUS` requests. -/
theorem dispatcherAlive_keeps (hostname : String) : Keeps R (dispatcherAlive hostname) :=
  dispatcherAlive_keeps_of hnew halive (sendStatus_keeps hrt hstatus) hostname

include hrt hcancel in
/-- The transaction of `_cancel_slave_dispatcher_jobs`. -/
theorem cancelTransaction_keeps (hostname : String) : Keeps R (do
    let jobs ← query (·.runningOn hostname)
    jobs.forM fun job => save (·.cancelJob job)) :=
  Keeps.bind (query_keeps hrt _) fun _ => Keeps.forM _ fun _ => hcancel _

include hrt hatomic hcancel in
theorem cancelSlaveDispatcherJobs_keeps (hostname : String) :
    Keeps R (cancelSlaveDispatcherJobs hostname) :=
  hatomic (cancelTransaction_keeps hrt hcancel hostname)
    (cancelTransaction_keeps roundTrip_silent (fun _ => save_silent _) hostname)

theorem exceptDoesNotExist_keeps {x : M Unit} (hx : Keeps R x) :
    Keeps R (exceptDoesNotExist x) :=
  Keeps.tryCatch hx fun _ => Keeps.ite (Keeps.pure _) (Keeps.throw _)

include hrt hnew halive hatomic hcancel in
/-- What `HELLO` and `HELLO_RETRY` do after `HELLO_OK`: register the slave if it is new,
cancel its jobs for a `HELLO`, and refresh it. -/
theorem onHello_register_keeps (msg : ControlMsg) : Keeps R (do
    if (← MonadState.get).dispatchers msg.hostname = none then newDispatcher msg.hostname
    if msg.action = "HELLO" then cancelSlaveDispatcherJobs msg.hostname
    alive msg.hostname
    return true : M Bool) := by
  have tail : Keeps R (do
      if msg.action = "HELLO" then cancelSlaveDispatcherJobs msg.hostname
      alive msg.hostname
      return true) := by
    dsimp only
    exact Keeps.ite (Keeps.bind (cancelSlaveDispatcherJobs_keeps hrt hatomic hcancel _) fun _ =>
        Keeps.bind (halive _) fun _ => Keeps.pure _)
      (Keeps.bind (Keeps.pure _) fun _ => Keeps.bind (halive _) fun _ => Keeps.pure _)
  refine Keeps.bind Keeps.get fun _ => ?_
  exact Keeps.ite (Keeps.bind (hnew _) fun _ => tail) (Keeps.bind (Keeps.pure _) fun _ => tail)

include hrt hreply hnew halive hatomic hcancel in
theorem onHello_keeps_of (msg : ControlMsg) : Keeps R (onHello msg) := by
  unfold onHello
  split
  · dsimp only
    exact Keeps.ite (Keeps.pure _) (Keeps.bind (Keeps.pure _) fun _ =>
      Keeps.bind (hreply _ not_false fun _ _ => nofun) fun _ =>
        onHello_register_keeps hrt hnew halive hatomic hcancel msg)
  · exact Keeps.pure _

include hrt hanswer hnew halive hatomic hcancel in
theorem onHello_keeps (msg : ControlMsg) : Keeps R (onHello msg) :=
  onHello_keeps_of hrt hnew halive hatomic hcancel (fun m hm _ => hanswer m hm) msg

include hparse in
theorem parseJobDescription_keeps (job : TestJob) : Keeps R (parseJobDescription job) :=
  Keeps.bind Keeps.get fun _ => hparse _ _

include hrt hcancel hfail in
/-- The transaction of `END`: a canceling job is canceled, then failed. -/
theorem endTransaction_keeps (jobId : Int) (errorMsg : String) (status : Status) (ht : status.isTerminal) :
    Keeps R (do
      let job ← getJob jobId
      if job.status = .canceling then save (·.cancelJob job)
      save (·.failJob job errorMsg status)) := by
  refine Keeps.bind (getJob_keeps hrt _) fun job => ?_
  dsimp only
  exact Keeps.ite (Keeps.bind (hcancel _) fun _ => hfail _ _ _ ht)
    (Keeps.bind (Keeps.pure _) fun _ => hfail _ _ _ ht)

include hrt hatomic hcancel hfail hrows hparse in
/-- The body of `END` writes the description of the job it found in the store. -/
theorem endJob_keeps_rows (jobId : Int) (errorMsg description : String) (status : Status)
    (ht : status.isTerminal) : Keeps R (endJob env jobId errorMsg description status) := by
  refine Keeps.bind_ok (getJob_keeps hrt _) fun s job s₁ hj =>
    Keeps.bind_at (hrows job description s₁ (List.mem_of_find?_eq_some (getJob_ok s hj))) fun _ s₂ _ => ?_
  exact Keeps.bind (parseJobDescription_keeps hparse job) (fun _ =>
    hatomic (endTransaction_keeps hrt hfail hcancel jobId errorMsg status ht)
      (endTransaction_keeps roundTrip_silent (fun _ _ _ _ => save_silent _) (fun _ => save_silent _) jobId
        errorMsg status ht)) s₂

include hrt hatomic hcancel hfail hfiles hparse in
theorem endJob_keeps (jobId : Int) (errorMsg description : String) (status : Status)
    (ht : status.isTerminal) : Keeps R (endJob env jobId errorMsg description status) :=
  endJob_keeps_rows env hrt hfail hatomic hcancel (fun job d s _ => hfiles job d s) hparse jobId errorMsg
    description status ht

include hrt hreply hsendStatus hnew halive hatomic hcancel hfail hrows hparse in
theorem onEnd_keeps_of (msg : ControlMsg) : Keeps R (onEnd env msg) := by
  unfold onEnd
  split
  · split
    · split
      · split
        · refine Keeps.bind (exceptDoesNotExist_keeps
            (endJob_keeps_rows env hrt hfail hatomic hcancel hrows hparse _ _ _ _ ?_)) fun _ =>
            Keeps.bind (hreply _ not_false fun _ _ => nofun) fun _ =>
              Keeps.bind (dispatcherAlive_keeps_of hnew halive hsendStatus _) fun _ => Keeps.pure _
          split <;> rfl
        · exact Keeps.pure _
      · exact Keeps.pure _
    · exact Keeps.pure _
  · exact Keeps.pure _

include hrt hanswer hnew halive hatomic hcancel hfail hrows hparse in
theorem onEnd_keeps (msg : ControlMsg) : Keeps R (onEnd env msg) :=
  onEnd_keeps_of env hrt hfail hnew halive hatomic hcancel hrows hparse
    (sendStatus_keeps hrt fun _ _ => hanswer _ not_false) (fun m hm _ => hanswer m hm) msg

include hnew halive hsendStatus in
theorem onStartOk_keeps_of (msg : ControlMsg) (hstart : ∀ jobId, msg.intArg 0 = some jobId →
      Keeps R (atomic (getJob jobId >>= fun job => save (·.startJob job)))) :
    Keeps R (onStartOk msg) := by
  unfold onStartOk
  split
  · exact Keeps.bind (exceptDoesNotExist_keeps (hstart _ ‹_›)) fun _ =>
      Keeps.bind (dispatcherAlive_keeps_of hnew halive hsendStatus _) fun _ => Keeps.pure _
  · exact Keeps.pure _

include hrt hstatus hnew halive in
/-- `START_OK` keeps `R` as soon as its transaction does, for the job id it names. -/
theorem onStartOk_keeps (msg : ControlMsg) (hstart : ∀ jobId, msg.intArg 0 = some jobId →
      Keeps R (atomic (getJob jobId >>= fun job => save (·.startJob job)))) :
    Keeps R (onStartOk msg) :=
  onStartOk_keeps_of hnew halive (sendStatus_keeps hrt hstatus) msg hstart

include hrt hreply hsendStatus hfail hnew halive hatomic hcancel hrows hparse in
/-- The controler socket keeps every preorder its replies, its `send_status` and its store
calls keep: it sends neither `START` nor `CANCEL`, and it writes only the description of a
job of the store. -/
theorem controlerSocket_keeps_of (msg : ControlMsg) (hstart : msg.action = "START_OK" → ∀ jobId,
      msg.intArg 0 = some jobId → Keeps R (atomic (getJob jobId >>= fun job => save (·.startJob job)))) :
    Keeps R (controlerSocket env msg) := by
  unfold controlerSocket
  split
  · exact onHello_keeps_of hrt hnew halive hatomic hcancel hreply msg
  split
  · exact Keeps.bind (hreply _ not_false fun _ _ => nofun) fun _ =>
      Keeps.bind (dispatcherAlive_keeps_of hnew halive hsendStatus _) fun _ => Keeps.pure _
  split
  · exact onEnd_keeps_of env hrt hfail hnew halive hatomic hcancel hrows hparse hsendStatus hreply msg
  split
  · exact onStartOk_keeps_of hnew halive hsendStatus msg (hstart ‹_›)
  · exact Keeps.pure _

include hrt hanswer hfail hnew halive hatomic hcancel hrows hparse in
/-- The controler socket keeps every preorder its replies, its `STATUS` requests and its
store calls keep. -/
theorem controlerSocket_keeps_answers (msg : ControlMsg) (hstart : msg.action = "START_OK" → ∀ jobId,
      msg.intArg 0 = some jobId → Keeps R (atomic (getJob jobId >>= fun job => save (·.startJob job)))) :
    Keeps R (controlerSocket env msg) :=
  controlerSocket_keeps_of env hrt hfail hnew halive hatomic hcancel hrows hparse
    (sendStatus_keeps hrt fun _ _ => hanswer _ not_false) (fun m hm _ => hanswer m hm) msg hstart

include hrt hsend hfail hnew halive hatomic hcancel hfiles hparse in
theorem controlerSocket_keeps (msg : ControlMsg) (hstart : msg.action = "START_OK" → ∀ jobId,
      msg.intArg 0 = some jobId → Keeps R (atomic (getJob jobId >>= fun job => save (·.startJob job)))) :
    Keeps R (controlerSocket env msg) :=
  controlerSocket_keeps_answers env hrt hfail (fun m _ => hsend m) hnew halive hatomic hcancel
    (fun job d s _ => hfiles job d s) hparse msg hstart

/-! ## A pass of the main loop -/

variable (hselect : ∀ job device, Keeps R (save (·.setDevice job device)))
  (hcreate : ∀ job device, Keeps R (save (·.createJob job device)))
  (hlast : Keeps R (modify fun s : Master => { s with lastDbAccess := s.now }))

include hrt hsend hfail hselect hcreate hlast in
theorem accessDatabase_keeps : Keeps R (accessDatabase env) :=
  Keeps.bind Keeps.get fun _ => Keeps.ite (Keeps.bind hlast fun _ =>
    Keeps.bind (processJobs_keeps env hrt hsend hfail hselect hcreate) fun _ =>
      handleCanceling_keeps hrt hfail fun _ _ => hsend _)
    (Keeps.pure _)

/-- The pass up to the dispatcher check keeps `R` when the collection of `self.jobs` and
the handler of its message do. -/
theorem receive_keeps (hgc : Keeps R collectHandlers) (signal : Option Signal) (message : Option ControlMsg)
    (hcs : ∀ msg, message = some msg → Keeps R (controlerSocket env msg)) :
    Keeps R (receive env signal message) := by
  have hcmd : Keeps R (commandSocket env message) := by
    cases message with
    | none => exact Keeps.pure _
    | some msg => exact Keeps.bind (hcs msg rfl) fun _ => Keeps.pure _
  unfold receive
  split
  · exact Keeps.bind hgc fun _ => hcmd
  · exact Keeps.bind hgc fun _ => hcmd
  · exact Keeps.pure _

include hrt hsend hfail hselect hcreate hlast in
/-- A pass keeps `R` when the collection of `self.jobs`, the dispatcher check and the
handler of its message do. -/
theorem iteration_keeps (hgc : Keeps R collectHandlers) (hcheck : Keeps R checkDispatchers)
    (signal : Option Signal) (message : Option ControlMsg)
    (hcs : ∀ msg, message = some msg → Keeps R (controlerSocket env msg)) :
    Keeps R (iteration env signal message) := by
  refine Keeps.bind (receive_keeps env hgc signal message hcs) fun _ => ?_
  dsimp only
  exact Keeps.ite (Keeps.bind (Keeps.bind hcheck fun _ =>
      accessDatabase_keeps env hrt hsend hfail hselect hcreate hlast) fun _ => Keeps.pure _)
    (Keeps.bind (Keeps.pure _) fun _ => Keeps.pure _)

end Sweep

/-! ## A frame of the logging thread, through its three steps -/

section Frames

variable {R : Master → Master → Prop} [IsRefl Master R] [IsTrans Master R] (env : Env)

theorem recordFrame_keeps (r : LogRecord) (hopen : Keeps R (openHandler r))
    (hresults : Keeps R (extractResults env r)) (hwrite : Keeps R (writeRecord r)) : Keeps R (recordFrame env r) := by
  unfold recordFrame
  dsimp only
  refine Keeps.bind hopen fun d => ?_
  split
  · exact Keeps.pure _
  · refine Keeps.bind (Keeps.pure _) fun _ => Keeps.bind hresults fun d => ?_
    split
    · exact Keeps.pure _
    · exact Keeps.bind (Keeps.pure _) fun _ => Keeps.bind hwrite fun _ => Keeps.pure _

/-- A frame keeps `R` when the calls of the loader and each record the checks of the
receive loop accept do. -/
theorem loggingFrame_keeps_records (msg : List String) (hcalls : Keeps R (loadFrameCalls env msg))
    (hrec : ∀ r, scanFrame env msg = .ok (.ok r) → Keeps R (recordFrame env r)) : Keeps R (loggingFrame env msg) := by
  unfold loggingFrame
  refine Keeps.bind hcalls fun _ => ?_
  split
  · exact Keeps.throw _
  · exact Keeps.pure _
  · exact hrec _ ‹_›

variable (hcalls : ∀ msg, Keeps R (loadFrameCalls env msg)) (hopen : ∀ r, Keeps R (openHandler r))
  (hresults : ∀ r, Keeps R (extractResults env r)) (hwrite : ∀ r, Keeps R (writeRecord r))

include hcalls hopen hresults hwrite in
theorem loggingFrame_keeps (msg : List String) : Keeps R (loggingFrame env msg) :=
  loggingFrame_keeps_records env msg (hcalls msg) fun r _ => recordFrame_keeps env r (hopen r) (hresults r) (hwrite r)

end Frames

/-! ## The two frames of the model -/

/-- Only the store, the sent messages, the database connection and the time of the last
sweep of the store differ. -/
def StoreFrame (s s' : Master) : Prop :=
  ∃ st sent c l, s' = { s with store := st, sent := sent, connection := c, lastDbAccess := l }

instance : IsRefl Master StoreFrame := ⟨fun s => ⟨s.store, s.sent, s.connection, s.lastDbAccess, rfl⟩⟩

instance : IsTrans Master StoreFrame :=
  ⟨by rintro a b c ⟨st, se, co, l, rfl⟩ ⟨st', se', co', l', rfl⟩; exact ⟨st', se', co', l', rfl⟩⟩

theorem roundTrip_storeFrame : Keeps StoreFrame roundTrip := by
  intro s
  unfold roundTrip
  split <;> exact ⟨_, _, _, _, rfl⟩

theorem send_storeFrame (m : Outbound) : Keeps StoreFrame (send m) := fun _ => ⟨_, _, _, _, rfl⟩

theorem save_storeFrame (f : Store → Store) : Keeps StoreFrame (save f) :=
  Keeps.bind roundTrip_storeFrame fun _ _ => ⟨_, _, _, _, rfl⟩

theorem sendStatus_storeFrame (hostname : String) : Keeps StoreFrame (sendStatus hostname) :=
  sendStatus_keeps roundTrip_storeFrame (fun _ _ => send_storeFrame _) hostname

theorem accessDatabase_storeFrame (env : Env) : Keeps StoreFrame (accessDatabase env) :=
  accessDatabase_keeps env roundTrip_storeFrame send_storeFrame (fun _ _ _ _ => save_storeFrame _)
    (fun _ _ => save_storeFrame _) (fun _ _ => save_storeFrame _) fun _ => ⟨_, _, _, _, rfl⟩

/-! ## One step of a run -/

section Step

variable (env : Env) (s : Master)

/-- After a pass of the main loop, `step` only records how the loop ended. -/
theorem step_wake_eq (now : Nat) (signal : Option Signal) (message : Option ControlMsg)
    (c : Option Nat) : ∃ phase runThreads, step env s (.wake now signal message c) =
      if s.phase = .serving then
        { (iteration env signal message { s with now := now, connection := c }).state with
          phase := phase, runThreads := runThreads }
      else s := by
  simp only [step]
  split_ifs
  · split <;> rename_i h <;> rw [h] <;> exact ⟨_, _, rfl⟩
  · exact ⟨s.phase, s.runThreads, rfl⟩

theorem iteration_state (signal : Option Signal) (message : Option ControlMsg) :
    (iteration env signal message s).state = match receive env signal message s with
      | .ok flow s' => if flow = .proceed then (sweep env s').state else s'
      | .error _ s' => s' := by
  unfold iteration
  cases h : receive env signal message s with
  | ok flow s' =>
    by_cases hf : flow = .proceed
    · simp only [bind_apply, h, hf, if_pos]
      cases sweep env s' <;> rfl
    · simp [h, hf, EStateM.Result.state]
  | error e s' => simp [h, EStateM.Result.state]

end Step

/-- A preorder that every step keeps holds along every run. -/
theorem run_keeps (env : Env) {R : Master → Master → Prop} [IsRefl Master R] [IsTrans Master R]
    (hstep : ∀ s e, R s (step env s e)) (s : Master) (events : List Event) : R s (run env s events) := by
  induction events generalizing s with
  | nil => exact refl_of R s
  | cons e events ih => exact trans_of R (hstep s e) (ih _)

theorem sweep_eq (env : Env) (s : Master) : sweep env s = accessDatabase env { s with
    dispatchers := fun h => (s.dispatchers h).map (SlaveDispatcher.check s.now) } := by
  simp [sweep, checkDispatchers]

/-- Only the disk, the table of the logging thread, `self.current_level` and the results
store differ. -/
def LogFrame (s s' : Master) : Prop :=
  ∃ files logJobs level results,
    s' = { s with files := files, logJobs := logJobs, currentLevel := level, results := results }

instance : IsRefl Master LogFrame := ⟨fun s => ⟨s.files, s.logJobs, s.currentLevel, s.results, rfl⟩⟩

instance : IsTrans Master LogFrame :=
  ⟨by rintro a b c ⟨f, l, v, r, rfl⟩ ⟨f', l', v', r', rfl⟩; exact ⟨f', l', v', r', rfl⟩⟩

theorem openHandler_logFrame (r : LogRecord) : Keeps LogFrame (openHandler r) := fun s => by
  unfold openHandler
  repeat' split
  all_goals first | exact refl_of LogFrame s | exact ⟨_, _, _, _, rfl⟩

theorem extractResults_logFrame (env : Env) (r : LogRecord) : Keeps LogFrame (extractResults env r) := fun s => by
  unfold extractResults
  repeat' split
  all_goals first | exact refl_of LogFrame s | exact ⟨_, _, _, _, rfl⟩

theorem writeRecord_logFrame (r : LogRecord) : Keeps LogFrame (writeRecord r) := fun s => by
  unfold writeRecord
  split
  · exact ⟨_, _, _, _, rfl⟩
  · exact refl_of LogFrame s

theorem loadFrameCalls_logFrame (env : Env) (msg : List String) : Keeps LogFrame (loadFrameCalls env msg) := by
  unfold loadFrameCalls
  split
  · intro s
    dsimp only
    split
    · exact ⟨_, _, _, _, rfl⟩
    · exact refl_of LogFrame s
  · exact Keeps.pure _

theorem loggingFrame_logFrame (env : Env) (msg : List String) : Keeps LogFrame (loggingFrame env msg) :=
  loggingFrame_keeps env (loadFrameCalls_logFrame env) openHandler_logFrame (extractResults_logFrame env)
    writeRecord_logFrame msg

/-- A frame of the logging thread changes only the clock, the disk, the thread's table,
`self.current_level`, the results store and whether the thread has died. -/
theorem step_frame_eq (env : Env) (s : Master) (now : Nat) (msg : List String) :
    ∃ now' files logJobs level results failure, step env s (.frame now msg) = { s with
      now := now', files := files, logJobs := logJobs, currentLevel := level, results := results,
      logFailure := failure } := by
  simp only [step]
  split_ifs
  · obtain ⟨f, l, v, r, h⟩ := loggingFrame_logFrame env msg { s with now := now }
    revert h
    cases loggingFrame env msg { s with now := now } <;> rintro ⟨⟩ <;> exact ⟨_, _, _, _, _, _, rfl⟩
  · exact ⟨_, _, _, _, _, _, rfl⟩

end LavaMaster
