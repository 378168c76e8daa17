import LavaMaster.Properties.Loop

/-!
# Where the `STATUS` requests go

`send_status` asks a slave the state of the running pipeline jobs its query filters on
`actual_device__worker_host__hostname=hostname`, so each `STATUS` goes to the worker of
the device its job holds, and names a job that has left `SUBMITTED`. No store operation
of the master puts a job back into `SUBMITTED`: `fail_job` is called only with a terminal
status, `cancel_job` and `start_job` move a job on. Only `select_device` and `create_job`
change a device, and only for the candidates of `process_jobs`, which are submitted; the
rollback of a failed transaction puts back a store no `STATUS` was sent from, since the
transactions send nothing. So along every run each `STATUS` the master has sent names a
job of the store that has left `SUBMITTED` and goes to the worker of the device that job
holds.
-/

namespace LavaMaster

/-- A `STATUS` names a job of the store that has left `SUBMITTED`, held by a device of the
slave it goes to. -/
def Store.StatusRoutes (st : Store) : Outbound → Prop
  | .status host jobId => ∃ j ∈ st.find? jobId, j.deviceWorker = some host ∧ j.status ≠ .submitted
  | _ => True

instance (st : Store) : DecidablePred st.StatusRoutes := fun
  | .status .. => inferInstanceAs (Decidable (∃ j ∈ _, _))
  | .helloOk _ | .pong _ | .endOk .. | .start .. | .cancel .. => isTrue trivial

/-- Every `STATUS` the master has sent is routed by its store. -/
def Master.StatusRouted (s : Master) : Prop := ∀ m ∈ s.sent, s.store.StatusRoutes m

instance : DecidablePred Master.StatusRouted := fun s => inferInstanceAs (Decidable (∀ m ∈ s.sent, _))

/-- Every job of `st` that has left `SUBMITTED` is a job of `st'` that has too, on the
worker of the same device. -/
def Store.Settles (st st' : Store) : Prop :=
  ∀ k j, st.find? k = some j → j.status ≠ .submitted →
    ∃ j', st'.find? k = some j' ∧ j'.deviceWorker = j.deviceWorker ∧ j'.status ≠ .submitted

/-- The rows of `st` outside `ids` are rows of `st'`. -/
def Store.FixedOutside (ids : List Nat) (st st' : Store) : Prop :=
  ∀ k j, st.find? k = some j → j.id ∉ ids → st'.find? k = some j

namespace Store

variable {ids : List Nat} {st st' st'' : Store} {m : Outbound}

theorem Settles.refl (st : Store) : st.Settles st := fun _ j h hs => ⟨j, h, rfl, hs⟩

theorem Settles.trans (h : st.Settles st') (h' : st'.Settles st'') : st.Settles st'' := fun k j hj hs => by
  obtain ⟨j', hj', hw, hs'⟩ := h k j hj hs
  obtain ⟨j'', hj'', hw', hs''⟩ := h' k j' hj' hs'
  exact ⟨j'', hj'', hw'.trans hw, hs''⟩

/-- Committing a call leaves the rows. -/
theorem Settles.record (h : st.Settles st') (c : StoreCall) : st.Settles (st'.record c) := h

theorem Settles.statusRoutes (h : st.Settles st') (hm : st.StatusRoutes m) : st'.StatusRoutes m := by
  cases m with
  | status host jobId =>
    obtain ⟨j, hj, hw, hs⟩ := hm
    obtain ⟨j', hj', hw', hs'⟩ := h _ j hj hs
    exact ⟨j', hj', hw'.trans hw, hs'⟩
  | _ => trivial

theorem statusRoutes_of_ne (st : Store) (hm : ∀ host jobId, m ≠ .status host jobId) : st.StatusRoutes m := by
  cases m <;> first | trivial | exact absurd rfl (hm _ _)

/-- A change of one row that keeps a job that has left `SUBMITTED` out of it, on the
worker of its device. -/
theorem settles_modify (st : Store) (id : Nat) (f : TestJob → TestJob) (hf : ∀ j, (f j).id = j.id)
    (h : ∀ j, j.status ≠ .submitted → (f j).deviceWorker = j.deviceWorker ∧ (f j).status ≠ .submitted) :
    st.Settles (st.modify id f hf) := fun k j hj hs => by
  rw [find?_modify, hj]
  refine ⟨_, rfl, ?_⟩
  dsimp only
  split_ifs
  · exact h j hs
  · exact ⟨rfl, hs⟩

/-- `fail_job` is called only with a terminal status. -/
theorem settles_failJob (job : TestJob) (msg : String) {status : Status} (ht : status.isTerminal) :
    st.Settles (st.failJob job msg status) :=
  (st.settles_modify job.id (fun j => { j with status := status, failureComment := some msg }) (fun _ => rfl)
    fun _ _ => ⟨rfl, show status ≠ .submitted from fun h => by simp [h, Status.isTerminal] at ht⟩).record _

theorem settles_cancelJob (job : TestJob) : st.Settles (st.cancelJob job) :=
  (st.settles_modify job.id (fun j => { j with status := .canceled }) (fun _ => rfl) fun _ _ => ⟨rfl, nofun⟩).record _

theorem settles_startJob (job : TestJob) : st.Settles (st.startJob job) :=
  (st.settles_modify job.id (fun j => { j with status := .running }) (fun _ => rfl) fun _ _ => ⟨rfl, nofun⟩).record _

/-- `process_jobs` leaves every row that is not one of its candidates, and its candidates
are submitted: a job that has left `SUBMITTED` is not one of them. -/
theorem FixedOutside.settles (h : st.FixedOutside (st.submittedCandidates.map (·.id)) st') :
    st.Settles st' := fun k j hj hs => by
  refine ⟨j, h k j hj fun hmem => hs ?_, rfl, hs⟩
  obtain ⟨c, hc, hid⟩ := List.mem_map.mp hmem
  obtain ⟨hcj, hcs, -⟩ := st.mem_submittedCandidates.mp hc
  have hk : st.find? k = some c := by
    rw [← st.find?_id hj, ← hid]
    exact st.find?_of_mem hcj
  rw [hj, Option.some.injEq] at hk
  rw [hk]
  exact hcs

theorem FixedOutside.record (h : st.FixedOutside ids st') (c : StoreCall) : st.FixedOutside ids (st'.record c) := h

/-- A change of a row of `ids` leaves the rows outside `ids`. -/
theorem fixedOutside_modify (st : Store) {id : Nat} (hid : id ∈ ids) (f : TestJob → TestJob)
    (hf : ∀ j, (f j).id = j.id) : st.FixedOutside ids (st.modify id f hf) := fun k j hj hn => by
  rw [find?_modify, hj]
  simp [show j.id ≠ id from fun h => hn (h ▸ hid)]

variable (st) {job : TestJob} (hid : job.id ∈ ids)
include hid

theorem fixedOutside_setDevice (device : Option Device) : st.FixedOutside ids (st.setDevice job device) :=
  st.fixedOutside_modify hid _ _

theorem fixedOutside_createJob (device : Device) : st.FixedOutside ids (st.createJob job device) :=
  (st.fixedOutside_modify hid _ _).record _

theorem fixedOutside_failJob (msg : String) (status : Status) : st.FixedOutside ids (st.failJob job msg status) :=
  (st.fixedOutside_modify hid _ _).record _

end Store

/-! ## The controler socket -/

/-- The jobs that have left `SUBMITTED` stay out of it on the workers of their devices,
and every `STATUS` sent meanwhile is routed by the store reached. -/
def StatusRouting (s s' : Master) : Prop :=
  s.store.Settles s'.store ∧ ∃ l, s'.sent = s.sent ++ l ∧ ∀ m ∈ l, s'.store.StatusRoutes m

instance : IsRefl Master StatusRouting := ⟨fun s => ⟨.refl _, [], by simp, by simp⟩⟩

instance : IsTrans Master StatusRouting :=
  ⟨fun _ _ _ ⟨k, l, hl, hm⟩ ⟨k', l', hl', hm'⟩ => ⟨k.trans k', l ++ l', by rw [hl', hl, List.append_assoc],
    fun m h => (List.mem_append.mp h).elim (fun h => k'.statusRoutes (hm m h)) (hm' m)⟩⟩

theorem Master.StatusRouted.of_statusRouting {s s' : Master} (h : s.StatusRouted) (hr : StatusRouting s s') :
    s'.StatusRouted := fun m hmem => by
  obtain ⟨k, l, hl, hm⟩ := hr
  rw [hl] at hmem
  exact (List.mem_append.mp hmem).elim (fun h' => k.statusRoutes (h m h')) (hm m)

theorem statusRouting_of_eq {s s' : Master} (hst : s'.store = s.store) (hs : s'.sent = s.sent) :
    StatusRouting s s' :=
  ⟨hst ▸ .refl _, [], by rw [hs, List.append_nil], by simp⟩

section Controler

variable (env : Env)

theorem roundTrip_statusRouting : Keeps StatusRouting roundTrip := fun s => by
  unfold roundTrip
  split <;> exact statusRouting_of_eq rfl rfl

theorem save_statusRouting {f : Store → Store} (hf : ∀ st : Store, st.Settles (f st)) :
    Keeps StatusRouting (save f) :=
  Keeps.bind roundTrip_statusRouting fun _ s => ⟨hf s.store, [], (List.append_nil _).symm, by simp⟩

/-- A transaction sends nothing, so the store it rolls back to leaves every `STATUS`
routed. -/
theorem atomic_statusRouting {α : Type} {x : M α} (hx : Keeps StatusRouting x) (hs : Keeps Silent x) :
    Keeps StatusRouting (atomic x) :=
  Keeps.atomic_silent (fun _ _ _ h => statusRouting_of_eq rfl h) hx hs

/-- From a state with store `st`, the store stays and every message sent is routed by
`st`. -/
def StatusFrom (st : Store) (s s' : Master) : Prop :=
  s.store = st → s'.store = st ∧ ∃ l, s'.sent = s.sent ++ l ∧ ∀ m ∈ l, st.StatusRoutes m

instance {st : Store} : IsRefl Master (StatusFrom st) := ⟨fun _ h => ⟨h, [], by simp, by simp⟩⟩

instance {st : Store} : IsTrans Master (StatusFrom st) :=
  ⟨fun _ _ _ h h' hs => by
    obtain ⟨hs₁, l, hl, hm⟩ := h hs
    obtain ⟨hs₂, l', hl', hm'⟩ := h' hs₁
    exact ⟨hs₂, l ++ l', by rw [hl', hl, List.append_assoc], fun m h => (List.mem_append.mp h).elim (hm m) (hm' m)⟩⟩

theorem send_statusFrom {st : Store} {m : Outbound} (hm : st.StatusRoutes m) : Keeps (StatusFrom st) (send m) :=
  fun _ h => ⟨h, [m], rfl, by simpa using hm⟩

/-- `send_status` asks a slave only about the running jobs held by its devices. -/
theorem sendStatus_statusRouting (hostname : String) : Keeps StatusRouting (sendStatus hostname) := by
  refine Keeps.bind_ok (query_keeps roundTrip_statusRouting _) fun s₀ jobs s₁ hq => ?_
  obtain ⟨rfl, hs, -⟩ := query_ok s₀ hq
  have hroutes : ∀ j ∈ s₀.store.runningOn hostname, s₁.store.StatusRoutes (.status hostname j.id) := fun j hj => by
    obtain ⟨hmem, hrun⟩ := List.mem_filter.mp hj
    simp only [decide_eq_true_eq] at hrun
    exact ⟨j, by rw [hs]; exact Store.find?_of_mem _ hmem, hrun.1, by simp [hrun.2.2]⟩
  have hrt : Keeps (StatusFrom s₁.store) roundTrip := fun s h => by
    unfold roundTrip
    split <;> exact ⟨h, [], (List.append_nil _).symm, by simp⟩
  obtain ⟨hst, l, hl, hm⟩ := Keeps.forM_of_mem (R := StatusFrom s₁.store) _
    (fun j hj => Keeps.bind hrt fun _ => send_statusFrom (hroutes j hj)) s₁ rfl
  exact ⟨hst ▸ .refl _, l, hl, fun m h => hst ▸ hm m h⟩

/-- The controler socket routes each `STATUS` it sends, and keeps the jobs that have left
`SUBMITTED` out of it on the workers of their devices. -/
theorem controlerSocket_statusRouting (msg : ControlMsg) : Keeps StatusRouting (controlerSocket env msg) :=
  controlerSocket_keeps_of env roundTrip_statusRouting
    (fun _ _ _ ht => save_statusRouting fun _ => Store.settles_failJob _ _ ht) (fun _ _ => statusRouting_of_eq rfl rfl)
    (fun _ s => by simp only [alive_apply]; split <;> exact statusRouting_of_eq rfl rfl)
    (fun hx hs => atomic_statusRouting hx hs) (fun _ => save_statusRouting fun _ => Store.settles_cancelJob _)
    (fun _ _ _ _ => statusRouting_of_eq rfl rfl) (fun _ _ => save_statusRouting fun st => (Store.Settles.refl st).record _)
    sendStatus_statusRouting (fun _ _ hm _ => ⟨.refl _, [_], rfl, by simpa using Store.statusRoutes_of_ne _ hm⟩) msg
    fun _ _ _ => atomic_statusRouting (Keeps.bind (getJob_keeps roundTrip_statusRouting _) fun _ =>
      save_statusRouting fun _ => Store.settles_startJob _) (Keeps.bind (getJob_keeps roundTrip_silent _) fun _ => save_silent _)

theorem receive_statusRouting (signal : Option Signal) (message : Option ControlMsg) :
    Keeps StatusRouting (receive env signal message) :=
  receive_keeps (R := StatusRouting) env (fun _ => statusRouting_of_eq rfl rfl) signal message fun msg _ => controlerSocket_statusRouting env msg

end Controler

/-! ## The sweeps -/

/-- The rows outside `ids` stay. -/
def RowsFixed (ids : List Nat) (s s' : Master) : Prop := s.store.FixedOutside ids s'.store

section Sweeps

variable (env : Env) {ids : List Nat}

instance : IsRefl Master (RowsFixed ids) := ⟨fun _ _ _ h _ => h⟩

instance : IsTrans Master (RowsFixed ids) := ⟨fun _ _ _ h h' k j hj hn => h' k j (h k j hj hn) hn⟩

theorem roundTrip_rowsFixed : Keeps (RowsFixed ids) roundTrip := fun s => by
  unfold roundTrip
  split <;> exact refl_of (RowsFixed ids) s

theorem save_rowsFixed {f : Store → Store} (hf : ∀ st : Store, st.FixedOutside ids (f st)) :
    Keeps (RowsFixed ids) (save f) :=
  Keeps.bind roundTrip_rowsFixed fun _ s => hf s.store

/-- A candidate of `ids` writes only its own row. -/
theorem processJob_rowsFixed (candidate : TestJob) (hc : candidate.id ∈ ids) :
    Keeps (RowsFixed ids) (processJob env candidate) := fun s =>
  processJob_keeps_at env roundTrip_rowsFixed candidate s
    (fun _ => save_rowsFixed (fun st => st.fixedOutside_setDevice hc _) s)
    (fun s _ hid => save_rowsFixed (fun st => st.fixedOutside_failJob (hid ▸ hc) _ _) s)
    (fun s _ _ hid _ _ => save_rowsFixed (fun st => st.fixedOutside_createJob (hid ▸ hc) _) s)
    fun s job _ _ hid _ _ => Keeps.tryCatch_at (startJobs_keeps env roundTrip_rowsFixed
      (fun _ _ _ _ _ _ _ _ _ _ hj _ => hj) _ _ _ s) fun e s' _ => by
        cases infrastructureError e with
        | some msg => exact save_rowsFixed (fun st => st.fixedOutside_failJob (hid ▸ hc) _ _) s'
        | none => exact refl_of (RowsFixed ids) s'

/-- `process_jobs` writes only the rows of its candidates, which are submitted. -/
theorem processJobs_settles (s : Master) : s.store.Settles (processJobs env s).state.store := by
  have h : RowsFixed (s.store.submittedCandidates.map (·.id)) s (processJobs env s).state := by
    unfold processJobs
    refine Keeps.bind_at (query_keeps roundTrip_rowsFixed _ s) fun cands s₁ hq => ?_
    obtain ⟨rfl, -, -⟩ := query_ok s hq
    exact Keeps.forM_of_mem _ (fun c hc => processJob_rowsFixed env c (List.mem_map_of_mem _ hc)) s₁
  exact Store.FixedOutside.settles h

/-- `process_jobs` sends only `START` requests. -/
theorem processJobs_statusRouting : Keeps StatusRouting (processJobs env) := fun s => by
  obtain ⟨-, -, l, hl, hm⟩ := processJobs_keeps_starts env roundTrip_sendsOnly
    (fun _ _ _ _ _ _ _ => send_sendsOnly (P := Outbound.FromSweep) trivial) (fun _ _ _ => save_sendsOnly _)
    (fun _ _ => save_sendsOnly _) (fun _ _ => save_sendsOnly _) s
  exact ⟨processJobs_settles env s, l, hl, fun m h => Store.statusRoutes_of_ne _ fun _ _ he => by subst he; exact hm _ h⟩

theorem handleCanceling_statusRouting : Keeps StatusRouting handleCanceling :=
  handleCanceling_keeps roundTrip_statusRouting (fun _ _ _ ht => save_statusRouting fun _ => Store.settles_failJob _ _ ht)
    fun _ _ _ => ⟨.refl _, [_], rfl, by simp [Store.StatusRoutes]⟩

theorem accessDatabase_statusRouting : Keeps StatusRouting (accessDatabase env) :=
  Keeps.bind Keeps.get fun _ => Keeps.ite (Keeps.bind (fun _ => statusRouting_of_eq rfl rfl) fun _ =>
    Keeps.bind (processJobs_statusRouting env) fun _ => handleCanceling_statusRouting) (Keeps.pure _)

end Sweeps

/-! ## A pass of the loop and a run -/

section Run

variable (env : Env)

theorem iteration_statusRouting (signal : Option Signal) (message : Option ControlMsg) :
    Keeps StatusRouting (iteration env signal message) := by
  refine Keeps.bind (receive_statusRouting env signal message) fun _ => ?_
  dsimp only
  exact Keeps.ite (Keeps.bind (Keeps.bind (fun _ => statusRouting_of_eq rfl rfl) fun _ =>
      accessDatabase_statusRouting env) fun _ => Keeps.pure _)
    (Keeps.bind (Keeps.pure _) fun _ => Keeps.pure _)

theorem step_statusRouting (s : Master) (e : Event) : StatusRouting s (step env s e) := by
  cases e with
  | pollError => exact refl_of StatusRouting s
  | frame now msg =>
    obtain ⟨_, _, _, _, _, _, he⟩ := step_frame_eq env s now msg
    rw [he]
    exact statusRouting_of_eq rfl rfl
  | wake now signal message c =>
    obtain ⟨_, _, he⟩ := step_wake_eq env s now signal message c
    rw [he]
    split_ifs
    · exact iteration_statusRouting env signal message { s with now := now, connection := c }
    · exact refl_of StatusRouting s

end Run

/-- `w` pings a master that does not know it, as after a restart of the master. -/
def afterPing : Master := run .bare .withRunningJob [.wake 0 none (some ⟨"w", "PING", []⟩) none]

/-- The master answers the `PING` and asks `w` the state of job 1, which runs on its
device. -/
example : afterPing.sent = [.pong "w", .status "w" 1] := by decide

end LavaMaster
