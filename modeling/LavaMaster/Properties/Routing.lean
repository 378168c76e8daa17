import LavaMaster.Properties.Loop

/-!
# Where the requests of the sweeps go

`process_jobs` sends a job's `START` to the worker of the device the job holds, once
`create_job` has given it one, and the `START` of a group's dynamic connections to their
`lookup_worker`. `handle_canceling` sends `CANCEL` to the worker it resolves. Within one
pass nothing moves a job whose request went out: `select_device` writes only the row of
the candidate it is called for, which no earlier candidate is, and no other store
operation takes a device from a job or changes what `handle_canceling` resolves. So every
request a pass sends names a job of the store the pass leaves and is addressed to a
worker of that job, and the requests for a job that is not a dynamic connection go to the
worker of its device. Across passes this can fail: a job stays `SUBMITTED` after its
`START` until its slave answers `START_OK`, and the `select_device` of a later sweep may
give it another device.
-/

namespace LavaMaster

/-- A slave a job's `START` goes to: the worker of the device the job holds, or the
`lookup_worker` of a dynamic connection. -/
def TestJob.StartsOn (j : TestJob) (host : String) : Prop :=
  j.deviceWorker = some host ∨ j.dynamicConnection ∧ j.lookupWorker = some host

instance (j : TestJob) (host : String) : Decidable (j.StartsOn host) :=
  inferInstanceAs (Decidable (_ ∨ _))

/-- A `START` names a job of the store and goes to a slave the job starts on; a `CANCEL`
goes to the worker `handle_canceling` resolves for its job. -/
def Store.Routes (st : Store) : Outbound → Prop
  | .start host jobId .. => ∃ j ∈ st.find? jobId, j.StartsOn host
  | .cancel host jobId => ∃ j ∈ st.find? jobId, j.worker = some host
  | _ => True

instance (st : Store) : DecidablePred st.Routes := fun
  | .start .. | .cancel .. => inferInstanceAs (Decidable (∃ j ∈ _, _))
  | .helloOk _ | .pong _ | .endOk .. | .status .. => isTrue trivial

theorem Store.routes_of_not_fromSweep (st : Store) {m : Outbound} (hm : ¬ m.FromSweep) : st.Routes m := by
  cases m <;> first | trivial | exact absurd trivial hm

/-- The job and the slave of a `START` or a `CANCEL`. -/
def Outbound.request? : Outbound → Option (Nat × String)
  | .start host jobId .. => some (jobId, host)
  | .cancel host jobId => some (jobId, host)
  | _ => none

/-! ## What the store keeps of a row -/

/-- `j'` is the row `j` after the master's writes: it is still a dynamic connection or
not, it keeps its `lookup_worker` and its output directory, and it keeps its device once
it holds one. -/
structure TestJob.Persists (j j' : TestJob) : Prop where
  dynamicConnection : j'.dynamicConnection = j.dynamicConnection
  lookupWorker : j'.lookupWorker = j.lookupWorker
  outputDir : j'.outputDir = j.outputDir
  actualDevice : j.actualDevice = none ∨ j'.actualDevice = j.actualDevice

namespace TestJob.Persists

variable {j j' j'' : TestJob} {host : String}

theorem refl (j : TestJob) : j.Persists j := ⟨rfl, rfl, rfl, .inr rfl⟩

theorem trans (h : j.Persists j') (h' : j'.Persists j'') : j.Persists j'' := by
  obtain ⟨d, l, o, a⟩ := h
  obtain ⟨d', l', o', a'⟩ := h'
  refine ⟨d'.trans d, l'.trans l, o'.trans o, ?_⟩
  rcases a with a | a
  · exact .inl a
  · rcases a' with a' | a'
    · exact .inl (a ▸ a')
    · exact .inr (a'.trans a)

/-- A job keeps the worker of its device. -/
theorem deviceWorker (h : j.Persists j') (hw : j.deviceWorker = some host) :
    j'.deviceWorker = some host := by
  have hd : j.actualDevice ≠ none := fun hn => by simp [TestJob.deviceWorker, hn] at hw
  rw [TestJob.deviceWorker, h.actualDevice.resolve_left hd]
  exact hw

theorem startsOn (h : j.Persists j') (hs : j.StartsOn host) : j'.StartsOn host := by
  rcases hs with hs | ⟨hd, hl⟩
  · exact .inl (h.deviceWorker hs)
  · exact .inr ⟨h.dynamicConnection ▸ hd, h.lookupWorker ▸ hl⟩

theorem worker (h : j.Persists j') (hw : j.worker = some host) : j'.worker = some host := by
  unfold TestJob.worker at hw ⊢
  rw [h.dynamicConnection, h.lookupWorker]
  split_ifs at hw ⊢
  · exact hw
  · exact h.deviceWorker hw

end TestJob.Persists

/-- Every row of `st` persists in `st'` under its id, except that a row of `ids` keeps only
whether it is a dynamic connection and its `lookup_worker`: `select_device` may give it
another device. -/
def Store.PersistsOutside (ids : List Nat) (st st' : Store) : Prop :=
  ∀ k j, st.find? k = some j → ∃ j', st'.find? k = some j' ∧ j'.dynamicConnection = j.dynamicConnection ∧
    j'.lookupWorker = j.lookupWorker ∧ (j.id ∉ ids → j.Persists j')

/-- A request that stays routed whatever `select_device` does to the rows of `ids`: a
`START` to the `lookup_worker` of a dynamic connection, or a request for a job outside
`ids` to the worker of its device or the one `handle_canceling` resolves. -/
def Store.RoutesOutside (ids : List Nat) (st : Store) : Outbound → Prop
  | .start host jobId .. => ∃ j ∈ st.find? jobId,
      j.dynamicConnection ∧ j.lookupWorker = some host ∨ jobId ∉ ids ∧ j.deviceWorker = some host
  | .cancel host jobId => ∃ j ∈ st.find? jobId, jobId ∉ ids ∧ j.worker = some host
  | _ => True

namespace Store

variable {ids ids' : List Nat} {st st' st'' : Store} {m : Outbound}

theorem PersistsOutside.refl (st : Store) : st.PersistsOutside ids st :=
  fun _ j h => ⟨j, h, rfl, rfl, fun _ => .refl j⟩

theorem PersistsOutside.trans (h : st.PersistsOutside ids st') (h' : st'.PersistsOutside ids st'') :
    st.PersistsOutside ids st'' := fun k j hj => by
  obtain ⟨j', hj', d, l, hk⟩ := h k j hj
  obtain ⟨j'', hj'', d', l', hk'⟩ := h' k j' hj'
  have hid : j'.id = j.id := by exact_mod_cast (st'.find?_id hj').trans (st.find?_id hj).symm
  exact ⟨j'', hj'', d'.trans d, l'.trans l, fun hn => (hk hn).trans (hk' (hid ▸ hn))⟩

theorem PersistsOutside.mono (h : st.PersistsOutside ids st') (hs : ∀ k ∈ ids, k ∈ ids') :
    st.PersistsOutside ids' st' := fun k j hj =>
  let ⟨j', hj', d, l, hk⟩ := h k j hj
  ⟨j', hj', d, l, fun hn => hk fun hm => hn (hs _ hm)⟩

theorem RoutesOutside.routes (hm : st.RoutesOutside ids m) : st.Routes m := by
  cases m with
  | start host jobId =>
    obtain ⟨j, hj, ⟨hd, hl⟩ | ⟨-, hw⟩⟩ := hm
    · exact ⟨j, hj, .inr ⟨hd, hl⟩⟩
    · exact ⟨j, hj, .inl hw⟩
  | cancel host jobId =>
    obtain ⟨j, hj, -, hw⟩ := hm
    exact ⟨j, hj, hw⟩
  | _ => trivial

/-- A request that stays routed stays so in every store the rows persist in. -/
theorem PersistsOutside.routesOutside (h : st.PersistsOutside ids st') (hm : st.RoutesOutside ids m) :
    st'.RoutesOutside ids m := by
  cases m with
  | start host jobId =>
    obtain ⟨j, hj, hs⟩ := hm
    obtain ⟨j', hj', d, l, hk⟩ := h _ j hj
    have hid : (j.id : Int) = jobId := st.find?_id hj
    refine ⟨j', hj', ?_⟩
    rcases hs with ⟨hd, hl⟩ | ⟨hn, hw⟩
    · exact .inl ⟨d ▸ hd, l ▸ hl⟩
    · exact .inr ⟨hn, (hk (by rw [show j.id = jobId by exact_mod_cast hid]; exact hn)).deviceWorker hw⟩
  | cancel host jobId =>
    obtain ⟨j, hj, hn, hw⟩ := hm
    obtain ⟨j', hj', -, -, hk⟩ := h _ j hj
    have hid : j.id = jobId := by exact_mod_cast st.find?_id hj
    exact ⟨j', hj', hn, (hk (hid ▸ hn)).worker hw⟩
  | _ => trivial

/-- A change of one row keeps the rows when that row persists through it. -/
theorem persistsOutside_modify (st : Store) (id : Nat) (f : TestJob → TestJob) (hf : ∀ j, (f j).id = j.id)
    (h : ∀ k j, st.find? k = some j → j.id = id → j.Persists (f j)) : st.PersistsOutside ids (st.modify id f hf) :=
  fun k j hj => by
    rw [find?_modify, hj]
    refine ⟨_, rfl, ?_⟩
    dsimp only
    split_ifs with hid
    · have hk := h k j hj hid
      exact ⟨hk.dynamicConnection, hk.lookupWorker, fun _ => hk⟩
    · exact ⟨rfl, rfl, fun _ => .refl j⟩

/-- Committing a call leaves the rows. -/
theorem PersistsOutside.record (h : st.PersistsOutside ids st') (c : StoreCall) :
    st.PersistsOutside ids (st'.record c) := h

variable (st) (job : TestJob)

theorem persistsOutside_failJob (msg : String) (status : Status) : st.PersistsOutside ids (st.failJob job msg status) :=
  (st.persistsOutside_modify job.id (fun j => { j with status := status, failureComment := some msg })
    (fun _ => rfl) fun _ _ _ _ => ⟨rfl, rfl, rfl, .inr rfl⟩).record _

/-- `create_job` keeps the rows when it gives a device to a row that has none. -/
theorem persistsOutside_createJob {job : TestJob} (hj : st.find? job.id = some job) (ha : job.actualDevice = none)
    (device : Device) : st.PersistsOutside ids (st.createJob job device) :=
  (st.persistsOutside_modify job.id (fun j => { j with actualDevice := some device }) (fun _ => rfl)
    fun k j hk hid => by
    have : j = job := by
      rw [← hid, st.find?_id hk] at hj
      exact Option.some.inj (hk.symm.trans hj)
    exact ⟨rfl, rfl, rfl, .inl (this ▸ ha)⟩).record _

/-- The write of `select_device` for a row of `ids` changes only its device. -/
theorem persistsOutside_setDevice (h : job.id ∈ ids) (device : Option Device) :
    st.PersistsOutside ids (st.setDevice job device) := fun k j hj => by
  rw [setDevice, find?_modify, hj]
  refine ⟨_, rfl, ?_⟩
  dsimp only
  split_ifs with hid
  · exact ⟨rfl, rfl, fun hn => absurd (hid ▸ h) hn⟩
  · exact ⟨rfl, rfl, fun _ => .refl j⟩

end Store

/-! ## Routing along a computation -/

/-- The rows of the store persist, but for the device of those of `ids`, and every message
sent meanwhile stays routed whatever `select_device` does to the rows of `ids`. -/
def Routing (ids : List Nat) (s s' : Master) : Prop :=
  s.store.PersistsOutside ids s'.store ∧ ∃ l, s'.sent = s.sent ++ l ∧ ∀ m ∈ l, s'.store.RoutesOutside ids m

section Routing

variable {ids : List Nat}

instance : IsRefl Master (Routing ids) := ⟨fun s => ⟨.refl _, [], by simp, by simp⟩⟩

instance : IsTrans Master (Routing ids) :=
  ⟨fun _ _ _ ⟨k, l, hl, hm⟩ ⟨k', l', hl', hm'⟩ => ⟨k.trans k', l ++ l', by rw [hl', hl, List.append_assoc],
    fun m h => (List.mem_append.mp h).elim (fun h => k'.routesOutside (hm m h)) (hm' m)⟩⟩

theorem routing_of_eq {s s' : Master} (hst : s'.store = s.store) (hs : s'.sent = s.sent) : Routing ids s s' :=
  ⟨hst ▸ .refl _, [], by rw [hs, List.append_nil], by simp⟩

theorem roundTrip_routing : Keeps (Routing ids) roundTrip := fun s => by
  unfold roundTrip
  split <;> exact routing_of_eq rfl rfl

theorem save_routing {f : Store → Store} (hf : ∀ st : Store, st.PersistsOutside ids (f st)) :
    Keeps (Routing ids) (save f) :=
  Keeps.bind roundTrip_routing fun _ s => ⟨hf s.store, [], (List.append_nil _).symm, by simp⟩

/-- `Routing` from any state whose store the rows of `st` persist in: a request checked
against `st` is routed wherever it is sent. -/
def RoutesFrom (ids : List Nat) (st : Store) (s s' : Master) : Prop := st.PersistsOutside ids s.store → Routing ids s s'

variable {st : Store}

instance : IsRefl Master (RoutesFrom ids st) := ⟨fun s _ => refl_of (Routing ids) s⟩

instance : IsTrans Master (RoutesFrom ids st) :=
  ⟨fun _ _ _ h h' hst => let hr := h hst; trans_of (Routing ids) hr (h' (hst.trans hr.1))⟩

theorem RoutesFrom.of_routing {α : Type} {x : M α} (hx : Keeps (Routing ids) x) : Keeps (RoutesFrom ids st) x :=
  fun s _ => hx s

/-- A computation checked against the store it starts from. -/
theorem RoutesFrom.of_self {s s' : Master} (h : RoutesFrom ids s.store s s') : RoutesFrom ids st s s' :=
  fun _ => h (.refl _)

theorem send_routesFrom {m : Outbound} (hm : st.RoutesOutside ids m) : Keeps (RoutesFrom ids st) (send m) :=
  fun s hst => ⟨.refl _, [m], rfl, by simpa using hst.routesOutside hm⟩

end Routing

/-! ## The sweeps -/

section Sweeps

variable (env : Env) {ids : List Nat}

/-- A dynamic connection of the store is started on its `lookup_worker`. -/
theorem startConnection_routesFrom {st : Store} {groupJob : TestJob} (hg : st.find? groupJob.id = some groupJob)
    (hd : groupJob.dynamicConnection) (dc e ed : String) :
    Keeps (RoutesFrom ids st) (startConnection env groupJob dc e ed) :=
  startConnection_keeps_starts env (.of_routing roundTrip_routing) groupJob dc e ed fun _ _ _ hw =>
    send_routesFrom ⟨groupJob, hg, .inl ⟨hd, hw⟩⟩

/-- The `try` of `process_jobs` sends the job's `START` to the worker of its device and
the group's to their `lookup_worker`. -/
theorem startJobs_routesFrom {st : Store} {job : TestJob} {workerHost : String}
    (h : ∃ j ∈ st.find? job.id, j.deviceWorker = some workerHost) (hid : job.id ∉ ids) (device : Device) :
    Keeps (RoutesFrom ids st) (startJobs env job device workerHost) := by
  have hq : ∀ {α : Type} (f : Store → α), Keeps (RoutesFrom ids st) (query f) :=
    fun f => .of_routing (query_keeps roundTrip_routing f)
  obtain ⟨j, hj, hw⟩ := h
  have tail : ∀ dispatcherConfig envStr envDutStr, Keeps (RoutesFrom ids st) (do
      let jobCtx ← liftExcept (jobContext env job.definition)
      let deviceConfiguration ← liftExcept (env.loadDeviceConfiguration device jobCtx)
      let definition ← liftExcept (exportDefinition env job)
      send (.start workerHost job.id definition deviceConfiguration dispatcherConfig envStr envDutStr)) :=
    fun _ _ _ => Keeps.bind (Keeps.liftExcept _) fun _ => Keeps.bind (Keeps.liftExcept _) fun _ =>
      Keeps.bind (Keeps.liftExcept _) fun _ => send_routesFrom ⟨j, hj, .inr ⟨hid, hw⟩⟩
  unfold startJobs
  refine Keeps.bind (Keeps.liftExcept _) fun _ => Keeps.bind (Keeps.liftExcept _) fun _ =>
    Keeps.bind (Keeps.liftExcept _) fun _ => ?_
  dsimp only
  refine Keeps.ite (Keeps.bind_ok (hq _) fun s₀ group s₁ hg =>
      Keeps.bind_at (.of_self ?_) fun _ _ _ => tail _ _ _ _)
    (Keeps.bind (Keeps.pure _) fun _ => tail _ _ _)
  obtain ⟨rfl, hs, -⟩ := query_ok s₀ hg
  refine Keeps.forM_of_mem _ (fun g hmem => ?_) s₁
  have hrow : s₁.store.find? g.id = some g := Store.find?_of_mem _ (hs ▸ (List.mem_filter.mp hmem).1)
  split
  · exact startConnection_routesFrom env hrow ‹_› _ _ _
  · exact Keeps.pure _

/-- The `try` of `process_jobs` and its `except` clauses, from a state whose store gives
the job the device of `workerHost`. -/
theorem dispatchJob_routing {s : Master} {job : TestJob} {workerHost : String}
    (h : ∃ j ∈ s.store.find? job.id, j.deviceWorker = some workerHost) (hid : job.id ∉ ids) (device : Device) :
    Routing ids s (dispatchJob env job device workerHost s).state := by
  refine Keeps.tryCatch_at (startJobs_routesFrom env h hid device s (.refl _)) fun e s' _ => ?_
  cases infrastructureError e with
  | some msg => exact save_routing (fun st => st.persistsOutside_failJob _ _ _) s'
  | none => exact refl_of (Routing ids) s'

/-- `create_job` on a row without a device keeps the rows. -/
theorem createJob_routing {s : Master} {job : TestJob} (hj : s.store.find? job.id = some job)
    (ha : job.actualDevice = none) (device : Device) : Routing ids s (save (·.createJob job device) s).state := by
  refine Keeps.bind_at (roundTrip_routing s) fun _ s₁ hr => ?_
  rw [← (roundTrip_ok s hr).1] at hj
  exact ⟨s₁.store.persistsOutside_createJob hj ha device, [], (List.append_nil _).symm, by simp⟩

/-- One candidate of `process_jobs` outside `ids`, from the state the write of
`select_device` leaves, whatever the connection does: `create_job` gives a device only to
a row without one, and the `START` goes to that device's worker. -/
theorem processJob_routing_selected (candidate : TestJob) (hc : candidate.id ∉ ids) (s : Master) :
    Routing ids (save (·.setDevice candidate (env.selectDevice candidate s.dispatchers).actualDevice) s).state
      (processJob env candidate s).state :=
  processJob_keeps_selected env roundTrip_routing candidate s
    (fun s job _ => save_routing (fun st => st.persistsOutside_failJob job _ _) s)
    (fun _ _ device _ hrow ha => createJob_routing hrow ha device)
    fun _ _ device _ hid hrow hw => dispatchJob_routing env ⟨_, hrow, by simp [TestJob.deviceWorker, hw]⟩
      (hid ▸ hc) device

/-- One candidate of `process_jobs`: its own row may get another device, and what it sends
stays routed whatever `select_device` does to the rows of `ids` after it. -/
theorem processJob_routing (candidate : TestJob) (hc : candidate.id ∉ ids) (s : Master) :
    s.store.PersistsOutside (candidate.id :: ids) (processJob env candidate s).state.store ∧
      ∃ l, (processJob env candidate s).state.sent = s.sent ++ l ∧
        ∀ m ∈ l, (processJob env candidate s).state.store.RoutesOutside ids m := by
  have hsel : Routing (candidate.id :: ids) s
      (save (·.setDevice candidate (env.selectDevice candidate s.dispatchers).actualDevice) s).state :=
    save_routing (fun st => st.persistsOutside_setDevice candidate (List.mem_cons_self _ _) _) s
  have hquiet := save_silent (·.setDevice candidate (env.selectDevice candidate s.dispatchers).actualDevice) s
  obtain ⟨k, l, hl, hm⟩ := processJob_routing_selected env candidate hc s
  exact ⟨hsel.1.trans (k.mono fun _ => List.mem_cons_of_mem _), l, by rw [hl, hquiet], hm⟩

/-- Every request sent is routed by the store reached. -/
def SentRouted (s s' : Master) : Prop := ∃ l, s'.sent = s.sent ++ l ∧ ∀ m ∈ l, s'.store.Routes m

theorem SentRouted.refl (s : Master) : SentRouted s s := ⟨[], by simp, by simp⟩

/-- What a later computation keeps routed stays routed. -/
theorem SentRouted.routing {s₁ s₂ s₃ : Master} (h : SentRouted s₁ s₂) (h' : Routing [] s₂ s₃) :
    SentRouted s₁ s₃ := by
  obtain ⟨l, hl, hm⟩ := h
  obtain ⟨k, l', hl', hm'⟩ := h'
  have hk : ∀ m, s₂.store.Routes m → s₃.store.Routes m := fun m hr => by
    cases m with
    | start host jobId =>
      obtain ⟨j, hj, hs⟩ := hr
      obtain ⟨j', hj', -, -, hp⟩ := k _ j hj
      exact ⟨j', hj', (hp (List.not_mem_nil _)).startsOn hs⟩
    | cancel host jobId =>
      obtain ⟨j, hj, hw⟩ := hr
      obtain ⟨j', hj', -, -, hp⟩ := k _ j hj
      exact ⟨j', hj', (hp (List.not_mem_nil _)).worker hw⟩
    | _ => trivial
  exact ⟨l ++ l', by rw [hl', hl, List.append_assoc],
    fun m h => (List.mem_append.mp h).elim (fun h => hk m (hm m h)) fun h => (hm' m h).routes⟩

/-- The candidates of a sweep, with distinct ids: their rows may get another device, and
every request they send is routed by the store the sweep leaves. -/
theorem forM_processJob_routing (l : List TestJob) (hl : (l.map (·.id)).Nodup) (s : Master) :
    s.store.PersistsOutside (l.map (·.id)) (l.forM (processJob env) s).state.store ∧
      SentRouted s (l.forM (processJob env) s).state := by
  induction l generalizing s with
  | nil => exact ⟨.refl _, .refl s⟩
  | cons c l ih =>
    rw [List.map_cons, List.nodup_cons] at hl
    obtain ⟨k₁, l₁, hl₁, hm₁⟩ := processJob_routing env c hl.1 s
    rw [List.forM_cons', bind_apply]
    cases hr : processJob env c s with
    | error e s₁ =>
      rw [hr] at k₁ hl₁ hm₁
      exact ⟨k₁, l₁, hl₁, fun m h => (hm₁ m h).routes⟩
    | ok _ s₁ =>
      rw [hr] at k₁ hl₁ hm₁
      dsimp only [EStateM.Result.state] at k₁ hl₁ hm₁
      obtain ⟨k₂, l₂, hl₂, hm₂⟩ := ih hl.2 s₁
      refine ⟨k₁.trans (k₂.mono fun _ => List.mem_cons_of_mem _), l₁ ++ l₂,
        by rw [hl₂, hl₁, List.append_assoc], fun m h => ?_⟩
      rcases List.mem_append.mp h with h | h
      · exact (k₂.routesOutside (hm₁ m h)).routes
      · exact hm₂ m h

theorem processJobs_sentRouted (s : Master) : SentRouted s (processJobs env s).state := by
  unfold processJobs
  rw [bind_apply]
  cases hq : query (·.submittedCandidates) s with
  | error e s₁ =>
    have hs := query_keeps roundTrip_silent (·.submittedCandidates) s
    rw [hq] at hs
    exact ⟨[], by rw [List.append_nil]; exact hs, by simp⟩
  | ok cands s₁ =>
    obtain ⟨rfl, hst, hsent⟩ := query_ok s hq
    obtain ⟨-, l, hl, hm⟩ := forM_processJob_routing env _ s.store.submittedCandidates_ids_nodup s₁
    exact ⟨l, by rw [hl, hsent], hm⟩

/-- A canceling job of the store is sent `CANCEL` on the worker `handle_canceling` resolves. -/
theorem cancelingJob_routesFrom {st : Store} {job : TestJob} (hj : st.find? job.id = some job) :
    Keeps (RoutesFrom [] st) (cancelingJob job) := by
  have hfail : Keeps (RoutesFrom [] st) (save fun x => x.failJob job "invalid worker information" .canceled) :=
    .of_routing (save_routing fun st => st.persistsOutside_failJob job _ _)
  unfold cancelingJob
  cases hd : job.dynamicConnection <;> simp only [Bool.false_eq_true, ↓reduceIte]
  · cases ha : job.actualDevice with
    | none => exact Keeps.bind_ok (Keeps.throw _) fun _ _ _ h => nomatch h
    | some device =>
      simp only [pure_bind]
      cases hw : device.workerHost
      · exact hfail
      · exact send_routesFrom ⟨job, hj, List.not_mem_nil _, by
          simp [TestJob.worker, TestJob.deviceWorker, hd, ha, hw]⟩
  · simp only [pure_bind]
    cases hw : job.lookupWorker
    · exact hfail
    · exact send_routesFrom ⟨job, hj, List.not_mem_nil _, by simp [TestJob.worker, hd, hw]⟩

theorem handleCanceling_routing : Keeps (Routing []) handleCanceling := by
  unfold handleCanceling
  refine Keeps.bind_ok (query_keeps roundTrip_routing _) fun s₀ jobs s₁ hq => ?_
  obtain ⟨rfl, hs, -⟩ := query_ok s₀ hq
  refine Keeps.forM_of_mem (R := RoutesFrom [] s₁.store) _ (fun job hmem => ?_) s₁ (.refl _)
  exact cancelingJob_routesFrom (Store.find?_of_mem _ (hs ▸ (List.mem_filter.mp hmem).1))

theorem accessDatabase_sentRouted (s : Master) : SentRouted s (accessDatabase env s).state := by
  by_cases h : s.now - s.lastDbAccess > dbLimit
  · simp only [accessDatabase, bind_apply, get_apply, h, if_true, modify_apply]
    cases hp : processJobs env { s with lastDbAccess := s.now } with
    | error e s₁ =>
      have := processJobs_sentRouted env { s with lastDbAccess := s.now }
      rw [hp] at this
      exact this
    | ok _ s₁ =>
      have := processJobs_sentRouted env { s with lastDbAccess := s.now }
      rw [hp] at this
      exact this.routing (handleCanceling_routing s₁)
  · simp only [accessDatabase, bind_apply, get_apply, h, if_false, pure_apply]
    exact .refl s

end Sweeps

/-! ## A pass of the loop -/

section Pass

variable (env : Env)

/-- The controler socket sends no request, so a pass sends only those of its sweeps. -/
theorem iteration_sentRouted (signal : Option Signal) (message : Option ControlMsg) (s : Master) :
    SentRouted s (iteration env signal message s).state := by
  have hr := receive_sendsOnly env signal message s
  have hanswers : ∀ {s₁ s₂ : Master}, SendsOnly (fun m => ¬ m.FromSweep) s s₁ → SentRouted s₁ s₂ →
      SentRouted s s₂ := fun ⟨_, _, l, hl, hm⟩ ⟨l', hl', hm'⟩ =>
    ⟨l ++ l', by rw [hl', hl, List.append_assoc], fun m h => (List.mem_append.mp h).elim
      (fun h => Store.routes_of_not_fromSweep _ (hm m h)) (hm' m)⟩
  rw [iteration_state]
  cases hrecv : receive env signal message s with
  | ok flow s₁ =>
    rw [hrecv] at hr
    dsimp only
    split_ifs
    · rw [sweep_eq]
      exact hanswers hr (accessDatabase_sentRouted env _)
    · exact hanswers hr (.refl s₁)
  | error e s₁ =>
    rw [hrecv] at hr
    exact hanswers hr (.refl s₁)

/-- A routed request for a job that is not a dynamic connection goes to the worker of the
device the job holds. -/
theorem Store.Routes.deviceWorker {st : Store} {m : Outbound} (hm : st.Routes m) {jobId : Nat} {host : String}
    (hr : m.request? = some (jobId, host)) :
    ∃ j ∈ st.find? jobId, j.dynamicConnection = false → j.deviceWorker = some host := by
  cases m with
  | start host' jobId' =>
    obtain ⟨rfl, rfl⟩ : jobId' = jobId ∧ host' = host := by simpa [Outbound.request?] using hr
    obtain ⟨j, hj, hs⟩ := hm
    exact ⟨j, hj, fun hd => hs.resolve_right fun h => by simp [hd] at h⟩
  | cancel host' jobId' =>
    obtain ⟨rfl, rfl⟩ : jobId' = jobId ∧ host' = host := by simpa [Outbound.request?] using hr
    obtain ⟨j, hj, hw⟩ := hm
    exact ⟨j, hj, fun hd => by simpa [TestJob.worker, hd] using hw⟩
  | _ => cases hr

end Pass

/-- The first sweep starts the dynamic connection 3 on its `lookup_worker` and job 2 on the
worker of its device. -/
example : (run .bare (.withConnectionGroup (some "w")) [.wake 11 none none none]).sent.filterMap
    Outbound.request? = [(3, "w"), (2, "b")] := by
  decide

end LavaMaster
