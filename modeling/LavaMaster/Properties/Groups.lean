import LavaMaster.Properties.Loop

/-!
# A multinode job starts after the dynamic connections of its group

The `try` of `process_jobs` starts a multinode job by sending `START` to each dynamic
connection of its group, and only then to the job; a connection that cannot be started
raises before the job's `START` goes out. No store write of the master changes a row's
id, multinode flag, dynamic connection flag or target group, so along every run each
`START` of a multinode job that is not a dynamic connection comes after a `START` of
every dynamic connection of its group.
-/

namespace LavaMaster

/-- The job a `START` is for. -/
def Outbound.startOf? : Outbound → Option Nat
  | .start _ jobId .. => some jobId
  | _ => none

theorem Outbound.startOf?_of_not_fromSweep {m : Outbound} (h : ¬ m.FromSweep) : m.startOf? = none := by
  cases m <;> first | rfl | exact absurd trivial h

/-- The dynamic connections of a job's multinode group. -/
def Store.connectionsOf (st : Store) (job : TestJob) : List TestJob :=
  (st.subJobsList job).filter (·.dynamicConnection)

/-- `m`, sent after `pre`, does not start a multinode job that is not a dynamic connection
before a `START` of each dynamic connection of the job's group. -/
def Store.StartsAfterGroup (st : Store) (pre : List Outbound) (m : Outbound) : Prop :=
  ∀ jobId j, m.startOf? = some jobId → st.find? jobId = some j → j.isMultinode = true →
    j.dynamicConnection = false → ∀ g ∈ st.connectionsOf j, some g.id ∈ pre.map Outbound.startOf?

/-- Every message of `sent` comes after the `START`s of the group it starts. -/
def Store.GroupsFirst (st : Store) (sent : List Outbound) : Prop :=
  ∀ pre m post, sent = pre ++ m :: post → st.StartsAfterGroup pre m

/-- Every message of `l`, sent after `base`, comes after the `START`s of the group it
starts. -/
def Store.GroupsFirstAfter (st : Store) (base l : List Outbound) : Prop :=
  ∀ pre m post, l = pre ++ m :: post → st.StartsAfterGroup (base ++ pre) m

/-- What the groups and the `START`s of a job depend on. -/
def TestJob.groupKey (j : TestJob) : Nat × Bool × Bool × Option String :=
  (j.id, j.isMultinode, j.dynamicConnection, j.targetGroup)

/-- The row of `job` in `st` has the job's multinode flag and target group. -/
def Store.KeepsGroupOf (st : Store) (job : TestJob) : Prop :=
  ∀ j, st.find? job.id = some j → j.isMultinode = job.isMultinode ∧ j.targetGroup = job.targetGroup

/-- `st'` has the rows of `st`, in order, with their ids, multinode flags, dynamic
connection flags and target groups. -/
def Store.SameGroups (st st' : Store) : Prop := st'.jobs.map TestJob.groupKey = st.jobs.map TestJob.groupKey

namespace Store

variable {st st' : Store} {base l l' pre : List Outbound} {m : Outbound}

/-! ## The order of a list of messages -/

theorem GroupsFirstAfter.append (h : st.GroupsFirstAfter base l) (h' : st.GroupsFirstAfter (base ++ l) l') :
    st.GroupsFirstAfter base (l ++ l') := by
  intro pre m post he
  rcases List.append_eq_append_iff.mp he with ⟨a', rfl, hl'⟩ | ⟨c', rfl, hc⟩
  · rw [← List.append_assoc]
    exact h' a' m post hl'
  · cases c' with
    | nil => simpa using h' [] m post (by simpa using hc.symm)
    | cons m' c'' =>
      obtain ⟨rfl, -⟩ := List.cons.inj hc
      exact h pre m c'' rfl

theorem groupsFirstAfter_singleton (h : st.StartsAfterGroup base m) : st.GroupsFirstAfter base [m] := by
  rintro (_ | ⟨a, pre⟩) m' post he
  · simp only [List.nil_append, List.cons.injEq] at he
    obtain ⟨rfl, -⟩ := he
    simpa using h
  · simp at he

/-- Messages that start no job keep every order. -/
theorem GroupsFirstAfter.of_none (hl : ∀ m ∈ l, m.startOf? = none) : st.GroupsFirstAfter base l :=
  fun pre m post he _ _ hs => by
    rw [hl m (by rw [he]; exact List.mem_append_right _ (List.mem_cons_self _ _))] at hs
    cases hs

theorem GroupsFirst.append (h : st.GroupsFirst l) (h' : st.GroupsFirstAfter l l') : st.GroupsFirst (l ++ l') := by
  have h₀ : st.GroupsFirstAfter [] l := fun pre m post he => by simpa using h pre m post he
  intro pre m post he
  simpa using (h₀.append (by simpa using h')) pre m post he

/-! ## Stores with the same groups -/

theorem SameGroups.find? (h : st.SameGroups st') (k : Int) :
    (st'.find? k).map TestJob.groupKey = (st.find? k).map TestJob.groupKey := by
  have key : ∀ t : Store, (t.find? k).map TestJob.groupKey =
      (t.jobs.map TestJob.groupKey).find? fun p => (p.1 : Int) = k :=
    fun t => (List.find?_map (p := fun q : Nat × Bool × Bool × Option String => decide ((q.1 : Int) = k))
      TestJob.groupKey t.jobs).symm
  rw [key, key, h]

theorem SameGroups.connectionIds (h : st.SameGroups st') {j j' : TestJob} (ht : j'.targetGroup = j.targetGroup) :
    (st'.connectionsOf j').map (·.id) = (st.connectionsOf j).map (·.id) := by
  have key : ∀ (t : Store) (i : TestJob), (t.connectionsOf i).map (·.id) =
      (((t.jobs.map TestJob.groupKey).filter fun p => p.2.2.2 = i.targetGroup).filter
        fun p => p.2.2.1).map (·.1) := by
    intro t i
    simp only [connectionsOf, subJobsList, List.filter_map, List.map_map]
    rfl
  rw [key, key, h, ht]

theorem StartsAfterGroup.of_sameGroups (h : st.StartsAfterGroup pre m) (hs : st.SameGroups st') :
    st'.StartsAfterGroup pre m := by
  intro jobId j' hm hj' hmn hdc g' hg'
  have hk := hs.find? jobId
  rw [hj', Option.map_some'] at hk
  obtain ⟨j, hj, hjk⟩ := Option.map_eq_some'.mp hk.symm
  simp only [TestJob.groupKey, Prod.mk.injEq] at hjk
  have hmem := List.mem_map_of_mem (·.id) hg'
  rw [hs.connectionIds hjk.2.2.2.symm] at hmem
  obtain ⟨g, hg, hid⟩ := List.mem_map.mp hmem
  rw [show g'.id = g.id from hid.symm]
  exact h jobId j hm hj (hjk.2.1.trans hmn) (hjk.2.2.1.trans hdc) g hg

theorem GroupsFirst.of_sameGroups (h : st.GroupsFirst l) (hs : st.SameGroups st') : st'.GroupsFirst l :=
  fun pre m post he => (h pre m post he).of_sameGroups hs

theorem sameGroups_modify (st : Store) (id : Nat) (f : TestJob → TestJob) (hf : ∀ j, (f j).id = j.id)
    (hg : ∀ j, (f j).groupKey = j.groupKey) : st.SameGroups (st.modify id f hf) := by
  simp only [SameGroups, modify, List.map_map]
  exact List.map_congr_left fun j _ => by by_cases h : j.id = id <;> simp [h, hg]

/-- Committing a call leaves the rows. -/
theorem SameGroups.record (h : st.SameGroups st') (c : StoreCall) : st.SameGroups (st'.record c) := h

variable (st) (job : TestJob)

theorem sameGroups_failJob (msg : String) (status : Status) : st.SameGroups (st.failJob job msg status) :=
  (st.sameGroups_modify job.id (fun j => { j with status := status, failureComment := some msg }) (fun _ => rfl)
    fun _ => rfl).record _

theorem sameGroups_cancelJob : st.SameGroups (st.cancelJob job) :=
  (st.sameGroups_modify job.id (fun j => { j with status := .canceled }) (fun _ => rfl) fun _ => rfl).record _

theorem sameGroups_startJob : st.SameGroups (st.startJob job) :=
  (st.sameGroups_modify job.id (fun j => { j with status := .running }) (fun _ => rfl) fun _ => rfl).record _

theorem sameGroups_createJob (device : Device) : st.SameGroups (st.createJob job device) :=
  (st.sameGroups_modify job.id (fun j => { j with actualDevice := some device }) (fun _ => rfl)
    fun _ => rfl).record _

theorem sameGroups_setDevice (device : Option Device) : st.SameGroups (st.setDevice job device) :=
  st.sameGroups_modify _ _ _ fun _ => rfl

theorem sameGroups_parseJobDescription (description : Option String) :
    st.SameGroups (st.parseJobDescription job description) := rfl

end Store

/-! ## The order along a computation -/

/-- The rows keep their groups, and from a state whose messages keep the groups first the
messages keep them first. -/
def GroupOrder (s s' : Master) : Prop :=
  s.store.SameGroups s'.store ∧ (s.store.GroupsFirst s.sent → s'.store.GroupsFirst s'.sent)

instance : IsRefl Master GroupOrder := ⟨fun _ => ⟨rfl, id⟩⟩

instance : IsTrans Master GroupOrder := ⟨fun _ _ _ ⟨k, h⟩ ⟨k', h'⟩ => ⟨k'.trans k, fun g => h' (h g)⟩⟩

/-- The rows keep their groups, and no message sent starts a job. -/
theorem groupOrder_of {s s' : Master} (hk : s.store.SameGroups s'.store) (l : List Outbound)
    (hl : s'.sent = s.sent ++ l) (hm : ∀ m ∈ l, m.startOf? = none) : GroupOrder s s' :=
  ⟨hk, fun h => hl ▸ (h.of_sameGroups hk).append (.of_none hm)⟩

theorem groupOrder_of_eq {s s' : Master} (hst : s'.store = s.store) (hs : s'.sent = s.sent) : GroupOrder s s' :=
  groupOrder_of (congrArg (fun st : Store => st.jobs.map TestJob.groupKey) hst) [] (by rw [hs, List.append_nil])
    fun _ h => nomatch h

theorem roundTrip_groupOrder : Keeps GroupOrder roundTrip := fun s => by
  unfold roundTrip
  split <;> exact groupOrder_of_eq rfl rfl

theorem save_groupOrder {f : Store → Store} (hf : ∀ st : Store, st.SameGroups (f st)) : Keeps GroupOrder (save f) :=
  Keeps.bind roundTrip_groupOrder fun _ s => groupOrder_of (hf s.store) [] (List.append_nil _).symm
    fun _ h => nomatch h

theorem send_groupOrder {m : Outbound} (hm : m.startOf? = none) : Keeps GroupOrder (send m) :=
  fun _ => groupOrder_of rfl [m] rfl fun _ h => by rw [List.mem_singleton.mp h]; exact hm

theorem atomic_groupOrder {α : Type} {x : M α} (hx : Keeps GroupOrder x) : Keeps GroupOrder (atomic x) :=
  Keeps.atomic (fun _ _ ⟨k, h⟩ => ⟨rfl, fun g => (h g).of_sameGroups (Eq.symm k)⟩) hx

/-- The store stays, and every message sent keeps the groups of `st` first after what was
sent before. -/
def StartsAfter (st : Store) (s s' : Master) : Prop :=
  s'.store = s.store ∧ ∃ l, s'.sent = s.sent ++ l ∧ st.GroupsFirstAfter s.sent l

section Starts

variable {st : Store}

instance : IsRefl Master (StartsAfter st) := ⟨fun _ => ⟨rfl, [], by simp, .of_none fun _ h => nomatch h⟩⟩

instance : IsTrans Master (StartsAfter st) :=
  ⟨fun _ _ _ ⟨hb, l, hl, hg⟩ ⟨hc, l', hl', hg'⟩ =>
    ⟨hc.trans hb, l ++ l', by rw [hl', hl, List.append_assoc], hg.append (hl ▸ hg')⟩⟩

theorem groupOrder_of_startsAfter {s s' : Master} (h : StartsAfter s.store s s') : GroupOrder s s' :=
  let ⟨hst, l, hl, hg⟩ := h
  ⟨congrArg (fun st : Store => st.jobs.map TestJob.groupKey) hst, fun hf => by rw [hl, hst]; exact hf.append hg⟩

theorem roundTrip_startsAfter : Keeps (StartsAfter st) roundTrip := fun s => by
  unfold roundTrip
  split <;> exact ⟨rfl, [], (List.append_nil _).symm, .of_none fun _ h => nomatch h⟩

theorem send_startsAfter {m : Outbound} (hm : ∀ pre, st.StartsAfterGroup pre m) : Keeps (StartsAfter st) (send m) :=
  fun _ => ⟨rfl, [m], rfl, Store.groupsFirstAfter_singleton (hm _)⟩

/-- A `START` of a dynamic connection of the store keeps every order. -/
theorem startsAfterGroup_connection {g : TestJob} (hg : st.find? g.id = some g) (hd : g.dynamicConnection = true)
    {m : Outbound} (hm : m.startOf? = some g.id) (pre : List Outbound) : st.StartsAfterGroup pre m :=
  fun _ j hs hj _ hdc => by
    rw [hm, Option.some.injEq] at hs
    subst hs
    rw [hg, Option.some.injEq] at hj
    subst hj
    rw [hd] at hdc
    cases hdc

/-- `StartsAfter st` from a state where the dynamic connections of `job`'s group in `st`
are started, when `job` is multinode. -/
def StartsAfterConnections (st : Store) (job : TestJob) (s s' : Master) : Prop :=
  (job.isMultinode = true → ∀ g ∈ st.connectionsOf job, some g.id ∈ s.sent.map Outbound.startOf?) →
    StartsAfter st s s'

variable {job : TestJob}

instance : IsRefl Master (StartsAfterConnections st job) := ⟨fun s _ => refl_of (StartsAfter st) s⟩

instance : IsTrans Master (StartsAfterConnections st job) :=
  ⟨fun _ _ _ hab hbc hp =>
    let ⟨_, l, hl, _⟩ := hab hp
    trans_of (StartsAfter st) (hab hp) (hbc fun hm g hg => by
      rw [hl, List.map_append]
      exact List.mem_append_left _ (hp hm g hg))⟩

/-- The job's own `START`, once the connections of its group are started. -/
theorem send_startsAfterConnections (hrow : st.KeepsGroupOf job) {m : Outbound} (hm : m.startOf? = some job.id) :
    Keeps (StartsAfterConnections st job) (send m) :=
  fun _ hp => ⟨rfl, [m], rfl, Store.groupsFirstAfter_singleton fun jobId j hs hj hmn _ g hg => by
    rw [hm, Option.some.injEq] at hs
    subst hs
    obtain ⟨hmn', htg⟩ := hrow j hj
    have hconn : st.connectionsOf j = st.connectionsOf job := by
      simp only [Store.connectionsOf, Store.subJobsList, htg]
    simpa using hp (hmn'.symm.trans hmn) g (hconn ▸ hg)⟩

end Starts

/-! ## The sweeps -/

section Sweeps

variable (env : Env)

theorem liftExcept_ok {α : Type} {x : Except PyError α} {a : α} {s s' : Master} (h : liftExcept x s = .ok a s') :
    s' = s := by
  cases x with
  | ok b => cases h; rfl
  | error e => cases h

/-- A `START` of a dynamic connection that returns has been sent. -/
theorem startConnection_started {groupJob : TestJob} {dc e ed : String} {s s' : Master} {u : Unit}
    (h : startConnection env groupJob dc e ed s = .ok u s') : some groupJob.id ∈ s'.sent.map Outbound.startOf? := by
  unfold startConnection at h
  cases hw : groupJob.lookupWorker with
  | none => rw [hw] at h; cases h
  | some host =>
    rw [hw] at h
    dsimp only at h
    obtain ⟨p, s₁, -, h₁⟩ := (bind_eq_ok _).mp h
    cases p with
    | none => cases h₁
    | some parentJob =>
      dsimp only at h₁
      obtain ⟨jobCtx, s₂, -, h₂⟩ := (bind_eq_ok _).mp h₁
      -- both ways to the parent's device end with the same `START`
      have hsend : ∀ device : Device, (do
          let deviceConfiguration ← liftExcept (env.loadDeviceConfiguration device jobCtx)
          let definition ← liftExcept (exportDefinition env groupJob)
          send (.start host groupJob.id definition deviceConfiguration dc e ed) : M Unit) s₂ = .ok u s' →
          some groupJob.id ∈ s'.sent.map Outbound.startOf? := fun device h₃ => by
        obtain ⟨_, s₃, -, h₄⟩ := (bind_eq_ok _).mp h₃
        obtain ⟨_, s₄, h₅, h₆⟩ := (bind_eq_ok _).mp h₄
        rw [liftExcept_ok h₅, send_apply] at h₆
        cases h₆
        simp [Outbound.startOf?]
      cases hpd : parentJob.actualDevice <;> rw [hpd] at h₂ <;> dsimp only at h₂
      · cases hrd : parentJob.requestedDevice <;> rw [hrd] at h₂ <;> dsimp only at h₂
        · cases h₂
        · exact hsend _ h₂
      · exact hsend _ h₂

/-- A loop of `process_jobs` over a group that returns has started each of its dynamic
connections. -/
theorem forM_started {group : List TestJob} {dc e ed : String} {s s' : Master}
    (h : (group.forM fun g => if g.dynamicConnection then startConnection env g dc e ed else pure ()) s = .ok () s') :
    ∀ g ∈ group, g.dynamicConnection = true → some g.id ∈ s'.sent.map Outbound.startOf? := by
  induction group generalizing s with
  | nil => exact fun _ hg => nomatch hg
  | cons g rest ih =>
    obtain ⟨_, s₁, h₁, hrest⟩ := (bind_eq_ok _).mp h
    intro g' hg' hd
    rcases List.mem_cons.mp hg' with rfl | hg'
    · dsimp only at h₁
      rw [if_pos hd] at h₁
      have hgrow : SendsOnly (fun _ => True) s₁ s' := Keeps.of_ok (Keeps.forM _ fun _ =>
        Keeps.ite (startConnection_keeps env roundTrip_sendsOnly (fun _ => send_sendsOnly trivial) _ _ _ _)
          (Keeps.pure _)) hrest
      obtain ⟨-, -, l, hl, -⟩ := hgrow
      rw [hl, List.map_append]
      exact List.mem_append_left _ (startConnection_started env h₁)
    · exact ih hrest g' hg' hd

/-- The `try` of `process_jobs` for a job whose row has its multinode flag and target
group: the job's `START` goes out only after a `START` of each dynamic connection of its
group. -/
theorem startJobs_startsAfter {s : Master} {job : TestJob} (hrow : s.store.KeepsGroupOf job) (device : Device)
    (workerHost : String) :
    StartsAfter s.store s (startJobs env job device workerHost s).state := by
  have tail : ∀ dispatcherConfig envStr envDutStr, Keeps (StartsAfterConnections s.store job) (do
      let jobCtx ← liftExcept (jobContext env job.definition)
      let deviceConfiguration ← liftExcept (env.loadDeviceConfiguration device jobCtx)
      let definition ← liftExcept (exportDefinition env job)
      send (.start workerHost job.id definition deviceConfiguration dispatcherConfig envStr envDutStr)) :=
    fun _ _ _ => Keeps.bind (Keeps.liftExcept _) fun _ => Keeps.bind (Keeps.liftExcept _) fun _ =>
      Keeps.bind (Keeps.liftExcept _) fun _ => send_startsAfterConnections hrow rfl
  unfold startJobs
  refine Keeps.bind_at (Keeps.liftExcept _ _) fun _ s₁ h₁ => ?_
  obtain rfl : s = s₁ := (liftExcept_ok h₁).symm
  refine Keeps.bind_at (Keeps.liftExcept _ _) fun _ s₁ h₁ => ?_
  obtain rfl : s = s₁ := (liftExcept_ok h₁).symm
  refine Keeps.bind_at (Keeps.liftExcept _ _) fun _ s₁ h₁ => ?_
  obtain rfl : s = s₁ := (liftExcept_ok h₁).symm
  dsimp only
  split
  · refine Keeps.bind_at (query_keeps roundTrip_startsAfter _ _) fun group s₁ hq => ?_
    obtain ⟨rfl, hs, -⟩ := query_ok _ hq
    refine Keeps.bind_at (Keeps.forM_of_mem _ (fun g hmem => ?_) s₁) fun _ s₂ hok =>
      tail _ _ _ s₂ fun _ g hg => forM_started env hok g ?_ (List.mem_filter.mp hg).2
    · have hrow' : s.store.find? g.id = some g := Store.find?_of_mem _ (List.mem_filter.mp hmem).1
      split
      · exact startConnection_keeps_starts env roundTrip_startsAfter g _ _ _ fun _ _ _ _ =>
          send_startsAfter (startsAfterGroup_connection hrow' ‹_› rfl)
      · exact Keeps.pure _
    · exact (List.mem_filter.mp hg).1
  · exact Keeps.bind (Keeps.pure _) (fun _ => tail _ _ _) _ fun h => absurd h ‹_›

theorem dispatchJob_groupOrder {s : Master} {job : TestJob} {workerHost : String} (hrow : s.store.KeepsGroupOf job)
    (device : Device) : GroupOrder s (dispatchJob env job device workerHost s).state := by
  refine Keeps.tryCatch_at (groupOrder_of_startsAfter (startJobs_startsAfter env hrow device workerHost))
    fun e s' _ => ?_
  cases infrastructureError e with
  | some msg => exact save_groupOrder (fun st => st.sameGroups_failJob _ _ _) s'
  | none => exact refl_of GroupOrder s'

theorem processJob_groupOrder (candidate : TestJob) : Keeps GroupOrder (processJob env candidate) :=
  processJob_keeps_rows env roundTrip_groupOrder
    (fun job _ _ => save_groupOrder fun st => st.sameGroups_failJob job _ _) candidate
    (fun _ => save_groupOrder fun st => st.sameGroups_setDevice candidate _)
    (fun s job device _ _ => save_groupOrder (fun st => st.sameGroups_createJob job device) s)
    fun _ _ device _ hrow _ => dispatchJob_groupOrder env (fun j h => by
      rw [hrow, Option.some.injEq] at h
      subst h
      exact ⟨rfl, rfl⟩) device

theorem processJobs_groupOrder : Keeps GroupOrder (processJobs env) :=
  Keeps.bind (query_keeps roundTrip_groupOrder _) fun _ => Keeps.forM _ (processJob_groupOrder env)

theorem handleCanceling_groupOrder : Keeps GroupOrder handleCanceling :=
  handleCanceling_keeps roundTrip_groupOrder (fun _ _ _ _ => save_groupOrder fun st => st.sameGroups_failJob _ _ _)
    fun _ _ => send_groupOrder rfl

theorem accessDatabase_groupOrder : Keeps GroupOrder (accessDatabase env) :=
  Keeps.bind Keeps.get fun _ => Keeps.ite (Keeps.bind (fun _ => groupOrder_of_eq rfl rfl) fun _ =>
    Keeps.bind (processJobs_groupOrder env) fun _ => handleCanceling_groupOrder) (Keeps.pure _)

end Sweeps

/-! ## A pass of the main loop and a run -/

section Run

variable (env : Env)

/-- The controler socket writes no group and sends no `START`. -/
theorem controlerSocket_groupOrder (msg : ControlMsg) : Keeps GroupOrder (controlerSocket env msg) :=
  controlerSocket_keeps_answers env roundTrip_groupOrder
    (fun _ _ _ _ => save_groupOrder fun st => st.sameGroups_failJob _ _ _)
    (fun _ hm => send_groupOrder (Outbound.startOf?_of_not_fromSweep hm)) (fun _ _ => groupOrder_of_eq rfl rfl)
    (fun _ s => by simp only [alive_apply]; split <;> exact groupOrder_of_eq rfl rfl)
    (fun hx _ => atomic_groupOrder hx) (fun _ => save_groupOrder fun st => st.sameGroups_cancelJob _)
    (fun _ _ _ _ => groupOrder_of_eq rfl rfl) (fun _ _ => save_groupOrder fun st => st.sameGroups_parseJobDescription _ _)
    msg fun _ _ _ => atomic_groupOrder (Keeps.bind (getJob_keeps roundTrip_groupOrder _) fun _ =>
      save_groupOrder fun st => st.sameGroups_startJob _)

theorem iteration_groupOrder (signal : Option Signal) (message : Option ControlMsg) :
    Keeps GroupOrder (iteration env signal message) := by
  refine Keeps.bind (receive_keeps (R := GroupOrder) env (fun _ => groupOrder_of_eq rfl rfl) signal message
    fun msg _ => controlerSocket_groupOrder env msg) fun _ => ?_
  dsimp only
  exact Keeps.ite (Keeps.bind (Keeps.bind (fun _ => groupOrder_of_eq rfl rfl) fun _ => accessDatabase_groupOrder env)
    fun _ => Keeps.pure _) (Keeps.bind (Keeps.pure _) fun _ => Keeps.pure _)

theorem step_groupOrder (s : Master) (e : Event) : GroupOrder s (step env s e) := by
  cases e with
  | pollError => exact refl_of GroupOrder s
  | frame now msg =>
    obtain ⟨_, _, _, _, _, _, he⟩ := step_frame_eq env s now msg
    rw [he]
    exact groupOrder_of_eq rfl rfl
  | wake now signal message c =>
    obtain ⟨_, _, he⟩ := step_wake_eq env s now signal message c
    rw [he]
    split_ifs
    · exact iteration_groupOrder env signal message { s with now := now, connection := c }
    · exact refl_of GroupOrder s

theorem run_groupOrder (s : Master) (events : List Event) : GroupOrder s (run env s events) :=
  run_keeps env (step_groupOrder env) s events

end Run

end LavaMaster
