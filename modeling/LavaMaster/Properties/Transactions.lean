import LavaMaster.Properties.Handlers
import LavaMaster.Properties.Lifecycle

/-!
# The transactions of the controler socket

`HELLO` and `START_OK` write the store only inside one `transaction.atomic` block:
`_cancel_slave_dispatcher_jobs` and the block of `START_OK`. A reset of the database
connection raises `OperationalError` inside the block, which rolls it back, and a block
that returns has made every write it makes on a healthy connection. `END` also calls
`parse_job_description` before its status block, outside any transaction, so a reset
there can keep the parsed description without the status change. So whatever the
connection does while a message is handled, the store ends as it was, as the message
leaves it on a healthy connection, or, for `END`, with only the description parsed. The
sweeps have no such block: a reset in the middle of `process_jobs` keeps the jobs already
started.
-/

namespace LavaMaster

/-- The store stays. -/
def SameStore (s s' : Master) : Prop := s'.store = s.store

instance : IsRefl Master SameStore := ⟨fun _ => rfl⟩

instance : IsTrans Master SameStore := ⟨fun _ _ _ h h' => h'.trans h⟩

section Store

variable {α β : Type}

theorem roundTrip_sameStore : Keeps SameStore roundTrip := fun s => by
  unfold roundTrip
  split <;> rfl

theorem send_sameStore (m : Outbound) : Keeps SameStore (send m) := fun _ => rfl

theorem alive_sameStore (hostname : String) : Keeps SameStore (alive hostname) := fun s => by
  simp only [alive_apply]
  split <;> rfl

theorem dispatcherAlive_sameStore (hostname : String) : Keeps SameStore (dispatcherAlive hostname) :=
  dispatcherAlive_keeps roundTrip_sameStore (fun _ _ _ => rfl) (fun _ _ => rfl) alive_sameStore hostname

/-- After a part that keeps the store `st`, the store ends as `st` or `T` when the rest
ends so from where the part left. -/
theorem store_bind_of_same {x : M α} {f : α → M β} {s : Master} {st T : Store} (hx : Keeps SameStore x)
    (hs : s.store = st)
    (hf : ∀ a s₁, x s = .ok a s₁ → s₁.store = st →
      (f a s₁).state.store = st ∨ (f a s₁).state.store = T) :
    ((x >>= f) s).state.store = st ∨ ((x >>= f) s).state.store = T := by
  have h := hx s
  rw [bind_apply]
  cases hr : x s with
  | ok a s₁ => rw [hr] at h; exact hf a s₁ hr (h.trans hs)
  | error e s₁ => rw [hr] at h; exact .inl (h.trans hs)

/-- Before a part that keeps the store, the store ends as the first part leaves it. -/
theorem bind_store_of_same {x : M α} {f : α → M β} (hf : ∀ a, Keeps SameStore (f a)) (s : Master) :
    ((x >>= f) s).state.store = (x s).state.store := by
  rw [bind_apply]
  cases x s with
  | ok a s₁ => exact hf a s₁
  | error e s₁ => rfl

theorem store_bind_same {x : M α} {f : α → M β} {s : Master} {st T : Store} (hf : ∀ a, Keeps SameStore (f a))
    (hx : (x s).state.store = st ∨ (x s).state.store = T) :
    ((x >>= f) s).state.store = st ∨ ((x >>= f) s).state.store = T := by
  rw [bind_store_of_same hf]
  exact hx

theorem exceptDoesNotExist_state (x : M Unit) (s : Master) :
    (exceptDoesNotExist x s).state = (x s).state := by
  simp only [exceptDoesNotExist, tryCatch_apply]
  cases x s with
  | ok => rfl
  | error e s' => dsimp only; split <;> rfl

end Store

/-! ## The three transactions -/

/-- A loop of store writes that returns has made all of them, whatever the connection. -/
theorem forM_save_ok {α : Type} (l : List α) (g : α → Store → Store) {s s' : Master}
    (h : (l.forM fun a => save (g a)) s = .ok () s') : s'.store = l.foldl (fun st a => g a st) s.store := by
  induction l generalizing s with
  | nil =>
    cases h
    rfl
  | cons a l ih =>
    obtain ⟨_, s₁, h₁, h⟩ := (bind_eq_ok _).mp h
    rw [List.foldl_cons, ← (save_ok s h₁).1]
    exact ih h

/-- A `transaction.atomic` block ends with the store it started from, or with `T` when
its body returns only with the store `T`. -/
theorem atomic_store {α : Type} {x : M α} {s : Master} {T : Store} (h : ∀ a s', x s = .ok a s' → s'.store = T) :
    (atomic x s).state.store = s.store ∨ (atomic x s).state.store = T := by
  rw [atomic_apply]
  cases hr : x s with
  | ok a s' => exact .inr (h a s' hr)
  | error => exact .inl rfl

/-- `_cancel_slave_dispatcher_jobs` cancels every running job of the slave or none. -/
theorem cancelSlaveDispatcherJobs_store (hostname : String) (s : Master) :
    (cancelSlaveDispatcherJobs hostname s).state.store = s.store ∨
      (cancelSlaveDispatcherJobs hostname s).state.store = s.store.cancelRunningOn hostname := by
  unfold cancelSlaveDispatcherJobs
  refine atomic_store fun _ s' h => ?_
  obtain ⟨jobs, s₁, hq, hl⟩ := (bind_eq_ok _).mp h
  obtain ⟨rfl, hs, -⟩ := query_ok s hq
  exact (forM_save_ok _ _ hl).trans (by rw [hs]; rfl)

/-- The status block of `END` that returns on the row the branch found has cancelled a
canceling job, then failed it with the reported status. -/
theorem endTransaction_ok {errorMsg : String} {status : Status} {jobId : Int} {s s' : Master} {job : TestJob}
    {u : Unit} (hj : s.store.find? jobId = some job)
    (h : (do
      let job ← getJob jobId
      if job.status = .canceling then save (·.cancelJob job)
      save (·.failJob job errorMsg status) : M Unit) s = .ok u s') :
    s'.store = (if job.status = .canceling then s.store.cancelJob job else s.store).failJob job errorMsg status := by
  obtain ⟨job', s₁, hg, h⟩ := (bind_eq_ok _).mp h
  have hs₁ : s₁.store = s.store := Keeps.of_ok (getJob_keeps roundTrip_sameStore jobId) hg
  obtain rfl : job' = job := Option.some.inj ((getJob_ok s hg).symm.trans (hs₁ ▸ hj))
  dsimp only at h
  split_ifs at h with hc
  · obtain ⟨_, s₂, h₂, h⟩ := (bind_eq_ok _).mp h
    rw [(save_ok s₂ h).1, (save_ok s₁ h₂).1, hs₁, if_pos hc]
  · obtain ⟨_, s₂, h₂, h⟩ := (bind_eq_ok _).mp h
    cases h₂
    rw [(save_ok s₁ h).1, hs₁, if_neg hc]

/-- The `try` of `END` ends with the store it started from, with only the description of
its job parsed, or with the status change of a healthy connection: `parse_job_description`
writes outside the status block. -/
theorem endJob_store (env : Env) (jobId : Int) (errorMsg description : String) (status : Status) (s : Master) :
    (exceptDoesNotExist (endJob env jobId errorMsg description status) s).state.store = s.store ∨
      (∃ job, s.store.find? jobId = some job ∧
        (exceptDoesNotExist (endJob env jobId errorMsg description status) s).state.store =
          s.store.parseJobDescription job (some ((env.decompress description).getD ""))) ∨
      (exceptDoesNotExist (endJob env jobId errorMsg description status) s).state.store =
        (endEffect env s jobId errorMsg description status).store := by
  rw [exceptDoesNotExist_state]
  unfold endJob
  rw [bind_apply]
  cases hg : getJob jobId s with
  | error e s₁ => exact .inl (Keeps.of_error (getJob_keeps roundTrip_sameStore jobId) hg)
  | ok job s₁ =>
    have hs₁ : s₁.store = s.store := Keeps.of_ok (getJob_keeps roundTrip_sameStore jobId) hg
    have hj : s.store.find? jobId = some job := hs₁ ▸ getJob_ok s hg
    have heff : (endEffect env s jobId errorMsg description status).store =
        endStore env s.store job errorMsg description status := by
      simp [endEffect, hj]
    rw [heff]
    dsimp only
    rw [bind_apply]
    cases hd : saveDescription env job description s₁ with
    | error e s₂ => simp [saveDescription] at hd
    | ok _ s₂ =>
      have hs₂ : s₂.store = s.store ∧ s₂.files (pathJoin job.outputDir ["description.yaml"]) =
          some ((env.decompress description).getD "") := by
        simp only [saveDescription, modify_apply, EStateM.Result.ok.injEq] at hd
        rw [← hd.2]
        exact ⟨hs₁, Function.update_same _ _ _⟩
      dsimp only
      simp only [parseJobDescription, bind_apply, get_apply, hs₂.2]
      cases hp : save (·.parseJobDescription job (some ((env.decompress description).getD ""))) s₂ with
      | error e s₃ =>
        simp only [save, bind_apply] at hp
        cases hr : roundTrip s₂ <;> rw [hr] at hp <;> cases hp
        have hs₃ := roundTrip_sameStore s₂
        rw [hr] at hs₃
        exact .inl (hs₃.trans hs₂.1)
      | ok _ s₃ =>
        have h₃ : s₃.store = s.store.parseJobDescription job (some ((env.decompress description).getD "")) := by
          rw [(save_ok s₂ hp).1, hs₂.1]
        have hj₃ : s₃.store.find? jobId = some job := by rw [h₃]; exact hj
        dsimp only
        rcases atomic_store fun _ _ h => endTransaction_ok hj₃ h with h | h
        · exact .inr (.inl ⟨job, hj, h.trans h₃⟩)
        · exact .inr (.inr (h.trans (by rw [h₃]; rfl)))

/-- The block of `START_OK` starts the job it finds, or rolls back. -/
theorem startTransaction_store (jobId : Int) (s : Master) :
    (atomic (getJob jobId >>= fun job => save (·.startJob job)) s).state.store = s.store ∨
      (atomic (getJob jobId >>= fun job => save (·.startJob job)) s).state.store = s.store.startById jobId := by
  refine atomic_store fun _ s' h => ?_
  obtain ⟨job, s₁, hg, h⟩ := (bind_eq_ok _).mp h
  have hs₁ : s₁.store = s.store := Keeps.of_ok (getJob_keeps roundTrip_sameStore jobId) hg
  rw [(save_ok s₁ h).1, Store.startById, ← hs₁, getJob_ok s hg]

/-! ## The branches -/

section Branches

variable (env : Env) (msg : ControlMsg) (s : Master)

theorem onHello_store : (onHello msg s).state.store = s.store ∨
    (onHello msg s).state.store = (onHello msg { s with connection := none }).state.store := by
  rw [onHello_of_connected { s with connection := none } msg rfl]
  unfold onHello
  cases h0 : msg.intArg 0 with
  | none => exact .inl rfl
  | some v =>
    dsimp only
    by_cases hv : v = protocolVersion
    · subst hv
      simp only [ne_eq, not_true_eq_false, if_false, if_true]
      refine store_bind_of_same (Keeps.pure _) rfl fun _ s₁ _ h₁ => ?_
      refine store_bind_of_same (send_sameStore _) h₁ fun _ s₂ _ h₂ => ?_
      refine store_bind_of_same Keeps.get h₂ fun _ s₃ _ h₃ => ?_
      -- whether or not the slave is registered, the rest of the branch follows
      split <;> refine store_bind_of_same (fun _ => rfl) h₃ fun _ s₄ _ h₄ => ?_ <;> rw [← h₄] <;> split_ifs
      all_goals first
        | exact store_bind_same (fun _ => Keeps.bind (alive_sameStore _) fun _ => Keeps.pure _)
            (cancelSlaveDispatcherJobs_store msg.hostname s₄)
        | exact .inl ((Keeps.bind (Keeps.pure _) fun _ => Keeps.bind (alive_sameStore _) fun _ => Keeps.pure _) s₄)
    · simp only [ne_eq, hv, not_false_eq_true, if_true]
      exact .inl rfl

theorem onPing_store : (onPing msg s).state.store = s.store :=
  (Keeps.bind (send_sameStore _) fun _ => Keeps.bind (dispatcherAlive_sameStore _) fun _ => Keeps.pure _) s

theorem onEnd_store : (onEnd env msg s).state.store = s.store ∨
    (∃ jobId description job, msg.intArg 0 = some jobId ∧ msg.args.get? 3 = some description ∧
      s.store.find? jobId = some job ∧
      (onEnd env msg s).state.store = s.store.parseJobDescription job (some ((env.decompress description).getD ""))) ∨
    (onEnd env msg s).state.store = (onEnd env msg { s with connection := none }).state.store := by
  rw [onEnd_of_connected env { s with connection := none } msg rfl]
  unfold onEnd
  rcases h0 : msg.intArg 0 with _ | jobId <;> rcases msg.intArg 1 with _ | code <;>
    rcases msg.args.get? 2 with _ | errorMsg <;> rcases h3 : msg.args.get? 3 with _ | description
  all_goals try exact .inl rfl
  dsimp only
  rw [bind_store_of_same fun _ => Keeps.bind (send_sameStore _) fun _ =>
    Keeps.bind (dispatcherAlive_sameStore _) fun _ => Keeps.pure _]
  exact (endJob_store env jobId errorMsg description _ s).imp_right
    (Or.imp_left fun ⟨job, hj, h⟩ => ⟨jobId, description, job, rfl, rfl, hj, h⟩)

theorem onStartOk_store : (onStartOk msg s).state.store = s.store ∨
    (onStartOk msg s).state.store = (onStartOk msg { s with connection := none }).state.store := by
  rw [onStartOk_of_connected { s with connection := none } msg rfl]
  unfold onStartOk
  cases msg.intArg 0 with
  | none => exact .inl rfl
  | some jobId =>
    refine store_bind_same (fun _ => Keeps.bind (dispatcherAlive_sameStore _) fun _ => Keeps.pure _) ?_
    rw [exceptDoesNotExist_state]
    exact startTransaction_store jobId s

/-- Whatever the database connection does while a message is handled, resets included,
`controler_socket` leaves the store as it was or as the message leaves it on a healthy
connection, or, for an `END`, with only the description of its job parsed:
`parse_job_description` commits before the status block opens. `HELLO` cancels all the
slave's running jobs or none, and `START_OK` starts its job or changes nothing. -/
theorem controlerSocket_all_or_nothing : (controlerSocket env msg s).state.store = s.store ∨
    (msg.action = "END" ∧ ∃ jobId description job, msg.intArg 0 = some jobId ∧ msg.args.get? 3 = some description ∧
      s.store.find? jobId = some job ∧ (controlerSocket env msg s).state.store =
        s.store.parseJobDescription job (some ((env.decompress description).getD ""))) ∨
    (controlerSocket env msg s).state.store = (controlerSocket env msg { s with connection := none }).state.store := by
  unfold controlerSocket
  split_ifs with hh hp he
  · exact (onHello_store msg s).imp_right .inr
  · exact .inl (onPing_store msg s)
  · exact (onEnd_store env msg s).imp_right (Or.imp_left fun h => ⟨he, h⟩)
  · exact (onStartOk_store msg s).imp_right .inr
  · exact .inl rfl

end Branches

/-- A reset at the third round trip of an `END` for the running job 1, inside its status
block, leaves the job running. -/
example : (controlerSocket .bare ⟨"w", "END", ["1", "0", "", ""]⟩
    { Master.withRunningJob with connection := some 2 }).state.store.statusOf 1 = some .running := by
  decide

end LavaMaster
