import LavaMaster.Properties.Resync

/-!
# What a failed control message leaves behind

`handle()` catches `OperationalError` and starts the next pass, so whatever a handler
did before its failing round trip stays done. `HELLO_OK` and `PONG` are sent before any
store operation, and `dispatcher_alive` registers a new slave before `send_status`
queries the store: a failure after either leaves the slave acknowledged or registered.
`send_status` reads each job's device before its `STATUS`, so a reset can also stop it
between two jobs. What a failure never leaves is a changed entry of a known slave, more
than the one reply, or a `STATUS` to a slave the master knew.
-/

namespace LavaMaster

/-- Neither the registry, the sent messages nor the clock differ. -/
def Quiet (s s' : Master) : Prop := s'.dispatchers = s.dispatchers ∧ s'.sent = s.sent ∧ s'.now = s.now

instance : IsRefl Master Quiet := ⟨fun _ => ⟨rfl, rfl, rfl⟩⟩

instance : IsTrans Master Quiet :=
  ⟨fun _ _ _ ⟨d, m, n⟩ ⟨d', m', n'⟩ => ⟨d'.trans d, m'.trans m, n'.trans n⟩⟩

/-- The registry after `SlaveDispatcher(hostname, online=True)` for a new slave. -/
def registered (s : Master) (hostname : String) : String → Option SlaveDispatcher :=
  Function.update s.dispatchers hostname (some (.init s.now true))

theorem registered_of_quiet {s s' : Master} (h : Quiet s s') (hostname : String) :
    registered s' hostname = registered s hostname := by
  rw [registered, registered, h.1, h.2.2]

/-- Nothing but `STATUS` requests to `hostname` is sent, and neither the registry nor the
clock differ. -/
def StatusOnly (hostname : String) (s s' : Master) : Prop :=
  s'.dispatchers = s.dispatchers ∧ s'.now = s.now ∧
    ∃ l, s'.sent = s.sent ++ l ∧ ∀ m ∈ l, ∃ k, m = .status hostname k

instance (hostname : String) : IsRefl Master (StatusOnly hostname) := ⟨fun _ => ⟨rfl, rfl, [], by simp, by simp⟩⟩

instance (hostname : String) : IsTrans Master (StatusOnly hostname) :=
  ⟨fun _ _ _ ⟨d, n, l, hl, hm⟩ ⟨d', n', l', hl', hm'⟩ => ⟨d'.trans d, n'.trans n, l ++ l',
    by rw [hl', hl, List.append_assoc], fun m h => (List.mem_append.mp h).elim (hm m) (hm' m)⟩⟩

theorem StatusOnly.of_quiet {hostname : String} {s s' : Master} (h : Quiet s s') : StatusOnly hostname s s' :=
  ⟨h.1, h.2.2, [], by rw [h.2.1, List.append_nil], by simp⟩

/-! ## The store operations say nothing to the slaves -/

section Quiet

theorem roundTrip_quiet : Keeps Quiet roundTrip := fun s => by
  unfold roundTrip
  split <;> exact ⟨rfl, rfl, rfl⟩

theorem save_quiet (f : Store → Store) : Keeps Quiet (save f) :=
  Keeps.bind roundTrip_quiet fun _ _ => ⟨rfl, rfl, rfl⟩

theorem atomic_quiet {α : Type} {x : M α} (hx : Keeps Quiet x) : Keeps Quiet (atomic x) := by
  intro s
  have h := hx s
  simp only [atomic_apply]
  cases hr : x s with
  | ok a s' => rw [hr] at h; exact h
  | error e s' => rw [hr] at h; exact h

theorem cancelSlaveDispatcherJobs_quiet (hostname : String) :
    Keeps Quiet (cancelSlaveDispatcherJobs hostname) :=
  cancelSlaveDispatcherJobs_keeps roundTrip_quiet (fun hx _ => atomic_quiet hx) (fun _ => save_quiet _) hostname

theorem endJob_quiet (env : Env) (jobId : Int) (errorMsg description : String) (status : Status)
    (ht : status.isTerminal) : Keeps Quiet (endJob env jobId errorMsg description status) :=
  endJob_keeps env roundTrip_quiet (fun _ _ _ _ => save_quiet _) (fun hx _ => atomic_quiet hx)
    (fun _ => save_quiet _) (fun _ _ _ => ⟨rfl, rfl, rfl⟩) (fun _ _ => save_quiet _) jobId errorMsg description status ht

/-- `send_status` sends its slave nothing but `STATUS` requests, whether it returns or a
round trip fails between two of them. -/
theorem sendStatus_statusOnly (hostname : String) : Keeps (StatusOnly hostname) (sendStatus hostname) :=
  have hrt : Keeps (StatusOnly hostname) roundTrip := Keeps.mono (fun _ _ => .of_quiet) roundTrip_quiet
  Keeps.bind (query_keeps hrt _) fun _ => Keeps.forM _ fun _ =>
    Keeps.bind hrt fun _ _ => ⟨rfl, rfl, [_], rfl, by simp⟩

end Quiet

/-! ## Where each handler can fail -/

section Failures

variable {s s' : Master} {e : PyError}

/-- `dispatcher_alive` fails only in `send_status`, after registering the slave. -/
theorem dispatcherAlive_error {hostname : String} (h : dispatcherAlive hostname s = .error e s') :
    s.dispatchers hostname = none ∧ StatusOnly hostname { s with dispatchers := registered s hostname } s' := by
  rw [dispatcherAlive, bind_of_ok _ (get_apply _)] at h
  dsimp only at h
  split_ifs at h with hu
  · refine ⟨hu, ?_⟩
    rw [bind_of_ok _ (newDispatcher_apply _ _)] at h
    rcases (bind_eq_error _).mp h with h | ⟨_, s₂, h₂, h⟩
    · exact Keeps.of_error (sendStatus_statusOnly hostname) h
    · obtain ⟨_, _, _, _, rfl⟩ := Keeps.of_ok (sendStatus_storeFrame hostname) h₂
      simp [registered] at h
  · obtain ⟨d, hd⟩ := Option.ne_none_iff_exists'.mp hu
    simp [hd] at h

/-- After the version check, `HELLO` fails only in `_cancel_slave_dispatcher_jobs`. -/
theorem onHello_error {msg : ControlMsg} (h : onHello msg s = .error e s') :
    s'.sent = s.sent ++ [.helloOk msg.hostname] ∧
      s'.dispatchers = if s.dispatchers msg.hostname = none then registered s msg.hostname else s.dispatchers := by
  have tail : ∀ s₁ s₂, s₁.dispatchers msg.hostname ≠ none →
      (do
        if msg.action = "HELLO" then cancelSlaveDispatcherJobs msg.hostname
        alive msg.hostname
        return true : M Bool) s₁ = .error e s₂ → Quiet s₁ s₂ := fun s₁ s₂ hr h => by
    obtain ⟨d, hd⟩ := Option.ne_none_iff_exists'.mp hr
    dsimp only at h
    split_ifs at h
    · rcases (bind_eq_error _).mp h with h | ⟨_, s₃, h₃, h⟩
      · exact Keeps.of_error (cancelSlaveDispatcherJobs_quiet _) h
      · have hq := Keeps.of_ok (cancelSlaveDispatcherJobs_quiet _) h₃
        simp [hq.1, hd] at h
    · simp [hd] at h
  unfold onHello at h
  cases hv : msg.intArg 0 with
  | none => rw [hv] at h; cases h
  | some v =>
    rw [hv] at h
    dsimp only at h
    by_cases hp : v ≠ protocolVersion
    · rw [if_pos hp] at h
      cases h
    rw [if_neg hp, bind_of_ok _ (pure_apply _ _), bind_of_ok _ (send_apply _ _),
      bind_of_ok _ (get_apply _)] at h
    dsimp only at h
    by_cases hu : s.dispatchers msg.hostname = none
    · rw [if_pos hu, bind_of_ok _ (newDispatcher_apply _ _)] at h
      obtain ⟨hd, hm, -⟩ := tail _ _ (by simp [registered]) h
      exact ⟨hm, by simp [hd, hu, registered]⟩
    · rw [if_neg hu, bind_of_ok _ (pure_apply _ _)] at h
      obtain ⟨hd, hm, -⟩ := tail _ _ (by simpa using hu) h
      exact ⟨hm, by simp [hd, hu]⟩

theorem onPing_error {msg : ControlMsg} (h : onPing msg s = .error e s') :
    s.dispatchers msg.hostname = none ∧ StatusOnly msg.hostname
      { s with sent := s.sent ++ [.pong msg.hostname], dispatchers := registered s msg.hostname } s' := by
  rw [onPing, bind_of_ok _ (send_apply _ _)] at h
  rcases (bind_eq_error _).mp h with h | ⟨_, _, -, h⟩
  · exact dispatcherAlive_error h
  · cases h

/-- `END` fails in its transaction, before `END_OK`, or in `send_status` for a new slave,
after it. -/
theorem onEnd_error {env : Env} {msg : ControlMsg} (h : onEnd env msg s = .error e s') :
    Quiet s s' ∨ s.dispatchers msg.hostname = none ∧ ∃ j, StatusOnly msg.hostname
      { s with sent := s.sent ++ [.endOk msg.hostname j], dispatchers := registered s msg.hostname } s' := by
  unfold onEnd at h
  rcases h0 : msg.intArg 0 with _ | jobId <;> rw [h0] at h
  · cases h
  rcases h1 : msg.intArg 1 with _ | code <;> rw [h1] at h
  · cases h
  rcases h2 : msg.args.get? 2 with _ | errorMsg <;> rw [h2] at h
  · cases h
  rcases h3 : msg.args.get? 3 with _ | description <;> rw [h3] at h
  · cases h
  dsimp only at h
  have hx := exceptDoesNotExist_keeps (endJob_quiet env jobId errorMsg description
    (if code ≠ 0 then .incomplete else .complete) (by split <;> rfl))
  rcases (bind_eq_error _).mp h with h | ⟨_, s₁, h₁, h⟩
  · exact .inl (Keeps.of_error hx h)
  have hq := Keeps.of_ok hx h₁
  rw [bind_of_ok _ (send_apply _ _)] at h
  rcases (bind_eq_error _).mp h with h | ⟨_, _, -, h⟩
  · obtain ⟨hu, hs⟩ := dispatcherAlive_error h
    refine .inr ⟨hq.1 ▸ hu, jobId, trans_of (StatusOnly msg.hostname) (.of_quiet ?_) hs⟩
    exact ⟨registered_of_quiet hq _, by rw [hq.2.1], hq.2.2⟩
  · cases h

/-- `START_OK` sends nothing before `send_status`, which fails only for a new slave. -/
theorem onStartOk_error {msg : ControlMsg} (h : onStartOk msg s = .error e s') :
    s'.sent = s.sent ∧ s'.dispatchers = s.dispatchers ∨
      s.dispatchers msg.hostname = none ∧ StatusOnly msg.hostname { s with dispatchers := registered s msg.hostname } s' := by
  unfold onStartOk at h
  rcases h0 : msg.intArg 0 with _ | jobId <;> rw [h0] at h
  · cases h
  dsimp only at h
  have hx : Keeps Quiet (exceptDoesNotExist (atomic do
      let job ← getJob jobId
      save (·.startJob job))) :=
    exceptDoesNotExist_keeps (atomic_quiet (Keeps.bind (getJob_keeps roundTrip_quiet _) fun _ => save_quiet _))
  rcases (bind_eq_error _).mp h with h | ⟨_, s₁, h₁, h⟩
  · obtain ⟨hd, hm, -⟩ := Keeps.of_error hx h
    exact .inl ⟨hm, hd⟩
  have hq := Keeps.of_ok hx h₁
  rcases (bind_eq_error _).mp h with h | ⟨_, _, -, h⟩
  · obtain ⟨hu, hs⟩ := dispatcherAlive_error h
    refine .inr ⟨hq.1 ▸ hu, trans_of (StatusOnly msg.hostname) (.of_quiet ?_) hs⟩
    exact ⟨registered_of_quiet hq _, hq.2.1, hq.2.2⟩
  · cases h

end Failures

/-- A reply, then `STATUS` requests, to the sender: the messages a failed handler leaves. -/
theorem statusOnly_after_reply {msg : ControlMsg} {s s' : Master} {r : Outbound} (hu : s.dispatchers msg.hostname = none)
    (h : StatusOnly msg.hostname { s with sent := s.sent ++ [r], dispatchers := registered s msg.hostname } s') :
    s'.dispatchers = registered s msg.hostname ∧ ∃ statuses, s'.sent = s.sent ++ [r] ++ statuses ∧
      (statuses ≠ [] → s.dispatchers msg.hostname = none) ∧ ∀ m ∈ statuses, ∃ k, m = .status msg.hostname k :=
  let ⟨hd, _, l, hl, hm⟩ := h
  ⟨hd, l, hl, fun _ => hu, hm⟩

/-- When `controler_socket` raises, for instance on a database reset, the registry is as
it was or has gained the sender, unknown before, as a new online slave. The sender has
been sent at most one reply, `HELLO_OK`, `PONG` or `END_OK`, and after it `STATUS`
requests only when it was unknown before; a failed `START_OK` or `END` from a known
slave has sent nothing. -/
theorem controlerSocket_error (env : Env) (msg : ControlMsg) (s s' : Master) (e : PyError)
    (h : controlerSocket env msg s = .error e s') :
    (s'.dispatchers = s.dispatchers ∨
      s.dispatchers msg.hostname = none ∧ s'.dispatchers = registered s msg.hostname) ∧
    (∃ reply statuses, s'.sent = s.sent ++ reply ++ statuses ∧
      (reply = [] ∨ reply = [.helloOk msg.hostname] ∨ reply = [.pong msg.hostname] ∨
        ∃ j, reply = [.endOk msg.hostname j]) ∧
      (statuses ≠ [] → s.dispatchers msg.hostname = none) ∧ ∀ m ∈ statuses, ∃ k, m = .status msg.hostname k) ∧
    ((msg.action = "START_OK" ∨ msg.action = "END") ∧ s.dispatchers msg.hostname ≠ none → s'.sent = s.sent) := by
  have quiet : ∀ {s'' : Master}, s''.sent = s.sent → ∃ reply statuses, s''.sent = s.sent ++ reply ++ statuses ∧
      (reply = [] ∨ reply = [.helloOk msg.hostname] ∨ reply = [.pong msg.hostname] ∨
        ∃ j, reply = [.endOk msg.hostname j]) ∧
      (statuses ≠ [] → s.dispatchers msg.hostname = none) ∧ ∀ m ∈ statuses, ∃ k, m = .status msg.hostname k :=
    fun hm => ⟨[], [], by rw [hm, List.append_nil, List.append_nil], .inl rfl, fun h => absurd rfl h, by simp⟩
  unfold controlerSocket at h
  by_cases hh : msg.action = "HELLO" ∨ msg.action = "HELLO_RETRY"
  · rw [if_pos hh] at h
    obtain ⟨hm, hd⟩ := onHello_error h
    refine ⟨?_, ⟨_, [], by rw [hm, List.append_nil], .inr (.inl rfl), fun h => absurd rfl h, by simp⟩,
      fun ⟨h3, _⟩ => absurd h3 ?_⟩
    · by_cases hu : s.dispatchers msg.hostname = none
      · exact .inr ⟨hu, by rw [hd, if_pos hu]⟩
      · exact .inl (by rw [hd, if_neg hu])
    · rcases hh with hh | hh <;> simp [hh]
  rw [if_neg hh] at h
  by_cases hp : msg.action = "PING"
  · rw [if_pos hp] at h
    obtain ⟨hu, hs⟩ := onPing_error h
    obtain ⟨hd, l, hl, hn, hm⟩ := statusOnly_after_reply hu hs
    exact ⟨.inr ⟨hu, hd⟩, ⟨_, l, hl, .inr (.inr (.inl rfl)), hn, hm⟩, fun ⟨h3, _⟩ => absurd h3 (by simp [hp])⟩
  rw [if_neg hp] at h
  by_cases he : msg.action = "END"
  · rw [if_pos he] at h
    rcases onEnd_error h with ⟨hd, hm, -⟩ | ⟨hu, j, hs⟩
    · exact ⟨.inl hd, quiet hm, fun _ => hm⟩
    · obtain ⟨hd, l, hl, hn, hm⟩ := statusOnly_after_reply hu hs
      exact ⟨.inr ⟨hu, hd⟩, ⟨_, l, hl, .inr (.inr (.inr ⟨j, rfl⟩)), hn, hm⟩, fun ⟨_, hk⟩ => absurd hu hk⟩
  rw [if_neg he] at h
  by_cases hs : msg.action = "START_OK"
  · rw [if_pos hs] at h
    rcases onStartOk_error h with ⟨hm, hd⟩ | ⟨hu, hd, -, l, hl, hm⟩
    · exact ⟨.inl hd, quiet hm, fun _ => hm⟩
    · exact ⟨.inr ⟨hu, hd⟩, ⟨[], l, by rw [hl, List.append_nil], .inl rfl, fun _ => hu, hm⟩,
        fun ⟨_, hk⟩ => absurd hu hk⟩
  · rw [if_neg hs] at h
    cases h

/-- The master with job 1 running on `w`, which it knows, during a database reset. -/
def resetMaster : Master :=
  { Master.withRunningJob with connection := some 0, dispatchers := fun _ => some ⟨0, true⟩ }

theorem controlerSocket_error_startOk :
    controlerSocket .bare ⟨"w", "START_OK", ["1"]⟩ resetMaster =
      .error .operationalError (controlerSocket .bare ⟨"w", "START_OK", ["1"]⟩ resetMaster).state ∧
    (controlerSocket .bare ⟨"w", "START_OK", ["1"]⟩ resetMaster).state.sent = [] := by
  have h : controlerSocket .bare ⟨"w", "START_OK", ["1"]⟩ resetMaster =
      .error .operationalError (controlerSocket .bare ⟨"w", "START_OK", ["1"]⟩ resetMaster).state := rfl
  exact ⟨h, (controlerSocket_error .bare _ _ _ _ h).2.2 ⟨.inl rfl, by decide⟩⟩

/-- A database reset during the `HELLO` of a restarted slave. -/
def afterHelloReset : Master :=
  run .bare .withRunningJob [.wake 0 none (some ⟨"w", "HELLO", ["1"]⟩) (some 0)]

/-- The slave has its `HELLO_OK` and its registry entry, while the job it ran is still
running and the loop goes on. -/
theorem hello_reset_acknowledged :
    afterHelloReset.sent = [.helloOk "w"] ∧ afterHelloReset.dispatchers "w" = some ⟨0, true⟩ ∧
      afterHelloReset.store.statusOf 1 = some .running ∧ afterHelloReset.phase = .serving := by
  decide

end LavaMaster
