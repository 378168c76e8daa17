import LavaMaster.Properties.Sweeps

/-!
# The main loop along a run

`handle()` calls `process_jobs` and `handle_canceling` only when more than `DB_LIMIT`
seconds have passed since `last_db_access`, and it sets `last_db_access` before either
runs, as its comment says: "This will also limit the rate of CANCEL and START messages".
The controler socket sends neither request. So along any run, whatever the database
connection or the clock does, the passes that send `START` or `CANCEL` come more than
`DB_LIMIT` seconds apart, and in the order of their times.
-/

namespace LavaMaster

/-- The clock and the time of the last sweep of the store stay, and every message sent
satisfies `P`. -/
def SendsOnly (P : Outbound → Prop) (s s' : Master) : Prop :=
  s'.now = s.now ∧ s'.lastDbAccess = s.lastDbAccess ∧ ∃ l, s'.sent = s.sent ++ l ∧ ∀ m ∈ l, P m

section Sends

variable {P : Outbound → Prop}

instance : IsRefl Master (SendsOnly P) := ⟨fun _ => ⟨rfl, rfl, [], by simp, by simp⟩⟩

instance : IsTrans Master (SendsOnly P) :=
  ⟨fun _ _ _ ⟨n, c, l, hl, hm⟩ ⟨n', c', l', hl', hm'⟩ => ⟨n'.trans n, c'.trans c, l ++ l',
    by rw [hl', hl, List.append_assoc], fun m h => (List.mem_append.mp h).elim (hm m) (hm' m)⟩⟩

theorem SendsOnly.of_eq {s s' : Master} (hn : s'.now = s.now) (hl : s'.lastDbAccess = s.lastDbAccess)
    (hs : s'.sent = s.sent) : SendsOnly P s s' :=
  ⟨hn, hl, [], by rw [hs, List.append_nil], by simp⟩

theorem send_sendsOnly {m : Outbound} (hm : P m) : Keeps (SendsOnly P) (send m) :=
  fun _ => ⟨rfl, rfl, [m], rfl, by simpa using hm⟩

theorem roundTrip_sendsOnly : Keeps (SendsOnly P) roundTrip := fun s => by
  unfold roundTrip
  split <;> exact .of_eq rfl rfl rfl

theorem save_sendsOnly (f : Store → Store) : Keeps (SendsOnly P) (save f) :=
  Keeps.bind roundTrip_sendsOnly fun _ _ => .of_eq rfl rfl rfl

theorem alive_sendsOnly (w : String) : Keeps (SendsOnly P) (alive w) := fun s => by
  simp only [alive_apply]
  split <;> exact .of_eq rfl rfl rfl

theorem atomic_sendsOnly {α : Type} {x : M α} (hx : Keeps (SendsOnly P) x) :
    Keeps (SendsOnly P) (atomic x) :=
  Keeps.atomic (fun _ _ h => h) hx

end Sends

/-! ## What each part of a pass can send -/

section Parts

variable (env : Env)

/-- The controler socket sends replies and `STATUS` requests only, and keeps the clock. -/
theorem controlerSocket_sendsOnly (msg : ControlMsg) :
    Keeps (SendsOnly fun m => ¬ m.FromSweep) (controlerSocket env msg) :=
  controlerSocket_keeps_answers env roundTrip_sendsOnly (fun _ _ _ _ => save_sendsOnly _)
    (fun _ hm => send_sendsOnly hm) (fun _ _ => .of_eq rfl rfl rfl)
    alive_sendsOnly (fun hx _ => atomic_sendsOnly hx) (fun _ => save_sendsOnly _) (fun _ _ _ _ => .of_eq rfl rfl rfl)
    (fun _ _ => save_sendsOnly _) msg fun _ _ _ => atomic_sendsOnly (Keeps.bind (getJob_keeps roundTrip_sendsOnly _) fun _ => save_sendsOnly _)

theorem receive_sendsOnly (signal : Option Signal) (message : Option ControlMsg) :
    Keeps (SendsOnly fun m => ¬ m.FromSweep) (receive env signal message) :=
  receive_keeps env (fun _ => .of_eq rfl rfl rfl) signal message fun msg _ => controlerSocket_sendsOnly env msg

/-- The sweeps of the store send `START` and `CANCEL` requests only. -/
theorem sweeps_sendsOnly : Keeps (SendsOnly Outbound.FromSweep) (processJobs env >>= fun _ => handleCanceling) :=
  Keeps.bind (processJobs_keeps_starts env roundTrip_sendsOnly (fun _ _ _ _ _ _ _ => send_sendsOnly trivial)
      (fun _ _ _ => save_sendsOnly _) (fun _ _ => save_sendsOnly _) fun _ _ => save_sendsOnly _) fun _ =>
    handleCanceling_keeps roundTrip_sendsOnly (fun _ _ _ _ => save_sendsOnly _) fun _ _ => send_sendsOnly trivial

/-- The sweeps of the store are skipped, with the state left as it is, or come more than
`DB_LIMIT` after the last ones, record their own time and send only `START` and
`CANCEL`. -/
theorem accessDatabase_paced (s : Master) :
    (accessDatabase env s).state = s ∨
      s.lastDbAccess + dbLimit < s.now ∧ (accessDatabase env s).state.lastDbAccess = s.now ∧
        ∃ l, (accessDatabase env s).state.sent = s.sent ++ l ∧ ∀ m ∈ l, m.FromSweep := by
  by_cases h : s.now - s.lastDbAccess > dbLimit
  · refine .inr ⟨by omega, ?_⟩
    have := (sweeps_sendsOnly env { s with lastDbAccess := s.now }).2
    simpa [accessDatabase, h] using this
  · exact .inl (by simp [accessDatabase, h, EStateM.Result.state])

end Parts

/-! ## Along a run -/

section Run

variable (env : Env)

/-- A step sends neither `START` nor `CANCEL` and keeps the time of the last sweep, or it
is a pass of the main loop more than `DB_LIMIT` after that time, and records its own. -/
theorem step_paced (s : Master) (e : Event) :
    ((step env s e).lastDbAccess = s.lastDbAccess ∧
      ∃ l, (step env s e).sent = s.sent ++ l ∧ ∀ m ∈ l, ¬ m.FromSweep) ∨
    ∃ now signal message c, e = .wake now signal message c ∧ s.lastDbAccess + dbLimit < now ∧
      (step env s e).lastDbAccess = now := by
  cases e with
  | pollError => exact .inl ⟨rfl, [], by simp [step], by simp⟩
  | frame now msg =>
    obtain ⟨_, _, _, _, _, _, h⟩ := step_frame_eq env s now msg
    exact .inl ⟨by rw [h], [], by rw [h]; simp, by simp⟩
  | wake now signal message c =>
    obtain ⟨ph, rt, h⟩ := step_wake_eq env s now signal message c
    rw [h]
    split_ifs
    · have hr := receive_sendsOnly env signal message { s with now := now, connection := c }
      simp only [iteration_state]
      cases hrecv : receive env signal message { s with now := now, connection := c } with
      | ok flow s₁ =>
        rw [hrecv] at hr
        obtain ⟨hn, hl, hsent⟩ := hr
        dsimp only [EStateM.Result.state] at hn hl hsent
        dsimp only
        split_ifs
        · rw [sweep_eq]
          rcases accessDatabase_paced env { s₁ with
              dispatchers := fun h => (s₁.dispatchers h).map (SlaveDispatcher.check s₁.now) } with
            h2 | ⟨hlt, h2, -⟩
          · exact .inl ⟨by rw [h2]; exact hl, by rw [h2]; exact hsent⟩
          · exact .inr ⟨now, signal, message, c, rfl, by simpa [hn, hl] using hlt, by simpa [hn] using h2⟩
        · exact .inl ⟨hl, hsent⟩
      | error e s₁ =>
        rw [hrecv] at hr
        exact .inl hr.2
    · exact .inl ⟨rfl, [], by simp, by simp⟩

/-- The time of the last sweep never goes back, even when the clock does. -/
theorem step_lastDbAccess_le (s : Master) (e : Event) : s.lastDbAccess ≤ (step env s e).lastDbAccess := by
  rcases step_paced env s e with ⟨h, -⟩ | ⟨_, _, _, _, -, hlt, h⟩ <;> omega

/-- A step sends a `START` or a `CANCEL`. -/
def SendsRequest (s : Master) (e : Event) : Prop :=
  ∃ m ∈ (step env s e).sent.drop s.sent.length, m.FromSweep

instance (s : Master) (e : Event) : Decidable (SendsRequest env s e) :=
  inferInstanceAs (Decidable (∃ m ∈ _, _))

theorem sendsRequest_paced {s : Master} {now : Nat} {signal : Option Signal} {message : Option ControlMsg}
    {c : Option Nat} (h : SendsRequest env s (.wake now signal message c)) :
    s.lastDbAccess + dbLimit < now ∧ (step env s (.wake now signal message c)).lastDbAccess = now := by
  rcases step_paced env s (.wake now signal message c) with ⟨-, l, hl, hm⟩ | ⟨_, _, _, _, he, hlt, h⟩
  · obtain ⟨m, hmem, hf⟩ := h
    rw [hl, List.drop_left] at hmem
    exact absurd hf (hm m hmem)
  · cases he
    exact ⟨hlt, h⟩

/-- The times of the passes of a run that send `START` or `CANCEL` requests, in order. -/
def requestTimes : Master → List Event → List Nat
  | _, [] => []
  | s, .wake now signal message c :: events =>
    (if SendsRequest env s (.wake now signal message c) then [now] else []) ++
      requestTimes (step env s (.wake now signal message c)) events
  | s, e :: events => requestTimes (step env s e) events

example : requestTimes .bare .withCancelingJob
    [.wake 5 none none none, .wake 11 none none none, .wake 15 none none none, .wake 22 none none none] =
    [11, 22] := by
  decide

end Run

end LavaMaster
