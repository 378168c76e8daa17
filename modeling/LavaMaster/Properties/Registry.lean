import LavaMaster.Properties.Handlers

/-!
# The registry of slaves along a run

On a healthy database connection the registry of a run is determined by the accepted
control messages the master handled: a slave is registered exactly when one of its
messages was accepted, with the time of its last accepted message, and the dispatcher
check bounds the silence of every online slave at the moment it runs.
-/

namespace LavaMaster

/-- A step during which the database answers every round trip. -/
def Event.Connected : Event → Prop
  | .wake _ _ _ c => c = none
  | _ => True

/-- A signal after which the loop carries on. -/
def Signal.Continues : Option Signal → Prop
  | none => True
  | some .sighup => True
  | some _ => False

instance : DecidablePred Signal.Continues := fun
  | none => isTrue trivial
  | some .sighup => isTrue trivial
  | some .sigint | some .sigterm | some .sigquit => isFalse id

/-- The registry after `controler_socket` on a healthy connection. -/
def received (reg : String → Option SlaveDispatcher) (now : Nat) :
    Option ControlMsg → String → Option SlaveDispatcher
  | some msg => if msg.Accepted then touch reg msg.hostname now else reg
  | none => reg

/-- The registry after the dispatcher check at `now`. -/
def checked (now : Nat) (reg : String → Option SlaveDispatcher) : String → Option SlaveDispatcher :=
  fun h => (reg h).map (SlaveDispatcher.check now)

section Steps

variable (env : Env) (s : Master)

theorem step_frame_dispatchers (now : Nat) (msg : List String) :
    (step env s (.frame now msg)).dispatchers = s.dispatchers := by
  obtain ⟨_, _, _, _, _, _, h⟩ := step_frame_eq env s now msg
  rw [h]

theorem commandSocket_of_connected (message : Option ControlMsg) (hc : s.connection = none) :
    ∃ flow s', commandSocket env message s = .ok flow s' ∧ flow ≠ .leave ∧
      s'.dispatchers = received s.dispatchers s.now message ∧ s'.now = s.now := by
  rcases message with _ | msg
  · exact ⟨_, _, rfl, by decide, rfl, rfl⟩
  · obtain ⟨b, s', h, hd, hn, -⟩ := controlerSocket_of_connected env s msg hc
    exact ⟨if b then .proceed else .skip, s', by simp [commandSocket, h], by cases b <;> decide, hd, hn⟩

theorem receive_of_connected (signal : Option Signal) (message : Option ControlMsg)
    (hc : s.connection = none) (hs : Signal.Continues signal) :
    ∃ flow s', receive env signal message s = .ok flow s' ∧ flow ≠ .leave ∧
      s'.dispatchers = received s.dispatchers s.now message ∧ s'.now = s.now := by
  have h := commandSocket_of_connected env { s with
    jobs := fun k => (s.jobs k).filter fun h => decide (s.now - h.lastUsage ≤ fdTimeout) } message hc
  rcases signal with _ | (_ | _ | _ | _) <;> simp only [Signal.Continues] at hs <;>
    simpa [receive, collectHandlers] using h

/-- On a healthy connection a pass of the main loop touches the sender of an accepted
message and then may run the dispatcher check. -/
theorem step_wake_dispatchers (now : Nat) (signal : Option Signal) (message : Option ControlMsg) :
    ∃ swept : Bool, (step env s (.wake now signal message none)).dispatchers =
      if s.phase = .serving ∧ Signal.Continues signal then
        (if swept then checked now else id) (received s.dispatchers now message)
      else s.dispatchers := by
  obtain ⟨ph, rt, h⟩ := step_wake_eq env s now signal message none
  rw [h]
  by_cases hp : s.phase = .serving
  · by_cases hs : Signal.Continues signal
    · obtain ⟨flow, s1, hr, -, hd, hn⟩ :=
        receive_of_connected env { s with now := now, connection := none } signal message rfl hs
      simp only [if_pos hp, iteration_state, hr, if_pos (And.intro hp hs)]
      by_cases hf : flow = .proceed
      · obtain ⟨st, se, co, l, h2⟩ := accessDatabase_storeFrame env { s1 with
          dispatchers := fun h => (s1.dispatchers h).map (SlaveDispatcher.check s1.now) }
        refine ⟨true, ?_⟩
        simp only [hf, if_true, sweep_eq, EStateM.Result.state] at h2 ⊢
        rw [h2]
        simp only [hd, hn]
        rfl
      · exact ⟨false, by simp [hf, hd]⟩
    · refine ⟨false, ?_⟩
      simp only [if_pos hp, iteration_state]
      rcases signal with _ | (_ | _ | _ | _) <;> simp only [Signal.Continues, not_true] at hs <;>
        simp [receive, Signal.Continues]
  · exact ⟨false, by simp [hp]⟩

end Steps

/-! ## Last messages along a run -/

/-- The time of the last message of `w` in a history of (time, sender) pairs, or
`start` when the history has none. -/
def lastFrom (w : String) (start : Option Nat) (hist : List (Nat × String)) : Option Nat :=
  hist.foldl (fun acc p => if p.2 = w then some p.1 else acc) start

theorem lastFrom_append (w : String) (start : Option Nat) (h₁ h₂ : List (Nat × String)) :
    lastFrom w start (h₁ ++ h₂) = lastFrom w (lastFrom w start h₁) h₂ := by
  simp [lastFrom, List.foldl_append]

theorem lastFrom_isSome (w : String) (start : Option Nat) (hist : List (Nat × String)) :
    (lastFrom w start hist).isSome ↔ start.isSome ∨ ∃ t, (t, w) ∈ hist := by
  induction hist generalizing start with
  | nil => simp [lastFrom]
  | cons p hist ih =>
    obtain ⟨t, v⟩ := p
    simp only [lastFrom, List.foldl_cons] at ih ⊢
    rw [ih]
    by_cases hp : v = w
    · subst hp
      simp
    · simp [hp, Ne.symm hp]

section Run

variable (env : Env)

/-- The accepted control message a step handles, with the time it is handled at. -/
def handled (s : Master) : Event → List (Nat × String)
  | .wake now signal (some msg) _ =>
    if s.phase = .serving ∧ Signal.Continues signal ∧ msg.Accepted then [(now, msg.hostname)] else []
  | _ => []

/-- The accepted control messages a run handles, in order. -/
def history : Master → List Event → List (Nat × String)
  | _, [] => []
  | s, e :: events => handled s e ++ history (step env s e) events

theorem lastMsg_checked (now : Nat) (reg : String → Option SlaveDispatcher) (w : String) :
    (checked now reg w).map (·.lastMsg) = (reg w).map (·.lastMsg) := by
  cases h : reg w with
  | none => simp [checked, h]
  | some d => by_cases hd : d.online ∧ now - d.lastMsg > dispatcherTimeout <;>
      simp [checked, h, SlaveDispatcher.check, hd]

theorem lastMsg_received (reg : String → Option SlaveDispatcher) (now : Nat) (m : Option ControlMsg)
    (w : String) : (received reg now m w).map (·.lastMsg) = lastFrom w ((reg w).map (·.lastMsg))
      (match m with
       | some msg => if msg.Accepted then [(now, msg.hostname)] else []
       | none => []) := by
  rcases m with _ | msg
  · simp [received, lastFrom]
  · by_cases ha : msg.Accepted
    · by_cases hw : w = msg.hostname
      · subst hw; simp [received, ha, lastFrom, touch, Function.update_same, SlaveDispatcher.alive,
          SlaveDispatcher.init]; cases reg msg.hostname <;> rfl
      · simp [received, ha, lastFrom, touch, Function.update_noteq hw, Ne.symm hw]
    · simp [received, ha, lastFrom]

theorem step_lastMsg (s : Master) (e : Event) (he : e.Connected) (w : String) :
    ((step env s e).dispatchers w).map (·.lastMsg) =
      lastFrom w ((s.dispatchers w).map (·.lastMsg)) (handled s e) := by
  cases e with
  | pollError => simp [step, handled, lastFrom]
  | frame now msg => simp [step_frame_dispatchers, handled, lastFrom]
  | wake now signal message c =>
    simp only [Event.Connected] at he
    subst he
    obtain ⟨swept, h⟩ := step_wake_dispatchers env s now signal message
    rw [h]
    by_cases hs : s.phase = .serving ∧ Signal.Continues signal
    · rw [if_pos hs]
      have : ((if swept then checked now else id) (received s.dispatchers now message) w).map
          (·.lastMsg) = (received s.dispatchers now message w).map (·.lastMsg) := by
        cases swept
        · rfl
        · exact lastMsg_checked _ _ _
      rw [this, lastMsg_received]
      rcases message with _ | msg <;> simp [handled, hs]
    · rw [if_neg hs]
      rcases message with _ | msg
      · simp [handled, lastFrom]
      · simp only [handled]
        rw [if_neg (fun h => hs ⟨h.1, h.2.1⟩)]
        simp [lastFrom]

theorem run_lastMsg (s : Master) (events : List Event) (he : ∀ e ∈ events, e.Connected)
    (w : String) : ((run env s events).dispatchers w).map (·.lastMsg) =
      lastFrom w ((s.dispatchers w).map (·.lastMsg)) (history env s events) := by
  induction events generalizing s with
  | nil => simp [history, lastFrom]
  | cons e events ih =>
    rw [run_cons, ih _ fun e' h' => he e' (.tail _ h'), step_lastMsg env s e (he e (.head _)),
      history, lastFrom_append]

/-- Right after the dispatcher check of a pass at `now`, no online slave has been silent
for more than `DISPATCHER_TIMEOUT`; the sweeps of the store after it leave the registry. -/
theorem step_checked_online (s s' : Master) (now : Nat) (signal : Option Signal)
    (message : Option ControlMsg) (hs : s.phase = .serving)
    (hr : receive env signal message { s with now := now, connection := none } = .ok .proceed s')
    (w : String) (d : SlaveDispatcher) (hd : (step env s (.wake now signal message none)).dispatchers w = some d)
    (ho : d.online) : now - d.lastMsg ≤ dispatcherTimeout := by
  have hn : s'.now = now := by
    by_cases hsig : Signal.Continues signal
    · obtain ⟨_, _, h, -, -, hn⟩ :=
        receive_of_connected env { s with now := now, connection := none } signal message rfl hsig
      rw [hr] at h
      cases h
      exact hn
    · rcases signal with _ | (_ | _ | _ | _) <;> simp [Signal.Continues] at hsig <;> simp [receive] at hr
  obtain ⟨ph, rt, h⟩ := step_wake_eq env s now signal message none
  obtain ⟨st, se, co, l, h2⟩ := accessDatabase_storeFrame env { s' with
    dispatchers := fun h => (s'.dispatchers h).map (SlaveDispatcher.check s'.now) }
  rw [hn] at h2
  simp only [h, if_pos hs, iteration_state, hr, if_true, sweep_eq, hn, h2,
    Option.map_eq_some'] at hd
  obtain ⟨d₀, -, rfl⟩ := hd
  unfold SlaveDispatcher.check at ho ⊢
  split_ifs at ho ⊢ with hc
  exact Nat.le_of_not_gt fun h => hc ⟨ho, h⟩

theorem run_dispatchers_isSome (s : Master) (events : List Event) (he : ∀ e ∈ events, e.Connected)
    (w : String) : ((run env s events).dispatchers w).isSome ↔
      (s.dispatchers w).isSome ∨ ∃ t, (t, w) ∈ history env s events := by
  rw [← Option.isSome_map' (f := fun d => d.lastMsg), run_lastMsg env s events he, lastFrom_isSome,
    Option.isSome_map']

/-- From a start with an empty registry, on a healthy connection: the registry holds
exactly the senders of the accepted messages the loop handled, with the time of the last
one of each; a run that goes on removes no entry; and right after a dispatcher check no
online slave has been silent for more than `DISPATCHER_TIMEOUT`. -/
theorem run_registry (s₀ : Master) (h₀ : ∀ w, s₀.dispatchers w = none) (events : List Event)
    (he : ∀ e ∈ events, e.Connected) :
    (∀ w, ((run env s₀ events).dispatchers w).isSome ↔ ∃ t, (t, w) ∈ history env s₀ events) ∧
    (∀ w, ((run env s₀ events).dispatchers w).map (·.lastMsg) = lastFrom w none (history env s₀ events)) ∧
    (∀ events', (∀ e ∈ events', e.Connected) → ∀ w, ((run env s₀ events).dispatchers w).isSome →
      ((run env s₀ (events ++ events')).dispatchers w).isSome) ∧
    (∀ now signal message s', (run env s₀ events).phase = .serving →
      receive env signal message { run env s₀ events with now := now, connection := none } = .ok .proceed s' →
      ∀ w d, (run env s₀ (events ++ [.wake now signal message none])).dispatchers w = some d → d.online →
        now - d.lastMsg ≤ dispatcherTimeout) := by
  refine ⟨fun w => ?_, fun w => by rw [run_lastMsg env _ events he, h₀]; rfl, fun events' he' w hw => ?_,
    fun now signal message s' hs hr w d hd => step_checked_online env _ s' now signal message hs hr w d
      (by simpa [run_append] using hd)⟩
  · rw [run_dispatchers_isSome env _ events he, h₀]
    simp
  · rw [run_append]
    exact (run_dispatchers_isSome env _ events' he' w).2 (.inl hw)

theorem run_registry_hello :
    (∀ w, (Master.initial ⟨[], List.nodup_nil, []⟩ fun _ => none).dispatchers w = none) ∧
    (∀ e ∈ [Event.wake 0 none (some ⟨"w", "HELLO", ["1"]⟩) none], e.Connected) ∧
    ((run .bare (Master.initial ⟨[], List.nodup_nil, []⟩ fun _ => none)
      [.wake 0 none (some ⟨"w", "HELLO", ["1"]⟩) none]).dispatchers "w").isSome := by
  have h₀ : ∀ w, (Master.initial ⟨[], List.nodup_nil, []⟩ fun _ => none).dispatchers w = none := fun _ => rfl
  have he : ∀ e ∈ [Event.wake 0 none (some ⟨"w", "HELLO", ["1"]⟩) none], e.Connected := by
    simp [Event.Connected]
  exact ⟨h₀, he, ((run_registry .bare _ h₀ _ he).1 "w").2 ⟨0, by decide⟩⟩

/-! ## A slave the check took offline -/

/-- `w` is registered and offline. -/
def Offline (reg : String → Option SlaveDispatcher) (w : String) : Prop :=
  (reg w).map (·.online) = some false

theorem offline_received (reg : String → Option SlaveDispatcher) (now : Nat) (m : Option ControlMsg)
    (w : String) (h : Offline reg w) : Offline (received reg now m) w := by
  rcases m with _ | msg
  · exact h
  · simp only [received]
    split_ifs
    · by_cases hw : w = msg.hostname
      · subst hw
        obtain ⟨d, hd, -⟩ := Option.map_eq_some'.mp h
        simpa [Offline, touch, hd, SlaveDispatcher.alive] using h
      · simpa [Offline, touch, Function.update_noteq hw] using h
    · exact h

theorem offline_checked (now : Nat) (reg : String → Option SlaveDispatcher) (w : String)
    (h : Offline reg w) : Offline (checked now reg) w := by
  obtain ⟨d, hd, ho⟩ := Option.map_eq_some'.mp h
  simp [Offline, checked, hd, SlaveDispatcher.check, ho]

end Run

/-- A slave swept offline at 31 answers a `PING` at 32: the registry refreshes its last
message and leaves it offline. -/
theorem ping_after_sweep_stays_offline :
    (run .bare (Master.initial ⟨[], List.nodup_nil, []⟩ fun _ => none)
      [.wake 0 none (some ⟨"w", "HELLO", ["1"]⟩) none, .wake 31 none none none,
       .wake 32 none (some ⟨"w", "PING", []⟩) none]).dispatchers "w" = some ⟨32, false⟩ := by
  decide

end LavaMaster
