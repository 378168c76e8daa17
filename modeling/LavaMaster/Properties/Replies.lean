import Mathlib.Data.List.Forall2
import LavaMaster.Properties.Failure
import LavaMaster.Properties.Loop
import LavaMaster.Properties.Registry

/-!
# What the master answers

`controler_socket` checks the frames of a message before it does anything: a message it
turns away returns at its guard, with nothing sent, registered or stored, whatever the
database connection does. An `END` with an integer job id and exit code is always
acknowledged by one `END_OK`, whether the job exists or not, and the reply comes after
the `try` block that holds the status transaction: a block that raises leaves the
handler with nothing sent.
-/

namespace LavaMaster

/-- The messages `controler_socket` turns away: a `HELLO` or `HELLO_RETRY` whose version
frame is missing, not an integer or not `PROTOCOL_VERSION`; an `END` short of six frames
or whose job id or exit code is not an integer; a `START_OK` without an integer job id;
and an action other than the five it knows. -/
def ControlMsg.Rejected (msg : ControlMsg) : Prop :=
  ((msg.action = "HELLO" ∨ msg.action = "HELLO_RETRY") ∧ msg.intArg 0 ≠ some protocolVersion) ∨
  (msg.action = "END" ∧ (msg.args.length < 4 ∨ msg.intArg 0 = none ∨ msg.intArg 1 = none)) ∨
  (msg.action = "START_OK" ∧ msg.intArg 0 = none) ∨
  msg.action ∉ ["HELLO", "HELLO_RETRY", "PING", "END", "START_OK"]

instance (msg : ControlMsg) : Decidable msg.Rejected :=
  inferInstanceAs (Decidable (_ ∨ _))

/-- Every message is accepted or turned away, never both. -/
theorem rejected_iff_not_accepted (msg : ControlMsg) : msg.Rejected ↔ ¬ msg.Accepted := by
  obtain ⟨w, a, args⟩ := msg
  by_cases ha : a ∈ ["HELLO", "HELLO_RETRY", "PING", "END", "START_OK"]
  · simp only [List.mem_cons, List.mem_singleton, List.not_mem_nil, or_false] at ha
    rcases ha with rfl | rfl | rfl | rfl | rfl <;>
      simp [ControlMsg.Rejected, ControlMsg.Accepted, Option.isSome_iff_ne_none]
    -- `END`: what is left is propositional
    tauto
  · have hr : ControlMsg.Rejected ⟨w, a, args⟩ := .inr (.inr (.inr ha))
    simp only [List.mem_cons, List.mem_singleton, List.not_mem_nil, or_false, not_or] at ha
    simp [hr, ControlMsg.Accepted, ha]

section Rejected

variable (env : Env) (s : Master) (msg : ControlMsg)

theorem onHello_rejected (h : msg.intArg 0 ≠ some protocolVersion) : onHello msg s = .ok false s := by
  unfold onHello
  cases hv : msg.intArg 0 with
  | none => rfl
  | some v =>
    have hne : v ≠ protocolVersion := fun e => h (by rw [hv, e])
    simp [hne]

theorem onEnd_rejected (h : msg.args.length < 4 ∨ msg.intArg 0 = none ∨ msg.intArg 1 = none) :
    onEnd env msg s = .ok false s := by
  unfold onEnd
  rcases h with h | h | h
  · have h3 : msg.args[3]? = none := List.getElem?_eq_none_iff.mpr (by omega)
    rcases msg.intArg 0 <;> rcases msg.intArg 1 <;> rcases msg.args.get? 2 <;> simp [h3]
  · simp [h]
  · rcases msg.intArg 0 <;> simp [h]

theorem onStartOk_rejected (h : msg.intArg 0 = none) : onStartOk msg s = .ok false s := by
  simp [onStartOk, h]

/-- A message `controler_socket` turns away leaves the whole state as it was: no reply,
no registry entry and no store write, on a healthy or a reset connection alike. -/
theorem controlerSocket_rejected (h : msg.Rejected) : ∃ b, controlerSocket env msg s = .ok b s := by
  unfold controlerSocket
  rcases h with ⟨hh, hv⟩ | ⟨he, hv⟩ | ⟨hs, hv⟩ | hu
  · exact ⟨false, by rw [if_pos hh, onHello_rejected _ _ hv]⟩
  · exact ⟨false, by simp [he, onEnd_rejected env s msg hv]⟩
  · exact ⟨false, by simp [hs, onStartOk_rejected s msg hv]⟩
  · simp only [List.mem_cons, List.mem_singleton, List.not_mem_nil, or_false, not_or] at hu
    exact ⟨true, by simp [hu]⟩

end Rejected

theorem controlerSocket_rejected_hello :
    ControlMsg.Rejected ⟨"w", "HELLO", ["2"]⟩ ∧
      ∃ b, controlerSocket .bare ⟨"w", "HELLO", ["2"]⟩ .withRunningJob = .ok b .withRunningJob :=
  ⟨by decide, controlerSocket_rejected .bare _ _ (by decide)⟩

/-! ## The reply to `END` -/

/-- `dispatcher_alive` asks a slave nothing but `STATUS`. -/
theorem mem_resync {reg : String → Option SlaveDispatcher} {st : Store} {hostname : String}
    {m : Outbound} (h : m ∈ resync reg st hostname) : ∃ k, m = .status hostname k := by
  unfold resync at h
  split_ifs at h
  · obtain ⟨j, -, rfl⟩ := List.mem_map.mp h
    exact ⟨j.id, rfl⟩
  · cases h

section End

variable (env : Env) (w jText cText errorMsg description : String) (more : List String)
  (jobId code : Int)

/-- On a healthy connection an `END` whose job id and exit code are integers is answered
by exactly one `END_OK`, with the job id, followed only by the `STATUS` requests of
`dispatcher_alive`. The store is as it was for an unknown job. For a known one the store
commits `parse_job_description`, then `cancel_job` exactly when the job was `CANCELING`,
then one `fail_job`, `COMPLETE` for exit code 0 and `INCOMPLETE` otherwise. On any
connection a `try` block that raises ends the handler with nothing sent, so the reply
never comes before the status transaction. -/
theorem controlerSocket_end (hj : pyInt jText = some jobId) (hcode : pyInt cText = some code) :
    (∀ s : Master, s.connection = none →
      ∃ s', controlerSocket env ⟨w, "END", jText :: cText :: errorMsg :: description :: more⟩ s =
          .ok true s' ∧
        (∃ statuses, s'.sent = s.sent ++ .endOk w jobId :: statuses ∧ ∀ m ∈ statuses, ∃ k, m = .status w k) ∧
        s'.store = (match s.store.find? jobId with
          | none => s.store
          | some job => endStore env s.store job errorMsg description (if code = 0 then .complete else .incomplete)) ∧
        s'.store.calls = s.store.calls ++ match s.store.find? jobId with
          | none => []
          | some job => .parseJobDescription job.id (some ((env.decompress description).getD "")) ::
              ((if job.status = .canceling then [.cancelJob job.id] else []) ++
                [.failJob job.id errorMsg (if code = 0 then .complete else .incomplete)])) ∧
    (∀ (s s₁ : Master) (e : PyError), exceptDoesNotExist (endJob env jobId errorMsg description
        (if code = 0 then .complete else .incomplete)) s = .error e s₁ →
      controlerSocket env ⟨w, "END", jText :: cText :: errorMsg :: description :: more⟩ s = .error e s₁ ∧
        s₁.sent = s.sent) := by
  have hstatus : (if code ≠ 0 then Status.incomplete else .complete) =
      if code = 0 then .complete else .incomplete := ite_not _ _ _
  have hsock : ∀ s, controlerSocket env ⟨w, "END", jText :: cText :: errorMsg :: description :: more⟩ s =
      onEnd env ⟨w, "END", jText :: cText :: errorMsg :: description :: more⟩ s := fun s => by
    simp [controlerSocket]
  refine ⟨fun s hc => ?_, fun s s₁ e h => ?_⟩
  · rw [hsock, onEnd_of_connected env s _ hc]
    simp only [ControlMsg.intArg, List.get?, Option.bind, hj, hcode, hstatus]
    refine ⟨_, rfl, ⟨_, rfl, fun m hm => mem_resync hm⟩, rfl, ?_⟩
    dsimp only [endEffect]
    cases s.store.find? jobId with
    | none => exact (List.append_nil _).symm
    | some job => exact endStore_calls env s.store job errorMsg description _
  · have hq := Keeps.of_error (exceptDoesNotExist_keeps (endJob_quiet env jobId errorMsg description _
      (by split <;> rfl))) h
    refine ⟨?_, hq.2.1⟩
    rw [hsock]
    simp only [onEnd, ControlMsg.intArg, List.get?, Option.bind, hj, hcode, hstatus, bind_apply, h]

end End

theorem controlerSocket_end_unknown :
    pyInt "7" = some 7 ∧ pyInt "1" = some 1 ∧
      ∃ s', controlerSocket .bare ⟨"w", "END", ["7", "1", "", ""]⟩ .withRunningJob = .ok true s' ∧
        (∃ statuses, s'.sent = Master.withRunningJob.sent ++ .endOk "w" 7 :: statuses ∧
          ∀ m ∈ statuses, ∃ k, m = .status "w" k) ∧
        s'.store = (match Master.withRunningJob.store.find? 7 with
          | none => Master.withRunningJob.store
          | some job => endStore .bare Master.withRunningJob.store job "" ""
              (if (1 : Int) = 0 then .complete else .incomplete)) ∧
        s'.store.calls = Master.withRunningJob.store.calls ++ match Master.withRunningJob.store.find? 7 with
          | none => []
          | some job => .parseJobDescription job.id (some ((Env.bare.decompress "").getD "")) ::
              ((if job.status = .canceling then [.cancelJob job.id] else []) ++
                [.failJob job.id "" (if (1 : Int) = 0 then .complete else .incomplete)]) :=
  ⟨by decide, by decide,
    (controlerSocket_end .bare "w" "7" "1" "" "" [] 7 1 (by decide) (by decide)).1 _ rfl⟩

/-! ## Every accepted message has its reply -/

/-- `HELLO_OK`, `PONG` and `END_OK`, the replies of the controler socket. -/
def Outbound.isReply : Outbound → Bool
  | .helloOk _ | .pong _ | .endOk .. => true
  | _ => false

/-- The reply `controler_socket` sends a message it accepts; `START_OK` has none. -/
def ControlMsg.reply (msg : ControlMsg) : List Outbound :=
  if msg.action = "HELLO" ∨ msg.action = "HELLO_RETRY" then [.helloOk msg.hostname]
  else if msg.action = "PING" then [.pong msg.hostname]
  else if msg.action = "END" then (msg.intArg 0).toList.map (.endOk msg.hostname)
  else []

theorem filter_isReply_of_fromSweep {l : List Outbound} (h : ∀ m ∈ l, m.FromSweep) :
    l.filter Outbound.isReply = [] :=
  List.filter_eq_nil_iff.mpr fun m hm => by
    cases m <;> first | exact Bool.false_ne_true | exact False.elim (h _ hm)

theorem SendsOnly.filter_isReply {s s' : Master} (h : SendsOnly (fun m => m.isReply = false) s s') :
    s'.sent.filter Outbound.isReply = s.sent.filter Outbound.isReply := by
  obtain ⟨-, -, l, hl, hm⟩ := h
  have hnil : l.filter Outbound.isReply = [] := List.filter_eq_nil_iff.mpr fun m h => by simp [hm m h]
  rw [hl, List.filter_append, hnil, List.append_nil]

section AnyConnection

variable (env : Env)

theorem dispatcherAlive_unreplied (w : String) :
    Keeps (SendsOnly fun m => m.isReply = false) (dispatcherAlive w) :=
  dispatcherAlive_keeps roundTrip_sendsOnly (fun _ _ => send_sendsOnly (P := fun m => m.isReply = false) rfl)
    (fun _ _ => .of_eq rfl rfl rfl) alive_sendsOnly w

theorem send_bind_replies {α : Type} {m : Outbound} {y : Unit → M α}
    (hy : ∀ u, Keeps (SendsOnly fun m => m.isReply = false) (y u)) (s : Master) :
    ((send m >>= y) s).state.sent.filter Outbound.isReply =
      s.sent.filter Outbound.isReply ++ [m].filter Outbound.isReply := by
  rw [bind_of_ok _ (send_apply _ _), (hy () _).filter_isReply, List.filter_append]

theorem onHello_replies (msg : ControlMsg) (s : Master) :
    (onHello msg s).state.sent.filter Outbound.isReply = s.sent.filter Outbound.isReply ++
      if msg.intArg 0 = some protocolVersion then [.helloOk msg.hostname] else [] := by
  unfold onHello
  cases hv : msg.intArg 0 with
  | none => simp [EStateM.Result.state]
  | some v =>
    by_cases hp : v = protocolVersion
    · subst hp
      simp only [ne_eq, not_true_eq_false, if_false, if_true]
      rw [bind_of_ok _ (pure_apply _ _), send_bind_replies (fun _ => onHello_register_keeps roundTrip_sendsOnly
        (fun _ _ => .of_eq rfl rfl rfl) alive_sendsOnly (fun hx _ => atomic_sendsOnly hx) (fun _ => save_sendsOnly _) msg)]
      rfl
    · simp [hp, EStateM.Result.state]

theorem onPing_replies (msg : ControlMsg) (s : Master) :
    (onPing msg s).state.sent.filter Outbound.isReply = s.sent.filter Outbound.isReply ++ [.pong msg.hostname] :=
  send_bind_replies (fun _ => Keeps.bind (dispatcherAlive_unreplied _) fun _ => Keeps.pure _) s

theorem onStartOk_unreplied (msg : ControlMsg) : Keeps (SendsOnly fun m => m.isReply = false) (onStartOk msg) :=
  onStartOk_keeps roundTrip_sendsOnly (fun _ _ => send_sendsOnly (P := fun m => m.isReply = false) rfl)
    (fun _ _ => .of_eq rfl rfl rfl) alive_sendsOnly msg fun _ _ =>
      atomic_sendsOnly (Keeps.bind (getJob_keeps roundTrip_sendsOnly _) fun _ => save_sendsOnly _)

/-- An accepted `END` is answered unless its `try` block raises. -/
theorem onEnd_replies (msg : ControlMsg) (s : Master) (jobId code : Int) (errorMsg description : String)
    (h0 : msg.intArg 0 = some jobId) (h1 : msg.intArg 1 = some code) (h2 : msg.args.get? 2 = some errorMsg)
    (h3 : msg.args.get? 3 = some description) :
    (onEnd env msg s).state.sent.filter Outbound.isReply =
        s.sent.filter Outbound.isReply ++ [.endOk msg.hostname jobId] ∨
      (onEnd env msg s).state.sent.filter Outbound.isReply = s.sent.filter Outbound.isReply ∧
        ∃ e s', onEnd env msg s = .error e s' := by
  have hx := exceptDoesNotExist_keeps (endJob_keeps env (roundTrip_sendsOnly (P := fun m => m.isReply = false))
    (fun _ _ _ _ => save_sendsOnly _) (fun hx _ => atomic_sendsOnly hx) (fun _ => save_sendsOnly _)
    (fun _ _ _ => .of_eq rfl rfl rfl) (fun _ _ => save_sendsOnly _)
    jobId errorMsg description (if code ≠ 0 then .incomplete else .complete) (by split <;> rfl))
  unfold onEnd
  simp only [h0, h1, h2, h3]
  cases hr : exceptDoesNotExist (endJob env jobId errorMsg description
      (if code ≠ 0 then .incomplete else .complete)) s with
  | ok u s₁ =>
    left
    rw [bind_of_ok _ hr, send_bind_replies (fun _ => Keeps.bind (dispatcherAlive_unreplied _) fun _ => Keeps.pure _),
      (Keeps.of_ok hx hr).filter_isReply]
    rfl
  | error e s₁ =>
    right
    rw [bind_apply, hr]
    exact ⟨(Keeps.of_error hx hr).filter_isReply, e, s₁, rfl⟩

/-- On any connection `controler_socket` sends at most the reply a message is owed. An
accepted `HELLO`, `HELLO_RETRY` or `PING` always has its reply, which goes out before any
round trip; an accepted `END` loses its `END_OK` only when the handler raises. -/
theorem controlerSocket_replies (msg : ControlMsg) (s : Master) :
    ∃ r, (controlerSocket env msg s).state.sent.filter Outbound.isReply = s.sent.filter Outbound.isReply ++ r ∧
      (r = (if msg.Accepted then msg.reply else []) ∨
        msg.action = "END" ∧ r = [] ∧ ∃ e s', controlerSocket env msg s = .error e s') := by
  unfold controlerSocket
  by_cases hh : msg.action = "HELLO" ∨ msg.action = "HELLO_RETRY"
  · have hacc : msg.Accepted ↔ msg.intArg 0 = some protocolVersion := by
      rcases hh with hh | hh <;> simp [ControlMsg.Accepted, hh]
    rw [if_pos hh]
    refine ⟨_, onHello_replies msg s, .inl ?_⟩
    by_cases hv : msg.intArg 0 = some protocolVersion <;> simp [hv, hacc, ControlMsg.reply, hh]
  rw [if_neg hh]
  by_cases hp : msg.action = "PING"
  · have hacc : msg.Accepted := by simp [ControlMsg.Accepted, hp]
    rw [if_pos hp]
    exact ⟨_, onPing_replies msg s, .inl (by simp [hacc, ControlMsg.reply, hh, hp])⟩
  rw [if_neg hp]
  by_cases he : msg.action = "END"
  · rw [if_pos he]
    by_cases ha : msg.Accepted
    · obtain ⟨⟨jobId, h0⟩, ⟨code, h1⟩, h4⟩ :
          (∃ j, msg.intArg 0 = some j) ∧ (∃ c, msg.intArg 1 = some c) ∧ 4 ≤ msg.args.length := by
        simpa [ControlMsg.Accepted, he, Option.isSome_iff_exists] using ha
      obtain ⟨errorMsg, h2⟩ : ∃ e, msg.args.get? 2 = some e := ⟨_, List.get?_eq_get (by omega)⟩
      obtain ⟨description, h3⟩ : ∃ d, msg.args.get? 3 = some d := ⟨_, List.get?_eq_get (by omega)⟩
      rcases onEnd_replies env msg s jobId code errorMsg description h0 h1 h2 h3 with h | ⟨h, herr⟩
      · exact ⟨_, h, .inl (by simp [ha, ControlMsg.reply, hh, hp, he, h0])⟩
      · exact ⟨[], by rw [h, List.append_nil], .inr ⟨he, rfl, herr⟩⟩
    · have hv : msg.args.length < 4 ∨ msg.intArg 0 = none ∨ msg.intArg 1 = none := by
        by_contra hc
        simp only [not_or, not_lt] at hc
        exact ha (.inr (.inr (.inl ⟨he, Option.isSome_iff_ne_none.mpr hc.2.1,
          Option.isSome_iff_ne_none.mpr hc.2.2, hc.1⟩)))
      rw [onEnd_rejected env s msg hv]
      exact ⟨[], by simp [EStateM.Result.state], .inl (by simp [ha])⟩
  rw [if_neg he]
  have hreply : (if msg.Accepted then msg.reply else []) = [] := by simp [ControlMsg.reply, hh, hp, he]
  rw [hreply]
  split
  · exact ⟨[], ((onStartOk_unreplied msg) s).filter_isReply.trans (List.append_nil _).symm, .inl rfl⟩
  · exact ⟨[], by simp [EStateM.Result.state], .inl rfl⟩

end AnyConnection

/-! ## Replies along a run -/

section Run

variable (env : Env)

/-- The sweeps send no reply, on any connection. -/
theorem sweep_replies (s : Master) :
    (sweep env s).state.sent.filter Outbound.isReply = s.sent.filter Outbound.isReply := by
  rw [sweep_eq]
  rcases accessDatabase_paced env { s with
      dispatchers := fun h => (s.dispatchers h).map (SlaveDispatcher.check s.now) } with h | ⟨-, -, l, h, hl⟩
  · rw [h]
  · rw [h, List.filter_append, filter_isReply_of_fromSweep hl, List.append_nil]

/-- The replies of a pass are those of its controler message. -/
theorem step_wake_replies (s : Master) (now : Nat) (signal : Option Signal) (message : Option ControlMsg)
    (c : Option Nat) (hp : s.phase = .serving) :
    (step env s (.wake now signal message c)).sent.filter Outbound.isReply =
      (receive env signal message { s with now := now, connection := c }).state.sent.filter Outbound.isReply := by
  obtain ⟨ph, rt, h⟩ := step_wake_eq env s now signal message c
  rw [h, if_pos hp]
  dsimp only
  rw [iteration_state]
  cases receive env signal message { s with now := now, connection := c } with
  | ok flow s₁ =>
    dsimp only
    split_ifs
    · exact sweep_replies env s₁
    · rfl
  | error e s₁ => rfl

/-- The reply a pass owes for its message. -/
def replyTo : Option ControlMsg → List Outbound
  | some msg => if msg.Accepted then msg.reply else []
  | none => []

/-- `receive` hands its message to `controler_socket` after collecting `self.jobs`. -/
theorem receive_replies_eq (s : Master) (signal : Option Signal) (message : Option ControlMsg)
    (hs : Signal.Continues signal) :
    (receive env signal message s).state.sent.filter Outbound.isReply = match message with
      | some msg => (controlerSocket env msg { s with
          jobs := fun k => (s.jobs k).filter fun h => decide (s.now - h.lastUsage ≤ fdTimeout) }).state.sent.filter
            Outbound.isReply
      | none => s.sent.filter Outbound.isReply := by
  rcases signal with _ | (_ | _ | _ | _) <;> simp only [Signal.Continues] at hs <;>
    rcases message with _ | msg <;> simp only [receive, collectHandlers, commandSocket, bind_apply, modify_apply] <;>
    first | rfl | (cases controlerSocket env msg _ <;> rfl)

/-- On a healthy connection `controler_socket` returns, so it sends the whole reply. -/
theorem receive_replies_of_connected (s : Master) (signal : Option Signal) (message : Option ControlMsg)
    (hc : s.connection = none) (hs : Signal.Continues signal) :
    (receive env signal message s).state.sent.filter Outbound.isReply =
      s.sent.filter Outbound.isReply ++ replyTo message := by
  rw [receive_replies_eq env s signal message hs]
  rcases message with _ | msg
  · simp [replyTo]
  · obtain ⟨r, h, hr⟩ := controlerSocket_replies env msg { s with
      jobs := fun k => (s.jobs k).filter fun h => decide (s.now - h.lastUsage ≤ fdTimeout) }
    obtain ⟨_, _, hok, -⟩ := controlerSocket_of_connected env { s with
      jobs := fun k => (s.jobs k).filter fun h => decide (s.now - h.lastUsage ≤ fdTimeout) } msg hc
    rcases hr with rfl | ⟨-, -, _, _, herr⟩
    · exact h
    · rw [hok] at herr
      cases herr

/-- The accepted control message a step handles. -/
def handledMessage (s : Master) : Event → List ControlMsg
  | .wake _ signal (some msg) _ =>
    if s.phase = .serving ∧ Signal.Continues signal ∧ msg.Accepted then [msg] else []
  | _ => []

/-- The accepted control messages a run handles, in order. -/
def handledMessages : Master → List Event → List ControlMsg
  | _, [] => []
  | s, e :: events => handledMessage s e ++ handledMessages (step env s e) events

theorem handledMessage_wake (s : Master) (now : Nat) (signal : Option Signal) (message : Option ControlMsg)
    (c : Option Nat) : (handledMessage s (.wake now signal message c)).flatMap ControlMsg.reply =
      if s.phase = .serving ∧ Signal.Continues signal then replyTo message else [] := by
  rcases message with _ | msg
  · simp [handledMessage, replyTo]
  · by_cases h : s.phase = .serving ∧ Signal.Continues signal
    · by_cases ha : msg.Accepted <;> simp [handledMessage, replyTo, h.1, h.2, ha]
    · have h' : ¬ (s.phase = .serving ∧ Signal.Continues signal ∧ msg.Accepted) := fun h' => h ⟨h'.1, h'.2.1⟩
      simp [handledMessage, if_neg h', if_neg h]

/-- A pass that does not go on to its message sends no reply. -/
theorem step_wake_quiet (s : Master) (now : Nat) (signal : Option Signal) (message : Option ControlMsg)
    (c : Option Nat) (h : ¬ (s.phase = .serving ∧ Signal.Continues signal)) :
    (step env s (.wake now signal message c)).sent.filter Outbound.isReply = s.sent.filter Outbound.isReply := by
  by_cases hp : s.phase = .serving
  · rw [step_wake_replies env s now signal message c hp]
    rcases signal with _ | (_ | _ | _ | _) <;> simp_all [receive, Signal.Continues, EStateM.Result.state]
  · simp [step, hp]

/-- On a healthy connection the replies of a step are those of the message it handles. -/
theorem step_replies (s : Master) (e : Event) (he : e.Connected) :
    (step env s e).sent.filter Outbound.isReply =
      s.sent.filter Outbound.isReply ++ (handledMessage s e).flatMap ControlMsg.reply := by
  cases e with
  | pollError => simp [step, handledMessage]
  | frame now msg =>
    obtain ⟨_, _, _, _, _, _, h⟩ := step_frame_eq env s now msg
    simp [h, handledMessage]
  | wake now signal message c =>
    simp only [Event.Connected] at he
    subst he
    rw [handledMessage_wake]
    by_cases h : s.phase = .serving ∧ Signal.Continues signal
    · rw [step_wake_replies env s now signal message none h.1, if_pos h,
        receive_replies_of_connected env _ signal message rfl h.2]
    · rw [step_wake_quiet env s now signal message none h, if_neg h, List.append_nil]

/-- Whether a handler raised. -/
def raised {α : Type} : EStateM.Result PyError Master α → Bool
  | .ok .. => false
  | .error .. => true

/-- The accepted control message a step handles, with whether its handler raised. -/
def handledCall (s : Master) : Event → List (ControlMsg × Bool)
  | .wake now signal (some msg) c =>
    if s.phase = .serving ∧ Signal.Continues signal ∧ msg.Accepted then
      [(msg, raised (receive env signal (some msg) { s with now := now, connection := c }))]
    else []
  | _ => []

/-- The accepted control messages a run handles, in order, each with whether its handler
raised. -/
def handledCalls : Master → List Event → List (ControlMsg × Bool)
  | _, [] => []
  | s, e :: events => handledCall env s e ++ handledCalls (step env s e) events

theorem handledCalls_map_fst (s : Master) (events : List Event) :
    (handledCalls env s events).map Prod.fst = handledMessages env s events := by
  induction events generalizing s with
  | nil => rfl
  | cons e events ih =>
    rw [handledCalls, handledMessages, List.map_append, ih]
    congr 1
    cases e with
    | wake now signal message c =>
      cases message with
      | none => rfl
      | some msg =>
        simp only [handledCall, handledMessage]
        split_ifs <;> rfl
    | _ => rfl

/-- The replies sent for one handled message: the reply it is owed, or, for an `END`
whose handler raised, nothing. -/
def Answered (call : ControlMsg × Bool) (r : List Outbound) : Prop :=
  r = call.1.reply ∨ call.1.action = "END" ∧ call.2 = true ∧ r = []

theorem receive_replies (s : Master) (signal : Option Signal) (msg : ControlMsg) (hs : Signal.Continues signal) :
    ∃ r, (receive env signal (some msg) s).state.sent.filter Outbound.isReply =
      s.sent.filter Outbound.isReply ++ r ∧ (r = (if msg.Accepted then msg.reply else []) ∨
        msg.action = "END" ∧ raised (receive env signal (some msg) s) = true ∧ r = []) := by
  have hraise : ∀ e s', controlerSocket env msg { s with
      jobs := fun k => (s.jobs k).filter fun h => decide (s.now - h.lastUsage ≤ fdTimeout) } = .error e s' →
      raised (receive env signal (some msg) s) = true := fun e s' h => by
    rcases signal with _ | (_ | _ | _ | _) <;> simp only [Signal.Continues] at hs <;>
      simp only [receive, collectHandlers, commandSocket, bind_apply, modify_apply, h] <;> rfl
  rw [receive_replies_eq env s signal _ hs]
  obtain ⟨r, h, hr⟩ := controlerSocket_replies env msg { s with
    jobs := fun k => (s.jobs k).filter fun h => decide (s.now - h.lastUsage ≤ fdTimeout) }
  refine ⟨r, h, ?_⟩
  rcases hr with hr | ⟨he, rfl, e, s', herr⟩
  · exact .inl hr
  · exact .inr ⟨he, hraise e s' herr, rfl⟩

theorem step_replies_missing (s : Master) (e : Event) :
    ∃ rs, (step env s e).sent.filter Outbound.isReply = s.sent.filter Outbound.isReply ++ rs.flatten ∧
      List.Forall₂ Answered (handledCall env s e) rs := by
  cases e with
  | pollError => exact ⟨[], by simp [step], .nil⟩
  | frame now msg =>
    obtain ⟨_, _, _, _, _, _, h⟩ := step_frame_eq env s now msg
    exact ⟨[], by simp [h], .nil⟩
  | wake now signal message c =>
    by_cases h : s.phase = .serving ∧ Signal.Continues signal
    · rw [step_wake_replies env s now signal message c h.1]
      rcases message with _ | msg
      · exact ⟨[], by simp [receive_replies_eq env _ signal none h.2], .nil⟩
      obtain ⟨r, hr, hans⟩ := receive_replies env { s with now := now, connection := c } signal msg h.2
      by_cases ha : msg.Accepted
      · refine ⟨[r], by rw [hr, List.flatten_singleton], ?_⟩
        simp only [handledCall, if_pos (And.intro h.1 (And.intro h.2 ha))]
        exact .cons (by simpa only [if_pos ha] using hans) .nil
      · have hnil : r = [] := by rcases hans with rfl | ⟨-, -, rfl⟩ <;> simp [ha]
        refine ⟨[], by rw [hr, hnil]; rfl, ?_⟩
        simp only [handledCall, ha, and_false, if_false]
        exact .nil
    · rw [step_wake_quiet env s now signal message c h]
      refine ⟨[], (List.append_nil _).symm, ?_⟩
      rcases message with _ | msg
      · exact .nil
      · have hn : ¬ (s.phase = .serving ∧ Signal.Continues signal ∧ msg.Accepted) := fun h' => h ⟨h'.1, h'.2.1⟩
        simp only [handledCall, if_neg hn]
        exact .nil

end Run

/-- A reset during the `END` of job 1: its handler raises, the job stays running and
`END_OK` is not sent. -/
example : (run .bare .withRunningJob [.wake 0 none (some ⟨"w", "END", ["1", "0", "", ""]⟩) (some 0)]).sent = [] ∧
    handledCalls .bare .withRunningJob [.wake 0 none (some ⟨"w", "END", ["1", "0", "", ""]⟩) (some 0)] =
      [(⟨"w", "END", ["1", "0", "", ""]⟩, true)] := by
  decide

/-- `w` says hello, pings, ends job 1 and acknowledges a start. -/
def conversation : List Event :=
  [.wake 0 none (some ⟨"w", "HELLO", ["1"]⟩) none, .wake 1 none (some ⟨"w", "PING", []⟩) none,
    .wake 2 none (some ⟨"w", "END", ["1", "0", "", ""]⟩) none,
    .wake 3 none (some ⟨"w", "START_OK", ["1"]⟩) none]

example : (handledMessages .bare .withRunningJob conversation).flatMap ControlMsg.reply =
    [.helloOk "w", .pong "w", .endOk "w" 1] := by
  decide

end LavaMaster
