import LavaMaster.Properties.Lifecycle

/-!
# The log intake and its table of handlers

The receive loop of `logging_socket` catches only the exceptions of unpacking, YAML
decoding, a missing key and an unknown job. A message that decodes to something other
than a mapping, or a job id `int()` refuses, raises out of the loop and ends the thread.

The handlers live in the thread's local `jobs`, which nothing prunes; the main loop
collects `self.jobs`, which nothing fills. A rotation sets `self.current_level`, so a
handler keeps the level of the first frame of its job for good.
-/

namespace LavaMaster

/-! ## What the main loop leaves of the logging thread -/

/-- The thread's table is left as it is. -/
def MainFrame (s s' : Master) : Prop := s'.logJobs = s.logJobs

instance : IsRefl Master MainFrame := ⟨fun _ => rfl⟩

instance : IsTrans Master MainFrame := ⟨fun _ _ _ h h' => h'.trans h⟩

section Main

variable (env : Env)

theorem roundTrip_mainFrame : Keeps MainFrame roundTrip := fun s => by
  unfold roundTrip
  split <;> exact rfl

theorem save_mainFrame (f : Store → Store) : Keeps MainFrame (save f) :=
  Keeps.bind roundTrip_mainFrame fun _ _ => rfl

theorem atomic_mainFrame {α : Type} {x : M α} (hx : Keeps MainFrame x) : Keeps MainFrame (atomic x) := by
  intro s
  have h := hx s
  simp only [atomic_apply]
  cases hr : x s with
  | ok a s' => rw [hr] at h; exact h
  | error e s' => rw [hr] at h; exact h

/-- A pass of the main loop closes no handler of the logging thread. -/
theorem iteration_mainFrame (signal : Option Signal) (message : Option ControlMsg) :
    Keeps MainFrame (iteration env signal message) :=
  iteration_keeps env roundTrip_mainFrame (fun _ _ => rfl)
    (fun _ _ _ _ => save_mainFrame _) (fun _ _ => save_mainFrame _) (fun _ _ => save_mainFrame _)
    (fun _ => rfl) (fun _ => rfl)
    (fun _ => rfl) signal message fun msg _ =>
      controlerSocket_keeps env roundTrip_mainFrame (fun _ _ => rfl)
        (fun _ _ _ _ => save_mainFrame _) (fun _ _ => rfl)
        (fun _ s => by simp only [alive_apply]; split <;> exact rfl)
        (fun hx _ => atomic_mainFrame hx) (fun _ => save_mainFrame _) (fun _ _ _ => rfl) (fun _ _ => save_mainFrame _) msg
        fun _ _ _ => atomic_mainFrame (Keeps.bind (getJob_keeps roundTrip_mainFrame _) fun _ => save_mainFrame _)

theorem step_wake_mainFrame (s : Master) (now : Nat) (signal : Option Signal)
    (message : Option ControlMsg) (c : Option Nat) :
    MainFrame s (step env s (.wake now signal message c)) := by
  obtain ⟨ph, rt, h⟩ := step_wake_eq env s now signal message c
  rw [h]
  split_ifs
  · exact iteration_mainFrame env signal message { s with now := now, connection := c }
  · exact refl_of MainFrame s

end Main

/-- A deployment whose YAML loader is PyYAML on the texts of the runs below: the block
mappings with `lvl: debug` and `msg: m1`, `m2` or `m3`, and a plain scalar for any other
text. -/
def Env.logging : Env :=
  { Env.bare with
    loadYaml := fun text =>
      match ["m1", "m2", "m3"].find? fun m => text = "lvl: debug\nmsg: " ++ m with
      | some m => .ok (.map [("lvl", .str "debug"), ("msg", .str m)])
      | none => .ok (.str text) }

/-- The record of message `m` for job 1 at `level`, from the frame's `name`. -/
def debugFrame (level name m : String) : List String := ["1", level, name, "lvl: debug\nmsg: " ++ m]

/-- Each handler of the table stays, with the level it was opened at. -/
def LevelKept (s s' : Master) : Prop :=
  ∀ k h, s.logJobs k = some h → ∃ h', s'.logJobs k = some h' ∧ h'.currentLevel = h.currentLevel

instance : IsRefl Master LevelKept := ⟨fun _ _ h hk => ⟨h, hk, rfl⟩⟩

instance : IsTrans Master LevelKept :=
  ⟨fun _ _ _ hab hbc k h hk => by
    obtain ⟨h₁, hk₁, hl₁⟩ := hab k h hk
    obtain ⟨h₂, hk₂, hl₂⟩ := hbc k h₁ hk₁
    exact ⟨h₂, hk₂, hl₂.trans hl₁⟩⟩

/-- An update of one handler that keeps its level. -/
theorem levelKept_update {s s' : Master} {jobId : String} {h : JobHandler}
    (hh : ∀ h₀, s.logJobs jobId = some h₀ → h.currentLevel = h₀.currentLevel)
    (hs' : s'.logJobs = Function.update s.logJobs jobId (some h)) : LevelKept s s' := by
  intro k h₀ hk
  rw [hs']
  by_cases hkj : k = jobId
  · subst hkj
    exact ⟨h, by simp, hh h₀ hk⟩
  · exact ⟨h₀, by simp [Function.update_noteq hkj, hk], rfl⟩

/-- Finding a handler rotates its sub log on a change of level without recording the new
level; a new handler is opened only for a job without one. -/
theorem openHandler_levelKept (r : LogRecord) : Keeps LevelKept (openHandler r) := fun s => by
  unfold openHandler
  split
  · rename_i handler hh
    split
    · exact levelKept_update (fun h₀ h₀' => by rw [hh] at h₀'; cases h₀'; rfl) rfl
    · exact refl_of LevelKept s
  · rename_i hn
    split
    · exact refl_of LevelKept s
    · exact refl_of LevelKept s
    · intro k h₀ hk
      have hkj : k ≠ r.jobId := fun e => by rw [e, hn] at hk; cases hk
      exact ⟨h₀, by simp [EStateM.Result.state, Function.update_noteq hkj, hk], rfl⟩

theorem writeRecord_levelKept (r : LogRecord) : Keeps LevelKept (writeRecord r) := fun s => by
  unfold writeRecord
  split
  · rename_i handler hh
    exact levelKept_update (fun h₀ h₀' => by rw [hh] at h₀'; cases h₀'; rfl) rfl
  · exact refl_of LevelKept s

theorem loadFrameCalls_levelKept (env : Env) (msg : List String) : Keeps LevelKept (loadFrameCalls env msg) :=
  fun s => by
  unfold loadFrameCalls
  split
  · split <;> exact refl_of LevelKept s
  · exact refl_of LevelKept s

theorem extractResults_levelKept (env : Env) (r : LogRecord) : Keeps LevelKept (extractResults env r) := fun s => by
  unfold extractResults
  repeat' split
  all_goals exact fun k h hk => ⟨h, hk, rfl⟩

theorem loggingFrame_levelKept (env : Env) (msg : List String) : Keeps LevelKept (loggingFrame env msg) :=
  loggingFrame_keeps env (loadFrameCalls_levelKept env) openHandler_levelKept (extractResults_levelKept env)
    writeRecord_levelKept msg

section Run

variable (env : Env)

theorem step_levelKept (s : Master) (e : Event) : LevelKept s (step env s e) := by
  cases e with
  | pollError => exact refl_of LevelKept s
  | wake now signal message c =>
    intro k h hk
    exact ⟨h, by rw [step_wake_mainFrame env s now signal message c, hk], rfl⟩
  | frame now msg =>
    simp only [step]
    split_ifs
    · have h := loggingFrame_levelKept env msg { s with now := now }
      revert h
      cases loggingFrame env msg { s with now := now } <;> exact fun h => h
    · exact refl_of LevelKept s

end Run

/-! ## Runs of the logging thread -/

/-- A scalar message, then a good frame for job 1. -/
def afterScalarFrame : Master :=
  run .logging .withRunningJob [.frame 0 ["1", "1.2", "a", "foo"], .frame 1 (debugFrame "1.2" "a" "m1")]

/-- A good record for the job id `one`. -/
def afterWordJobId : Master :=
  run .logging .withRunningJob [.frame 0 ["one", "1.2", "a", "lvl: debug\nmsg: m1"]]

/-- The scalar kills the logging thread, so the good frame after it is lost; the job id
that is not a number kills it too. -/
theorem bad_frame_stops_intake :
    afterScalarFrame.logFailure = some .typeError ∧ afterScalarFrame.logJobs "1" = none ∧
      afterWordJobId.logFailure = some .valueError := by
  decide

/-- Frames for job 1 at 1.2, 1.3, then 1.2 again. -/
def afterLevelReturn : Master :=
  run .logging .withRunningJob
    [.frame 0 (debugFrame "1.2" "a" "m1"), .frame 1 (debugFrame "1.3" "b" "m2"), .frame 2 (debugFrame "1.2" "c" "m3")]

/-- The third record lands in the 1.3 sub log, and no sub log is opened for it. -/
theorem level_return_written_to_old_sublog :
    afterLevelReturn.files (runningJob.outputDir ++ "/pipeline/1/1.3-b.yaml") =
      some ("- lvl: debug\nmsg: m2\n" ++ "- lvl: debug\nmsg: m3\n") ∧
    afterLevelReturn.files (runningJob.outputDir ++ "/pipeline/1/1.2-c.yaml") = none := by
  decide

/-- Job 1 logs once at 0, and the main loop ticks at 100. -/
def afterIdleTick : Master :=
  run .logging .withRunningJob [.frame 0 (debugFrame "1.2" "a" "m1"), .wake 100 none none none]

/-- The handler of job 1 is still open, idle for more than `FD_TIMEOUT`. -/
theorem idle_handler_stays_open :
    (afterIdleTick.logJobs "1").map (afterIdleTick.now - ·.lastUsage) = some 100 ∧ fdTimeout < 100 := by
  decide

end LavaMaster
