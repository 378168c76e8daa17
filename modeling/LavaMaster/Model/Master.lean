import LavaMaster.Model.Store

/-!
# State of the dispatcher master

One flat record holds the attributes of the `Command` object, the local table of the
logging thread, the disk, the job store and the messages sent on the controler socket.
Handlers run in `EStateM PyError Master`: an exception carries the state reached when it
was raised, so the side effects before a `raise` stay, as in Python, and only
`transaction.atomic` rolls the store back.

A database round trip fails when the connection has been reset: `connection = some k`
lets `k` more round trips through and makes the next one raise `OperationalError`.
-/

/-- The state a run ends in, whether it returned or raised. -/
def EStateM.Result.state {ε σ α : Type} : EStateM.Result ε σ α → σ
  | .ok _ s => s
  | .error _ s => s

namespace LavaMaster

/-- The protocol version a slave must announce in `HELLO` and `HELLO_RETRY`. -/
def protocolVersion : Int := 1
def fdTimeout : Nat := 60
def dbLimit : Nat := 10
/-- Three times the slave ping period. -/
def dispatcherTimeout : Nat := 3 * 10

structure SlaveDispatcher where
  lastMsg : Nat
  online : Bool
  deriving DecidableEq, Repr

/-- `SlaveDispatcher(hostname, online)`: the last message is now for an online slave. -/
def SlaveDispatcher.init (now : Nat) (online : Bool) : SlaveDispatcher :=
  ⟨if online then now else 0, online⟩

/-- `SlaveDispatcher.alive` refreshes the time of the last message. -/
def SlaveDispatcher.alive (d : SlaveDispatcher) (now : Nat) : SlaveDispatcher :=
  { d with lastMsg := now }

/-- The disk, as the contents of each file. -/
abbrev Files := String → Option String

/-- `open(path, 'a+')` creates a missing file. -/
def openAppend (files : Files) (path : String) : Files :=
  if files path = none then Function.update files path (some "") else files

def appendFile (files : Files) (path text : String) : Files :=
  Function.update files path (some ((files path).getD "" ++ text))

/-- An open log of one job: the paths of its two open files stand for the handles. -/
structure JobHandler where
  outputDir : String
  output : String
  currentLevel : String
  subLog : String
  lastUsage : Nat
  deriving DecidableEq, Repr

/-- `JobHandler(job, level, filename)` opens `output.yaml` and the sub log. -/
def JobHandler.init (job : TestJob) (level filename : String) (now : Nat) : JobHandler :=
  ⟨job.outputDir, pathJoin job.outputDir ["output.yaml"], level, filename, now⟩

/-- `JobHandler.write`: the line goes to `output.yaml`, then to the sub log. -/
def JobHandler.write (h : JobHandler) (message : String) (files : Files) : Files :=
  appendFile (appendFile files h.output (message ++ "\n")) h.subLog (message ++ "\n")

/-- A message sent on the controler socket, addressed to its first frame. -/
inductive Outbound where
  | helloOk (host : String)
  | pong (host : String)
  | endOk (host : String) (jobId : Int)
  | status (host : String) (jobId : Nat)
  | start (host : String) (jobId : Nat) (definition deviceConfig dispatcherConfig env envDut : String)
  | cancel (host : String) (jobId : Nat)
  deriving DecidableEq, Repr

/-- The frames of `send_multipart`. -/
def Outbound.frames : Outbound → List String
  | helloOk h => [h, "HELLO_OK"]
  | pong h => [h, "PONG"]
  | endOk h j => [h, "END_OK", toString j]
  | status h j => [h, "STATUS", toString j]
  | start h j d c dc e ed => [h, "START", toString j, d, c, dc, e, ed]
  | cancel h j => [h, "CANCEL", toString j]

inductive Phase
  | serving
  | stopped
  | crashed (e : PyError)
  deriving DecidableEq, Repr

/-- What `open(...).read()` does on a configuration file. -/
inductive FileRead
  | contents (s : String)
  | missing
  | unreadable (strerror : String)

/-- What `select_device(job, self.dispatchers)` does: the device it returns, and the
device it leaves the job with, since "selecting device can change the job". -/
structure Selection where
  device : Option Device
  actualDevice : Option Device
  deriving DecidableEq, Repr

/-- The collaborators of the master outside `dispatcher-master.py`: the YAML and LZMA
libraries, the configuration files and options, the scheduler's `select_device`, the
device templates and the results store. -/
structure Env where
  loadYaml : String → Except String Yaml
  /-- The logging thread decodes with `yaml.CLoader`, PyYAML's unsafe loader: the
  `python/object/apply` tags of a text call Python functions while it is decoded.
  `loadCalls text files` is the disk those calls leave, or the exception one raises. -/
  loadCalls : String → Files → Except PyError Files
  dumpYaml : Yaml → String
  decompress : String → Option String
  readConfig : String → FileRead
  selectDevice : TestJob → (String → Option SlaveDispatcher) → Selection
  loadDeviceConfiguration : Device → Yaml → Except PyError String
  /-- `create_metadata_store(msg, job, level)`: the file it writes and returns, with what it
  writes there. -/
  createMetadataStore : Yaml → TestJob → String → String × String
  envFile : String
  envDutFile : String
  dispatchersConfig : String

/-- A deployment without configuration files, whose loader reads every text as an empty
mapping and calls nothing, whose device templates render to an empty text, whose
scheduler keeps each job on the device it already holds, and whose results store writes
an empty metadata file. -/
def Env.bare : Env where
  loadYaml := fun _ => .ok (.map [])
  loadCalls := fun _ files => .ok files
  dumpYaml := fun _ => ""
  decompress := some
  readConfig := fun _ => .missing
  selectDevice := fun job _ => ⟨job.actualDevice, job.actualDevice⟩
  loadDeviceConfiguration := fun _ _ => .ok ""
  createMetadataStore := fun _ job level => (pathJoin job.outputDir ["metadata", level ++ ".yaml"], "")
  envFile := "/etc/lava-server/env.yaml"
  envDutFile := "/etc/lava-server/env.dut.yaml"
  dispatchersConfig := "/etc/lava-server/dispatcher.d"

structure Master where
  /-- `time.time()` during the current event. -/
  now : Nat
  store : Store
  files : Files
  dispatchers : String → Option SlaveDispatcher
  /-- `self.jobs`, the table the main loop collects. -/
  jobs : String → Option JobHandler
  sent : List Outbound
  lastDbAccess : Nat
  connection : Option Nat
  /-- The local `jobs` of `logging_socket`. -/
  logJobs : String → Option JobHandler
  /-- `self.current_level`. -/
  currentLevel : String
  /-- The calls of `map_scanned_results(results, job, meta_filename)`. -/
  results : List (Yaml × Nat × String)
  phase : Phase
  runThreads : Bool
  logFailure : Option PyError

/-- The master after `handle()` has bound its sockets and started the logging thread. -/
def Master.initial (store : Store) (files : Files) : Master where
  now := 0
  store := store
  files := files
  dispatchers := fun _ => none
  jobs := fun _ => none
  sent := []
  lastDbAccess := 0
  connection := none
  logJobs := fun _ => none
  currentLevel := ""
  results := []
  phase := .serving
  runThreads := true
  logFailure := none

abbrev M := EStateM PyError Master

def send (m : Outbound) : M Unit := modify fun s => { s with sent := s.sent ++ [m] }

def roundTrip : M Unit := fun s =>
  match s.connection with
  | none => .ok () s
  | some 0 => .error .operationalError { s with connection := none }
  | some (k + 1) => .ok () { s with connection := some k }

/-- `with transaction.atomic():` rolls the store back when its block raises. -/
def atomic {α : Type} (x : M α) : M α := fun s =>
  match x s with
  | .ok a s' => .ok a s'
  | .error e s' => .error e { s' with store := s.store }

def query {α : Type} (f : Store → α) : M α := do
  roundTrip
  return f (← get).store

def save (f : Store → Store) : M Unit := do
  roundTrip
  modify fun s => { s with store := f s.store }

/-- `TestJob.objects.get(id=jobId)` from the main thread. -/
def getJob (jobId : Int) : M TestJob := do
  match ← query (·.find? jobId) with
  | some job => pure job
  | none => throw .doesNotExist

/-- `self.dispatchers[hostname] = SlaveDispatcher(hostname, online=True)`. -/
def newDispatcher (hostname : String) : M Unit :=
  modify fun s => { s with
    dispatchers := Function.update s.dispatchers hostname (some (.init s.now true)) }

/-- `self.dispatchers[hostname].alive()`. -/
def alive (hostname : String) : M Unit := do
  let s ← get
  match s.dispatchers hostname with
  | some d => set { s with dispatchers := Function.update s.dispatchers hostname (some (d.alive s.now)) }
  | none => throw .keyError

/-! ## Running the primitives -/

section Run

variable {α β : Type} (s : Master)

@[simp] theorem bind_apply (x : M α) (f : α → M β) :
    (x >>= f) s = match x s with
      | .ok a s' => f a s'
      | .error e s' => .error e s' := by
  show EStateM.bind x f s = _
  unfold EStateM.bind
  cases x s <;> rfl

/-- A sequence fails in its first part, or in its second after the first returned. -/
theorem bind_eq_error {x : M α} {f : α → M β} {e : PyError} {s' : Master} :
    (x >>= f) s = .error e s' ↔ x s = .error e s' ∨ ∃ a s₁, x s = .ok a s₁ ∧ f a s₁ = .error e s' := by
  rw [bind_apply]
  cases x s with
  | ok a s₁ =>
    constructor
    · exact fun h => .inr ⟨a, s₁, rfl, h⟩
    · rintro (h | ⟨_, _, h₁, h⟩)
      · cases h
      · cases h₁
        exact h
  | error => simp

/-- A sequence returns when its first part returns and its second returns after it. -/
theorem bind_eq_ok {x : M α} {f : α → M β} {b : β} {s' : Master} :
    (x >>= f) s = .ok b s' ↔ ∃ a s₁, x s = .ok a s₁ ∧ f a s₁ = .ok b s' := by
  rw [bind_apply]
  cases x s with
  | ok a s₁ =>
    constructor
    · exact fun h => ⟨a, s₁, rfl, h⟩
    · rintro ⟨_, _, h₁, h⟩
      cases h₁
      exact h
  | error => simp

/-- A sequence whose first part returns goes on from the state it left. -/
theorem bind_of_ok {x : M α} {f : α → M β} {a : α} {s₁ : Master} (hx : x s = .ok a s₁) :
    (x >>= f) s = f a s₁ := by
  rw [bind_apply, hx]

@[simp] theorem map_apply (g : α → β) (x : M α) :
    (g <$> x) s = match x s with
      | .ok a s' => .ok (g a) s'
      | .error e s' => .error e s' := by
  show EStateM.map g x s = _
  unfold EStateM.map
  cases x s <;> rfl

@[simp] theorem pure_apply (a : α) : (pure a : M α) s = .ok a s := rfl

@[simp] theorem get_apply : (get : M Master) s = .ok s s := rfl

@[simp] theorem set_apply (s' : Master) : (set s' : M PUnit) s = .ok ⟨⟩ s' := rfl

@[simp] theorem modify_apply (f : Master → Master) : (modify f : M PUnit) s = .ok ⟨⟩ (f s) := rfl

@[simp] theorem throw_apply (e : PyError) : (throw e : M α) s = .error e s := rfl

@[simp] theorem tryCatch_apply (x : M α) (h : PyError → M α) :
    (tryCatch x h) s = match x s with
      | .error e s' => h e s'
      | .ok a s' => .ok a s' := by
  show EStateM.tryCatch x h s = _
  unfold EStateM.tryCatch
  cases x s <;> rfl

@[simp] theorem send_apply (m : Outbound) : send m s = .ok () { s with sent := s.sent ++ [m] } := rfl

@[simp] theorem atomic_apply (x : M α) :
    atomic x s = match x s with
      | .ok a s' => .ok a s'
      | .error e s' => .error e { s' with store := s.store } := rfl

@[simp] theorem newDispatcher_apply (hostname : String) : newDispatcher hostname s =
    .ok () { s with dispatchers := Function.update s.dispatchers hostname (some (.init s.now true)) } :=
  rfl

theorem roundTrip_of_connected (hc : s.connection = none) : roundTrip s = .ok () s := by
  simp [roundTrip, hc]

theorem query_of_connected {f : Store → α} (hc : s.connection = none) :
    query f s = .ok (f s.store) s := by
  simp [query, roundTrip_of_connected s hc]

theorem save_of_connected {f : Store → Store} (hc : s.connection = none) :
    save f s = .ok () { s with store := f s.store } := by
  simp [save, roundTrip_of_connected s hc]

theorem getJob_of_connected {jobId : Int} (hc : s.connection = none) :
    getJob jobId s = match s.store.find? jobId with
      | some job => .ok job s
      | none => .error .doesNotExist s := by
  cases h : s.store.find? jobId <;> simp [getJob, query_of_connected s hc, h]

theorem getJob_ok {jobId : Int} {job : TestJob} {s' : Master} (h : getJob jobId s = .ok job s') :
    s'.store.find? jobId = some job := by
  simp only [getJob, query, bind_apply, get_apply, pure_apply] at h
  rcases hr : roundTrip s with ⟨⟨⟩, s1⟩ | ⟨e, s1⟩ <;> rw [hr] at h
  · cases hj : s1.store.find? jobId <;> simp [hj] at h
    obtain ⟨rfl, rfl⟩ := h
    exact hj
  · cases h

theorem roundTrip_ok {u : Unit} {s' : Master} (h : roundTrip s = .ok u s') :
    s'.store = s.store ∧ s'.sent = s.sent := by
  unfold roundTrip at h
  split at h <;> cases h <;> exact ⟨rfl, rfl⟩

/-- A query returns its value on the store and changes neither the store nor the sent
messages. -/
theorem query_ok {f : Store → α} {a : α} {s' : Master} (h : query f s = .ok a s') :
    a = f s.store ∧ s'.store = s.store ∧ s'.sent = s.sent := by
  simp only [query, bind_apply] at h
  cases hr : roundTrip s with
  | ok u s₁ =>
    rw [hr] at h
    cases h
    have := roundTrip_ok s hr
    exact ⟨by rw [this.1], this⟩
  | error e s₁ => rw [hr] at h; cases h

theorem save_ok {f : Store → Store} {u : Unit} {s' : Master} (h : save f s = .ok u s') :
    s'.store = f s.store ∧ s'.sent = s.sent := by
  simp only [save, bind_apply] at h
  cases hr : roundTrip s with
  | ok u s₁ =>
    rw [hr] at h
    cases h
    have := roundTrip_ok s hr
    exact ⟨by rw [← this.1], this.2⟩
  | error e s₁ => rw [hr] at h; cases h

@[simp] theorem alive_apply (hostname : String) : alive hostname s =
    match s.dispatchers hostname with
    | some d => .ok () { s with dispatchers := Function.update s.dispatchers hostname (some (d.alive s.now)) }
    | none => .error .keyError s := by
  cases h : s.dispatchers hostname <;> simp [alive, h]

theorem forM_send (l : List α) (f : α → Outbound) :
    (l.forM fun a => send (f a)) s = .ok () { s with sent := s.sent ++ l.map f } := by
  induction l generalizing s with
  | nil => simp
  | cons a l ih => simp [ih]

/-- On a healthy connection a round trip before each send changes nothing. -/
theorem forM_send_of_connected (l : List α) (f : α → Outbound) (hc : s.connection = none) :
    (l.forM fun a => do roundTrip; send (f a)) s = .ok () { s with sent := s.sent ++ l.map f } := by
  induction l generalizing s with
  | nil => simp
  | cons a l ih =>
    simp only [List.forM_cons', bind_apply, roundTrip_of_connected s hc, send_apply]
    rw [ih]
    · simp
    · exact hc

theorem forM_save_of_connected (l : List α) (g : α → Store → Store) (hc : s.connection = none) :
    (l.forM fun a => save (g a)) s =
      .ok () { s with store := l.foldl (fun st a => g a st) s.store } := by
  induction l generalizing s with
  | nil => simp
  | cons a l ih =>
    simp only [List.forM_cons', bind_apply, save_of_connected s hc]
    exact ih _ hc

end Run

end LavaMaster
