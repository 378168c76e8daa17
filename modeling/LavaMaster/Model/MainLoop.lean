import LavaMaster.Model.Dispatch
import LavaMaster.Model.Logging

/-!
# The main loop and the two threads

One pass of the `while True` loop of `handle()`: the signal pipe, the collection of
`self.jobs`, the controler message, the dispatcher check and, at most every `DB_LIMIT`
seconds, the two sweeps of the store. `OperationalError` and `InterfaceError` send the
loop round again; any other exception ends `handle()`.

A run interleaves passes of the main loop with passes of the logging thread. The two
threads share only the store and the disk, and each pass is taken as one step.
-/

namespace LavaMaster

inductive Signal
  | sighup | sigint | sigterm | sigquit
  deriving DecidableEq, Repr

/-- A slave silent for more than `DISPATCHER_TIMEOUT` goes offline. -/
def SlaveDispatcher.check (now : Nat) (d : SlaveDispatcher) : SlaveDispatcher :=
  if d.online ∧ now - d.lastMsg > dispatcherTimeout then { d with online := false } else d

/-- Check dispatchers status. -/
def checkDispatchers : M Unit := modify fun s => { s with
  dispatchers := fun h => (s.dispatchers h).map (SlaveDispatcher.check s.now) }

/-- Garbage collect the file handlers of `self.jobs`. -/
def collectHandlers : M Unit := modify fun s => { s with
  jobs := fun k => (s.jobs k).filter fun h => decide (s.now - h.lastUsage ≤ fdTimeout) }

/-- How a pass of the loop ends: `break`, `continue` before the dispatcher check, or
through the dispatcher check. -/
inductive Flow
  | leave | skip | proceed
  deriving DecidableEq, Repr

section Loop

variable (env : Env)

/-- The command socket: a message `controler_socket` refuses skips the dispatcher check. -/
def commandSocket : Option ControlMsg → M Flow
  | some msg => do return if (← controlerSocket env msg) then .proceed else .skip
  | none => pure .proceed

/-- The pass up to the dispatcher check: `SIGHUP` only reopens the log file, the other
signals leave the loop. -/
def receive (signal : Option Signal) (message : Option ControlMsg) : M Flow :=
  match signal with
  | some .sighup | none => do
    collectHandlers
    commandSocket env message
  | some _ => pure .leave

/-- The sweeps of the store, at most every `DB_LIMIT` seconds. -/
def accessDatabase : M Unit := do
  let s ← get
  if s.now - s.lastDbAccess > dbLimit then
    modify fun s => { s with lastDbAccess := s.now }
    processJobs env
    handleCanceling

/-- The rest of the pass: the dispatcher check, then the sweeps of the store. -/
def sweep : M Unit := do
  checkDispatchers
  accessDatabase env

def iteration (signal : Option Signal) (message : Option ControlMsg) : M Flow := do
  let flow ← receive env signal message
  if flow = .proceed then sweep env
  return flow

/-- What happens next to the master. `wake` is a return of `poller.poll` at time `now`,
with the connection state the database has during the pass; `frame` is a message the
logging thread receives at time `now`. -/
inductive Event
  | pollError
  | wake (now : Nat) (signal : Option Signal) (message : Option ControlMsg) (connection : Option Nat)
  | frame (now : Nat) (msg : List String)

def step (s : Master) : Event → Master
  | .pollError => s
  | .wake now signal message connection =>
    if s.phase = .serving then
      match iteration env signal message { s with now := now, connection := connection } with
      | .ok .leave s' => { s' with phase := .stopped, runThreads := false }
      | .ok _ s' => s'
      | .error .operationalError s' => s'
      | .error e s' => { s' with phase := .crashed e }
    else s
  | .frame now msg =>
    if s.runThreads ∧ s.logFailure = none then
      match loggingFrame env msg { s with now := now } with
      | .ok _ s' => s'
      | .error e s' => { s' with logFailure := some e }
    else s

def run (s : Master) (events : List Event) : Master := events.foldl (step env) s

@[simp] theorem run_nil (s : Master) : run env s [] = s := rfl

@[simp] theorem run_cons (s : Master) (e : Event) (events : List Event) :
    run env s (e :: events) = run env (step env s e) events := rfl

theorem run_append (s : Master) (events events' : List Event) :
    run env s (events ++ events') = run env (run env s events) events' := by
  simp [run, List.foldl_append]

end Loop

end LavaMaster
