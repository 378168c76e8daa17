import LavaMaster.Model.Master

/-!
# The controler socket

`controler_socket` and the helpers it calls: `send_status`, `dispatcher_alive` and
`_cancel_slave_dispatcher_jobs`. The result is the value the main loop tests:
`false` sends it round again without the dispatcher check. Log lines are left out;
every branch keeps its sends, registry writes and store calls in the source's order.
-/

namespace LavaMaster

/-- A message of the ROUTER socket: the sender's identity `msg[0]`, the action
`msg[1]` and the frames after them, `msg[2:]`. -/
structure ControlMsg where
  hostname : String
  action : String
  args : List String
  deriving DecidableEq, Repr

/-- `int(msg[i + 2])`, where a missing frame and a non-integer both fail. -/
def ControlMsg.intArg (msg : ControlMsg) (i : Nat) : Option Int := (msg.args.get? i).bind pyInt

/-- `send_status`: the master crashed, ask for the state of the slave's jobs. The log line
before each `STATUS` reads `job.actual_device`, a foreign key the query did not select,
so each job costs one more round trip. -/
def sendStatus (hostname : String) : M Unit := do
  let jobs ← query (·.runningOn hostname)
  jobs.forM fun job => do
    roundTrip
    send (.status hostname job.id)

def dispatcherAlive (hostname : String) : M Unit := do
  if (← get).dispatchers hostname = none then
    newDispatcher hostname
    sendStatus hostname
  alive hostname

/-- `_cancel_slave_dispatcher_jobs`: the slave restarted, so its jobs are over. -/
def cancelSlaveDispatcherJobs (hostname : String) : M Unit := atomic do
  let jobs ← query (·.runningOn hostname)
  jobs.forM fun job => save (·.cancelJob job)

/-- `except TestJob.DoesNotExist:` around a block; other exceptions pass. -/
def exceptDoesNotExist (x : M Unit) : M Unit :=
  tryCatch x fun e => if e = .doesNotExist then pure () else throw e

/-- `parse_job_description(job)`: the description the job's `description.yaml` holds goes
into the store, outside any transaction. -/
def parseJobDescription (job : TestJob) : M Unit := do
  let description := (← get).files (pathJoin job.outputDir ["description.yaml"])
  save (·.parseJobDescription job description)

section Handlers

variable (env : Env)

/-- `open(filename, 'w')` truncates `description.yaml` before `lzma.decompress` runs,
so a blob that does not decompress leaves the file empty. -/
def saveDescription (job : TestJob) (description : String) : M Unit :=
  let filename := pathJoin job.outputDir ["description.yaml"]
  let text := (env.decompress description).getD ""
  modify fun s => { s with files := Function.update s.files filename (some text) }

/-- The body of the `END` branch inside its `try`. -/
def endJob (jobId : Int) (errorMsg description : String) (status : Status) : M Unit := do
  let job ← getJob jobId
  saveDescription env job description
  parseJobDescription job
  atomic do
    let job ← getJob jobId
    if job.status = .canceling then save (·.cancelJob job)
    save (·.failJob job errorMsg status)

/-- The `HELLO` and `HELLO_RETRY` branch. -/
def onHello (msg : ControlMsg) : M Bool := do
  let some slaveVersion := msg.intArg 0 | return false
  if slaveVersion ≠ protocolVersion then return false
  send (.helloOk msg.hostname)
  if (← get).dispatchers msg.hostname = none then newDispatcher msg.hostname
  if msg.action = "HELLO" then cancelSlaveDispatcherJobs msg.hostname
  alive msg.hostname
  return true

def onPing (msg : ControlMsg) : M Bool := do
  send (.pong msg.hostname)
  dispatcherAlive msg.hostname
  return true

/-- The `END` branch: the reply follows the status transaction, even for an unknown job. -/
def onEnd (msg : ControlMsg) : M Bool := do
  let some jobId := msg.intArg 0 | return false
  let some jobStatus := msg.intArg 1 | return false
  let some errorMsg := msg.args.get? 2 | return false
  let some description := msg.args.get? 3 | return false
  let status : Status := if jobStatus ≠ 0 then .incomplete else .complete
  exceptDoesNotExist (endJob env jobId errorMsg description status)
  send (.endOk msg.hostname jobId)
  dispatcherAlive msg.hostname
  return true

def onStartOk (msg : ControlMsg) : M Bool := do
  let some jobId := msg.intArg 0 | return false
  exceptDoesNotExist (atomic do
    let job ← getJob jobId
    save (·.startJob job))
  dispatcherAlive msg.hostname
  return true

/-- An unknown action is logged and ignored. -/
def controlerSocket (msg : ControlMsg) : M Bool :=
  if msg.action = "HELLO" ∨ msg.action = "HELLO_RETRY" then onHello msg
  else if msg.action = "PING" then onPing msg
  else if msg.action = "END" then onEnd env msg
  else if msg.action = "START_OK" then onStartOk msg
  else pure true

end Handlers

end LavaMaster
