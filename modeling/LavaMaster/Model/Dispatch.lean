import LavaMaster.Model.Control

/-!
# The dispatch sweep

`process_jobs` sends `START` for the submitted jobs whose device is ready, and
`handle_canceling` sends `CANCEL` for the canceling ones. Inside the `try` of
`process_jobs` four exceptions become an `Infrastructure error` that fails the job;
every other exception leaves the sweep.
-/

namespace LavaMaster

section Dispatch

variable (env : Env)

/-- `yaml.load(text)`. -/
def yamlLoad (text : String) : Except PyError Yaml :=
  (env.loadYaml text).mapError .yamlError

/-- A computation of the Python side that touches no state. -/
def liftExcept {α : Type} : Except PyError α → M α
  | .ok a => pure a
  | .error e => throw e

/-- `load_optional_yaml_file`: a missing file is an empty string, an invalid one an
`IOError` naming the file. -/
def loadOptionalYamlFile (filename : String) : Except PyError String :=
  match env.readConfig filename with
  | .missing => .ok ""
  | .unreadable strerror => .error (.ioError filename strerror)
  | .contents dataStr =>
    match env.loadYaml dataStr with
    | .ok _ => .ok dataStr
    | .error _ => .error (.ioError filename "Not a valid YAML file")

def exportDefinition (job : TestJob) : Except PyError String := do
  let jobDef ← yamlLoad env job.definition
  let jobDef ← jobDef.setItem "compatibility" (.int job.pipelineCompatibility)
  return env.dumpYaml jobDef

/-- `yaml.load(definition).get('context', {})`, the variables of the device template. -/
def jobContext (definition : String) : Except PyError Yaml := do
  let jobDef ← yamlLoad env definition
  jobDef.get "context" (.map [])

/-- `get_parent_job`. -/
def getParentJob (job : TestJob) : M (Option TestJob) :=
  query fun st => job.parentJob.bind fun id => st.find? id

/-- The `START` of one dynamic connection of a multinode group. -/
def startConnection (groupJob : TestJob) (dispatcherConfig envStr envDutStr : String) :
    M Unit := do
  let some host := groupJob.lookupWorker | throw .attributeError
  let some parentJob ← getParentJob groupJob | throw .attributeError
  let parentDevice := match parentJob.actualDevice with
    | none => parentJob.requestedDevice
    | some device => some device
  let jobCtx ← liftExcept (jobContext env parentJob.definition)
  let some parentDevice := parentDevice | throw .attributeError
  let deviceConfiguration ← liftExcept (env.loadDeviceConfiguration parentDevice jobCtx)
  let definition ← liftExcept (exportDefinition env groupJob)
  send (.start host groupJob.id definition deviceConfiguration dispatcherConfig envStr envDutStr)

/-- The `try` block of `process_jobs`. -/
def startJobs (job : TestJob) (device : Device) (workerHost : String) : M Unit := do
  let envStr ← liftExcept (loadOptionalYamlFile env env.envFile)
  let envDutStr ← liftExcept (loadOptionalYamlFile env env.envDutFile)
  let dispatcherConfigFile := pathJoin env.dispatchersConfig [workerHost ++ ".yaml"]
  let dispatcherConfig ← liftExcept (loadOptionalYamlFile env dispatcherConfigFile)
  if job.isMultinode then
    let group ← query (·.subJobsList job)
    group.forM fun groupJob =>
      if groupJob.dynamicConnection then startConnection env groupJob dispatcherConfig envStr envDutStr
      else pure ()
  let jobCtx ← liftExcept (jobContext env job.definition)
  let deviceConfiguration ← liftExcept (env.loadDeviceConfiguration device jobCtx)
  let definition ← liftExcept (exportDefinition env job)
  send (.start workerHost job.id definition deviceConfiguration dispatcherConfig envStr envDutStr)

/-- The `fail_job` message of the exceptions `process_jobs` catches. -/
def infrastructureError : PyError → Option String
  | .templateNotFound message => some ("Infrastructure error: Template not found: '" ++ message ++ "'")
  | .templateSyntaxError name lineno message => some ("Infrastructure error: Template syntax error in '" ++
      name ++ "', line " ++ toString lineno ++ ": " ++ message)
  | .ioError filename strerror => some ("Infrastructure error: cannot open '" ++ filename ++ "': " ++ strerror)
  | .yamlError problem => some ("Infrastructure error: cannot parse job definition: " ++ problem)
  | _ => none

def dispatchJob (job : TestJob) (device : Device) (workerHost : String) : M Unit :=
  tryCatch (startJobs env job device workerHost) fun e =>
    match infrastructureError e with
    | some msg => save (·.failJob job msg .incomplete)
    | none => throw e

def invalidWorkerInformation : String := "Infrastructure error: Invalid worker information"

/-- One candidate of `process_jobs`. `select_device` may change the job, so the loop reads
it again before it looks at its device. -/
def processJob (candidate : TestJob) : M Unit := do
  let selection := env.selectDevice candidate (← get).dispatchers
  save (·.setDevice candidate selection.actualDevice)
  let some _ := selection.device | return
  let job ← getJob candidate.id
  match job.actualDevice with
  | none =>
    let some device := job.requestedDevice | throw .attributeError
    let some workerHost := device.workerHost | save (·.failJob job invalidWorkerInformation .incomplete)
    save (·.createJob job device)
    dispatchJob env job device workerHost
  | some device =>
    let some workerHost := device.workerHost | save (·.failJob job invalidWorkerInformation .incomplete)
    dispatchJob env job device workerHost

def processJobs : M Unit := do
  let candidates ← query (·.submittedCandidates)
  candidates.forM (processJob env)

end Dispatch

/-- One job of `handle_canceling`. -/
def cancelingJob (job : TestJob) : M Unit := do
  let workerHost ← if job.dynamicConnection then pure job.lookupWorker
    else match job.actualDevice with
      | some device => pure device.workerHost
      | none => throw .attributeError
  match workerHost with
  | none => save (·.failJob job "invalid worker information" .canceled)
  | some host => send (.cancel host job.id)

def handleCanceling : M Unit := do
  let jobs ← query (·.cancelingJobs)
  jobs.forM cancelingJob

end LavaMaster
