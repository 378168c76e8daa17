import LavaMaster.Model.Master

/-!
# The logging thread

One pass of the receive loop of `logging_socket` on a frame. `scanFrame` is the part
before any handle is touched: unpacking, YAML decoding, the `lvl` and `msg` keys and
the `/` check. The decoding is PyYAML's unsafe `CLoader`, so the Python calls a
message's tags name run first (`loadFrameCalls`). `recordFrame` then finds, rotates or
creates the job's handler, hands `results` records to the results store and appends the
line to both log files.

The thread reads the store through its own connection; the resets of the main
thread's connection do not reach it.
-/

namespace LavaMaster

/-- The `continue`s of the receive loop, after `Failed to parse log message`,
`data are not valid YAML`, `Invalid log line, missing "lvl" or "msg" keys`,
`Wrong level or name received` and `Unknown job id`. -/
inductive Drop
  | unpacking
  | invalidYaml
  | missingKeys
  | wrongLevelOrName
  | unknownJob
  deriving DecidableEq, Repr

/-- A frame that passed the checks of `logging_socket`, with its decoded keys. -/
structure LogRecord where
  jobId : String
  level : String
  name : String
  message : String
  lvl : Yaml
  msg : Yaml

/-- `TestJob.objects.get(id=job_id)` on the frame's text, which Django reads with `int()`. -/
def findByFrame (st : Store) (jobId : String) : Except PyError TestJob :=
  match pyInt jobId with
  | none => .error .valueError
  | some id => match st.find? id with
    | some job => .ok job
    | none => .error .doesNotExist

/-- `os.path.join(output_dir, "pipeline", level.split('.')[0], "%s-%s.yaml" % (level, name))`. -/
def subLogPath (outputDir level name : String) : String :=
  pathJoin outputDir ["pipeline", majorLevel level, level ++ "-" ++ name ++ ".yaml"]

section Frames

variable (env : Env)

/-- The checks of the receive loop: an exception that escapes them, a drop, or the record. -/
def scanFrame : List String → Except PyError (Except Drop LogRecord)
  | [jobId, level, name, message] =>
    match env.loadYaml message with
    | .error _ => .ok (.error .invalidYaml)
    | .ok scanned =>
      match scanned.getItem "lvl" >>= fun lvl => (scanned.getItem "msg").map (lvl, ·) with
      | .error .keyError => .ok (.error .missingKeys)
      | .error e => .error e
      | .ok (lvl, msg) =>
        if hasSlash level ∨ hasSlash name then .ok (.error .wrongLevelOrName)
        else .ok (.ok ⟨jobId, level, name, message, lvl, msg⟩)
  | _ => .ok (.error .unpacking)

end Frames

/-- Find the job's handler and rotate its sub log on a change of level, or create the
handler. The rotation sets `self.current_level`, not the handler's level. -/
def openHandler (r : LogRecord) : M (Option Drop) := fun s =>
  match s.logJobs r.jobId with
  | some handler =>
    if r.level ≠ handler.currentLevel then
      let filename := subLogPath handler.outputDir r.level r.name
      let handler := { handler with subLog := filename }
      .ok none { s with
        currentLevel := r.level, files := openAppend s.files filename,
        logJobs := Function.update s.logJobs r.jobId (some handler) }
    else .ok none s
  | none =>
    match findByFrame s.store r.jobId with
    | .error .doesNotExist => .ok (some .unknownJob) s
    | .error e => .error e s
    | .ok job =>
      let filename := subLogPath job.outputDir r.level r.name
      let handler := JobHandler.init job r.level filename s.now
      .ok none { s with
        files := openAppend (openAppend s.files handler.output) filename,
        logJobs := Function.update s.logJobs r.jobId (some handler) }

/-- For a `results` record, `create_metadata_store` writes the metadata file it returns,
and `map_scanned_results` records the results against it. -/
def extractResults (env : Env) (r : LogRecord) : M (Option Drop) := fun s =>
  if r.lvl.isStr "results" then
    match findByFrame s.store r.jobId with
    | .error .doesNotExist => .ok (some .unknownJob) s
    | .error e => .error e s
    | .ok job =>
      let metaFile := env.createMetadataStore r.msg job r.level
      .ok none { s with
        files := Function.update s.files metaFile.1 (some metaFile.2),
        results := s.results ++ [(r.msg, job.id, metaFile.1)] }
  else .ok none s

/-- Mark the handler as used and write `- message` to both files. -/
def writeRecord (r : LogRecord) : M Unit := fun s =>
  match s.logJobs r.jobId with
  | some handler =>
    let handler := { handler with lastUsage := s.now }
    .ok () { s with
      logJobs := Function.update s.logJobs r.jobId (some handler),
      files := handler.write ("- " ++ r.message) s.files }
  | none => .error .keyError s

def recordFrame (env : Env) (r : LogRecord) : M (Option Drop) := do
  if let some d ← openHandler r then return some d
  if let some d ← extractResults env r then return some d
  writeRecord r
  return none

/-- The Python calls `yaml.load` makes while it decodes the message of a four-part frame;
an exception they raise is no `YAMLError` and leaves the loop. -/
def loadFrameCalls (env : Env) : List String → M Unit
  | [_, _, _, message] => fun s =>
    match env.loadCalls message s.files with
    | .ok files => .ok () { s with files := files }
    | .error e => .error e s
  | _ => pure ()

/-- One pass of the receive loop on a received frame: `none` when it was written. -/
def loggingFrame (env : Env) (msg : List String) : M (Option Drop) := do
  loadFrameCalls env msg
  match scanFrame env msg with
  | .error e => throw e
  | .ok (.error d) => pure (some d)
  | .ok (.ok r) => recordFrame env r

end LavaMaster
