import FormulaRepair.CommandLine.Arguments
import FormulaRepair.ExportPath
import FormulaRepair.Files
import FormulaRepair.Service

/-! # Running a command

A command reads its document from the files around it, works on a desk of its own, and prints what it
found or did. Every failure ends the command with one line that tells it. Typesetter and transport
are given by the surroundings, and so are the environment and the files.
-/

namespace FormulaRepair.CommandLine

/-- What a command works in: the files, what it has printed, and the components outside. -/
structure Shell (Outside : Type) where
  files : FileTree
  printed : Text := []
  outside : Outside

/-- What a command finds around it and does not change. -/
structure Surroundings (Outside : Type) where
  environment : Environment
  standpoint : Standpoint
  typesetter : Typesetter Outside
  transport : Transport Outside

/-- Why a command failed. -/
inductive RunProblem
  | settings (problem : SettingsProblem)
  | file (problem : FileProblem)
  | key (problem : MissingKey)
  | pool (problem : PoolClosed)
  | service (problem : ServiceProblem)
deriving Repr, Inhabited

/-- The message of a command that failed. -/
def RunProblem.message : RunProblem → Text
  | settings problem => problem.message
  | file problem => problem.message
  | key problem => problem.message
  | pool problem => problem.message
  | service problem => problem.message

variable {Outside : Type}

/-- A command that may fail. -/
abbrev Run (Outside α : Type) := ExceptT RunProblem (StateM (Shell Outside)) α

namespace Run

/-- Print lines. -/
def printAll (lines : List Text) : Run Outside Unit :=
  modify fun shell => { shell with printed := shell.printed ++ lines.flatMap (· ++ ['\n']) }

/-- Print a line. -/
def print (line : Text) : Run Outside Unit := printAll [line]

/-- Let the components outside work. -/
def outside {α : Type} (work : StateM Outside α) : Run Outside α :=
  modifyGet fun shell =>
    let (value, outside) := work shell.outside
    (value, { shell with outside := outside })

/-- Work on a desk that has been set up around the components outside. -/
def onDesk {α : Type} (setUp : Outside → Desk Outside) (work : StateM (Desk Outside) α) :
    Run Outside (α × Desk Outside) :=
  modifyGet fun shell =>
    let (value, desk) := work (setUp shell.outside)
    ((value, desk), { shell with outside := desk.outside })

/-- A value, or the end of the command. -/
def ofExcept {problem α : Type} (wrap : problem → RunProblem) : Except problem α → Run Outside α
  | .ok value => return value
  | .error problem => throw (wrap problem)

end Run

/-- A component outside, put to work from a desk. -/
def fromDesk {α : Type} (work : StateM Outside α) : StateM (Desk Outside) α :=
  modifyGet fun desk =>
    let (value, outside) := work desk.outside
    (value, { desk with outside := outside })

/-- The renderer for documents on a desk. -/
def rendererOf (surroundings : Surroundings Outside) : Renderer (Desk Outside) :=
  Typesetter.checked fun sample => fromDesk (surroundings.typesetter sample)

/-- The settings with the service and the model that the command line chose. -/
def Choice.apply (choice : Choice) (settings : Settings) : Settings :=
  let service := choice.service.getD settings.service
  let settings := { settings with service := service }
  match choice.model.filter (!·.isEmpty) with
  | none => settings
  | some model =>
      match service with
      | .openAI => { settings with openAIModel := model }
      | .lmStudio => { settings with lmStudioModel := model }
      | .ollama => { settings with ollamaModel := model }

/-- An empty desk as the settings ask for. -/
def deskOf (settings : Settings) (outside : Outside) : Desk Outside :=
  { cache := Cache.ofCapacity settings.cacheCapacity
    pool := Pool.ofWorkers settings.workers
    pooled := true
    outside := outside }

/-- Put a document on an empty desk and find its formulas. -/
def analyzeContent (surroundings : Surroundings Outside) (path content : Text) :
    StateM (Desk Outside) (Except PoolClosed (List Formula)) := do
  modify (·.load (some path) content)
  Desk.analyze (rendererOf surroundings)

/-- Read a document and find its formulas on a desk of its own. -/
def openDocument (surroundings : Surroundings Outside) (settings : Settings) (path : Text) :
    Run Outside (List Formula × Desk Outside) := do
  let content ← Run.ofExcept .file (surroundings.standpoint.read (← get).files path)
  let (found, desk) ← Run.onDesk (deskOf settings) (analyzeContent surroundings path content)
  return (← Run.ofExcept .pool found, desk)

/-- The lines that report an invalid formula. -/
def complaint (path : Text) (formula : Formula) : List Text :=
  [ path ++ ':' :: Text.ofInt formula.lineNumber ++ ": [".toList ++ formula.delimiter.name ++
      "] ".toList ++ formula.rawWithDelimiters
  , "    ".toList ++ formula.errorMessage.getD [] ]

/-- Report the invalid formulas of a document. The status tells whether there are any. -/
def check (surroundings : Surroundings Outside) (settings : Settings) (path : Text) :
    Run Outside Nat := do
  let (formulas, desk) ← openDocument surroundings settings path
  let errors := desk.errors
  Run.printAll (errors.flatMap (complaint path))
  Run.print (Text.ofNat formulas.length ++ " formulas, ".toList ++ Text.ofNat errors.length ++
    " invalid".toList)
  return if errors.isEmpty then 0 else 1

/-- The message of a repair that failed. -/
def repairMessage : RepairProblem ServiceProblem → Text
  | .running id => RepairProblem.runningMessage id
  | .unknown formula => formula.id.quoted
  | .provider problem => problem.message

/-- The line that reports one repair; a stale one is passed over. -/
def report? (outcome : RepairOutcome ServiceProblem) : Option Text :=
  match outcome.result with
  | .failed problem =>
      some (outcome.formulaId ++ ": repair failed: ".toList ++ repairMessage problem)
  | .fixed fix =>
      let standing :=
        if fix.fixedIsValid then "ok".toList
        else "still invalid (".toList ++ fix.fixedErrorMessage.getD [] ++ [')']
      some (outcome.formulaId ++ ": ".toList ++ fix.replacedRaw.quoted ++ " -> ".toList ++
        fix.fixedRaw.quoted ++ " [".toList ++ standing ++ [']'])
  | .stale => none

/-- Accept the fixes that a run is to make. -/
def Acceptance.apply (acceptance : Acceptance) (registry : Registry) : Registry :=
  match acceptance with
  | .valid => (registry.acceptAll true).2
  | .all => (registry.acceptAll false).2
  | .none => registry

/-- What repairs the formulas on the desk of a command. -/
def repairerOf (surroundings : Surroundings Outside) (settings : Settings) (service : Service) :
    Repairer Outside ServiceProblem :=
  { renderer := rendererOf surroundings
    provider := service.provider (surroundings.transport.lift fromDesk)
    contextSize := Repairer.contextSizeOf settings.contextSize }

/-- The path that a repaired document is written to. -/
def outputPath (path : Text) (output : Option Text) : Text :=
  (output.filter (!·.isEmpty)).getD (ExportPath.ofPath path)

/-- Repair the invalid formulas of a document and write the result. -/
def fix (surroundings : Surroundings Outside) (settings : Settings) (path : Text)
    (output : Option Text) (acceptance : Acceptance) : Run Outside Nat := do
  let service ← Run.ofExcept .key
    (← Run.outside (Service.ofSettings surroundings.transport settings))
  let (_, desk) ← openDocument surroundings settings path
  let desk ←
    if desk.errors.isEmpty then do
      Run.print "No invalid formulas found.".toList
      pure desk
    else do
      let repairer := repairerOf surroundings settings service
      let (outcomes, desk) ←
        Run.onDesk (fun outside => { desk with outside := outside }) (repairer.repairAll desk.errors)
      Run.printAll (outcomes.filterMap report?)
      pure { desk with registry := acceptance.apply desk.registry }
  let target := outputPath path output
  let (written, files) :=
    surroundings.standpoint.write (← get).files target desk.applyAccepted.document.current
  modify fun shell => { shell with files := files }
  Run.ofExcept .file written
  Run.print ("Wrote ".toList ++ target)
  return 0

/-- List the models of the service. -/
def models (surroundings : Surroundings Outside) (settings : Settings) : Run Outside Nat := do
  let service ← Run.ofExcept .key
    (← Run.outside (Service.ofSettings surroundings.transport settings))
  let names ← Run.ofExcept .service
    (← Run.outside (service.models surroundings.transport))
  Run.printAll (if names.isEmpty then ["(no models reported)".toList]
    else names.map (Data.shownIn (service.outlook surroundings.transport.wording).recordForm))
  return 0

/-- Tell whether the service can be reached. -/
def ping (surroundings : Surroundings Outside) (settings : Settings) : Run Outside Nat := do
  let service ← Run.ofExcept .key
    (← Run.outside (Service.ofSettings surroundings.transport settings))
  let reached ← Run.ofExcept .service
    (← Run.outside (service.ping surroundings.transport))
  Run.print (service.name ++ ": ".toList ++ (if reached then "OK" else "unreachable").toList)
  return if reached then 0 else 1

/-- The service and model that an invocation chooses. -/
def Invocation.choice : Invocation → Choice
  | .check _ => {}
  | .fix _ _ _ choice | .models choice | .ping choice => choice

/-- Carry out an invocation. -/
def carryOut (surroundings : Surroundings Outside) (invocation : Invocation) : Run Outside Nat := do
  let settings ← Run.ofExcept .settings (Settings.load surroundings.environment)
  let settings := invocation.choice.apply settings
  match invocation with
  | .check path => check surroundings settings path
  | .fix path output acceptance _ => fix surroundings settings path output acceptance
  | .models _ => models surroundings settings
  | .ping _ => ping surroundings settings

/-- The status of a command that failed. -/
def failureStatus : Nat := 1

/-- Run a command line. The answer is its exit status. -/
def run (surroundings : Surroundings Outside) (words : List Text) : StateM (Shell Outside) Nat := do
  match read words with
  | .error stop => return stop.exitStatus
  | .ok invocation =>
      match ← (carryOut surroundings invocation).run with
      | .ok status => return status
      | .error problem =>
          modify fun shell =>
            { shell with printed := shell.printed ++ "Error: ".toList ++ problem.message ++ ['\n'] }
          return failureStatus

end FormulaRepair.CommandLine
