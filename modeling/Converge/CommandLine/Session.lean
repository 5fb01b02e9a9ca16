import Converge.CommandLine.Arguments
import Converge.CommandLine.Help
import Converge.CommandLine.Report
import Converge.Json.Reading
import Converge.Resource.Documents
import Converge.Setup
import Converge.Yaml.Source

/-!
# Sessions of the command line

A session reads the command line, loads the configuration and the documents that the command
names, does what the command says, and ends with an exit code and what is printed. Files and
the environment are looked up, and a command that talks to the stack is a program that can
be run over any network; nothing here depends on how that is done.
-/

namespace Converge.CommandLine

open Remote

/-! ## Files -/

/-- What is found at a path. -/
inductive Content where
  | nothing
  /-- Something that is no text. -/
  | unreadable
  | text (content : String)
deriving DecidableEq, Repr

/-- What surrounds a session. -/
structure World where
  environment : Environment
  files : (path : String) → Content

/-- The world in which only what the tables list is there. -/
def World.ofTables (settings : List (String × String)) (files : List (String × Content)) :
    World :=
  ⟨fun name => settings.lookup name, fun path => (files.lookup path).getD .nothing⟩

/-- Why a command ends without a report. -/
inductive Complaint where
  | configuration (path : String)
  | unreadable (path : String)
  | unparsable (path : String)
  | token
  | client
deriving DecidableEq, Repr

def Complaint.message : Complaint → String
  | .configuration path => "failed to load configuration from " ++ path
  | .unreadable path => "failed to read " ++ path
  | .unparsable path => "failed to parse " ++ path
  | .token => Setup.Error.missingToken.message
  | .client => "failed to configure the stack client"

/-- The names along a path. A name that is a dot counts only as the first one. -/
def pathNames (path : String) : List String :=
  match (path.splitOn "/").filter (!·.isEmpty) with
  | [] => []
  | first :: rest => first :: rest.filter (· != ".")

/-- Whether a path is that of the configuration if nothing else is said. -/
def isStandardPath (path : String) : Bool :=
  !path.startsWith "/" && pathNames path == [Switch.standardConfig]

/-- What stands behind the last dot of a file's name, unless the name begins with that dot. -/
def extension? (path : String) : Option String := do
  let name ← (pathNames path).getLast?
  let reversed := name.toList.reverse
  let ending := reversed.takeWhile (· != '.')
  let stem := reversed.drop (ending.length + 1)
  if stem.isEmpty then none else return String.ofList ending.reverse

/-- Whether a file holds JSON, by its name. -/
def isJsonPath (path : String) : Bool :=
  (extension? path).any fun ending => ending.map Char.toLower == "json"

/-- The document that a text holds, by the name of its file. -/
def parseDocument? (path content : String) : Option Json :=
  if isJsonPath path then (Json.parse content).toOption else Yaml.document? content

/-- Load a document. -/
def World.load (world : World) (path : String) : Except Complaint Json :=
  match world.files path with
  | .text content =>
    match parseDocument? path content with
    | some document => .ok document
    | none => .error (.unparsable path)
  | _ => .error (.unreadable path)

/-- Load the configuration. Without a file at the usual path, everything has its default. -/
def World.loadConfig (world : World) (path : String) : Except Complaint Config :=
  match world.files path with
  | .text content =>
    match (Yaml.ofText? Config.decode content).filter fun config => config.validate.isOk with
    | some config => .ok config
    | none => .error (.configuration path)
  | .nothing => if isStandardPath path then .ok .standard else .error (.configuration path)
  | .unreadable => .error (.configuration path)

/-! ## Commands -/

/-- What a command comes to once everything is loaded. -/
inductive Task where
  | say (line : String)
  | report (report : Report)
  /-- A program for the stack at the other end of a connection. -/
  | talk (connection : Connection) (program : Program Report)

/-- The line that names the version. -/
def versionLine : String := program ++ " " ++ programVersion ++ " (commit unknown)\n"

/-- A connection with the configured token; `trace` gives each request its trace. -/
def connect (setup : Setup) (trace : Nat → String) : Except Complaint Connection :=
  match setup.token with
  | .error _ => .error .token
  | .ok token =>
    (setup.connect trace (Http.FixedToken.source ⟨token⟩)).mapError fun _ => .client

/-- A transition that is reported. -/
def reportTransition (program : Program (Transition Json)) : Program Report :=
  program.map .ofTransition

/-- Compare documents. The plan is made only of a declaration that is valid. -/
def planReport (documents : Documents) (prior : Option Json) (desired : Json) : Report :=
  let diagnostics := documents.validate desired
  if diagnostics.hasError then .ofDiagnostics diagnostics
  else
    match documents.plan prior desired with
    | .ok plan => ⟨none, some plan, diagnostics⟩
    | .error errors => .ofDiagnostics (diagnostics ++ errors)

/-- List the modules, perhaps after some of them have become healthy. -/
def listModules (expected : List String) : Program Report :=
  (Program.awaitAll expected).bind fun diagnostics =>
    if diagnostics.hasError then .done (.ofDiagnostics diagnostics)
    else .call .listModules fun
      | .ok listing => .done ⟨some listing.toJson, none, diagnostics⟩
      | .error failure => .done (.ofDiagnostics (diagnostics ++ [failure]))

/-- What a command comes to in a setup. -/
def Command.task (world : World) (setup : Setup) (trace : Nat → String) :
    Command → Except Complaint Task
  | .create kind path => do
    let desired ← world.load path
    return .talk (← connect setup trace) (reportTransition (kind.documents.create desired))
  | .read kind path => do
    let state ← world.load path
    return .talk (← connect setup trace) (reportTransition (kind.documents.read state))
  | .update kind statePath desiredPath => do
    let state ← world.load statePath
    let desired ← world.load desiredPath
    return .talk (← connect setup trace) (reportTransition (kind.documents.update state desired))
  | .delete kind path => do
    let state ← world.load path
    return .talk (← connect setup trace) ((kind.documents.delete state).map .ofDiagnostics)
  | .adopt kind id => do
    return .talk (← connect setup trace) (reportTransition (kind.documents.adopt id))
  | .plan kind statePath desiredPath => do
    let desired ← world.load desiredPath
    let prior ← statePath.mapM world.load
    return .report (planReport kind.documents prior desired)
  | .validate document => do
    let checked ← document.mapM fun (kind, path) => do
      let desired ← world.load path
      return kind.documents.validate desired
    return .report (.ofDiagnostics (setup.validate ++ checked.getD []))
  | .modules wait => do
    return .talk (← connect setup trace)
      (listModules (if wait then setup.config.stack.expectedModules else []))
  | .version => .ok (.say versionLine)

/-! ## What a session looks up -/

/-- The paths of the documents that a command names. -/
def Command.paths : Command → List String
  | .create _ desired => [desired]
  | .read _ state => [state]
  | .update _ state desired => [state, desired]
  | .delete _ state => [state]
  | .adopt _ _ => []
  | .plan _ state desired => desired :: state.toList
  | .validate document => (document.map Prod.snd).toList
  | .modules _ => []
  | .version => []

/-- The paths that a command line leads to. -/
def pathsOf (ambient : Option String) (arguments : List String) : List String :=
  match Request.ofArguments ambient arguments with
  | .ok request => request.config :: request.command.paths
  | .error _ => []

/-- The variables that matter whatever the configuration says. -/
def fixedVariables : List String :=
  [Switch.configVariable, Config.clientIdVariable, Config.clientSecretVariable,
    Config.endpointVariable]

/-- The variables that hold the secrets of a configuration. -/
def secretVariables (config : Config) : List String :=
  config.cloud.clientSecretVariable.toList ++ config.access.tokenVariable.toList

/-- The variables that the configurations among some files name. -/
def World.secretVariables (world : World) (paths : List String) : List String :=
  paths.flatMap fun path =>
    match world.loadConfig path with
    | .ok config => CommandLine.secretVariables config
    | .error _ => []

/-! ## Sessions -/

/-- How a session ends. -/
structure Ending where
  code : Nat
  /-- What is printed as the answer. -/
  answer : String
  /-- What is printed besides, about the session itself. -/
  notice : String
deriving DecidableEq, Repr

namespace Ending

/-- The end of a session that has said something. -/
def said (answer : String) : Ending := ⟨0, answer, ""⟩

def ofReport (report : Report) : Ending := ⟨if report.isFailure then 1 else 0, report.render, ""⟩

def ofComplaint (complaint : Complaint) : Ending :=
  ⟨1, "", "Error: " ++ complaint.message ++ "\n"⟩

/-- The end of a session whose command line says no command. -/
def ofStop (ambient : Option String) : Stop → Ending
  | .help topic => .said (help ambient topic)
  | .version => .said (program ++ " " ++ programVersion ++ "\n")
  | .idle => ⟨2, "", help ambient .program⟩
  | .refused fault => ⟨2, "", "error: " ++ fault.message ++ "\n"⟩

end Ending

/-- Run what a command comes to. -/
def Task.run {σ : Type} (network : Http.Network σ) (start : σ) : Task → Ending
  | .say line => .said line
  | .report outcome => .ofReport outcome
  | .talk connection exchange =>
    .ofReport (exchange.run (connection.client.remote network) connection.patience .free
      ⟨0, start⟩ 0).value

/-- A whole session. -/
def session {σ : Type} (world : World) (network : Http.Network σ) (start : σ)
    (trace : Nat → String) (arguments : List String) : Ending :=
  let ambient := world.environment Switch.configVariable
  match Request.ofArguments ambient arguments with
  | .error stop => .ofStop ambient stop
  | .ok request =>
    let result : Except Complaint Task := do
      let config ← world.loadConfig request.config
      let setup : Setup := ⟨config, .ofEnvironment world.environment, world.environment⟩
      request.command.task world setup trace
    match result with
    | .error complaint => .ofComplaint complaint
    | .ok task => task.run network start

end Converge.CommandLine
