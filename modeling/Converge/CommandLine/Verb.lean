/-!
# The words of the command line

A command line names a verb and gives switches. A switch is written with two dashes and its
name, or with one dash and its letter if it has one; most of them take a value. The switch
for the configuration goes with every verb, in front of it or behind it.
-/

namespace Converge.CommandLine

/-- What a switch takes. -/
inductive Operand where
  | text
  | path
  | kind
deriving DecidableEq, Repr

structure Switch where
  name : String
  letter : Option Char
  /-- What it takes; a switch may just be there. -/
  operand : Option Operand
  /-- Whether its verb cannot do without it. -/
  required : Bool
  about : String
deriving DecidableEq, Repr

/-- What is to be done, without the values. -/
inductive Verb where
  | create
  | read
  | update
  | delete
  | adopt
  | plan
  | validate
  | modules
  | version
deriving DecidableEq, Repr

/-- The name of the program. -/
def program : String := "stackform"

def programVersion : String := "0.1.0"

def programAbout : String := "Converge Formance stack resources"

namespace Switch

/-- How a switch is shown: its name, and in angle brackets what it takes. -/
def shown (switch : Switch) : String :=
  "--" ++ switch.name ++
    if switch.operand.isSome then " <" ++ switch.name.map Char.toUpper ++ ">" else ""

/-- The variable that may hold the path of the configuration. -/
def configVariable : String := "STACKFORM_CONFIG"

/-- The path of the configuration if nothing else is said. -/
def standardConfig : String := "stackform.yaml"

def config : Switch := ⟨"config", some 'c', some .path, false, "Path to the configuration file"⟩

def help : Switch := ⟨"help", some 'h', none, false, "Print help"⟩

def version : Switch := ⟨"version", some 'V', none, false, "Print version"⟩

def kind (required : Bool) (about : String) : Switch :=
  ⟨"kind", none, some .kind, required, about⟩

def state (required : Bool) (about : String) : Switch :=
  ⟨"state", none, some .path, required, about⟩

def desired (required : Bool) (about : String) : Switch :=
  ⟨"desired", none, some .path, required, about⟩

end Switch

namespace Verb

def all : List Verb :=
  [.create, .read, .update, .delete, .adopt, .plan, .validate, .modules, .version]

def name : Verb → String
  | .create => "create"
  | .read => "read"
  | .update => "update"
  | .delete => "delete"
  | .adopt => "import"
  | .plan => "plan"
  | .validate => "validate"
  | .modules => "modules"
  | .version => "version"

def ofName? (text : String) : Option Verb := all.find? (·.name == text)

def about : Verb → String
  | .create => "Create a resource from a desired document"
  | .read => "Refresh a stored state from the stack"
  | .update => "Converge a stored state to a desired document"
  | .delete => "Delete the resource a stored state describes"
  | .adopt => "Build a state from an existing remote object"
  | .plan => "Compare a stored state with a desired document, offline"
  | .validate => "Check the provider configuration and, optionally, a desired document"
  | .modules => "List stack modules with their version and health"
  | .version => "Print version information"

/-- The switch for the kind, where a verb needs one. -/
def kindSwitch : Switch := .kind true "Resource kind, e.g. `ledger` or `payments_pool`"

/-- The switches of a verb, besides those that all verbs have. -/
def switches : Verb → List Switch
  | .create => [kindSwitch, .desired true "Desired configuration (YAML or JSON)"]
  | .read => [kindSwitch, .state true "Stored state (YAML or JSON)"]
  | .update => [kindSwitch, .state true "", .desired true ""]
  | .delete => [kindSwitch, .state true ""]
  | .adopt => [kindSwitch, ⟨"id", none, some .text, true, "Remote identifier"⟩]
  | .plan =>
    [kindSwitch, .state false "Stored state; omitted for a resource that does not exist yet",
      .desired true ""]
  | .validate => [.kind false "", .desired false ""]
  | .modules =>
    [⟨"wait", none, none, false, "Wait for `stack.expected_modules` to report healthy first"⟩]
  | .version => []

end Verb

/-- The switches that are known behind a verb, or in front of one. -/
def switchesOf : Option Verb → List Switch
  | some verb => verb.switches ++ [.config, .help]
  | none => [.config, .help, .version]

end Converge.CommandLine
