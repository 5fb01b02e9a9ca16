import Converge.CommandLine.Help
import Converge.Resource.Kind

/-!
# Reading the command line

The words of a command line are judged from left to right. A switch that takes a value takes
the rest of its own word, or else the next word unless that is a switch itself; the value is
judged when the next switch begins or the words end. What is asked for by `--help` and
`--version` is given at once, whatever else stands on the line. Behind two dashes nothing is
a switch any more.

The words behind a verb are judged as a whole before those in front of it. The variable for
the configuration counts where the switch is not given.
-/

namespace Converge.CommandLine

/-- Why a command line is refused. -/
inductive Fault where
  | unexpectedArgument (text : String)
  | missingArguments
  | unknownVerb (text : String)
  | missingVerb
  | missingValue (switch : Switch)
  | invalidKind (text : String) (switch : Switch)
  | repeated (switch : Switch)
  | surplusValue (text : String) (switch : Switch)
deriving DecidableEq, Repr

/-- The first line of the message about a fault. -/
def Fault.message : Fault → String
  | .unexpectedArgument text => "unexpected argument '" ++ text ++ "' found"
  | .missingArguments => "the following required arguments were not provided:"
  | .unknownVerb text => "unrecognized subcommand '" ++ text ++ "'"
  | .missingVerb => "'" ++ program ++ "' requires a subcommand but one was not provided"
  | .missingValue switch =>
    "a value is required for '" ++ switch.shown ++ "' but none was supplied"
  | .invalidKind text switch =>
    "invalid value '" ++ text ++ "' for '" ++ switch.shown ++ "': " ++ Kind.unknownMessage text
  | .repeated switch => "the argument '" ++ switch.shown ++ "' cannot be used multiple times"
  | .surplusValue text switch =>
    "unexpected value '" ++ text ++ "' for '" ++ switch.shown ++ "' found; no more were expected"

/-- Why reading ends before the command is known. -/
inductive Stop where
  /-- Help is asked for. -/
  | help (topic : Topic)
  | version
  /-- Nothing is given at all. -/
  | idle
  | refused (fault : Fault)
deriving DecidableEq, Repr

/-- The value of a switch. -/
inductive Given where
  | present
  | text (value : String)
  | kind (value : Kind)
deriving DecidableEq, Repr

/-- What has been read of the words on one side of the verb. -/
structure Held where
  verb : Option Verb
  given : List (String × Given)
  /-- The switch that is still open, with its value if that has been read. -/
  pending : Option (Switch × Option String)
deriving Repr

namespace Held

def start (verb : Option Verb) : Held := ⟨verb, [], none⟩

def refuse {α : Type} (fault : Fault) : Except Stop α := .error (.refused fault)

/-- The text that was given for a switch. -/
def text? (held : Held) (switch : String) : Option String :=
  match held.given.lookup switch with
  | some (.text value) => some value
  | _ => none

/-- The kind that was given. -/
def kind? (held : Held) : Option Kind :=
  match held.given.lookup "kind" with
  | some (.kind value) => some value
  | _ => none

/-! ## Switches -/

/-- Judge the value of a switch. -/
def judge (switch : Switch) (value : String) : Except Stop Given :=
  match switch.operand with
  | some .kind =>
    match Kind.ofName? value with
    | some kind => .ok (.kind kind)
    | none => refuse (.invalidKind value switch)
  | some .path => if value.isEmpty then refuse (.missingValue switch) else .ok (.text value)
  | _ => .ok (.text value)

/-- Take in a switch, which may be given once. -/
def add (held : Held) (switch : Switch) (value : Except Stop Given) : Except Stop Held :=
  if (held.given.lookup switch.name).isSome then refuse (.repeated switch)
  else value.map fun value => { held with given := (switch.name, value) :: held.given }

/-- Judge the switch that is still open. -/
def settle (held : Held) : Except Stop Held :=
  match held.pending with
  | none => .ok held
  | some (switch, none) => refuse (.missingValue switch)
  | some (switch, some value) => { held with pending := none }.add switch (judge switch value)

/-- A switch that takes a value, which is attached or may follow. -/
def openSwitch (held : Held) (switch : Switch) (attached : Option String) : Except Stop Held := do
  let held ← held.settle
  match attached with
  | some value => held.add switch (judge switch value)
  | none => return { held with pending := some (switch, none) }

/-- A switch that is just there. -/
def flag (held : Held) (switch : Switch) : Except Stop Held := do
  let held ← held.settle
  if switch == .help then throw (.help (held.verb.elim .program .verb))
  if switch == .version then throw .version
  held.add switch (.ok .present)

/-- A word with two dashes in front. -/
def longWord (held : Held) (word : List Char) : Except Stop Held :=
  let name := String.ofList (word.takeWhile (· != '='))
  let attached := match word.dropWhile (· != '=') with
    | [] => none
    | _ :: value => some (String.ofList value)
  match (switchesOf held.verb).find? (·.name == name) with
  | none => refuse (.unexpectedArgument ("--" ++ name))
  | some switch =>
    if switch.operand.isSome then held.openSwitch switch attached
    else
      match attached with
      | some value => refuse (.surplusValue value switch)
      | none => held.flag switch

/-- A word with one dash in front: letters of switches, of which one that takes a value takes
what is left of the word. -/
def shortWord (held : Held) : List Char → Except Stop Held
  | [] => .ok held
  | letter :: rest =>
    match (switchesOf held.verb).find? (·.letter == some letter) with
    | none => refuse (.unexpectedArgument ("-" ++ String.singleton letter))
    | some switch =>
      if switch.operand.isSome then
        held.openSwitch switch (match rest with
          | [] => none
          | '=' :: value => some (String.ofList value)
          | value => some (String.ofList value))
      else
        match held.flag switch with
        | .error stop => .error stop
        | .ok held => shortWord held rest

/-! ## Words -/

/-- The topic that words name, each of which goes on from what those before it name. Nothing
goes on from a verb. -/
def topic : Topic → List String → Stop
  | about, [] => .help about
  | .program, name :: rest =>
    if name == helpVerb then topic .help rest
    else
      match Verb.ofName? name with
      | some verb => topic (.verb verb) rest
      | none => .refused (.unknownVerb name)
  | _, name :: _ => .refused (.unknownVerb name)

/-- Refuse a word that is no switch and no value of one; `dashed` says that it stands behind
two dashes. -/
def strayWord {α : Type} (held : Held) (word : String) (dashed : Bool) : Except Stop α :=
  let isVerb := (Verb.ofName? word).isSome || word == helpVerb
  if held.verb.isSome || (dashed && isVerb) then refuse (.unexpectedArgument word)
  else refuse (.unknownVerb word)

/-- Read the words up to the verb, if one may come; what is left are the words behind it. -/
def words (held : Held) : List String → Except Stop (Held × Option (Verb × List String))
  | [] => .ok (held, none)
  | word :: rest =>
    let awaits := held.pending.any (·.2.isNone)
    if !awaits && held.verb.isNone && word == helpVerb then .error (topic .program rest)
    else
      match if awaits || held.verb.isSome then none else Verb.ofName? word with
      | some verb => .ok (held, some (verb, rest))
      | none =>
        match word.toList with
        | ['-', '-'] =>
          match rest with
          | [] => .ok (held, none)
          | stray :: _ => held.strayWord stray true
        | '-' :: '-' :: long =>
          match held.longWord long with
          | .error stop => .error stop
          | .ok held => words held rest
        | '-' :: letter :: letters =>
          match held.shortWord (letter :: letters) with
          | .error stop => .error stop
          | .ok held => words held rest
        | _ =>
          match held.pending with
          | some (switch, none) => words { held with pending := some (switch, some word) } rest
          | _ => held.strayWord word false

/-- The path of the configuration that the words give. -/
def config? (held : Held) : Option String := held.text? Switch.config.name

/-- Judge the variable for the configuration, which counts where the words give no path. -/
def judgeVariable (held : Held) (ambient : Option String) : Except Stop Unit :=
  match held.config?, ambient with
  | none, some value => (judge .config value).map fun _ => ()
  | _, _ => .ok ()

end Held

/-! ## Commands -/

/-- What is to be done. -/
inductive Command where
  | create (kind : Kind) (desired : String)
  | read (kind : Kind) (state : String)
  | update (kind : Kind) (state desired : String)
  | delete (kind : Kind) (state : String)
  | adopt (kind : Kind) (id : String)
  | plan (kind : Kind) (state : Option String) (desired : String)
  /-- A document to check besides the configuration, with its kind. -/
  | validate (document : Option (Kind × String))
  | modules (wait : Bool)
  | version
deriving DecidableEq, Repr

/-- The command of a verb, if everything that it requires is given. -/
def Command.ofHeld? (held : Held) : Verb → Option Command
  | .create => return .create (← held.kind?) (← held.text? "desired")
  | .read => return .read (← held.kind?) (← held.text? "state")
  | .update => return .update (← held.kind?) (← held.text? "state") (← held.text? "desired")
  | .delete => return .delete (← held.kind?) (← held.text? "state")
  | .adopt => return .adopt (← held.kind?) (← held.text? "id")
  | .plan => return .plan (← held.kind?) (held.text? "state") (← held.text? "desired")
  | .validate =>
    match held.kind?, held.text? "desired" with
    | some kind, some desired => some (.validate (some (kind, desired)))
    | none, none => some (.validate none)
    | _, _ => none
  | .modules => some (.modules (held.given.lookup "wait").isSome)
  | .version => some .version

/-- A command with the path of the configuration. -/
structure Request where
  config : String
  command : Command
deriving DecidableEq, Repr

/-- Read a command line, given the variable for the configuration. A path behind the verb
counts before one in front of it, and both count before the variable. -/
def Request.ofArguments (ambient : Option String) (arguments : List String) :
    Except Stop Request := do
  let (outer, behind?) ← (Held.start none).words arguments
  match behind? with
  | none =>
    let outer ← outer.settle
    outer.judgeVariable ambient
    if outer.given.isEmpty && ambient.isNone then throw .idle
    Held.refuse .missingVerb
  | some (verb, rest) =>
    let (inner, _) ← (Held.start (some verb)).words rest
    let inner ← inner.settle
    inner.judgeVariable ambient
    let some command := Command.ofHeld? inner verb
      | Held.refuse .missingArguments
    let outer ← outer.settle
    outer.judgeVariable ambient
    let path := inner.config?.or (outer.config?.or ambient)
    return ⟨path.getD Switch.standardConfig, command⟩

end Converge.CommandLine
