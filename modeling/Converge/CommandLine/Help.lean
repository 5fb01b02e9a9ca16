import Converge.CommandLine.Verb

/-!
# Help

What is shown about the program and about its verbs: a sentence, the usage, and tables of
verbs and switches whose second column begins at the same place in all lines.
-/

namespace Converge.CommandLine

/-- Blanks. -/
def blanks (count : Nat) : String := String.ofList (List.replicate count ' ')

/-- The width of the widest text. -/
def widest (texts : List String) : Nat := (texts.map String.length).foldl max 0

/-- Lines of two columns. -/
def table (rows : List (String × String)) : List String :=
  let width := widest (rows.map Prod.fst)
  rows.map fun (name, about) => "  " ++ name ++ blanks (width + 2 - name.length) ++ about

/-- What help is given about. -/
inductive Topic where
  | program
  | verb (verb : Verb)
  /-- The verb that gives help. -/
  | help
deriving DecidableEq, Repr

/-- The name of the verb that gives help. -/
def helpVerb : String := "help"

def helpAbout : String := "Print this message or the help of the given subcommand(s)"

/-- The verbs with what they do, and the one that gives help. -/
def verbRows : List (String × String) :=
  Verb.all.map (fun verb => (verb.name, verb.about)) ++ [(helpVerb, helpAbout)]

/-- How a switch is written, with room for a letter in front. -/
def Switch.written (switch : Switch) : String :=
  (match switch.letter with
    | some letter => "-" ++ String.singleton letter ++ ", "
    | none => "    ") ++ switch.shown

/-- A switch with what it does. That for the configuration tells where its value comes from. -/
def Switch.row (ambient : Option String) (switch : Switch) : String × String :=
  (switch.written,
    if switch == .config then
      switch.about ++ " [env: " ++ Switch.configVariable ++ "=" ++ ambient.getD "" ++ "] [default: "
        ++ Switch.standardConfig ++ "]"
    else switch.about)

/-- A sentence, the usage, and tables with their titles. -/
def page (about usage : String) (tables : List (String × List (String × String))) : String :=
  "\n\n".intercalate (about :: ("Usage: " ++ usage)
    :: tables.map fun (title, rows) => "\n".intercalate (title :: table rows)) ++ "\n"

/-- What is shown about a topic. The switch for the configuration goes in front of those of a
verb. -/
def help (ambient : Option String) : Topic → String
  | .program =>
    page programAbout (program ++ " [OPTIONS] <COMMAND>")
      [("Commands:", verbRows), ("Options:", (switchesOf none).map (Switch.row ambient))]
  | .verb verb =>
    page verb.about
      (" ".intercalate ([program, verb.name, "[OPTIONS]"]
        ++ (verb.switches.filter (·.required)).map Switch.shown))
      [("Options:", (Switch.config :: verb.switches ++ [Switch.help]).map (Switch.row ambient))]
  | .help =>
    page helpAbout (program ++ " " ++ helpVerb ++ " [COMMAND]...")
      [("Arguments:", [("[COMMAND]...", "Print help for the subcommand(s)")])]

end Converge.CommandLine
