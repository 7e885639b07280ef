import BenchReport.Window

/-! The command line: which command it names, and its arguments. -/
namespace BenchReport.CommandLine

/-- A set of measurements by which queries are chosen. -/
inductive QuerySet
  | write | read | index | resources | all
  deriving DecidableEq

def QuerySet.ofName? (name : String) : Option QuerySet :=
  [("write", write), ("read", read), ("index", index), ("resources", resources),
    ("all", all)].lookup name

/-- What to do. -/
inductive Command
  | version
  | help
  | queries (set : QuerySet) (window : Window) (job : Option String) (asJson : Bool)
  | exportCsv (input : String) (reportDir : Option String) (configPath : String)
  | report (dirs : List String) (template : Option String)

/-- Arguments sorted out: options with their values, flags, and all others in order. -/
structure Arguments where
  options : List (String × String)
  flags : List String
  others : List String

namespace Arguments

def empty : Arguments := ⟨[], [], []⟩

def option? (arguments : Arguments) (name : String) : Option String := arguments.options.lookup name

/-- One more option; each comes once, with a value that it accepts. -/
def addOption? (arguments : Arguments) (accepts : String → Bool) (name value : String) :
    Option Arguments :=
  if (arguments.option? name).isSome || !accepts value then none
  else some { arguments with options := arguments.options ++ [(name, value)] }

/-- One more flag; each comes once. -/
def addFlag? (arguments : Arguments) (name : String) : Option Arguments :=
  if arguments.flags.contains name then none
  else some { arguments with flags := arguments.flags ++ [name] }

/-- The name of a long option, and the value after its equals sign. -/
def splitLong? (word : String) : Option (String × Option String) :=
  match word.toList with
  | '-' :: '-' :: rest =>
    let value := match rest.dropWhile (· != '=') with
      | _ :: value => some (String.ofList value)
      | [] => none
    some (String.ofList (rest.takeWhile (· != '=')), value)
  | _ => none

end Arguments

/-- What a command takes: options, each with the values it accepts, flags, and other words, given
those before. -/
structure Grammar where
  options : List (String × (String → Bool))
  flags : List String
  accepts : List String → String → Bool

/-- What words come to: arguments, a call for help, or nothing that makes sense. -/
inductive Reading
  | arguments (arguments : Arguments)
  | help
  | misuse

/-- Whether a word looks like an option: it begins with a dash and goes on. -/
def looksLikeOption (word : String) : Bool :=
  match word.toList with
  | '-' :: _ :: _ => true
  | _ => false

/-- Whether a word calls a flag of one letter, which others may follow. -/
def callsLetter (letter : Char) (word : String) : Bool :=
  match word.toList with
  | '-' :: c :: _ => c == letter
  | _ => false

def asksHelp (word : String) : Bool := word == "--help" || callsLetter 'h' word

namespace Grammar

def takeOthers (grammar : Grammar) : List String → Arguments → Reading
  | [], arguments => .arguments arguments
  | word :: rest, arguments =>
    if grammar.accepts arguments.others word then
      takeOthers grammar rest { arguments with others := arguments.others ++ [word] }
    else .misuse

/-- Sorts out words from left to right, up to the first that asks for help or makes no sense. Two
dashes end the options. -/
def read (grammar : Grammar) : List String → Arguments → Reading
  | [], arguments => .arguments arguments
  | word :: rest, arguments =>
    if word = "--" then grammar.takeOthers rest arguments
    else if asksHelp word then .help
    else if !looksLikeOption word then
      if grammar.accepts arguments.others word then
        read grammar rest { arguments with others := arguments.others ++ [word] }
      else .misuse
    else
      match Arguments.splitLong? word with
      | none => .misuse
      | some (name, value) =>
        match grammar.options.lookup name with
        | some accepts =>
          match value, rest with
          | some value, rest =>
            match arguments.addOption? accepts name value with
            | none => .misuse
            | some arguments => read grammar rest arguments
          | none, [] => .misuse
          | none, value :: rest =>
            if looksLikeOption value then .misuse
            else
              match arguments.addOption? accepts name value with
              | none => .misuse
              | some arguments => read grammar rest arguments
        | none =>
          if grammar.flags.contains name && value.isNone then
            match arguments.addFlag? name with
            | none => .misuse
            | some arguments => read grammar rest arguments
          else .misuse

end Grammar

def standardWindow : Window := .ofMinutes 5

/-- The settings file of an export unless another is given. -/
def standardConfig : String := "lokibench.json"

def window? (text : String) : Option Window := (Window.parse text).toOption

/-- Whether a text is a path: any but the empty one. -/
def isPath (text : String) : Bool := !text.isEmpty

/-- The arguments of queries: options alone. -/
def queriesGrammar : Grammar where
  options :=
    [("set", fun text => (QuerySet.ofName? text).isSome),
      ("window", fun text => (window? text).isSome), ("job", fun _ => true)]
  flags := ["json"]
  accepts _ _ := false

/-- The arguments of an export: one input. -/
def exportGrammar : Grammar where
  options := [("report-dir", isPath), ("config", isPath)]
  flags := []
  accepts before word := before.isEmpty && isPath word

/-- The arguments of a report: any number of directories. -/
def reportGrammar : Grammar where
  options := [("template", isPath)]
  flags := []
  accepts _ word := isPath word

def queriesOf (arguments : Arguments) : Command :=
  .queries (((arguments.option? "set").bind QuerySet.ofName?).getD .all)
    (((arguments.option? "window").bind window?).getD standardWindow)
    (arguments.option? "job") (arguments.flags.contains "json")

/-- The export that arguments ask for; its input has to be there. -/
def exportOf? (arguments : Arguments) : Option Command :=
  arguments.others.head?.map fun input =>
    .exportCsv input (arguments.option? "report-dir")
      ((arguments.option? "config").getD standardConfig)

/-- The report that arguments ask for; it takes at least one directory. -/
def reportOf? (arguments : Arguments) : Option Command :=
  if arguments.others.isEmpty then none
  else some (.report arguments.others (arguments.option? "template"))

/-- The command that words come to, given what arguments ask for. -/
def Reading.command? (build? : Arguments → Option Command) : Reading → Option Command
  | arguments a => build? a
  | help => some .help
  | misuse => none

def Command.names : List String := ["queries", "export-csv", "report", "help"]

/-- The command of a command line, unless it makes no sense. -/
def Command.ofWords? : List String → Option Command
  | [] => none
  | word :: rest =>
    if word = "--version" || callsLetter 'V' word then some version
    else if asksHelp word then some help
    else if word = "queries" then (queriesGrammar.read rest .empty).command? (some ∘ queriesOf)
    else if word = "export-csv" then (exportGrammar.read rest .empty).command? exportOf?
    else if word = "report" then (reportGrammar.read rest .empty).command? reportOf?
    else if word = "help" then
      match rest with
      | [] => some help
      | [name] => if Command.names.contains name then some help else none
      | _ => none
    else none

end BenchReport.CommandLine
