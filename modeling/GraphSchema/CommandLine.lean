import GraphSchema.Compilation.Basic

/-!
# The command line

What a run of the program does, apart from reading files and printing. Arguments
are taken from left to right. An argument that cannot be used ends the run, and
so does the wish to see the version, whichever comes first.
-/

namespace GraphSchema.CommandLine

open Sql (Dialect Statement)

/-- The options that take a value. -/
inductive ValueOption where
  | config
  | dialect
  | tablePrefix
  | existingTable
  | logLevel
  deriving DecidableEq, Repr

def ValueOption.ofName? (name : String) : Option ValueOption :=
  if name = "config" then some .config
  else if name = "dialect" then some .dialect
  else if name = "prefix" then some .tablePrefix
  else if name = "existing-table" then some .existingTable
  else if name = "log-level" then some .logLevel
  else none

/-- Why the arguments do not make up a run. -/
inductive Stop where
  | usage
  | version
  deriving DecidableEq, Repr

/-- What the arguments ask for. -/
structure Request where
  graph : Option String := none
  config : Option String := none
  dialect : Option Dialect := none
  tablePrefix : Option String := none
  existingTables : List String := []
  statements : Bool := false
  logLevel : Option String := none
  deriving DecidableEq, Repr

/-- An argument by itself. -/
inductive Argument where
  | positional
  /-- An option whose value is the next argument. -/
  | option (name : ValueOption)
  | optionWith (name : ValueOption) (value : String)
  | statements
  | version
  /-- All further arguments are positional. -/
  | separator
  | unknown
  deriving DecidableEq, Repr

/-- An argument that begins with two hyphens, without them. -/
def ofLongName (chars : List Char) : Argument :=
  let name := String.ofList (chars.takeWhile (· ≠ '='))
  let value? := match chars.dropWhile (· ≠ '=') with
    | [] => none
    | _ :: value => some (String.ofList value)
  match ValueOption.ofName? name, value? with
  | some name, some value => .optionWith name value
  | some name, none => .option name
  | none, none =>
      if name = "ddl" then .statements
      else if name = "version" then .version
      else .unknown
  | none, some _ => .unknown

/-- What an argument is. A lone hyphen is a value like any other. -/
def classify (argument : String) : Argument :=
  match argument.toList with
  | ['-', '-'] => .separator
  | '-' :: '-' :: name => ofLongName name
  | ['-'] => .positional
  | ['-', 'c'] => .option .config
  | '-' :: 'c' :: '=' :: value => .optionWith .config (String.ofList value)
  | '-' :: 'c' :: value => .optionWith .config (String.ofList value)
  | '-' :: 'V' :: _ => .version
  | '-' :: _ => .unknown
  | _ => .positional

/-- Whether an argument can be the value of the option before it. -/
def isValue (argument : String) : Bool :=
  classify argument == .positional

/-- Set what may be set once only. -/
def once {α : Type} (old : Option α) (new : α) : Except Stop (Option α) :=
  if old.isSome then .error .usage else .ok (some new)

/-- The path of a file, which is not empty. -/
def path (value : String) : Except Stop String :=
  if value.isEmpty then .error .usage else .ok value

namespace Request

/-- Add the value of an option. -/
def set (request : Request) (name : ValueOption) (value : String) :
    Except Stop Request :=
  match name with
  | .config => do
      let config ← once request.config (← path value)
      return { request with config }
  | .dialect =>
      match Dialect.ofName value with
      | .error _ => .error .usage
      | .ok dialect => do
          let dialect ← once request.dialect dialect
          return { request with dialect }
  | .tablePrefix => do
      let tablePrefix ← once request.tablePrefix value
      return { request with tablePrefix }
  | .existingTable =>
      .ok { request with existingTables := request.existingTables ++ [value] }
  | .logLevel => do
      let logLevel ← once request.logLevel value
      return { request with logLevel }

/-- Add the path of the graph. -/
def setGraph (request : Request) (value : String) : Except Stop Request := do
  let graph ← once request.graph (← path value)
  return { request with graph }

/-- Add the wish for statements. -/
def setStatements (request : Request) : Except Stop Request :=
  if request.statements then .error .usage
  else .ok { request with statements := true }

/-- Add some arguments. -/
def addAll (request : Request) : List String → Except Stop Request
  | [] => .ok request
  | argument :: rest =>
      match classify argument with
      | .positional => do (← request.setGraph argument).addAll rest
      | .optionWith name value => do (← request.set name value).addAll rest
      | .option name =>
          match rest with
          | [] => .error .usage
          | value :: rest =>
              if isValue value then do
                (← request.set name value).addAll rest
              else
                .error .usage
      | .statements => do (← request.setStatements).addAll rest
      | .version => .error .version
      | .separator => rest.foldlM setGraph request
      | .unknown => .error .usage

end Request

/-- What is said about arguments that cannot be used. -/
def usage : String := "Usage: relgraph [OPTIONS] [GRAPH]"

/-- What is left when a run is over: the exit code, the standard output and the
message of a failure. -/
structure Outcome where
  exitCode : Nat
  output : String
  failure : Option String
  deriving DecidableEq, Repr

def Outcome.ofStop : Stop → Outcome
  | .usage => ⟨2, "", none⟩
  | .version => ⟨0, "relgraph 0.1.0\n", none⟩

/-- The graph that is compiled when no other is given. -/
def demoTypes : List RecordType := [
  ⟨"Human", [
    ⟨"name", .scalar .string, none⟩,
    ⟨"born", .scalar .string, some .date⟩,
    ⟨"home", .object "Location", none⟩,
    ⟨"pets", .collection .map (.type "Pet"), none⟩,
    ⟨"nicknames", .collection .array (.scalar .string), none⟩]⟩,
  ⟨"Location", [
    ⟨"city", .scalar .string, none⟩,
    ⟨"latitude", .scalar .number, none⟩,
    ⟨"longitude", .scalar .number, none⟩]⟩,
  ⟨"Pet", [
    ⟨"name", .scalar .string, none⟩,
    ⟨"vaccinated", .scalar .boolean, none⟩]⟩]

def demoGraph : TypeGraph := ⟨demoTypes, by decide⟩

/-- The document in a file, or how the run fails. -/
def readFile {α : Type} (files : String → Option String) (kind file : String)
    (read : Json.Reader α) : Except String α :=
  match files file with
  | none => .error ("reading " ++ kind ++ " " ++ file)
  | some text =>
      match (Json.Source.ofText text).read read with
      | .error _ => .error ("parsing " ++ kind ++ " " ++ file)
      | .ok value => .ok value

namespace Request

/-- The files that a run reads. -/
def files (request : Request) : List String :=
  request.config.toList ++ request.graph.toList

/-- The settings of a run. What the arguments say comes before what the
configuration says. -/
def settings (request : Request) (files : String → Option String) :
    Except String Settings := do
  let settings ← match request.config with
    | some file => readFile files "config" file Settings.read
    | none => .ok {}
  return { settings with
    dialect := request.dialect.getD settings.dialect
    tablePrefix := request.tablePrefix.getD settings.tablePrefix }

/-- The graph of a run. -/
def typeGraph (request : Request) (files : String → Option String) :
    Except String TypeGraph :=
  match request.graph with
  | some file => readFile files "type graph" file TypeGraph.read
  | none => .ok demoGraph

/-- The standard output of a run that does not fail. -/
def output (request : Request) (files : String → Option String) :
    Except String String := do
  let settings ← request.settings files
  let graph ← request.typeGraph files
  let compilation ←
    (compile settings graph request.existingTables).mapError CompileError.message
  if request.statements then
    let statements := (compilation.create settings.dialect).map fun statement =>
      statement.text settings.dialect ++ ";\n"
    return "\n".intercalate statements ++ "\n"
  else
    return compilation.toJson.pretty ++ "\n"

/-- A run. -/
def run (request : Request) (files : String → Option String) : Outcome :=
  match request.output files with
  | .ok output => ⟨0, output, none⟩
  | .error message => ⟨1, "", some ("Error: " ++ message)⟩

end Request

/-- What the arguments ask for, or how the run ends without it. -/
def parse (arguments : List String) : Except Stop Request :=
  Request.addAll {} arguments

/-- A run with some arguments and files. -/
def run (arguments : List String) (files : String → Option String) : Outcome :=
  match parse arguments with
  | .ok request => request.run files
  | .error stop => .ofStop stop

end GraphSchema.CommandLine
