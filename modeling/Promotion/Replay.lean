import Promotion.Config.Load
import Promotion.Fixture
import Promotion.Json.Printer
import Promotion.Processor

/-!
# Replaying a recording

The command reads a recording, which is an event with the engine's answers to it, handles the event
with these answers, and prints the outcome. What it is given and what it says are values here:
`Replay.run` is a function of the arguments and of the surroundings.
-/

namespace Promotion

/-! ## Arguments -/

/-- What the command is asked to do. -/
inductive CommandLine where
  | replay (path : String) (compact : Bool)
  | help
  | version
  /-- The arguments are no request. -/
  | misused
deriving DecidableEq, Repr

namespace CommandLine

/-- The arguments read so far. -/
structure Progress where
  path : Option String := none
  compact : Bool := false
  /-- Whether everything that follows is a path. -/
  pathsOnly : Bool := false

/-- What short options ask for; the first of them that asks for something decides. -/
def ofLetters : List Char → CommandLine
  | 'h' :: _ => .help
  | 'V' :: _ => .version
  | _ => .misused

/-- Read arguments from left to right. A request for help or for the version is answered at once,
and so is an argument that cannot be understood. -/
def read (progress : Progress) : List String → CommandLine
  | [] =>
    match progress.path with
    | some path => .replay path progress.compact
    | none => .misused
  | argument :: rest =>
    let asPath : CommandLine :=
      if progress.path.isSome ∨ argument = "" then .misused
      else read { progress with path := some argument } rest
    if progress.pathsOnly then asPath
    else
      match argument.toList with
      | ['-', '-'] => read { progress with pathsOnly := true } rest
      | '-' :: '-' :: _ =>
        if argument = "--compact" then
          if progress.compact then .misused else read { progress with compact := true } rest
        else if argument = "--help" then .help
        else if argument = "--version" then .version
        else .misused
      | '-' :: letter :: letters => ofLetters (letter :: letters)
      | _ => asPath

def ofArguments (arguments : List String) : CommandLine :=
  read {} arguments

end CommandLine

/-! ## Runs -/

/-- How a run of the command ends. -/
structure Finish where
  exit : Nat
  output : String
  /-- The first line of the report on what went wrong. -/
  report : Option String
deriving DecidableEq, Repr

namespace Replay

/-- The name of the command, which is the name of its service too. -/
def name : String := "promo-replay"

def versionText : String :=
  name ++ " 0.1.0\n"

def helpText : String :=
  String.intercalate "\n"
    ["Replay a promotion translation from recorded engine responses", "",
      "Usage: " ++ name ++ " [OPTIONS] <FIXTURE>", "",
      "Arguments:", "  <FIXTURE>  录制文件路径", "",
      "Options:",
      "      --compact  以紧凑格式输出 JSON",
      "  -h, --help     Print help",
      "  -V, --version  Print version", ""]

/-- The files that a run may look at, besides the one with variables. -/
def files (arguments : List String) (vars : Variables) : List String :=
  match CommandLine.ofArguments arguments with
  | .replay path _ =>
    let configFiles := (AppConfig.configFiles name vars).flatMap fun file =>
      file :: ConfigFormat.all.map (AppConfig.extended file)
    configFiles ++ [path]
  | _ => []

/-- The outcome of a recording; where something is wrong, the report on it. -/
def outcome (path : String) (around : Surroundings) : Except String Outcome := do
  let config ← (AppConfig.load name around).mapError fun _ => "加载配置失败"
  match around.file? path with
  | none => .error ("读取录制文件失败: " ++ path)
  | some text =>
    match Fixture.read? text with
    | none => .error "录制文件格式无效"
    | some fixture => do
      let processor ← (Processor.ofConfig config.promotion).mapError Failure.message
      .ok (processor.handle (.recorded fixture.responses) () fixture.event).outcome

def print (compact : Bool) (outcome : Outcome) : String :=
  (if compact then outcome.toJson.compact else outcome.toJson.pretty) ++ "\n"

def firstLine (text : String) : String :=
  String.ofList (text.toList.takeWhile (· != '\n'))

def run (arguments : List String) (around : Surroundings) : Finish :=
  match CommandLine.ofArguments arguments with
  | .misused => ⟨2, "", none⟩
  | .help => ⟨0, helpText, none⟩
  | .version => ⟨0, versionText, none⟩
  | .replay path compact =>
    match outcome path around with
    | .ok outcome => ⟨0, print compact outcome, none⟩
    | .error report => ⟨1, "", some (firstLine report)⟩

end Replay

end Promotion
