/-!
The command line.
-/

namespace Multicast

structure Options where
  config : String := "/etc/sonic/mroutemgrd.toml"
  logLevel : String := "info"
  deriving DecidableEq

inductive Request where
  | serve (options : Options)
  | check (options : Options)
  | version
  | help
  | refused
  deriving DecidableEq

namespace CommandLine

structure Given where
  config : Option String := none
  logLevel : Option String := none
  check : Bool := false

def Given.request (given : Given) : Request :=
  let defaults : Options := {}
  let options : Options :=
    { config := given.config.getD defaults.config
      logLevel := given.logLevel.getD defaults.logLevel }
  if given.check then .check options else .serve options

inductive Setting where
  | config
  | logLevel

/-- Sets an option, which may be set only once. A path cannot be empty. -/
def set? (setting : Setting) (value : String) (given : Given) : Option Given :=
  match setting with
  | .config =>
    if given.config.isSome || value.isEmpty then none else some { given with config := some value }
  | .logLevel =>
    if given.logLevel.isSome then none else some { given with logLevel := some value }

inductive Argument where
  | set (setting : Setting) (value : String)
  | awaits (setting : Setting)
  | check
  | version
  | help
  | finish
  | unknown

def attached (setting : Setting) : List Char → Argument
  | [] => .awaits setting
  | '=' :: value => .set setting (String.ofList value)
  | value => .set setting (String.ofList value)

def named (setting : Setting) : List Char → Argument
  | [] => .awaits setting
  | value => .set setting (String.ofList (value.drop 1))

def Argument.ofText (text : String) : Argument :=
  match text.toList with
  | ['-', '-'] => .finish
  | '-' :: '-' :: long =>
    let value := long.dropWhile (· ≠ '=')
    match String.ofList (long.takeWhile (· ≠ '=')), value with
    | "config", _ => named .config value
    | "log-level", _ => named .logLevel value
    | "check", [] => .check
    | "version", [] => .version
    | "help", [] => .help
    | _, _ => .unknown
  | '-' :: 'c' :: value => attached .config value
  | '-' :: 'l' :: value => attached .logLevel value
  | '-' :: 'V' :: _ => .version
  | '-' :: 'h' :: _ => .help
  | _ => .unknown

def isValue (text : String) : Bool := text = "-" || text.toList.head? ≠ some '-'

/-- Reads arguments in order. The first that asks for something else, or that is wrong, decides. -/
def readFrom : Given → List String → Request
  | given, [] => given.request
  | given, text :: rest =>
    match Argument.ofText text with
    | .set setting value =>
      match set? setting value given with
      | some given => readFrom given rest
      | none => .refused
    | .awaits setting =>
      match rest with
      | [] => .refused
      | value :: rest =>
        if isValue value then
          match set? setting value given with
          | some given => readFrom given rest
          | none => .refused
        else .refused
    | .check => if given.check then .refused else readFrom { given with check := true } rest
    | .version => .version
    | .help => .help
    | .finish => if rest.isEmpty then given.request else .refused
    | .unknown => .refused

def read (args : List String) : Request := readFrom {} args

end CommandLine

end Multicast
