import ReadYourWrites.Config
import ReadYourWrites.Text.Blank
import ReadYourWrites.Text.Numeral

-- The command line of a program that uses the client. Two flags set the interval and the timeout in
-- milliseconds; a variable of the environment stands in for a flag that is not given.

namespace ReadYourWrites.Flags

inductive Setting where
  | interval
  | timeout
deriving DecidableEq, Repr

namespace Setting

def flagName : Setting → String
  | .interval => "cache-poll-interval-ms"
  | .timeout => "cache-poll-timeout-ms"

def variableName : Setting → String
  | .interval => "KIOSK_CACHE_POLL_INTERVAL_MS"
  | .timeout => "KIOSK_CACHE_POLL_TIMEOUT_MS"

def default : Setting → Nat
  | .interval => 5
  | .timeout => 2000

end Setting

-- Why no configuration comes out of a command line.
inductive Stop where
  | help
  | version
  | unknownArgument
  | repeatedFlag
  | invalidValue
deriving DecidableEq, Repr

-- What an argument is in itself. A value behind the first equals sign belongs to the flag.
inductive Argument where
  | setting (setting : Setting) (value : Option String)
  | help
  | version
  -- Two hyphens alone.
  | separator
  | plain (text : String)
  | unknown
deriving DecidableEq, Repr

-- A flag by its name, which may follow more than two hyphens. All equals signs in front of the
-- value are skipped.
def Argument.ofLong (text : List Char) : Argument :=
  let name := (text.takeWhile (· ≠ '=')).dropWhile (· = '-')
  let value := match text.dropWhile (· ≠ '=') with
    | [] => none
    | rest => some (String.ofList (rest.dropWhile (· = '=')))
  if name = Setting.interval.flagName.toList then .setting .interval value
  else if name = Setting.timeout.flagName.toList then .setting .timeout value
  else if name = "help".toList then .help
  else if name = "version".toList then .version
  else .unknown

-- Letters behind one hyphen. The first of them decides.
def Argument.ofShort : List Char → Argument
  | 'h' :: _ => .help
  | 'V' :: _ => .version
  | _ => .unknown

def Argument.ofText (text : String) : Argument :=
  match text.toList with
  | ['-', '-'] => .separator
  | '-' :: '-' :: rest => .ofLong ('-' :: '-' :: rest)
  | ['-'] => .plain text
  | '-' :: rest => .ofShort rest
  | _ => .plain text

-- What has been given for a setting: how often the flag stood there, and its values.
structure Given where
  count : Nat
  values : List String
deriving Repr

structure Usage where
  interval : Given
  timeout : Given
deriving Repr

namespace Usage

def start : Usage :=
  ⟨⟨0, []⟩, ⟨0, []⟩⟩

def get (u : Usage) : Setting → Given
  | .interval => u.interval
  | .timeout => u.timeout

def modify (u : Usage) (setting : Setting) (f : Given → Given) : Usage :=
  match setting with
  | .interval => { u with interval := f u.interval }
  | .timeout => { u with timeout := f u.timeout }

def occur (u : Usage) (setting : Setting) : Usage :=
  u.modify setting fun g => { g with count := g.count + 1 }

def addValue (u : Usage) (setting : Setting) (value : String) : Usage :=
  u.modify setting fun g => { g with values := g.values ++ [value] }

end Usage

-- Goes through the arguments. A flag without a value of its own takes the next argument if that is
-- plain.
def scan (waiting : Option Setting) (u : Usage) : List String → Except Stop Usage
  | [] => .ok u
  | text :: rest =>
    match Argument.ofText text with
    | .setting setting (some value) => scan none ((u.occur setting).addValue setting value) rest
    | .setting setting none => scan (some setting) (u.occur setting) rest
    | .help => .error .help
    | .version => .error .version
    | .separator => if rest = [] then .ok u else .error .unknownArgument
    | .unknown => .error .unknownArgument
    | .plain value =>
      match waiting with
      | some setting => scan none (u.addValue setting value) rest
      | none => .error .unknownArgument

-- The milliseconds of a setting. The first value counts, but all have to be numbers: those of the
-- flag, then that of the variable, and the default if there is none of them.
def resolve (u : Usage) (environment : List (String × String)) (setting : Setting) :
    Except Stop Nat := do
  let given := u.get setting
  let values := given.values ++ (environment.lookup setting.variableName).toList
  let numbers ← match values.mapM Text.readWord with
    | some numbers => pure numbers
    | none => throw .invalidValue
  if 1 < given.count then throw .repeatedFlag
  return numbers.headD setting.default

-- The configuration that arguments and environment ask for. The interval is raised to the shortest
-- one.
def parse (arguments : List String) (environment : List (String × String)) :
    Except Stop Config := do
  let u ← scan none Usage.start arguments
  let interval ← resolve u environment .interval
  let timeout ← resolve u environment .timeout
  return ⟨(Span.ofMillis interval).max Config.minInterval, .ofMillis timeout⟩

-- What a program does with its command line before it starts.
structure Launch where
  exitCode : Nat
  config : Option Config
  -- The text printed in answer to a question for the version.
  versionText : Option String
deriving Repr

-- The line that tells the version. A text of several lines is none.
def versionLine (version : String) : Option String :=
  let text := Text.trim ("kiosk " ++ version).toList
  if text.contains '\n' then none else some (.ofList text)

def launch (version : String) (arguments : List String) (environment : List (String × String)) :
    Launch :=
  match parse arguments environment with
  | .ok config => ⟨0, some config, none⟩
  | .error .help => ⟨0, none, none⟩
  | .error .version => ⟨0, none, versionLine version⟩
  | .error _ => ⟨1, none, none⟩

end ReadYourWrites.Flags
