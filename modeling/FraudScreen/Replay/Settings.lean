import FraudScreen.Decimal.Reader
import FraudScreen.Screening.Screener

/-!
# Settings

What a replay is told: by arguments, by variables of its environment where an argument is missing, and
by defaults where both are. An argument is a flag, with its value behind an equals sign or in the next
argument. A value is looked at when the next flag has been recognised, so a flag that is not known is
reported before a bad value of the flag before it.
-/
namespace FraudScreen.Replay

/-- The things that can be set, in the order in which variables are looked at. -/
inductive Setting where
  | rulesPath
  | blacklistPath
  | whitelistPath
  | backend
  | hotReloadMs
  | input
  | modelVersion
  | logLevel
  | logJson
deriving DecidableEq, Repr

namespace Setting

def all : List Setting :=
  [rulesPath, blacklistPath, whitelistPath, backend, hotReloadMs, input, modelVersion, logLevel, logJson]

/-- The flag of a setting, without its hyphens. -/
def flag : Setting → String
  | rulesPath => "rules-path"
  | blacklistPath => "blacklist-path"
  | whitelistPath => "whitelist-path"
  | backend => "backend"
  | hotReloadMs => "hot-reload-ms"
  | input => "input"
  | modelVersion => "model-version"
  | logLevel => "log-level"
  | logJson => "log-json"

/-- The variable of a setting. -/
def variableName : Setting → String
  | rulesPath => "RISKCORE_RULES_PATH"
  | blacklistPath => "RISKCORE_BLACKLIST_PATH"
  | whitelistPath => "RISKCORE_WHITELIST_PATH"
  | backend => "RISKCORE_PATTERN_BACKEND"
  | hotReloadMs => "RISKCORE_HOT_RELOAD_MS"
  | input => "RISKCORE_INPUT"
  | modelVersion => "RISKCORE_MODEL_VERSION"
  | logLevel => "RUST_LOG"
  | logJson => "RISKCORE_LOG_JSON"

/-- The flag takes a value. The one that does not stands for `true`. -/
def takesValue (s : Setting) : Bool := s != logJson

/-- The setting with a flag. -/
def ofFlag? (flag : List Char) : Option Setting := all.find? (·.flag.toList = flag)

end Setting

/-- What is wrong with arguments or variables. -/
inductive SettingsFault where
  | helpAsked
  | unknownArgument
  | missingValue (s : Setting)
  | emptyPath (s : Setting)
  | badValue (s : Setting)
  /-- A value that is none of the few that can be chosen from. -/
  | noChoice (s : Setting)
  | repeated (s : Setting)
  /-- A value where none can be. -/
  | unwantedValue
deriving DecidableEq, Repr

/-! ## Values -/

/-- Milliseconds are below two to the sixty-fourth. -/
def mostMilliseconds : Nat := UInt64.size - 1

/-- Accepts the value of a setting, or says what is wrong with it. -/
def Setting.check (s : Setting) (value : String) : Except SettingsFault Unit :=
  let demand (holds : Bool) : Except SettingsFault Unit := if holds then .ok () else .error (.badValue s)
  match s with
  | rulesPath | blacklistPath | whitelistPath => if value = "" then .error (.emptyPath s) else .ok ()
  | backend => demand (Screening.Request.read? value).toBool
  | hotReloadMs => demand (Decimal.readNat? mostMilliseconds value.toList).isSome
  | logJson => if value = "true" ∨ value = "false" then .ok () else .error (.noChoice s)
  | input | modelVersion | logLevel => .ok ()

/-- Settings with their values, the latest first. -/
abbrev Given := List (Setting × String)

/-- Adds a setting, which must not be there yet and must have a good value. -/
def Given.add (g : Given) (s : Setting) (value : String) : Except SettingsFault Given :=
  if (g.lookup s).isSome then .error (.repeated s)
  else (s.check value).map fun () => (s, value) :: g

/-! ## Arguments -/

/-- The last flag before the arguments still to be read, if it takes a value from them. -/
inductive Pending where
  | nothing
  | awaiting (s : Setting)
  | filled (s : Setting) (value : String)

/-- Adds what is pending. -/
def Pending.settle (g : Given) : Pending → Except SettingsFault Given
  | nothing => .ok g
  | awaiting s => .error (.missingValue s)
  | filled s value => g.add s value

/-- What a single argument is. -/
inductive Argument where
  /-- Two hyphens, after which there are no more flags. -/
  | endOfFlags
  /-- A flag after two hyphens, perhaps with a value. -/
  | flag (name : List Char) (value : Option (List Char))
  /-- Letters after one hyphen. -/
  | letters (first : Char)
  | plain

def Argument.ofChars : List Char → Argument
  | ['-', '-'] => .endOfFlags
  | '-' :: '-' :: rest =>
    let name := rest.takeWhile (· != '=')
    match rest.drop name.length with
    | [] => .flag name none
    | _ :: value => .flag name (some value)
  | '-' :: c :: _ => .letters c
  | _ => .plain

/-- Reads the arguments from left to right. -/
def readArguments (g : Given) (pending : Pending) : List String → Except SettingsFault Given
  | [] => pending.settle g
  | arg :: rest =>
    match Argument.ofChars arg.toList with
    | .endOfFlags => if rest.isEmpty then pending.settle g else .error .unknownArgument
    | .letters c => if c = 'h' then (pending.settle g).bind fun _ => .error .helpAsked
      else .error .unknownArgument
    | .plain =>
      match pending with
      | .awaiting s => readArguments g (.filled s arg) rest
      | _ => .error .unknownArgument
    | .flag name value =>
      match Setting.ofFlag? name, value with
      | some s, none =>
        if s.takesValue then do
          let g ← pending.settle g
          readArguments g (.awaiting s) rest
        else do
          let g ← (← pending.settle g).add s "true"
          readArguments g .nothing rest
      | some s, some value =>
        if s.takesValue then do
          let g ← (← pending.settle g).add s (String.ofList value)
          readArguments g .nothing rest
        else .error .unwantedValue
      | none, none =>
        if name = ['h', 'e', 'l', 'p'] then (pending.settle g).bind fun _ => .error .helpAsked
        else .error .unknownArgument
      | none, some _ =>
        if name = ['h', 'e', 'l', 'p'] then .error .unwantedValue else .error .unknownArgument

/-! ## Settings -/

/-- The environment of a program: the values of its variables. -/
abbrev Environment := String → Option String

/-- Fills up settings that were not given from the environment. -/
def addVariables (env : Environment) (g : Given) : Except SettingsFault Given :=
  Setting.all.foldlM (fun g s =>
    if (g.lookup s).isSome then .ok g
    else match env s.variableName with
      | some value => g.add s value
      | none => .ok g) g

structure Settings where
  rulesPath : String
  blacklistPath : Option String
  whitelistPath : Option String
  backend : Screening.Request
  /-- The time between looks at the rules, in milliseconds; zero means that rules are loaded once. -/
  hotReloadMs : Nat
  input : String
  modelVersion : String
  logLevel : String
  logJson : Bool
deriving Repr

namespace Settings

/-- Takes settings from what was given and from the defaults. -/
def ofGiven (g : Given) : Settings :=
  { rulesPath := (g.lookup .rulesPath).getD "rules.json"
    blacklistPath := g.lookup .blacklistPath
    whitelistPath := g.lookup .whitelistPath
    backend := ((g.lookup .backend).bind fun v => (Screening.Request.read? v).toOption).getD .auto
    hotReloadMs :=
      ((g.lookup .hotReloadMs).bind fun v => Decimal.readNat? mostMilliseconds v.toList).getD 1000
    input := (g.lookup .input).getD "-"
    modelVersion := (g.lookup .modelVersion).getD "none"
    logLevel := (g.lookup .logLevel).getD "info"
    logJson := g.lookup .logJson == some "true" }

/-- The settings of a program from its arguments and its environment. -/
def read (env : Environment) (args : List String) : Except SettingsFault Settings := do
  let g ← readArguments [] .nothing args
  return ofGiven (← addVariables env g)

/-- The transactions come from the standard input. -/
def readsStandardInput (s : Settings) : Bool := s.input == "-"

/-- The time between looks at the rules, if there are any. -/
def pollInterval (s : Settings) : Option Nat := if s.hotReloadMs = 0 then none else some s.hotReloadMs

end Settings

end FraudScreen.Replay
