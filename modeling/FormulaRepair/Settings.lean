import FormulaRepair.Data
import FormulaRepair.Text.Case

/-! # Settings from the environment

Every setting has an environment variable and a default. Values may be typed with blanks around them
and inside quotes; both are removed. An unset or empty variable stands for its default.
-/

namespace FormulaRepair

/-- A span of time in seconds, as a whole or a decimal number. -/
inductive Seconds
  | whole (count : Int)
  | decimal (count : Float)
deriving Repr, Inhabited

/-- The kinds of services that repairs can be asked of. -/
inductive ServiceKind
  | openAI
  | lmStudio
  | ollama
deriving DecidableEq, Repr, Inhabited

namespace ServiceKind

/-- All kinds, in the order in which they are offered. -/
def all : List ServiceKind := [openAI, lmStudio, ollama]

/-- The name of a kind in settings and on the command line. -/
def name : ServiceKind → Text
  | openAI => "openai".toList
  | lmStudio => "lm-studio".toList
  | ollama => "ollama".toList

/-- The kind with a name. -/
def ofName? (wanted : Text) : Option ServiceKind := all.find? (·.name == wanted)

/-- A kind is found by its name, and by nothing else. -/
theorem ofName?_eq_some_iff {wanted : Text} {kind : ServiceKind} :
    ofName? wanted = some kind ↔ kind.name = wanted := by
  constructor
  · intro found
    simpa using List.find?_some found
  · rintro rfl
    cases kind <;> decide

/-- The kind that an untyped value names. -/
def ofData? (value : Data) : Option ServiceKind := value.text?.bind ofName?

theorem ofData?_eq_some_iff {value : Data} {kind : ServiceKind} :
    ofData? value = some kind ↔ value = .text kind.name := by
  cases value with
  | text wanted =>
    refine ofName?_eq_some_iff.trans ⟨fun same => congrArg Data.text same.symm, fun same => ?_⟩
    exact (Data.text.inj same).symm
  | null | bool | int | float | list | record => simp [ofData?, Data.text?]

end ServiceKind

/-- All settings of a run. -/
structure Settings where
  service : ServiceKind
  openAIBaseUrl : Text
  openAIKey : Option Text
  openAIModel : Text
  lmStudioBaseUrl : Text
  lmStudioModel : Text
  ollamaBaseUrl : Text
  ollamaModel : Text
  timeout : Seconds
  maxRetries : Int
  cacheCapacity : Int
  contextSize : Int
  workers : Int
  logLevel : Text
deriving Repr, Inhabited

/-- The values of the environment variables that are set. -/
abbrev Environment := Text → Option Text

/-- The environment variables that settings are read from. -/
def Environment.variables : List String :=
  [ "MATHFIX_PROVIDER", "OPENAI_BASE_URL", "OPENAI_API_KEY", "OPENAI_MODEL", "LMSTUDIO_BASE_URL"
  , "LMSTUDIO_MODEL", "OLLAMA_BASE_URL", "OLLAMA_MODEL", "MATHFIX_LLM_TIMEOUT_S"
  , "MATHFIX_LLM_MAX_RETRIES", "MATHFIX_CACHE_SIZE", "MATHFIX_CONTEXT_CHARS"
  , "MATHFIX_VALIDATION_WORKERS", "MATHFIX_LOG_LEVEL" ]

/-- Why there are no settings. -/
inductive SettingsProblem
  | unknownService (name : Text)
  | numeral (problem : Numeral.Problem)
deriving DecidableEq, Repr, Inhabited

/-- The message for settings that could not be read. -/
def SettingsProblem.message : SettingsProblem → Text
  | unknownService name =>
      "Unknown MATHFIX_PROVIDER ".toList ++ name.quoted ++ "; expected one of ".toList ++
        Text.join ", ".toList (ServiceKind.all.map ServiceKind.name)
  | numeral problem => problem.message

namespace Settings

/-- Is the text at least two characters long and enclosed in equal quotes? -/
def isQuoted : Text → Bool
  | [] => false
  | first :: rest =>
      (first == '"' || first == '\'') && !rest.isEmpty && rest.getLast? == some first

/-- A value without blanks around it, without one pair of quotes around that, and without blanks
inside of these. -/
def plainValue (value : Text) : Text :=
  let value := value.strip
  if isQuoted value then Text.strip (value.drop 1).dropLast else value

/-- The value of a variable, or its default. -/
def value (environment : Environment) (name : String) (default : Text) : Text :=
  match environment name.toList with
  | some found => plainValue (if found.isEmpty then default else found)
  | none => plainValue default

/-- The address in a variable, or its default, without slashes at the end. -/
def url (environment : Environment) (name : String) (default : Text) : Text :=
  let found := value environment name []
  Text.stripRightOf '/' (if found.isEmpty then default else found)

/-- The end of an address that lacks its version. -/
def bareHost : Text := "api.openai.com".toList

/-- An address of the public service with its version. -/
def withVersion (address : Text) : Text :=
  if (Text.dropSuffix? bareHost address).isSome then address ++ "/v1".toList else address

/-- The whole number in a variable, or its default. -/
def wholeNumber (environment : Environment) (name : String) (default : String) :
    Except SettingsProblem Int :=
  (Numeral.whole? (value environment name default.toList)).mapError .numeral

/-- The decimal number in a variable, or its default. -/
def decimalNumber (environment : Environment) (name : String) (default : String) :
    Except SettingsProblem Float :=
  (Numeral.decimal? (value environment name default.toList)).mapError .numeral

/-- The kind of service in the environment. -/
def serviceKind (environment : Environment) : Except SettingsProblem ServiceKind :=
  let name := Text.lower (value environment "MATHFIX_PROVIDER" ServiceKind.openAI.name)
  match ServiceKind.ofName? name with
  | some kind => .ok kind
  | none => .error (.unknownService name)

/-- Read all settings; of several problems, the first one counts. -/
def load (environment : Environment) : Except SettingsProblem Settings := do
  let service ← serviceKind environment
  let key := value environment "OPENAI_API_KEY" []
  return {
    service := service
    openAIBaseUrl :=
      withVersion (url environment "OPENAI_BASE_URL" "https://api.openai.com/v1".toList)
    openAIKey := if key.isEmpty then none else some key
    openAIModel := value environment "OPENAI_MODEL" "gpt-4o".toList
    lmStudioBaseUrl := url environment "LMSTUDIO_BASE_URL" "http://localhost:1234/v1".toList
    lmStudioModel := value environment "LMSTUDIO_MODEL" []
    ollamaBaseUrl := url environment "OLLAMA_BASE_URL" "http://localhost:11434".toList
    ollamaModel := value environment "OLLAMA_MODEL" []
    timeout := .decimal (← decimalNumber environment "MATHFIX_LLM_TIMEOUT_S" "60")
    maxRetries := ← wholeNumber environment "MATHFIX_LLM_MAX_RETRIES" "2"
    cacheCapacity := ← wholeNumber environment "MATHFIX_CACHE_SIZE" "800"
    contextSize := ← wholeNumber environment "MATHFIX_CONTEXT_CHARS" "200"
    workers := ← wholeNumber environment "MATHFIX_VALIDATION_WORKERS" "4"
    logLevel := Text.upper (value environment "MATHFIX_LOG_LEVEL" "INFO".toList) }

end Settings

end FormulaRepair
