import FormulaRepair.Settings

/-! # Command-line arguments

A command line names a command, followed by what the command takes: a path, for some of them, and
options in any order. Long options may be shortened as long as only one fits, and an option's value
may follow it, be joined to it by an equals sign, or stand right behind a short option. After a
double dash nothing is an option any more. Asking for help ends the reading; so does whatever cannot
be understood.
-/

namespace FormulaRepair.CommandLine

/-- Why there is no invocation. -/
inductive Stop
  | helpWanted
  | misused
deriving DecidableEq, Repr, Inhabited

/-- The status with which reading the command line stops. -/
def Stop.exitStatus : Stop → Nat
  | helpWanted => 0
  | misused => 2

/-- The options of all commands. -/
inductive OptionKey
  | help
  | output
  | accept
  | service
  | model
deriving DecidableEq, Repr, Inhabited

namespace OptionKey

/-- The spellings of an option. -/
def spellings : OptionKey → List Text
  | help => ["-h".toList, "--help".toList]
  | output => ["--output".toList, "-o".toList]
  | accept => ["--accept".toList]
  | service => ["--provider".toList]
  | model => ["--model".toList]

/-- Does the option take a value? -/
def takesValue : OptionKey → Bool
  | help => false
  | _ => true

/-- The values that an option may have, when not all of them will do. -/
def choices? : OptionKey → Option (List Text)
  | accept => some ["valid".toList, "all".toList, "none".toList]
  | service => some (ServiceKind.all.map ServiceKind.name)
  | _ => none

/-- May the option have this value? -/
def allows (key : OptionKey) (value : Text) : Bool :=
  match key.choices? with
  | some choices => choices.contains value
  | none => true

end OptionKey

/-- An argument that is an option: the option when it is known, the spelling that it was found by, and
the value joined to it. -/
structure OptionArgument where
  key : Option OptionKey
  spelling : Text := []
  value : Option Text := none
deriving DecidableEq, Repr, Inhabited

/-- What kind of argument a word is. -/
inductive Argument
  | operand (word : Text)
  | option (option : OptionArgument)
  | doubleDash
deriving DecidableEq, Repr, Inhabited

/-- The spellings that a list of options has, each with its option. -/
def spellingsOf (keys : List OptionKey) : List (Text × OptionKey) :=
  keys.flatMap fun key => key.spellings.map fun spelling => (spelling, key)

/-- The option with exactly this spelling. -/
def exactOption? (keys : List OptionKey) (word : Text) : Option OptionKey :=
  ((spellingsOf keys).find? (·.1 == word)).map (·.2)

/-- A word around its first equals sign. -/
def splitEquals (word : Text) : Text × Option Text :=
  match Text.splitFirst? ['='] word with
  | some (before, after) => (before, some after)
  | none => (word, none)

/-- The options that a word may be short for. -/
def candidates (keys : List OptionKey) (word : Text) : List OptionArgument :=
  match word with
  | '-' :: '-' :: _ =>
      let (start, value) := splitEquals word
      (spellingsOf keys).filterMap fun (spelling, key) =>
        if (Text.dropPrefix? start spelling).isSome then some ⟨some key, spelling, value⟩ else none
  | _ =>
      (spellingsOf keys).filterMap fun (spelling, key) =>
        if spelling = word.take 2 then some ⟨some key, spelling, some (word.drop 2)⟩
        else if (Text.dropPrefix? word spelling).isSome then some ⟨some key, spelling, none⟩
        else none

/-- Is the text a nonempty row of digits? -/
def isDigits (text : Text) : Bool := !text.isEmpty && text.all fun c => (digitValue? c).isSome

/-- Is the text a row of digits that may have a point in it, but not at its end? -/
def isDecimal (text : Text) : Bool :=
  isDigits text ||
    match Text.splitFirst? ['.'] text with
    | some (before, after) => (before.isEmpty || isDigits before) && isDigits after
    | none => false

/-- Does a word look like a negative number? One line end may follow the number. -/
def isNegativeNumber : Text → Bool
  | '-' :: number => isDecimal ((Text.dropSuffix? ['\n'] number).getD number)
  | _ => false

/-- What kind of argument a word is, in front of a double dash. -/
def classify (keys : List OptionKey) (word : Text) : Except Stop Argument :=
  match word with
  | '-' :: _ :: _ =>
      match exactOption? keys word with
      | some key => .ok (.option ⟨some key, word, none⟩)
      | none =>
          let (start, value) := splitEquals word
          match value.bind fun _ => exactOption? keys start with
          | some key => .ok (.option ⟨some key, start, value⟩)
          | none =>
              match candidates keys word with
              | [found] => .ok (.option found)
              | _ :: _ :: _ => .error .misused
              | [] =>
                  if isNegativeNumber word || word.elem ' ' then .ok (.operand word)
                  else .ok (.option ⟨none, word, none⟩)
  | _ => .ok (.operand word)

/-- The kinds of all words. -/
def classifyAll (keys : List OptionKey) : List Text → Except Stop (List Argument)
  | [] => .ok []
  | word :: words =>
      if word = ['-', '-'] then .ok (.doubleDash :: words.map .operand)
      else do
        let argument ← classify keys word
        return argument :: (← classifyAll keys words)

/-- What has been read of a command's arguments. A value of an option may have been taken back. -/
structure Reading where
  operand : Option Text := none
  values : List (OptionKey × Option Text) := []
  leftOver : Bool := false
deriving Repr, Inhabited

/-- Has the option been given? -/
def Reading.has (reading : Reading) (key : OptionKey) : Bool := reading.values.any (·.1 == key)

/-- The value of an option; of several, the last one given. -/
def Reading.value? (reading : Reading) (key : OptionKey) : Option Text :=
  (reading.values.find? (·.1 == key)).bind (·.2)

/-- Keep the value of an option. -/
def Reading.withValue (reading : Reading) (key : OptionKey) (value : Text) : Except Stop Reading :=
  if key.allows value then .ok { reading with values := (key, some value) :: reading.values }
  else .error .misused

/-- Keep the value that is joined to an option; a double dash takes the option's values back. -/
def Reading.withJoined (reading : Reading) (key : OptionKey) (value : Text) : Except Stop Reading :=
  if value = ['-', '-'] then .ok { reading with values := (key, none) :: reading.values }
  else reading.withValue key value

/-- How the reading stops at the letters behind a short wish for help, which are short options
themselves. `followed` says that a value could follow the word. -/
def stopAtLetters (keys : List OptionKey) (followed : Bool) : Text → Stop
  | [] => .misused
  | letter :: rest =>
      match exactOption? keys ['-', letter] with
      | none => .misused
      | some key =>
          if key.takesValue then
            if !rest.isEmpty || followed then .helpWanted else .misused
          else if rest.isEmpty then .helpWanted
          else stopAtLetters keys followed rest

/-- How the reading stops at an option that takes no value, given what is joined to it. -/
def stopAtHelp (keys : List OptionKey) (followed : Bool) (option : OptionArgument) : Stop :=
  match option.value, option.spelling with
  | none, _ => .helpWanted
  | some letters, ['-', _] => stopAtLetters keys followed letters
  | some _, _ => .misused

/-- Does an operand come next? -/
def startsWithOperand : List Argument → Bool
  | .operand _ :: _ => true
  | _ => false

/-- Leave out the words in front of the next option. -/
def skipOperands : List Argument → List Argument
  | .option option :: rest => .option option :: rest
  | _ :: rest => skipOperands rest
  | [] => []

theorem length_skipOperands (arguments : List Argument) :
    (skipOperands arguments).length ≤ arguments.length := by
  fun_induction skipOperands arguments with
  | case1 => simp
  | case2 _ _ _ ih => simp only [List.length_cons]; omega
  | case3 => simp

/-- A double dash at the front is dropped. -/
def dropDash : List Argument → List Argument
  | .doubleDash :: rest => rest
  | arguments => arguments

theorem length_dropDash (arguments : List Argument) :
    (dropDash arguments).length ≤ arguments.length := by
  fun_cases dropDash arguments <;> simp

/-- Read the arguments of a command, one after the other. `wanting` says that an operand is still
expected. -/
def readArguments (keys : List OptionKey) (wanting : Bool) (reading : Reading)
    (arguments : List Argument) : Except Stop Reading :=
  match arguments with
  | [] => if wanting then .error .misused else .ok reading
  | .option option :: rest =>
      match option.key with
      | none => readArguments keys wanting { reading with leftOver := true } rest
      | some key =>
          if key.takesValue then
            match option.value with
            | some value =>
                (reading.withJoined key value).bind fun reading =>
                  readArguments keys wanting reading rest
            | none =>
                match rest with
                | .operand value :: rest =>
                    (reading.withValue key value).bind fun reading =>
                      readArguments keys wanting reading rest
                | _ => .error .misused
          else .error (stopAtHelp keys (startsWithOperand rest) option)
  | .operand word :: rest =>
      if wanting then
        readArguments keys false { reading with operand := some word } (dropDash rest)
      else readArguments keys wanting { reading with leftOver := true } (skipOperands rest)
  | [.doubleDash] => readArguments keys wanting { reading with leftOver := true } []
  | .doubleDash :: next :: rest =>
      match wanting, next with
      | true, .operand word =>
          readArguments keys false { reading with operand := some word } rest
      | _, _ => readArguments keys wanting { reading with leftOver := true } (skipOperands rest)
termination_by arguments.length
decreasing_by
  · exact Nat.lt_succ_self _
  · exact Nat.lt_succ_self _
  · exact Nat.lt_add_of_pos_right Nat.two_pos
  · exact Nat.lt_succ_of_le (length_dropDash _)
  · exact Nat.lt_succ_of_le (length_skipOperands _)
  · exact Nat.zero_lt_succ _
  · exact Nat.lt_add_of_pos_right Nat.two_pos
  · exact Nat.lt_succ_of_le (Nat.le_succ_of_le (length_skipOperands _))

/-- Which of the proposed fixes a run accepts. -/
inductive Acceptance
  | valid
  | all
  | none
deriving DecidableEq, Repr, Inhabited

/-- The acceptance with a name. -/
def Acceptance.ofName (name : Text) : Acceptance :=
  if name = "all".toList then .all else if name = "none".toList then .none else .valid

/-- Which service and model a run uses in place of those in the settings. -/
structure Choice where
  service : Option ServiceKind := none
  model : Option Text := none
deriving DecidableEq, Repr, Inhabited

/-- What a command line asks for. -/
inductive Invocation
  | check (path : Text)
  | fix (path : Text) (output : Option Text) (acceptance : Acceptance) (choice : Choice)
  | models (choice : Choice)
  | ping (choice : Choice)
deriving DecidableEq, Repr, Inhabited

/-- The acceptance among the options. When it has been taken back, nothing is accepted. -/
def Reading.acceptance (reading : Reading) : Acceptance :=
  match reading.value? .accept with
  | some name => .ofName name
  | none => if reading.has .accept then .none else .valid

/-- The service and model among the options. -/
def Reading.choice (reading : Reading) : Choice :=
  { service := (reading.value? .service).bind ServiceKind.ofName?
    model := reading.value? .model }

/-- Read what follows a command. -/
def readCommand (name : Text) (words : List Text) : Except Stop (Invocation × Bool) :=
  let read := fun (keys : List OptionKey) (wanting : Bool) => do
    readArguments keys wanting {} (← classifyAll keys words)
  if name = "check".toList then do
    let reading ← read [.help] true
    return (.check (reading.operand.getD []), reading.leftOver)
  else if name = "fix".toList then do
    let reading ← read [.help, .output, .accept, .service, .model] true
    return (.fix (reading.operand.getD []) (reading.value? .output) reading.acceptance reading.choice,
      reading.leftOver)
  else if name = "models".toList then do
    let reading ← read [.help, .service, .model] false
    return (.models reading.choice, reading.leftOver)
  else if name = "ping".toList then do
    let reading ← read [.help, .service, .model] false
    return (.ping reading.choice, reading.leftOver)
  else .error .misused

/-- Read a command line from its first word on. Unknown options in front of the command are found
fault with only after the command has been read. -/
def readWords (leftOver : Bool) (words : List Text) : Except Stop Invocation :=
  match words with
  | [] => .error .misused
  | word :: rest =>
      if word = ['-', '-'] then .error .misused
      else
        match classify [.help] word with
        | .error stop => .error stop
        | .ok .doubleDash => .error .misused
        | .ok (.operand name) => do
            let (invocation, more) ← readCommand name rest
            if leftOver || more then .error .misused else .ok invocation
        | .ok (.option option) =>
            match option.key with
            | none => readWords true rest
            | some _ => .error (stopAtHelp [.help] false option)

/-- Read a command line. -/
def read (words : List Text) : Except Stop Invocation := readWords false words

end FormulaRepair.CommandLine
