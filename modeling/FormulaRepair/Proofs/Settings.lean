import FormulaRepair.Proofs.Blanks
import FormulaRepair.Settings

/-! # Settings do not depend on how values are typed

A value may be typed with blanks around it, with a pair of quotes around these, and with blanks around
the quotes; an address may end in slashes besides. All of that is taken off again before anything is
read from the value. So two environments that differ in it alone have the same settings, or the same
problem with them.
-/

namespace FormulaRepair.Settings

/-- The quotes that a value can be enclosed in. -/
def IsQuote (c : Char) : Prop := c = '"' ∨ c = '\''

instance : DecidablePred IsQuote := fun c => inferInstanceAs (Decidable (c = '"' ∨ c = '\''))

/-- The text stands between two equal quotes. -/
def Enclosed (text : Text) : Prop :=
  ∃ quote inner, IsQuote quote ∧ text = quote :: (inner ++ [quote])

/-- A value with nothing around it. -/
structure Bare (value : Text) : Prop where
  nonempty : value ≠ []
  strip_eq : value.strip = value
  not_enclosed : ¬ Enclosed value

/-- A value as it may be typed: with any blanks, and with a pair of quotes inside of these. -/
inductive Typed (value : Text) : Text → Prop
  | unquoted {left right : Text} : left.isBlank = true → right.isBlank = true →
      Typed value (left ++ value ++ right)
  | quoted {quote : Char} {left before behind right : Text} : IsQuote quote →
      left.isBlank = true → before.isBlank = true → behind.isBlank = true → right.isBlank = true →
      Typed value (left ++ (quote :: (before ++ value ++ behind ++ [quote])) ++ right)

/-- The variables that hold addresses. -/
def addressVariables : List String := ["OPENAI_BASE_URL", "LMSTUDIO_BASE_URL", "OLLAMA_BASE_URL"]

/-- A variable is unset in both environments, or its bare value in the first one is typed in the
second one, with slashes behind it if it is an address. -/
inductive Retyped (name : String) : Option Text → Option Text → Prop
  | unset : Retyped name none none
  | set {value slashes typed : Text} : Bare value → (∀ c ∈ slashes, c = '/') →
      (slashes ≠ [] → name ∈ addressVariables) → Typed (value ++ slashes) typed →
      Retyped name (some value) (some typed)

section Values

variable {value typed : Text}

theorem isQuoted_concat {first last : Char} {inner : Text} :
    isQuoted (first :: (inner ++ [last])) = true ↔ IsQuote first ∧ last = first := by
  simp [isQuoted, IsQuote]

theorem isQuoted_iff {text : Text} : isQuoted text = true ↔ Enclosed text := by
  constructor
  · intro quoted
    cases text with
    | nil => cases quoted
    | cons first rest =>
      obtain rfl | ⟨inner, last, rfl⟩ := List.eq_nil_or_concat rest
      · simp [isQuoted] at quoted
      · rw [List.concat_eq_append, isQuoted_concat] at quoted
        obtain ⟨isQuote, rfl⟩ := quoted
        exact ⟨last, inner, isQuote, by rw [List.concat_eq_append]⟩
  · rintro ⟨quote, inner, isQuote, rfl⟩
    exact isQuoted_concat.mpr ⟨isQuote, rfl⟩

instance (text : Text) : Decidable (Enclosed text) := decidable_of_iff _ isQuoted_iff

instance (value : Text) : Decidable (Bare value) :=
  decidable_of_iff (value ≠ [] ∧ value.strip = value ∧ ¬ Enclosed value)
    ⟨fun ⟨nonempty, strip_eq, not_enclosed⟩ => ⟨nonempty, strip_eq, not_enclosed⟩,
      fun bare => ⟨bare.nonempty, bare.strip_eq, bare.not_enclosed⟩⟩

private theorem IsQuote.isBlank_eq_false {quote : Char} (isQuote : IsQuote quote) :
    isBlank quote = false := by
  rcases isQuote with rfl | rfl <;> decide

/-- Whatever is typed around a value is taken off again. -/
theorem Typed.plainValue_eq (typing : Typed value typed) (bare : Bare value) :
    plainValue typed = value := by
  cases typing with
  | unquoted left right =>
    have unquoted : isQuoted value = false :=
      Bool.eq_false_iff.mpr (mt isQuoted_iff.mp bare.not_enclosed)
    simp only [plainValue, Text.strip_between left bare.strip_eq right, unquoted,
      Bool.false_eq_true, ↓reduceIte]
  | @quoted quote _ before behind _ isQuote left blankBefore blankBehind right =>
    have enclosed : isQuoted (quote :: (before ++ value ++ behind ++ [quote])) = true :=
      isQuoted_concat.mpr ⟨isQuote, rfl⟩
    have outside : Text.strip (quote :: (before ++ value ++ behind ++ [quote])) =
        quote :: (before ++ value ++ behind ++ [quote]) :=
      Text.strip_eq_self_of_ends List.head?_cons isQuote.isBlank_eq_false
        (by rw [← List.cons_append, List.getLast?_concat]) isQuote.isBlank_eq_false
    have inside : (before ++ value ++ behind).strip = value :=
      Text.strip_between blankBefore bare.strip_eq blankBehind
    simp only [plainValue, Text.strip_between left outside right, enclosed, ↓reduceIte,
      List.drop_one, List.tail_cons, List.dropLast_concat, inside]

private theorem Typed.ne_nil (typing : Typed value typed) (bare : Bare value) : typed ≠ [] := by
  rintro rfl
  exact bare.nonempty (typing.plainValue_eq bare).symm

/-- A value with slashes behind it still has nothing around it. -/
theorem Bare.append_slashes (bare : Bare value) {slashes : Text} (only : ∀ c ∈ slashes, c = '/') :
    Bare (value ++ slashes) := by
  obtain rfl | ⟨others, last, rfl⟩ := List.eq_nil_or_concat slashes
  · rwa [List.append_nil]
  obtain rfl : last = '/' := only last (by simp)
  have ends : (value ++ others.concat '/').getLast? = some '/' := by simp
  refine ⟨by simp [bare.nonempty], ?_, ?_⟩
  · obtain ⟨first, rest, rfl⟩ := List.exists_cons_of_ne_nil bare.nonempty
    have unspaced := Text.stripLeft_eq_self_iff.mp (Text.strip_eq_self_iff.mp bare.strip_eq).1
      bare.nonempty
    exact Text.strip_eq_self_of_ends rfl unspaced ends (by decide)
  · rintro ⟨quote, inner, isQuote, same⟩
    rw [same, ← List.cons_append, List.getLast?_concat, Option.some.injEq] at ends
    subst ends
    exact absurd isQuote (by decide)

private theorem stripRightOf_append {unwanted : Char} {tail : Text}
    (only : ∀ c ∈ tail, c = unwanted) (text : Text) :
    Text.stripRightOf unwanted (text ++ tail) = Text.stripRightOf unwanted text := by
  rw [Text.stripRightOf, List.reverse_append, List.dropWhile_append_of_pos, Text.stripRightOf]
  intro c member
  simpa using only c (List.mem_reverse.mp member)

end Values

section Variables

variable {old new : Environment} {name : String}

theorem value_of_typed {environment : Environment} {found typed : Text}
    (set : environment name.toList = some typed) (typing : Typed found typed) (bare : Bare found)
    (default : Text) : value environment name default = found := by
  have nonempty := List.isEmpty_eq_false_iff.mpr (typing.ne_nil bare)
  simp only [value, set, nonempty, Bool.false_eq_true, ↓reduceIte, typing.plainValue_eq bare]

private theorem value_of_bare {environment : Environment} {found : Text}
    (set : environment name.toList = some found) (bare : Bare found) (default : Text) :
    value environment name default = found := by
  have typing : Typed found ([] ++ found ++ []) := .unquoted rfl rfl
  rw [List.nil_append, List.append_nil] at typing
  exact value_of_typed set typing bare default

/-- A variable that is typed anew has the value that it had, with slashes behind it at most. -/
theorem Retyped.exists_slashes (retyped : Retyped name (old name.toList) (new name.toList))
    (default : Text) :
    value new name default = value old name default ∨
      ∃ slashes, (∀ c ∈ slashes, c = '/') ∧ name ∈ addressVariables ∧
        value old name default ≠ [] ∧
        value new name default = value old name default ++ slashes := by
  generalize before : old name.toList = found, behind : new name.toList = typed at retyped
  cases retyped with
  | unset => exact .inl (by simp only [value, before, behind])
  | @set found slashes typed bare only address typing =>
    have value_old := value_of_bare before bare default
    have value_new := value_of_typed behind typing (bare.append_slashes only) default
    rw [value_old, value_new]
    by_cases none : slashes = []
    · exact .inl (by rw [none, List.append_nil])
    · exact .inr ⟨slashes, only, address none, bare.nonempty, rfl⟩

private theorem Retyped.value_eq (retyped : Retyped name (old name.toList) (new name.toList))
    (other : name ∉ addressVariables) (default : Text) :
    value new name default = value old name default := by
  obtain same | ⟨slashes, -, address, -⟩ := retyped.exists_slashes default
  · exact same
  · exact absurd address other

private theorem Retyped.url_eq (retyped : Retyped name (old name.toList) (new name.toList))
    (default : Text) : url new name default = url old name default := by
  obtain same | ⟨slashes, only, -, nonempty, longer⟩ := retyped.exists_slashes []
  · rw [url, url, same]
  · have longer_ne_nil : value old name [] ++ slashes ≠ [] :=
      List.append_ne_nil_of_left_ne_nil nonempty slashes
    simp only [url, longer, List.isEmpty_eq_false_iff.mpr nonempty,
      List.isEmpty_eq_false_iff.mpr longer_ne_nil, Bool.false_eq_true, ↓reduceIte,
      stripRightOf_append only]

end Variables

/-- Settings are read from the values of eleven variables and from three addresses. -/
theorem load_congr {old new : Environment}
    (values : ∀ name ∈ Environment.variables, name ∉ addressVariables →
      ∀ default, value new name default = value old name default)
    (addresses : ∀ name ∈ addressVariables, ∀ default, url new name default = url old name default) :
    load new = load old := by
  simp (disch := decide) only [load, serviceKind, decimalNumber, wholeNumber, values, addresses]

/-- However the values of an environment are typed, its settings are the same, and so is the problem
when there are none. -/
theorem load_retyped {old new : Environment}
    (retyped : ∀ name ∈ Environment.variables,
      Retyped name (old name.toList) (new name.toList)) :
    load new = load old := by
  have listed : ∀ name ∈ addressVariables, name ∈ Environment.variables := by decide
  exact load_congr (fun name member other => (retyped name member).value_eq other)
    (fun name member => (retyped name (listed name member)).url_eq)

/-- An environment with some variables set. -/
def environmentOf (pairs : List (String × Text)) : Environment := fun name =>
  (pairs.find? (·.1.toList == name)).map (·.2)

/-- A provider between single quotes, and an address with slashes and blanks between double ones. -/
theorem load_retyped_quoted :
    let plain := environmentOf
      [("MATHFIX_PROVIDER", "Ollama".toList), ("OLLAMA_BASE_URL", "http://gpu:11434".toList)]
    let typed := environmentOf
      [("MATHFIX_PROVIDER", " 'Ollama'".toList),
        ("OLLAMA_BASE_URL", "\" http://gpu:11434//\t\"\n".toList)]
    (∀ name ∈ Environment.variables, Retyped name (plain name.toList) (typed name.toList)) ∧
      load typed = load plain ∧
      url typed "OLLAMA_BASE_URL" [] = "http://gpu:11434".toList := by
  intro plain typed
  have unset : ∀ name ∈ Environment.variables, name ≠ "MATHFIX_PROVIDER" →
      name ≠ "OLLAMA_BASE_URL" → plain name.toList = none ∧ typed name.toList = none := by
    decide +kernel
  have provider : Typed ("Ollama".toList ++ [])
      ([' '] ++ ('\'' :: ([] ++ ("Ollama".toList ++ []) ++ [] ++ ['\''])) ++ []) :=
    .quoted (.inr rfl) rfl rfl rfl rfl
  have address : Typed ("http://gpu:11434".toList ++ ['/', '/'])
      ([] ++ ('"' :: ([' '] ++ ("http://gpu:11434".toList ++ ['/', '/']) ++ ['\t'] ++ ['"'])) ++
        ['\n']) :=
    .quoted (.inl rfl) rfl rfl rfl rfl
  have retyped : ∀ name ∈ Environment.variables,
      Retyped name (plain name.toList) (typed name.toList) := by
    intro name member
    by_cases isProvider : name = "MATHFIX_PROVIDER"
    · subst isProvider
      exact .set (by decide +kernel) (by simp) (by simp) provider
    by_cases isAddress : name = "OLLAMA_BASE_URL"
    · subst isAddress
      exact .set (by decide +kernel) (by simp) (by decide) address
    obtain ⟨before, behind⟩ := unset name member isProvider isAddress
    rw [before, behind]
    exact .unset
  exact ⟨retyped, load_retyped retyped, by decide +kernel⟩

end FormulaRepair.Settings
