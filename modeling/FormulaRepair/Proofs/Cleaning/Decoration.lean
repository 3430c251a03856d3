import FormulaRepair.Proofs.Blanks
import FormulaRepair.Proofs.Cleaning.Thinking
import FormulaRepair.Proofs.Scan.Search

/-! # Cleaning takes off what was put around a formula

A model may write delimiters around a bare formula, fence the whole as code, and put blanks and
closed reasoning before and behind. Cleaning takes all of this off again, layer by layer, and not one
character of the formula.
-/

namespace FormulaRepair.Cleaning

/-- A formula that cannot be mistaken for a decorated one. -/
structure Bare (text : Text) : Prop where
  nonempty : text ≠ []
  strip_eq : text.strip = text
  undelimited : ∀ delimiter : Delimiter, ¬ delimiter.opener <+: text
  not_fence_prefix : ¬ codeFence <+: text
  not_fence_suffix : ¬ codeFence <:+ text
  unopened : ¬ Occurs thinkOpener text

/-- What delimiters put before and behind a formula, with any blanks inside of them. -/
inductive Delimited : Text → Text → Prop
  | plain : Delimited [] []
  | between (delimiter : Delimiter) {left right : Text} : left.isBlank = true →
      right.isBlank = true → Delimited (delimiter.opener ++ left) (right ++ delimiter.closer)

/-- A fence may name a language, in any case, or none. -/
def NamesLanguage (language : Text) : Prop :=
  language = [] ∨ ∃ known ∈ fenceLanguages, Spells known language

/-- What a fence puts before and behind a text. -/
inductive Fenced : Text → Text → Prop
  | plain : Fenced [] []
  | fence {language padding lineEnd : Text} : NamesLanguage language →
      (∀ c ∈ padding, c = ' ' ∨ c = '\t') → lineEnd = [] ∨ lineEnd = ['\n'] →
      Fenced (codeFence ++ language ++ padding ++ ['\n']) (lineEnd ++ codeFence)

section Fence

theorem withoutFenceOpener_eq_self {text : Text} (unfenced : ¬ codeFence <+: text) :
    withoutFenceOpener text = text := by
  rw [withoutFenceOpener, Text.dropPrefix?_eq_none_iff.mpr unfenced]

theorem withoutFenceCloser_eq_self {text : Text} (unfenced : ¬ codeFence <:+ text) :
    withoutFenceCloser text = text := by
  rw [withoutFenceCloser, Text.dropSuffix?_eq_none_iff.mpr unfenced]

private theorem Spells.exists_first {first : Char} {mark found : Text}
    (spelled : Spells (first :: mark) found) (notK : first ≠ 'k') (notI : first ≠ 'i') :
    ∃ c later, found = c :: later ∧ c.toLower = first := by
  obtain ⟨c, later, same, -, rfl⟩ := List.forall₂_cons_left_iff.mp spelled
  exact ⟨c, later, rfl, (sameLetter_iff notK notI).mp same⟩

/-- No two languages begin with the same letter, so that only the one that is named is found. -/
theorem findSome?_fenceLanguages {language rest : Text} (named : NamesLanguage language)
    (ends : ∃ c, rest.head? = some c ∧ (c = ' ' ∨ c = '\t' ∨ c = '\n')) :
    (fenceLanguages.findSome? (dropPrefixAnyCase? · (language ++ rest))).getD (language ++ rest) =
      rest := by
  rcases named with rfl | ⟨known, member, spelled⟩
  · obtain ⟨c, head, kind⟩ := ends
    obtain ⟨rest, rfl⟩ := List.head?_eq_some_iff.mp head
    have unnamed : fenceLanguages.findSome? (dropPrefixAnyCase? · (c :: rest)) = none := by
      rcases kind with rfl | rfl | rfl <;> rfl
    rw [List.nil_append, unnamed]
    rfl
  · have found := dropPrefixAnyCase?_append spelled rest
    simp only [fenceLanguages, List.mem_cons, List.not_mem_nil, or_false] at member
    rcases member with rfl | rfl | rfl
    · simp [fenceLanguages, found]
    · obtain ⟨c, later, rfl, lower⟩ := spelled.exists_first (by decide) (by decide)
      have notL : sameLetter 'l' c = false := by simp [sameLetter, lower]
      simp only [List.cons_append] at found ⊢
      simp [fenceLanguages, dropPrefixAnyCase?_cons_eq_none notL, found]
    · obtain ⟨c, later, rfl, lower⟩ := spelled.exists_first (by decide) (by decide)
      have notL : sameLetter 'l' c = false := by simp [sameLetter, lower]
      have notT : sameLetter 't' c = false := by simp [sameLetter, lower]
      simp only [List.cons_append] at found ⊢
      simp [fenceLanguages, dropPrefixAnyCase?_cons_eq_none notL, dropPrefixAnyCase?_cons_eq_none notT,
        found]

private theorem withoutFenceOpener_fence {language padding : Text} (named : NamesLanguage language)
    (padded : ∀ c ∈ padding, c = ' ' ∨ c = '\t') (rest : Text) :
    withoutFenceOpener (codeFence ++ language ++ padding ++ ['\n'] ++ rest) = rest := by
  have opened : Text.dropPrefix? codeFence (codeFence ++ language ++ padding ++ ['\n'] ++ rest) =
      some (language ++ (padding ++ '\n' :: rest)) := Text.dropPrefix?_eq_some_iff.mpr (by simp)
  have ends : ∃ c, (padding ++ '\n' :: rest).head? = some c ∧ (c = ' ' ∨ c = '\t' ∨ c = '\n') := by
    cases padding with
    | nil => exact ⟨'\n', rfl, by simp⟩
    | cons c padding =>
      have kind := padded c List.mem_cons_self
      exact ⟨c, rfl, by tauto⟩
  have blank : ∀ c ∈ padding, (c == ' ' || c == '\t') = true := fun c member => by
    simpa using padded c member
  rw [withoutFenceOpener, opened]
  simp only [findSome?_fenceLanguages named ends]
  rw [List.dropWhile_append_of_pos blank, List.dropWhile_cons_of_neg (by decide)]
  rfl

/-- One line end in front of a closing fence goes with it. -/
theorem withoutFenceCloser_fence {text lineEnd : Text} (bare : text.strip = text)
    (ended : lineEnd = [] ∨ lineEnd = ['\n']) :
    withoutFenceCloser (text ++ (lineEnd ++ codeFence)) = text := by
  have whole : Text.dropSuffix? codeFence (text ++ (lineEnd ++ codeFence)) = some (text ++ lineEnd) :=
    Text.dropSuffix?_eq_some_iff.mpr (List.append_assoc ..).symm
  rw [withoutFenceCloser, whole]
  rcases ended with rfl | rfl
  · have solid : ¬ ['\n'] <:+ text := by
      rintro ⟨before, rfl⟩
      have spaced := Text.stripRight_eq_self_iff.mp (Text.strip_eq_self_iff.mp bare).2 (by simp)
      rw [List.getLast_concat] at spaced
      exact absurd spaced (by decide)
    simp [Text.dropSuffix?_eq_none_iff.mpr solid]
  · simp [Text.dropSuffix?_eq_some_iff.mpr rfl]

/-- A fence around a text that has none of its own comes off, and nothing else does. -/
theorem Fenced.removed {front back text : Text} (fenced : Fenced front back)
    (bare : text.strip = text) (notPrefix : ¬ codeFence <+: text) (notSuffix : ¬ codeFence <:+ text) :
    withoutFenceCloser (withoutFenceOpener (front ++ text ++ back)) = text := by
  cases fenced with
  | plain =>
    rw [List.nil_append, List.append_nil, withoutFenceOpener_eq_self notPrefix,
      withoutFenceCloser_eq_self notSuffix]
  | fence named padded ended =>
    rw [List.append_assoc, withoutFenceOpener_fence named padded,
      withoutFenceCloser_fence bare ended]

private theorem Fenced.notMem_front {front back : Text} (fenced : Fenced front back) :
    '<' ∉ front := by
  cases fenced with
  | plain => exact List.not_mem_nil
  | @fence language padding _ named padded _ =>
    have unopened : '<' ∉ language := by
      intro member
      rcases named with rfl | ⟨known, listed, spelled⟩
      · cases member
      · obtain ⟨letter, written, same⟩ := spelled.exists_letter member
        have other : ∀ known ∈ fenceLanguages, ∀ letter ∈ known, sameLetter letter '<' = false := by
          simp [fenceLanguages, sameLetter]
        rw [other known listed letter written] at same
        cases same
    have padding : '<' ∉ padding := by
      intro member
      rcases padded _ member with same | same
      · exact absurd same (by decide)
      · exact absurd same (by decide)
    simp [codeFence, unopened, padding]

private theorem Fenced.notMem_back {front back : Text} (fenced : Fenced front back) :
    '<' ∉ back := by
  cases fenced with
  | plain => exact List.not_mem_nil
  | fence _ _ ended => rcases ended with rfl | rfl <;> decide

theorem Fenced.breaks {front back : Text} (fenced : Fenced front back) :
    Breaks thinkOpener back := by
  cases fenced with
  | plain => exact nofun
  | fence _ _ ended =>
    rcases ended with rfl | rfl
    · simp [Breaks, codeFence, thinkOpener, sameLetter]
    · simp [Breaks, codeFence, thinkOpener, sameLetter]

/-- With or without a fence, a text that has no blanks at its ends is left as it is. -/
theorem Fenced.strip_eq {front back text : Text} (fenced : Fenced front back)
    (bare : text.strip = text) : (front ++ text ++ back).strip = front ++ text ++ back := by
  cases fenced with
  | plain => rwa [List.nil_append, List.append_nil]
  | fence _ _ _ =>
    have ends : ∀ inner : Text, (inner ++ codeFence).getLast? = some '`' := fun inner => by
      simp [codeFence]
    rw [← List.append_assoc]
    exact Text.strip_eq_self_of_ends rfl (by decide) (ends _) (by decide)

end Fence

section Delimiters

variable {bare opener closer : Text}

theorem notMem_of_isBlank {blanks : Text} (blank : blanks.isBlank = true) : '<' ∉ blanks := by
  intro member
  have spaced := List.all_eq_true.mp blank '<' member
  exact absurd spaced (by decide)

private theorem Delimited.notMem_opener (delimited : Delimited opener closer) : '<' ∉ opener := by
  cases delimited with
  | plain => exact List.not_mem_nil
  | between delimiter left right =>
    have unopened : '<' ∉ delimiter.opener := by cases delimiter <;> decide
    simp [unopened, notMem_of_isBlank left]

private theorem Delimited.notMem_closer (delimited : Delimited opener closer) : '<' ∉ closer := by
  cases delimited with
  | plain => exact List.not_mem_nil
  | between delimiter left right =>
    have unopened : '<' ∉ delimiter.closer := by cases delimiter <;> decide
    simp [unopened, notMem_of_isBlank right]

theorem Delimited.breaks (delimited : Delimited opener closer) : Breaks thinkOpener closer := by
  cases delimited with
  | plain => exact nofun
  | @between delimiter _ right _ blank =>
    have breaks : Breaks thinkOpener delimiter.closer := by
      cases delimiter <;> simp [Breaks, Delimiter.closer, thinkOpener, sameLetter]
    cases right with
    | nil => exact breaks
    | cons c right =>
      exact breaks_of_isBlank (List.all_eq_true.mp blank c List.mem_cons_self)

theorem Delimited.strip_eq (delimited : Delimited opener closer) (bare_strip : bare.strip = bare) :
    (opener ++ bare ++ closer).strip = opener ++ bare ++ closer := by
  cases delimited with
  | plain => rwa [List.nil_append, List.append_nil]
  | @between delimiter left right _ _ =>
    obtain ⟨first, starts, unspaced⟩ : ∃ first, delimiter.opener.head? = some first ∧
        isBlank first = false := by cases delimiter <;> exact ⟨_, rfl, by decide⟩
    obtain ⟨last, ends, solid⟩ : ∃ last, delimiter.closer.getLast? = some last ∧
        isBlank last = false := by cases delimiter <;> exact ⟨_, rfl, by decide⟩
    refine Text.strip_eq_self_of_ends ?_ unspaced ?_ solid
    · simp [List.head?_append, starts]
    · simp [List.getLast?_append, ends]

theorem unwrap?_eq_none {delimiter : Delimiter} {text : Text}
    (undelimited : ¬ delimiter.opener <+: text) : unwrap? delimiter text = none := by
  rw [unwrap?, Text.dropPrefix?_eq_none_iff.mpr undelimited]

/-- The blanks inside a pair of delimiters go with it. -/
theorem unwrap?_between (formula : Bare bare) (delimiter : Delimiter) {left right : Text}
    (before : left.isBlank = true) (behind : right.isBlank = true) :
    unwrap? delimiter (delimiter.opener ++ (left ++ (bare ++ (right ++ delimiter.closer)))) =
      some bare := by
  obtain ⟨leftBare, rightBare⟩ := Text.strip_eq_self_iff.mp formula.strip_eq
  have closed : Text.dropSuffix? delimiter.closer
      (delimiter.opener ++ (left ++ (bare ++ (right ++ delimiter.closer)))) =
        some (delimiter.opener ++ (left ++ (bare ++ right))) :=
    Text.dropSuffix?_eq_some_iff.mpr (by simp)
  have inner : Text.dropSuffix? delimiter.closer (bare ++ (right ++ delimiter.closer)) =
      some (bare ++ right) := Text.dropSuffix?_eq_some_iff.mpr (List.append_assoc ..).symm
  rw [unwrap?, Text.dropPrefix?_eq_some_iff.mpr rfl, closed]
  simp only [Text.stripLeft_append_of_isBlank before,
    Text.stripLeft_append formula.nonempty leftBare, inner, Option.map_some, Option.getD_some,
    Text.stripRight_append_of_isBlank behind, rightBare]

/-- No delimiter is found where another one of at least its length stands. -/
theorem unwrap?_other {delimiter other : Delimiter}
    (apart : other.opener.length ≤ delimiter.opener.length ∧ ¬ other.opener <+: delimiter.opener)
    (rest : Text) : unwrap? other (delimiter.opener ++ rest) = none := by
  apply unwrap?_eq_none
  intro starts
  exact apart.2 (List.prefix_of_prefix_length_le starts (List.prefix_append ..) apart.1)

/-- A single dollar sign is not taken for two, as the formula does not begin with one. -/
theorem unwrap?_blockDollar_inlineDollar (formula : Bare bare) {left : Text}
    (before : left.isBlank = true) (rest : Text) :
    unwrap? .blockDollar (Delimiter.inlineDollar.opener ++ (left ++ (bare ++ rest))) = none := by
  apply unwrap?_eq_none
  intro doubled
  have second : ['$'] <+: left ++ (bare ++ rest) := by simpa [Delimiter.opener] using doubled
  cases left with
  | nil =>
    obtain ⟨first, bare, rfl⟩ := List.exists_cons_of_ne_nil formula.nonempty
    apply formula.undelimited .inlineDollar
    simpa [Delimiter.opener] using second
  | cons first left =>
    obtain rfl : '$' = first := by simpa using second
    have spaced := List.all_eq_true.mp before '$' List.mem_cons_self
    exact absurd spaced (by decide)

/-- The first delimiters that fit are the ones that are taken off. -/
theorem withoutDelimiters_of_unwrap? {text inner : Text} {earlier later : List Delimiter}
    {delimiter : Delimiter} (order : wrappers = earlier ++ delimiter :: later)
    (absent : ∀ other ∈ earlier, unwrap? other text = none)
    (found : unwrap? delimiter text = some inner) : withoutDelimiters text = inner := by
  rw [withoutDelimiters,
    List.findSome?_eq_some_iff.mpr ⟨earlier, delimiter, later, order, found, absent⟩]
  rfl

private theorem withoutDelimiters_delimited (formula : Bare bare)
    (delimited : Delimited opener closer) :
    withoutDelimiters (opener ++ bare ++ closer) = bare := by
  cases delimited with
  | plain =>
    have absent : ∀ delimiter ∈ wrappers, unwrap? delimiter bare = none := fun delimiter _ =>
      unwrap?_eq_none (formula.undelimited delimiter)
    rw [List.nil_append, List.append_nil, withoutDelimiters,
      List.findSome?_eq_none_iff.mpr absent]
    rfl
  | @between delimiter left right before behind =>
    have found := unwrap?_between formula delimiter before behind
    rw [List.append_assoc, List.append_assoc]
    cases delimiter with
    | blockDollar =>
      have order : wrappers = [] ++ .blockDollar :: wrappers.tail := rfl
      apply withoutDelimiters_of_unwrap? order _ found
      intro other member
      cases member
    | inlineDollar =>
      have order : wrappers = [.blockDollar] ++ .inlineDollar :: wrappers.drop 2 := rfl
      apply withoutDelimiters_of_unwrap? order _ found
      intro other member
      rw [List.mem_singleton.mp member]
      exact unwrap?_blockDollar_inlineDollar formula before _
    | inlineParen =>
      have order : wrappers = wrappers.take 2 ++ .inlineParen :: wrappers.drop 3 := rfl
      have apart : ∀ other ∈ wrappers.take 2, other.opener.length ≤ 2 ∧
          ¬ other.opener <+: Delimiter.inlineParen.opener := by decide
      exact withoutDelimiters_of_unwrap? order
        (fun other member => unwrap?_other (apart other member) _) found
    | blockBracket =>
      have order : wrappers = wrappers.take 3 ++ .blockBracket :: [] := rfl
      have apart : ∀ other ∈ wrappers.take 3, other.opener.length ≤ 2 ∧
          ¬ other.opener <+: Delimiter.blockBracket.opener := by decide
      exact withoutDelimiters_of_unwrap? order
        (fun other member => unwrap?_other (apart other member) _) found

theorem Delimited.not_fence_prefix (formula : Bare bare) (delimited : Delimited opener closer) :
    ¬ codeFence <+: opener ++ bare ++ closer := by
  cases delimited with
  | plain =>
    rw [List.nil_append, List.append_nil]
    exact formula.not_fence_prefix
  | between delimiter _ _ => cases delimiter <;> simp [codeFence, Delimiter.opener]

theorem Delimited.not_fence_suffix (formula : Bare bare) (delimited : Delimited opener closer) :
    ¬ codeFence <:+ opener ++ bare ++ closer := by
  cases delimited with
  | plain =>
    rw [List.nil_append, List.append_nil]
    exact formula.not_fence_suffix
  | between delimiter _ _ =>
    rintro ⟨before, same⟩
    have last := congrArg List.getLast? same
    cases delimiter <;> simp [codeFence, Delimiter.closer] at last

end Delimiters

/-- Without the reasoning around it, what is left of an answer has only blanks around it. -/
theorem strip_withoutThinking {bare opener closer front back before after : Text}
    (formula : Bare bare) (delimited : Delimited opener closer) (fenced : Fenced front back)
    (leading : Margin before) (trailing : Margin after) :
    (withoutThinking (before ++ (front ++ (opener ++ bare ++ closer) ++ back) ++ after)).strip =
      front ++ (opener ++ bare ++ closer) ++ back := by
  obtain ⟨left, leftBlank, opened⟩ := leading.withoutThinking_append
    (front ++ (opener ++ (bare ++ (closer ++ (back ++ after)))))
  obtain ⟨right, rightBlank, closed⟩ := trailing.withoutThinking_append []
  rw [List.append_nil, withoutThinking, List.append_nil] at closed
  have breaks : Breaks thinkOpener (closer ++ (back ++ after)) :=
    delimited.breaks.append (fenced.breaks.append trailing.breaks)
  have kept : withoutThinking (before ++ (front ++ (opener ++ bare ++ closer) ++ back) ++ after) =
      left ++ (front ++ (opener ++ bare ++ closer) ++ back) ++ right := by
    simp only [List.append_assoc]
    rw [opened, withoutThinking_append_of_notMem fenced.notMem_front,
      withoutThinking_append_of_notMem delimited.notMem_opener,
      withoutThinking_append formula.unopened breaks,
      withoutThinking_append_of_notMem delimited.notMem_closer,
      withoutThinking_append_of_notMem fenced.notMem_back, closed]
  rw [kept]
  exact Text.strip_between leftBlank (fenced.strip_eq (delimited.strip_eq formula.strip_eq))
    rightBlank

/-- Whatever was put around a bare formula, in the order in which a model does it, is taken off, and
the formula is left as it was. A mark counts in any case: inside of a block of reasoning stands no
closing mark in whatever case. -/
theorem clean_decorated {bare opener closer front back before after : Text} (formula : Bare bare)
    (delimited : Delimited opener closer) (fenced : Fenced front back) (leading : Margin before)
    (trailing : Margin after) :
    clean (before ++ (front ++ (opener ++ bare ++ closer) ++ back) ++ after) = bare := by
  have answer := strip_withoutThinking formula delimited fenced leading trailing
  have tight := delimited.strip_eq formula.strip_eq
  have code : withoutFenceCloser (withoutFenceOpener
      (front ++ (opener ++ bare ++ closer) ++ back)) = opener ++ bare ++ closer :=
    fenced.removed tight (delimited.not_fence_prefix formula) (delimited.not_fence_suffix formula)
  simp only [clean, answer, code, tight, withoutDelimiters_delimited formula delimited,
    formula.strip_eq]

/-- A formula that ends in a dollar sign, between single ones in a fence, with a thought before it. -/
theorem clean_decorated_dollar :
    let bare : Text := ['m', 'a', 't', 'h', '$']
    let opener : Text := ['$', ' ']
    let closer : Text := ['\t', '$']
    let front : Text := ['`', '`', '`', 'T', 'e', 'X', ' ', '\n']
    let back : Text := ['\n', '`', '`', '`']
    let before : Text := ['<', 'T', 'H', 'I', 'N', 'K', '>', '<', '/', '<', '/', 't', 'h', 'i', 'n', 'K',
      '>', '\n']
    Bare bare ∧ Delimited opener closer ∧ Fenced front back ∧ Margin before ∧ Margin [' '] ∧
      clean (before ++ (front ++ (opener ++ bare ++ closer) ++ back) ++ [' ']) = bare := by
  intro bare opener closer front back before
  have formula : Bare bare :=
    { nonempty := by decide
      strip_eq := by decide
      undelimited := fun delimiter => by cases delimiter <;> decide
      not_fence_prefix := by decide
      not_fence_suffix := by decide
      unopened := by decide }
  have delimited : Delimited opener closer := @Delimited.between .inlineDollar [' '] ['\t'] rfl rfl
  have named : NamesLanguage ['T', 'e', 'X'] := .inr ⟨['t', 'e', 'x'], by decide, by decide⟩
  have fenced : Fenced front back := @Fenced.fence ['T', 'e', 'X'] [' '] ['\n'] named
    (fun c member => .inl (List.mem_singleton.mp member)) (.inr rfl)
  have leading : Margin before := @Margin.thinking ['<', 'T', 'H', 'I', 'N', 'K', '>'] ['<', '/']
    ['<', '/', 't', 'h', 'i', 'n', 'K', '>'] ['\n'] (by decide) (by decide) (by decide)
    (.blank rfl .nil)
  have trailing : Margin [' '] := .blank rfl .nil
  exact ⟨formula, delimited, fenced, leading, trailing,
    clean_decorated formula delimited fenced leading trailing⟩

end FormulaRepair.Cleaning
