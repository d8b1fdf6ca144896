import CMakeGrammar.Proofs.Help.Occurrences
import CMakeGrammar.Proofs.Text.Tightening
/-! Signatures do not depend on how a help text is spaced. A name that is a word is read where the
text in front of a parenthesis ends in it (`IsNamed`), which does not change when that text is
collapsed; so two texts that are equal once they are tightened are scanned parenthesis by
parenthesis alike. -/
namespace CMakeGrammar.Help
open Text (isBlank isWordChar isBoundary isParen collapseChars collapseBehind tight IsPlain IsWord)

def IsNameAlone (name part : List Char) : Prop :=
  ∃ gap, part = name ++ gap ∧ ∀ c ∈ gap, isBlank c = true

/-- The text ends in the name as a word, and blanks. `before` is the character in front of it. -/
def IsNamed (name : List Char) (before : Option Char) (part : List Char) : Prop :=
  ∃ front gap, part = front ++ (name ++ gap) ∧ (∀ c ∈ gap, isBlank c = true) ∧
    ∀ c ∈ front.getLast?.or before, isWordChar c = false

section named
variable {name : List Char} {before : Option Char} {c : Char} {part : List Char}

theorem not_isNamed_nil (some : name ≠ []) (before : Option Char) : ¬IsNamed name before [] := by
  rintro ⟨front, gap, isPart, -, -⟩
  exact some (List.append_eq_nil_iff.mp (List.append_eq_nil_iff.mp isPart.symm).2).1

theorem isNamed_cons :
    IsNamed name before (c :: part) ↔
      ((∀ d ∈ before, isWordChar d = false) ∧ IsNameAlone name (c :: part)) ∨
        IsNamed name (some c) part := by
  have last (front : List Char) : (c :: front).getLast?.or before = front.getLast?.or (some c) := by
    rw [List.getLast?_cons]
    cases front.getLast? <;> rfl
  constructor
  · rintro ⟨front, gap, isPart, blanks, free⟩
    cases front with
    | nil => exact .inl ⟨free, gap, isPart, blanks⟩
    | cons d front =>
      rw [List.cons_append, List.cons.injEq] at isPart
      obtain ⟨rfl, rfl⟩ := isPart
      exact .inr ⟨front, gap, rfl, blanks, by rwa [last] at free⟩
  · rintro (⟨free, gap, isPart, blanks⟩ | ⟨front, gap, rfl, blanks, free⟩)
    · exact ⟨[], gap, isPart, blanks, free⟩
    · exact ⟨c :: front, gap, rfl, blanks, by rwa [last]⟩

theorem IsNamed.of_free {other : Option Char} (named : IsNamed name before part)
    (free : ∀ d ∈ other, isWordChar d = false) : IsNamed name other part := by
  obtain ⟨front, gap, isPart, blanks, isFree⟩ := named
  refine ⟨front, gap, isPart, blanks, ?_⟩
  cases last : front.getLast? with
  | none => rwa [Option.none_or]
  | some d => rwa [last] at isFree

theorem isNamed_iff_of_free {other : Option Char} (free : ∀ d ∈ before, isWordChar d = false)
    (free' : ∀ d ∈ other, isWordChar d = false) :
    IsNamed name before part ↔ IsNamed name other part :=
  ⟨fun named => named.of_free free', fun named => named.of_free free⟩

variable (some : name ≠ []) (notBlank : ∀ d ∈ name, isBlank d = false)
include some notBlank

theorem isNamed_cons_of_blank (blank : isBlank c = true) :
    IsNamed name before (c :: part) ↔ IsNamed name (.some c) part := by
  rw [isNamed_cons, or_iff_right]
  rintro ⟨-, gap, isPart, -⟩
  obtain ⟨first, rest, rfl⟩ := List.exists_cons_of_ne_nil some
  rw [List.cons_append, List.cons.injEq] at isPart
  rw [isPart.1, notBlank first List.mem_cons_self] at blank
  cases blank

end named

theorem isNameAlone_nil {part : List Char} :
    IsNameAlone [] part ↔ ∀ c ∈ part, isBlank c = true := by
  constructor
  · rintro ⟨gap, rfl, blanks⟩
    exact blanks
  · exact fun blanks => ⟨part, rfl, blanks⟩

theorem isNameAlone_cons {c d : Char} {name part : List Char} :
    IsNameAlone (d :: name) (c :: part) ↔ c = d ∧ IsNameAlone name part := by
  simp only [IsNameAlone, List.cons_append, List.cons.injEq, and_assoc, exists_and_left]

theorem not_isNameAlone_of_blank {c d : Char} {name part : List Char} (blank : isBlank c = true)
    (notBlank : isBlank d = false) : ¬IsNameAlone (d :: name) (c :: part) := by
  rw [isNameAlone_cons]
  rintro ⟨rfl, -⟩
  rw [blank] at notBlank
  cases notBlank

theorem isNameAlone_collapseBehind {name : List Char} (notBlank : ∀ d ∈ name, isBlank d = false)
    {cs : List Char} : IsNameAlone name (collapseBehind cs) ↔ IsNameAlone name cs := by
  induction name generalizing cs with
  | nil => rw [isNameAlone_nil, isNameAlone_nil, Text.collapseBehind_isBlank_iff]
  | cons d name ih =>
    obtain ⟨first, rest⟩ := List.forall_mem_cons.mp notBlank
    cases cs with
    | nil => rfl
    | cons c cs =>
      cases blank : isBlank c with
      | false => rw [Text.collapseBehind_cons cs blank, isNameAlone_cons, isNameAlone_cons, ih rest]
      | true =>
        refine iff_of_false ?_ (not_isNameAlone_of_blank blank first)
        rw [Text.collapseBehind_cons_of_blank cs blank]
        split
        · rintro ⟨gap, isPart, -⟩
          cases isPart
        · exact not_isNameAlone_of_blank Text.isBlank_space first

theorem free_of_isBlank {c : Char} (blank : isBlank c = true) :
    ∀ d ∈ Option.some c, isWordChar d = false := by
  rintro d ⟨⟩
  exact Text.isWordChar_of_isBlank blank

theorem free_of_isParen {c : Char} (paren : isParen c = true) :
    ∀ d ∈ Option.some c, isWordChar d = false := by
  rintro d ⟨⟩
  exact Text.isWordChar_of_isParen paren

theorem isNamed_collapseChars {name : List Char} (some : name ≠ [])
    (notBlank : ∀ d ∈ name, isBlank d = false) {before : Option Char}
    (free : ∀ d ∈ before, isWordChar d = false) (part : List Char) :
    IsNamed name before (collapseChars part) ↔ IsNamed name before part := by
  have alone (c : Char) (cs : List Char) :
      IsNameAlone name (c :: collapseBehind cs) ↔ IsNameAlone name (c :: cs) := by
    obtain ⟨first, rest, rfl⟩ := List.exists_cons_of_ne_nil some
    rw [isNameAlone_cons, isNameAlone_cons,
      isNameAlone_collapseBehind (List.forall_mem_cons.mp notBlank).2]
  refine (Text.collapse_induction
    (fun part => ∀ before : Option Char, (∀ d ∈ before, isWordChar d = false) →
      (IsNamed name before (collapseChars part) ↔ IsNamed name before part))
    (fun part => ∀ c,
      (IsNamed name (.some c) (collapseBehind part) ↔ IsNamed name (.some c) part))
    (fun _ _ => Iff.rfl) ?_ ?_ (fun _ => Iff.rfl) ?_ ?_ part).1 before free
  · intro c cs h same before _
    rw [Text.collapseChars_cons cs h, isNamed_cons, isNamed_cons, alone, same]
  · intro c cs blank same before free
    rw [Text.collapseChars_cons_of_blank cs blank, same before free,
      isNamed_cons_of_blank some notBlank blank]
    exact isNamed_iff_of_free free (free_of_isBlank blank)
  · intro c cs h same d
    rw [Text.collapseBehind_cons cs h, isNamed_cons, isNamed_cons, alone, same]
  · intro c cs blank same d
    rw [Text.collapseBehind_cons_of_blank cs blank, isNamed_cons_of_blank some notBlank blank,
      ← same _ (free_of_isBlank blank)]
    split
    · rename_i none
      rw [none]
      exact iff_of_false (not_isNamed_nil some _) (not_isNamed_nil some _)
    · rw [isNamed_cons_of_blank some notBlank Text.isBlank_space]
      exact isNamed_iff_of_free (free_of_isBlank Text.isBlank_space) (free_of_isBlank blank)

def argumentsFrom (name : List Char) (before : Option Char) (cs : List Char) : List (List Char) :=
  (signaturesFrom name 0 before cs).map (·.arguments)

theorem argumentsFrom_of_none {name cs : List Char} {before : Option Char} {c : Char}
    (nothing : signatureAt? name before (c :: cs) = none) :
    argumentsFrom name before (c :: cs) = argumentsFrom name (some c) cs := by
  rw [argumentsFrom, signaturesFrom_of_none nothing, argumentsFrom]

section word
variable {name : String} {before : Option Char} {c : Char} {part arguments rest cs : List Char}

theorem not_isBlank_of_isWord (isWord : IsWord name) : ∀ d ∈ name.toList, isBlank d = false := by
  intro d mem
  cases blank : isBlank d with
  | false => rfl
  | true =>
    have isPart := isWord.2 d mem
    rw [Text.isWordChar_of_isBlank blank] at isPart
    cases isPart

theorem isPlain_of_isNameAlone (isWord : IsWord name) (alone : IsNameAlone name.toList part) :
    IsPlain part := by
  obtain ⟨gap, rfl, blanks⟩ := alone
  intro d mem
  cases paren : isParen d with
  | false => rfl
  | true =>
    rcases List.mem_append.mp mem with inName | inGap
    · have isPart := isWord.2 d inName
      rw [Text.isWordChar_of_isParen paren] at isPart
      cases isPart
    · have blank := blanks d inGap
      rw [Text.isBlank_of_isParen paren] at blank
      cases blank

theorem ne_nil_of_isWord (isWord : IsWord name) : name.toList ≠ [] :=
  fun none => isWord.1 (String.toList_eq_nil_iff.mp none)

theorem isBoundary_behind (isWord : IsWord name) (before : Option Char) {gap : List Char}
    (blanks : ∀ d ∈ gap, isBlank d = true) :
    isBoundary (name.toList.getLast?.or before) (gap ++ ['(']).head? = true := by
  have isLast := Text.any_getLast?_of_isWord isWord []
  rw [List.nil_append] at isLast
  cases last : name.toList.getLast? with
  | none =>
    rw [last] at isLast
    cases isLast
  | some d =>
    rw [last] at isLast
    rw [Option.some_or, Text.isBoundary_comm, Text.isBoundary_iff isLast]
    rintro e first
    cases gap with
    | nil =>
      cases first
      decide
    | cons f gap =>
      cases first
      exact Text.isWordChar_of_isBlank (blanks e List.mem_cons_self)

theorem signatureAt?_opening (isWord : IsWord name) (plain : IsPlain part)
    (notClosed : ')' ∉ arguments) {s : Signature} :
    signatureAt? name.toList before (part ++ '(' :: (arguments ++ ')' :: rest)) = some s ↔
      ((∀ d ∈ before, isWordChar d = false) ∧ IsNameAlone name.toList part) ∧
        s = ⟨arguments, part.length + arguments.length + 2⟩ := by
  rw [signatureAt?_eq_some_iff]
  constructor
  · rintro ⟨gap, after, same, opens, -, blanks, closed, length⟩
    rw [← List.append_assoc] at same
    obtain ⟨rfl, -, inner⟩ := Text.eq_of_append_paren plain
      (isPlain_of_isNameAlone isWord ⟨gap, rfl, blanks⟩) (by decide) (by decide) same
    obtain ⟨isArguments, -⟩ := eq_of_append_closing notClosed closed inner
    rw [same, List.append_assoc, Text.isBoundary_iff (Text.any_head?_of_isWord isWord _)] at opens
    refine ⟨⟨opens, gap, rfl, blanks⟩, ?_⟩
    obtain ⟨read, size⟩ := s
    obtain rfl : arguments = read := isArguments
    have isLength : size = name.toList.length + gap.length + arguments.length + 2 := length
    rw [isLength, List.length_append]
  · rintro ⟨⟨free, gap, rfl, blanks⟩, rfl⟩
    refine ⟨gap, rest, List.append_assoc .., ?_, ?_, blanks, notClosed, ?_⟩
    · rw [List.append_assoc, Text.isBoundary_iff (Text.any_head?_of_isWord isWord _)]
      exact free
    · exact isBoundary_behind isWord before blanks
    · rw [List.length_append]

theorem signatureAt?_closing (isWord : IsWord name) (plain : IsPlain part) (before : Option Char)
    (rest : List Char) : signatureAt? name.toList before (part ++ ')' :: rest) = none := by
  rw [Option.eq_none_iff_forall_ne_some]
  intro s found
  obtain ⟨gap, after, same, -, -, blanks, -⟩ := signatureAt?_eq_some_iff.mp found
  rw [← List.append_assoc] at same
  have parens := (Text.eq_of_append_paren plain (isPlain_of_isNameAlone isWord ⟨gap, rfl, blanks⟩)
    (by decide) (by decide) same).2.1
  revert parens
  decide

theorem not_mem_append_opening (plain : IsPlain part) (notClosed : ')' ∉ cs) :
    ')' ∉ part ++ '(' :: cs := by
  rw [List.mem_append, List.mem_cons]
  rintro (inPart | isOpening | inRest)
  · cases plain _ inPart
  · revert isOpening
    decide
  · exact notClosed inRest

theorem argumentsFrom_of_not_mem (name : List Char) (before : Option Char)
    (lacks : '(' ∉ cs ∨ ')' ∉ cs) : argumentsFrom name before cs = [] := by
  induction cs generalizing before with
  | nil => rfl
  | cons c cs ih =>
    have nothing : signatureAt? name before (c :: cs) = none := by
      rw [Option.eq_none_iff_forall_ne_some]
      intro s found
      obtain ⟨gap, after, same, -⟩ := signatureAt?_eq_some_iff.mp found
      rw [same] at lacks
      simp at lacks
    rw [argumentsFrom_of_none nothing]
    exact ih _ (lacks.imp (fun h mem => h (List.mem_cons_of_mem c mem))
      fun h mem => h (List.mem_cons_of_mem c mem))

theorem argumentsFrom_closing (isWord : IsWord name) (plain : IsPlain part) (before : Option Char)
    (rest : List Char) :
    argumentsFrom name.toList before (part ++ ')' :: rest) =
      argumentsFrom name.toList (some ')') rest := by
  induction part generalizing before with
  | nil =>
    have nothing := signatureAt?_closing isWord plain before rest
    rw [List.nil_append] at nothing ⊢
    exact argumentsFrom_of_none nothing
  | cons c part ih =>
    have nothing := signatureAt?_closing isWord plain before rest
    rw [List.cons_append] at nothing ⊢
    rw [argumentsFrom_of_none nothing]
    exact ih (List.forall_mem_cons.mp plain).2 (some c)

theorem argumentsFrom_of_isNamed (isWord : IsWord name) (plain : IsPlain part)
    (notClosed : ')' ∉ arguments) (named : IsNamed name.toList before part) :
    argumentsFrom name.toList before (part ++ '(' :: (arguments ++ ')' :: rest)) =
      arguments :: argumentsFrom name.toList (some ')') rest := by
  induction part generalizing before with
  | nil => exact absurd named (not_isNamed_nil (ne_nil_of_isWord isWord) before)
  | cons c part ih =>
    cases found : signatureAt? name.toList before
      (c :: part ++ '(' :: (arguments ++ ')' :: rest)) with
    | some s =>
      obtain ⟨-, rfl⟩ := (signatureAt?_opening isWord plain notClosed).mp found
      have whole : c :: part ++ '(' :: (arguments ++ ')' :: rest) =
          c :: part ++ '(' :: arguments ++ ')' :: rest := by simp
      rw [whole] at found ⊢
      rw [argumentsFrom, signaturesFrom_of_some found (by simp; omega)]
      rfl
    | none =>
      rcases isNamed_cons.mp named with here | later
      · rw [(signatureAt?_opening isWord plain notClosed).mpr ⟨here, rfl⟩] at found
        cases found
      · rw [List.cons_append] at found ⊢
        rw [argumentsFrom_of_none found]
        exact ih (List.forall_mem_cons.mp plain).2 later

theorem argumentsFrom_of_not_isNamed (isWord : IsWord name) (plain : IsPlain part)
    (unnamed : ¬IsNamed name.toList before part) :
    argumentsFrom name.toList before (part ++ '(' :: cs) =
      argumentsFrom name.toList (some '(') cs := by
  by_cases closes : ')' ∈ cs
  · obtain ⟨arguments, rest, rfl, notClosed⟩ := List.eq_append_cons_of_mem closes
    have nothing {part : List Char} {before : Option Char} (plain : IsPlain part)
        (elsewhere : ¬((∀ d ∈ before, isWordChar d = false) ∧ IsNameAlone name.toList part)) :
        signatureAt? name.toList before (part ++ '(' :: (arguments ++ ')' :: rest)) = none := by
      rw [Option.eq_none_iff_forall_ne_some]
      exact fun s found => elsewhere ((signatureAt?_opening isWord plain notClosed).mp found).1
    induction part generalizing before with
    | nil =>
      have elsewhere : ¬((∀ d ∈ before, isWordChar d = false) ∧ IsNameAlone name.toList []) := by
        rintro ⟨-, gap, isPart, -⟩
        exact ne_nil_of_isWord isWord (List.append_eq_nil_iff.mp isPart.symm).1
      have here := nothing plain elsewhere
      rw [List.nil_append] at here ⊢
      exact argumentsFrom_of_none here
    | cons c part ih =>
      rw [isNamed_cons, not_or] at unnamed
      have here := nothing plain unnamed.1
      rw [List.cons_append] at here ⊢
      rw [argumentsFrom_of_none here]
      exact ih (List.forall_mem_cons.mp plain).2 unnamed.2
  · have notClosed : ')' ∉ part ++ '(' :: cs := not_mem_append_opening plain closes
    rw [argumentsFrom_of_not_mem _ _ (.inr notClosed), argumentsFrom_of_not_mem _ _ (.inr closes)]

theorem isNamed_congr (isWord : IsWord name) {other : List Char} {before' : Option Char}
    (free : ∀ d ∈ before, isWordChar d = false) (free' : ∀ d ∈ before', isWordChar d = false)
    (same : collapseChars part = collapseChars other) :
    IsNamed name.toList before part ↔ IsNamed name.toList before' other := by
  have kept := isNamed_collapseChars (ne_nil_of_isWord isWord) (not_isBlank_of_isWord isWord) free
  rw [← kept part, same, kept other]
  exact isNamed_iff_of_free free free'

end word

/-- A text that is tightened to the same as another has the same arguments up to the first closing
parenthesis. -/
theorem exists_arguments_of_tight_eq {arguments rest other : List Char}
    (notClosed : ')' ∉ arguments)
    (same : tight (arguments ++ ')' :: rest) = tight other) :
    ∃ arguments' rest', other = arguments' ++ ')' :: rest' ∧ ')' ∉ arguments' ∧
      tight arguments = tight arguments' ∧ tight rest = tight rest' := by
  have closes : ')' ∈ other := (Text.mem_of_tight_eq same (by decide)).mp
    (List.mem_append_right arguments List.mem_cons_self)
  obtain ⟨arguments', rest', rfl, notClosed'⟩ := List.eq_append_cons_of_mem closes
  rw [Text.tight_append_paren (by decide), Text.tight_append_paren (by decide)] at same
  obtain ⟨sameArguments, sameRest⟩ := eq_of_append_closing
    (by rwa [Text.mem_tight (by decide)]) (by rwa [Text.mem_tight (by decide)]) same
  exact ⟨arguments', rest', rfl, notClosed', sameArguments, sameRest⟩

/-- Texts that are tightened to the same are scanned alike, from any position that is not in a
word. -/
theorem argumentsFrom_tight {name : String} (isWord : IsWord name) {cs other : List Char}
    {before before' : Option Char} (free : ∀ d ∈ before, isWordChar d = false)
    (free' : ∀ d ∈ before', isWordChar d = false) (same : tight cs = tight other) :
    (argumentsFrom name.toList before cs).map tight =
      (argumentsFrom name.toList before' other).map tight := by
  have without {c : Char} (h : isBlank c = false) (notIn : c ∉ cs) : c ∉ other :=
    mt (Text.mem_of_tight_eq same h).mpr notIn
  rcases Text.isPlain_or_exists_paren cs with plain | ⟨part, q, rest, rfl, plain, paren⟩
  · have notOpened : '(' ∉ cs := fun opens => by cases plain _ opens
    rw [argumentsFrom_of_not_mem _ _ (.inl notOpened),
      argumentsFrom_of_not_mem _ _ (.inl (without (by decide) notOpened))]
  obtain ⟨part', rest', rfl, plain', samePart, sameRest⟩ := Text.exists_of_tight_eq plain paren same
  have behind := free_of_isParen paren
  rcases Text.eq_of_isParen paren with rfl | rfl
  · by_cases closes : ')' ∈ rest
    · obtain ⟨arguments, more, rfl, notClosed⟩ := List.eq_append_cons_of_mem closes
      obtain ⟨arguments', more', rfl, notClosed', sameArguments, sameMore⟩ :=
        exists_arguments_of_tight_eq notClosed sameRest
      have named := isNamed_congr isWord free free' samePart
      by_cases isNamed : IsNamed name.toList before part
      · have closed := free_of_isParen (c := ')') rfl
        rw [argumentsFrom_of_isNamed isWord plain notClosed isNamed,
          argumentsFrom_of_isNamed isWord plain' notClosed' (named.mp isNamed), List.map_cons,
          List.map_cons, sameArguments, argumentsFrom_tight isWord closed closed sameMore]
      · rw [argumentsFrom_of_not_isNamed isWord plain isNamed,
          argumentsFrom_of_not_isNamed isWord plain' (mt named.mpr isNamed)]
        exact argumentsFrom_tight isWord behind behind sameRest
    · have notClosed := not_mem_append_opening plain closes
      rw [argumentsFrom_of_not_mem _ _ (.inr notClosed),
        argumentsFrom_of_not_mem _ _ (.inr (without (by decide) notClosed))]
  · rw [argumentsFrom_closing isWord plain, argumentsFrom_closing isWord plain']
    exact argumentsFrom_tight isWord behind behind sameRest
termination_by cs.length

theorem keywords_tight (stoplist : NameSet) (text : String) :
    keywords stoplist (String.ofList (tight text.toList)) = keywords stoplist text := by
  have same : words (tight text.toList) = words text.toList :=
    Text.runs_tight (fun _ => Text.isWordChar_of_isBlank) (fun _ => Text.isWordChar_of_isParen) _
  rw [keywords, keywords, String.toList_ofList, keywordsOf, keywordsOf, same]

theorem signatures_eq_map (command help : String) :
    signatures command help =
      (argumentsFrom command.toList none (collapseChars help.toList)).map fun arguments =>
        String.ofList (collapseChars arguments) := by
  rw [signatures, signaturesOf, argumentsFrom, List.map_map]
  rfl

theorem signatures_map_tight (command help : String) :
    (signatures command help).map (fun s => tight s.toList) =
      (argumentsFrom command.toList none (collapseChars help.toList)).map tight := by
  rw [signatures_eq_map, List.map_map]
  refine List.map_congr_left fun arguments _ => ?_
  rw [Function.comp_apply, String.toList_ofList, Text.tight_collapseChars]

theorem signatureKeywords_eq_foldr_tight (stoplist : NameSet) (command help : String) :
    signatureKeywords stoplist command help =
      ((signatures command help).map fun s => tight s.toList).foldr
        (fun arguments found => keywords stoplist (String.ofList arguments) ∪ found) ∅ := by
  simp only [signatureKeywords, List.foldr_map, keywords_tight]

/-- How a help text is wrapped, indented or spaced around its parentheses does not count: texts that
are equal once they are tightened have as many signatures of a command that is a word, one by one
equal up to their spacing, and the same keywords. -/
theorem signatures_respaced (e : Extraction) {command help other : String}
    (isWord : IsWord command) (searchable : isSearchable command = true)
    (same : tight help.toList = tight other.toList) :
    (signatures command help).map (fun s => tight s.toList) =
        (signatures command other).map (fun s => tight s.toList) ∧
      ∃ found, (Gather.signatureKeywords e command help).result = .ok found ∧
        (Gather.signatureKeywords e command other).result = .ok found := by
  have signed : (signatures command help).map (fun s => tight s.toList) =
      (signatures command other).map (fun s => tight s.toList) := by
    rw [signatures_map_tight, signatures_map_tight]
    refine argumentsFrom_tight isWord (by simp) (by simp) ?_
    rw [Text.tight_collapseChars, Text.tight_collapseChars, same]
  refine ⟨signed, _, Gather.result_signatureKeywords searchable help, ?_⟩
  rw [Gather.result_signatureKeywords searchable other, signatureKeywords_eq_foldr_tight,
    signatureKeywords_eq_foldr_tight, signed]

/-- A signature that is wrapped, and the same one on a line of its own. -/
theorem signatures_respaced_wrapped :
    (IsWord "foo" ∧ isSearchable "foo" = true ∧
      tight "see foo (\n  BAR\n  (BAZ )\n)".toList = tight "see foo(BAR(BAZ))".toList) ∧
      (signatures "foo" "see foo (\n  BAR\n  (BAZ )\n)").map (fun s => tight s.toList) =
        (signatures "foo" "see foo(BAR(BAZ))").map (fun s => tight s.toList) ∧
      ∃ found, (Gather.signatureKeywords .standard "foo" "see foo (\n  BAR\n  (BAZ )\n)").result =
          .ok found ∧
        (Gather.signatureKeywords .standard "foo" "see foo(BAR(BAZ))").result = .ok found := by
  have hypotheses : IsWord "foo" ∧ isSearchable "foo" = true ∧
      tight "see foo (\n  BAR\n  (BAZ )\n)".toList = tight "see foo(BAR(BAZ))".toList := by
    decide +kernel
  exact ⟨hypotheses, signatures_respaced .standard hypotheses.1 hypotheses.2.1 hypotheses.2.2⟩

end CMakeGrammar.Help
