import CMakeGrammar.Proofs.Help.Spacing
/-! Sections of a help text. A section that is closed by a parenthesis is scanned for itself: no
signature begins in it and ends behind it, since the parenthesis that closes it closes what is open
in it, and behind it the scan of a name that is a word goes on as at the beginning of a text. -/
namespace CMakeGrammar.Help
open Text (isBlank isWordChar isBoundary isParen collapseChars collapseBehind IsPlain IsWord)

def IsClosed (text : String) : Prop := (text.toList.filter (!isBlank ·)).getLast? = some ')'

instance (text : String) : Decidable (IsClosed text) := inferInstanceAs (Decidable (_ = _))

theorem IsClosed.exists_append {text : String} (h : IsClosed text) :
    ∃ front blanks, text.toList = front ++ ')' :: blanks ∧ ∀ c ∈ blanks, isBlank c = true := by
  rw [IsClosed, List.getLast?_filter, List.find?_eq_some_iff_append] at h
  obtain ⟨-, blanks, front, reversed, blank⟩ := h
  refine ⟨front.reverse, blanks.reverse, ?_, fun c mem => ?_⟩
  · rw [← List.reverse_reverse text.toList, reversed]
    simp
  · simpa using blank c (List.mem_reverse.mp mem)

section
variable {name : String} {before other : Option Char}

theorem argumentsFrom_append_closing (isWord : IsWord name) (before : Option Char)
    (front rest : List Char) :
    argumentsFrom name.toList before (front ++ ')' :: rest) =
      argumentsFrom name.toList before (front ++ [')']) ++
        argumentsFrom name.toList (some ')') rest := by
  rcases Text.isPlain_or_exists_paren front with plain | ⟨part, q, inner, rfl, plain, paren⟩
  · rw [argumentsFrom_closing isWord plain, argumentsFrom_closing isWord plain]
    rfl
  rw [List.append_assoc, List.append_assoc, List.cons_append, List.cons_append]
  rcases Text.eq_of_isParen paren with rfl | rfl
  · by_cases named : IsNamed name.toList before part
    · by_cases closes : ')' ∈ inner
      · obtain ⟨arguments, more, rfl, notClosed⟩ := List.eq_append_cons_of_mem closes
        rw [List.append_assoc, List.append_assoc, List.cons_append, List.cons_append,
          argumentsFrom_of_isNamed isWord plain notClosed named,
          argumentsFrom_of_isNamed isWord plain notClosed named,
          argumentsFrom_append_closing isWord _ more rest, List.cons_append]
      · rw [argumentsFrom_of_isNamed isWord plain closes named,
          argumentsFrom_of_isNamed isWord plain closes named]
        rfl
    · rw [argumentsFrom_of_not_isNamed isWord plain named,
        argumentsFrom_of_not_isNamed isWord plain named,
        argumentsFrom_append_closing isWord _ inner rest]
  · rw [argumentsFrom_closing isWord plain, argumentsFrom_closing isWord plain,
      argumentsFrom_append_closing isWord _ inner rest]
termination_by front.length

theorem argumentsFrom_congr (isWord : IsWord name) (free : ∀ d ∈ before, isWordChar d = false)
    (free' : ∀ d ∈ other, isWordChar d = false) (cs : List Char) :
    argumentsFrom name.toList before cs = argumentsFrom name.toList other cs := by
  have notWord {before : Option Char} (free : ∀ d ∈ before, isWordChar d = false) :
      before.any isWordChar = false := by
    cases before with
    | none => rfl
    | some d => exact free d rfl
  have starts (after : Option Char) : isBoundary before after = isBoundary other after := by
    rw [isBoundary, isBoundary, notWord free, notWord free']
  have ends : name.toList.getLast?.or before = name.toList.getLast?.or other := by
    rw [List.getLast?_eq_some_getLast (ne_nil_of_isWord isWord), Option.some_or, Option.some_or]
  cases cs with
  | nil => rfl
  | cons c cs =>
    have here : signatureAt? name.toList before (c :: cs) =
        signatureAt? name.toList other (c :: cs) := by
      rw [signatureAt?, signatureAt?, starts, ends]
    rw [argumentsFrom, argumentsFrom, signaturesFrom, signaturesFrom, here]

theorem argumentsFrom_cons_of_blank (isWord : IsWord name) {c : Char} (blank : isBlank c = true)
    (before : Option Char) (cs : List Char) :
    argumentsFrom name.toList before (c :: cs) = argumentsFrom name.toList (some c) cs := by
  refine argumentsFrom_of_none (Option.eq_none_iff_forall_ne_some.mpr fun s found => ?_)
  obtain ⟨gap, after, same, -⟩ := signatureAt?_eq_some_iff.mp found
  obtain ⟨first, rest, letters⟩ := List.exists_cons_of_ne_nil (ne_nil_of_isWord isWord)
  have notBlank := not_isBlank_of_isWord isWord first (letters ▸ List.mem_cons_self)
  rw [letters, List.cons_append, List.cons.injEq] at same
  rw [← same.1, blank] at notBlank
  cases notBlank

/-- Behind a character that is none of a word, the scan goes on as at the beginning of a text. -/
theorem argumentsFrom_collapseBehind (isWord : IsWord name)
    (free : ∀ d ∈ before, isWordChar d = false) (cs : List Char) :
    argumentsFrom name.toList before (collapseBehind cs) =
      argumentsFrom name.toList none (collapseChars cs) := by
  cases cs with
  | nil => rfl
  | cons c cs =>
    cases blank : isBlank c with
    | false =>
      rw [Text.collapseBehind_cons cs blank, ← Text.collapseChars_cons cs blank]
      exact argumentsFrom_congr isWord free (by simp) _
    | true =>
      rw [Text.collapseBehind_cons_of_blank cs blank, Text.collapseChars_cons_of_blank cs blank]
      split
      · rename_i nothing
        rw [nothing]
        rfl
      · rw [argumentsFrom_cons_of_blank isWord Text.isBlank_space]
        exact argumentsFrom_congr isWord (free_of_isBlank Text.isBlank_space) (by simp) _

theorem exists_argumentsFrom_collapseChars (isWord : IsWord name) (front : List Char) :
    ∃ read, ∀ rest, argumentsFrom name.toList none (collapseChars (front ++ ')' :: rest)) =
      read ++ argumentsFrom name.toList none (collapseChars rest) := by
  obtain ⟨lead, written⟩ := Text.exists_collapseChars_append_cons (c := ')') (by decide) front
  refine ⟨argumentsFrom name.toList none (lead ++ [')']), fun rest => ?_⟩
  rw [written, argumentsFrom_append_closing isWord,
    argumentsFrom_collapseBehind isWord (free_of_isParen (by decide))]

end

section
variable {command first gap second : String}

theorem signatures_append (isWord : IsWord command) (closed : IsClosed first)
    (blank : ∀ c ∈ gap.toList, isBlank c = true) :
    signatures command (first ++ gap ++ second) =
      signatures command first ++ signatures command second := by
  obtain ⟨front, blanks, isFirst, areBlanks⟩ := closed.exists_append
  obtain ⟨read, parted⟩ := exists_argumentsFrom_collapseChars isWord front
  have alone : argumentsFrom command.toList none (collapseChars first.toList) = read := by
    have nothing := Text.collapseChars_append_of_blank areBlanks []
    rw [List.append_nil] at nothing
    rw [isFirst, parted, nothing, Text.collapseChars_nil]
    exact List.append_nil read
  have joined : (first ++ gap ++ second).toList =
      front ++ ')' :: (blanks ++ (gap.toList ++ second.toList)) := by
    simp [isFirst]
  rw [signatures_eq_map, joined, parted, Text.collapseChars_append_of_blank areBlanks,
    Text.collapseChars_append_of_blank blank, List.map_append, signatures_eq_map, alone,
    signatures_eq_map]

/-- A section that is closed and what follows it are read apart, with blanks between them or
without: the signatures of both together are those of the one and then those of the other, and a
keyword of both together is one of either. -/
theorem signatures_sections (e : Extraction) (isWord : IsWord command)
    (searchable : isSearchable command = true) (closed : IsClosed first)
    (blank : ∀ c ∈ gap.toList, isBlank c = true) :
    signatures command (first ++ gap ++ second) =
        signatures command first ++ signatures command second ∧
      ∃ found found', (Gather.signatureKeywords e command first).result = .ok found ∧
        (Gather.signatureKeywords e command second).result = .ok found' ∧
        (Gather.signatureKeywords e command (first ++ gap ++ second)).result =
          .ok (found ∪ found') := by
  have parted : signatures command (first ++ gap ++ second) =
      signatures command first ++ signatures command second := signatures_append isWord closed blank
  refine ⟨parted, _, _, Gather.result_signatureKeywords searchable first,
    Gather.result_signatureKeywords searchable second, ?_⟩
  rw [Gather.signatureKeywords_eq_ok_iff]
  refine ⟨searchable, NameSet.ext fun word => ?_⟩
  simp only [NameSet.mem_union, mem_signatureKeywords, parted, List.mem_append, or_and_right,
    exists_or]

/-- A section that ends in a line break, and one that begins with a parenthesis. -/
theorem signatures_sections_lines :
    (IsWord "foo" ∧ isSearchable "foo" = true ∧ IsClosed "foo (ONE\n  foo(TWO))\n" ∧
      ∀ c ∈ "\n".toList, isBlank c = true) ∧
      signatures "foo" ("foo (ONE\n  foo(TWO))\n" ++ "\n" ++ "(X) foo(THREE) foo(") =
        signatures "foo" "foo (ONE\n  foo(TWO))\n" ++ signatures "foo" "(X) foo(THREE) foo(" ∧
      ∃ found found',
        (Gather.signatureKeywords .standard "foo" "foo (ONE\n  foo(TWO))\n").result = .ok found ∧
        (Gather.signatureKeywords .standard "foo" "(X) foo(THREE) foo(").result = .ok found' ∧
        (Gather.signatureKeywords .standard "foo"
          ("foo (ONE\n  foo(TWO))\n" ++ "\n" ++ "(X) foo(THREE) foo(")).result =
            .ok (found ∪ found') := by
  have isWord : IsWord "foo" := by decide
  have searchable : isSearchable "foo" = true := by decide +kernel
  have closed : IsClosed "foo (ONE\n  foo(TWO))\n" := by decide +kernel
  have blank : ∀ c ∈ "\n".toList, isBlank c = true := List.all_eq_true.mp (by decide)
  exact ⟨⟨isWord, searchable, closed, blank⟩,
    signatures_sections .standard isWord searchable closed blank⟩

end

end CMakeGrammar.Help
