import CMakeGrammar.Proofs.Gather.Failures
import CMakeGrammar.Proofs.Help.Declarations
import CMakeGrammar.Proofs.Regex.Captures
import CMakeGrammar.Proofs.Text.Wrapping
/-! Directives by where they stand in a text. The commands of a module are the longest runs of
letters and underscores behind directives of the collapsed help, and so those behind directives of
the help itself that may be wrapped at either of their blanks (`follows_collapseChars`). No
directive begins inside of another one, so a search that goes on behind each of them misses none. -/
namespace CMakeGrammar.Help
open Regex (Expression CharClass)
open Text (Place isBlank collapseChars collapseBehind IsGap)

def IsWrappedDirective (lead : List Char) : Prop :=
  ∃ gap gap', IsGap gap ∧ IsGap gap' ∧ lead = "..".toList ++ gap ++ "command::".toList ++ gap'

/-- The name is a run of letters and underscores that cannot be made longer, behind some lead. -/
def Follows (isLead : List Char → Prop) (text name : List Char) : Prop :=
  ∃ o : Place, o.text = text ∧ o.IsRun isDirectiveNameChar ∧
    (∃ lead, isLead lead ∧ lead <:+ o.before) ∧ o.inside = name

section names
variable {c : Char}

theorem toNat_lt_of_isDirectiveNameChar (h : isDirectiveNameChar c = true) : c.toNat < 0x80 := by
  have isAscii {last : Char} (upTo : c.val ≤ last.val) (ascii : last.toNat < 0x80) :
      c.toNat < 0x80 :=
    Nat.lt_of_le_of_lt (UInt32.le_iff_toNat_le.mp upTo) ascii
  rcases isDirectiveNameChar_iff.mp h with letter | rfl
  · rcases Bool.or_eq_true_iff.mp letter with upper | lower
    · exact isAscii (of_decide_eq_true upper : 'A'.val ≤ c.val ∧ c.val ≤ 'Z'.val).2 (by decide)
    · exact isAscii (of_decide_eq_true (Bool.and_eq_true_iff.mp lower).2)
        (by decide : 'z'.toNat < 0x80)
  · decide

theorem isDirectiveNameChar_of_isBlank (blank : isBlank c = true) :
    isDirectiveNameChar c = false := by
  have notWord := Text.isWordChar_of_isBlank blank
  rw [← Bool.not_eq_true]
  intro isName
  rw [Text.isWordChar, if_pos (toNat_lt_of_isDirectiveNameChar isName)] at notWord
  rw [isDirectiveNameChar_eq, notWord] at isName
  cases isName

theorem isBlank_of_isDirectiveNameChar (isName : isDirectiveNameChar c = true) :
    isBlank c = false := by
  rw [← Bool.not_eq_true]
  intro blank
  rw [isDirectiveNameChar_of_isBlank blank] at isName
  cases isName

end names

theorem follows_iff {isLead : List Char → Prop} {text name : List Char}
    (apart : ∀ lead, isLead lead → ∃ c ∈ lead.getLast?, isDirectiveNameChar c = false) :
    Follows isLead text name ↔ IsDeclaredName name ∧ ∃ lead after, isLead lead ∧
      lead ++ (name ++ after) <:+ text ∧ ∀ c ∈ after.head?, isDirectiveNameChar c = false := by
  constructor
  · rintro ⟨⟨_, name, after⟩, rfl, isRun, ⟨lead, is, front, rfl⟩, rfl⟩
    refine ⟨⟨isRun.ne_nil, fun c mem => isDirectiveNameChar_iff.mp (isRun.all c mem)⟩, lead,
      after, is, ⟨front, ?_⟩, isRun.after⟩
    rw [Place.text, List.append_assoc]
  · rintro ⟨⟨some, all⟩, lead, after, is, ⟨front, rfl⟩, stops⟩
    refine ⟨⟨front ++ lead, name, after⟩, List.append_assoc .., ?_, ⟨lead, is, front, rfl⟩, rfl⟩
    refine ⟨some, fun c mem => isDirectiveNameChar_iff.mpr (all c mem), fun c last => ?_, stops⟩
    obtain ⟨d, isLast, other⟩ := apart lead is
    rw [List.getLast?_append, Option.mem_def.mp isLast] at last
    obtain rfl : d = c := Option.some.inj last
    exact other

theorem directive_apart : ∀ lead, lead = directive →
    ∃ c ∈ lead.getLast?, isDirectiveNameChar c = false := by
  rintro lead rfl
  exact ⟨' ', by decide, by decide⟩

theorem IsWrappedDirective.apart : ∀ lead, IsWrappedDirective lead →
    ∃ c ∈ lead.getLast?, isDirectiveNameChar c = false := by
  rintro lead ⟨gap, gap', -, ⟨some, blanks⟩, rfl⟩
  refine ⟨gap'.getLast some, ?_, isDirectiveNameChar_of_isBlank (blanks _ (List.getLast_mem some))⟩
  rw [List.getLast?_append, List.getLast?_eq_some_getLast some]
  rfl

theorem directive_append (back : List Char) :
    directive ++ back = "..".toList ++ ' ' :: ("command::".toList ++ ' ' :: back) := by
  have split : directive = "..".toList ++ ' ' :: ("command::".toList ++ [' ']) := by decide
  rw [split]
  simp only [List.append_assoc, List.cons_append, List.nil_append]

/-- A directive with a name behind it stands in the collapsed text where one stands in the text
itself, be it wrapped or not. -/
theorem directive_suffix_collapseChars {text name back : List Char} (some : name ≠ [])
    (solid : ∀ c ∈ name, isBlank c = false) :
    directive ++ (name ++ back) <:+ collapseChars text ↔ ∃ lead after, IsWrappedDirective lead ∧
      lead ++ (name ++ after) <:+ text ∧ collapseBehind after = back := by
  have dots : ∀ c ∈ "..".toList, isBlank c = false := Text.solid_of_all (by decide)
  have command : ∀ c ∈ "command::".toList, isBlank c = false := Text.solid_of_all (by decide)
  rw [directive_append, Text.append_suffix_collapseChars (by decide) dots]
  constructor
  · rintro ⟨_, isEnd, written⟩
    obtain ⟨gap, _, rfl, isGap, written⟩ :=
      (Text.collapseBehind_eq_space_append (by decide) command).mp written
    obtain ⟨gap', after, rfl, isGap', isBack⟩ :=
      (Text.collapseBehind_eq_space_append some solid).mp written
    refine ⟨_, after, ⟨gap, gap', isGap, isGap', rfl⟩, ?_, isBack⟩
    simpa only [List.append_assoc] using isEnd
  · rintro ⟨_, after, ⟨gap, gap', isGap, isGap', rfl⟩, isEnd, isBack⟩
    simp only [List.append_assoc] at isEnd
    refine ⟨_, isEnd, ?_⟩
    refine (Text.collapseBehind_eq_space_append (by decide) command).mpr ⟨gap, _, rfl, isGap, ?_⟩
    exact (Text.collapseBehind_eq_space_append some solid).mpr ⟨gap', after, rfl, isGap', isBack⟩

theorem follows_collapseChars {text name : List Char} :
    Follows (· = directive) (collapseChars text) name ↔ Follows IsWrappedDirective text name := by
  rw [follows_iff directive_apart, follows_iff IsWrappedDirective.apart]
  refine and_congr_right fun isName => ?_
  have solid : ∀ c ∈ name, isBlank c = false := fun c mem =>
    isBlank_of_isDirectiveNameChar (isDirectiveNameChar_iff.mpr (isName.2 c mem))
  have stopped := Text.head?_collapseBehind_iff fun c => isDirectiveNameChar_of_isBlank
  constructor
  · rintro ⟨_, _, rfl, isEnd, stops⟩
    obtain ⟨lead, after, isLead, here, rfl⟩ :=
      (directive_suffix_collapseChars isName.1 solid).mp isEnd
    exact ⟨lead, after, isLead, here, (stopped after).mp stops⟩
  · rintro ⟨lead, after, isLead, here, stops⟩
    exact ⟨directive, collapseBehind after, rfl, (directive_suffix_collapseChars isName.1 solid).mpr
      ⟨lead, after, isLead, here, rfl⟩, (stopped after).mpr stops⟩

section reading
variable {cs text name : List Char}

theorem declarationAt?_eq_some_iff_longest : declarationAt? cs = some name ↔
    IsDeclaredName name ∧ ∃ after, cs = directive ++ (name ++ after) ∧
      ∀ c ∈ after.head?, isDirectiveNameChar c = false := by
  rw [declarationAt?_eq_some_iff]
  constructor
  · rintro ⟨rest, rfl, rfl, some⟩
    refine ⟨⟨some, fun c mem => isDirectiveNameChar_iff.mp ?_⟩, rest.dropWhile isDirectiveNameChar,
      by rw [List.takeWhile_append_dropWhile], Text.stops_of_head?_dropWhile _ rest⟩
    exact List.all_eq_true.mp List.all_takeWhile c mem
  · rintro ⟨⟨some, all⟩, after, rfl, stops⟩
    refine ⟨name ++ after, rfl, Text.takeWhile_append_of_head? ?_ stops, some⟩
    exact fun c mem => isDirectiveNameChar_iff.mpr (all c mem)

theorem mem_declarationsOf_iff_follows :
    name ∈ declarationsOf text ↔ Follows (· = directive) text name := by
  rw [declarationsOf, Text.mem_everywhere, follows_iff directive_apart]
  simp only [declarationAt?_eq_some_iff_longest]
  constructor
  · rintro ⟨before, _, rfl, -, isName, after, rfl, stops⟩
    exact ⟨isName, directive, after, rfl, List.suffix_append before _, stops⟩
  · rintro ⟨isName, _, after, rfl, ⟨before, rfl⟩, stops⟩
    exact ⟨before, _, rfl, List.append_ne_nil_of_left_ne_nil (by decide) _, isName, after,
      rfl, stops⟩

theorem declarationAt?_cons {c : Char} (isName : isDirectiveNameChar c = true)
    (behind : List Char) :
    declarationAt? (directive ++ c :: behind) = some (c :: behind.takeWhile isDirectiveNameChar) :=
  declarationAt?_eq_some_iff.mpr
    ⟨c :: behind, rfl, List.takeWhile_cons_of_pos isName, List.cons_ne_nil _ _⟩

theorem declarationsOf_eq_nil_iff : declarationsOf text = [] ↔
    ∀ c, isDirectiveNameChar c = true → ¬directive ++ [c] <:+: text := by
  rw [List.eq_nil_iff_forall_not_mem]
  constructor
  · rintro none c isName ⟨before, behind, rfl⟩
    refine none _ (Text.mem_everywhere.mpr ⟨before, directive ++ c :: behind, by simp,
      List.append_ne_nil_of_left_ne_nil (by decide) _, declarationAt?_cons isName behind⟩)
  · intro none name mem
    obtain ⟨⟨some, all⟩, _, after, rfl, isEnd, -⟩ :=
      (follows_iff directive_apart).mp (mem_declarationsOf_iff_follows.mp mem)
    obtain ⟨c, name, rfl⟩ := List.exists_cons_of_ne_nil some
    refine none c (isDirectiveNameChar_iff.mpr (all c List.mem_cons_self)) (.trans ?_ isEnd.isInfix)
    exact List.IsPrefix.isInfix ⟨name ++ after, by simp⟩

end reading

def blankClass : CharClass :=
  .below isBlank 0x3001 (fun _ => Text.toNat_lt_of_isBlank) ⟨' ', rfl⟩

def nameClass : CharClass :=
  .below isDirectiveNameChar 0x80 (fun _ => toNat_lt_of_isDirectiveNameChar) ⟨'_', rfl⟩

def directiveWords : List Char := ".. command::".toList

/-- `\.\. command::\s+([A-Za-z_]+)` for all texts that have no more characters than `n`. -/
def directivePattern (n : Nat) : Expression :=
  .both (.literal directiveWords) (.both (blankClass.many n) (.group 1 (nameClass.many n)))

section searching
variable {n : Nat} {text part front back name : List Char}

theorem directive_eq : directive = directiveWords ++ [' '] := by decide

theorem matches_directivePattern (isMatch : (directivePattern n).Matches part) :
    ∃ gap name, IsGap gap ∧ IsDeclaredName name ∧ part = directiveWords ++ (gap ++ name) := by
  obtain ⟨_, _, rfl, words, gap, name, rfl, isGap, isName⟩ := isMatch
  obtain rfl := Expression.matches_literal.mp words
  obtain ⟨some, blanks, -⟩ := Expression.matches_many.mp isGap
  obtain ⟨some', all, -⟩ := Expression.matches_many.mp (Expression.matches_group.mp isName)
  exact ⟨gap, name, ⟨some, blanks⟩,
    ⟨some', fun c mem => isDirectiveNameChar_iff.mp (all c mem)⟩, rfl⟩

theorem head?_run_directivePattern {after : List Char} (isName : IsDeclaredName name)
    (stops : ∀ c ∈ after.head?, isDirectiveNameChar c = false) (fits : name.length < n) :
    ((directivePattern n).run ⟨[], directive ++ (name ++ after)⟩).head? =
      some ⟨[(1, name)], after⟩ := by
  obtain ⟨some, letters⟩ := isName
  have all : ∀ c ∈ name, isDirectiveNameChar c = true := fun c mem =>
    isDirectiveNameChar_iff.mpr (letters c mem)
  have named : (Expression.group 1 (nameClass.many n)).firstOf ⟨[], name ++ after⟩ .some =
      .some ⟨[(1, name)], after⟩ := by
    rw [Expression.firstOf_group, Expression.firstOf_many nameClass some all
      (Nat.le_of_lt fits) stops, Expression.take_front]
    nofun
  have opened : Text.after? directiveWords (directiveWords ++ ([' '] ++ (name ++ after))) =
      .some ([' '] ++ (name ++ after)) := Text.after?_eq_some_iff.mpr rfl
  have begins : ∀ c ∈ (name ++ after).head?, isBlank c = false := by
    obtain ⟨first, rest, rfl⟩ := List.exists_cons_of_ne_nil some
    rintro c ⟨⟩
    exact isBlank_of_isDirectiveNameChar (all _ List.mem_cons_self)
  rw [Expression.head?_run, directive_eq, List.append_assoc, directivePattern,
    Expression.firstOf_both,
    Expression.firstOf_literal, opened, Option.bind_some, Expression.firstOf_both,
    Expression.firstOf_many blankClass (List.cons_ne_nil _ _) (List.forall_mem_singleton.mpr rfl)
      (Nat.zero_lt_of_lt fits) begins, named]
  -- the one space is all that there is, and with it the name is found
  intro none
  rw [named] at none
  cases none

/-- No directive begins inside of another one and the name behind it: dots stand at the front
only. -/
theorem declarationAt?_inside (found : declarationAt? (front ++ back) = some name)
    (some : front ≠ [])
    (inside : front.length < (directive ++ name).length) : declarationAt? back = none := by
  obtain ⟨⟨-, letters⟩, after, whole, -⟩ := declarationAt?_eq_some_iff_longest.mp found
  have once : '.' ∉ " command:: ".toList ++ name := by
    rw [List.mem_append]
    rintro (inWords | inName)
    · revert inWords
      decide
    · have letter := letters '.' inName
      revert letter
      decide
  have parts : directive = '.' :: '.' :: " command:: ".toList := by decide
  have begins : '.' :: '.' :: (" command:: ".toList ++ name) <+: front ++ back := by
    rw [whole, ← List.append_assoc, parts]
    exact List.prefix_append _ after
  rw [Option.eq_none_iff_forall_ne_some]
  intro other foundInside
  obtain ⟨rest, rfl, -⟩ := declarationAt?_eq_some_iff.mp foundInside
  rw [parts] at begins
  obtain ⟨c, front, rfl⟩ := List.exists_cons_of_ne_nil some
  have behind := (List.cons_prefix_cons.mp begins).2
  cases front with
  | nil =>
    have second : ' ' = '.' := (List.cons_prefix_cons.mp (List.cons_prefix_cons.mp behind).2).1
    cases second
  | cons d front =>
    refine Regex.not_mem_head?_inside behind once (List.cons_ne_nil d front) ?_ rfl
    rw [parts] at inside
    exact Nat.le_of_lt_succ (Nat.lt_of_succ_lt_succ inside)

theorem reads_directivePattern (spaced : Text.IsSpaced text) (fits : text.length ≤ n) :
    Regex.Reads (directivePattern n) 1 declarationAt? (directive ++ ·) text where
  begins rest name found := by
    obtain ⟨-, after, rfl, -⟩ := declarationAt?_eq_some_iff_longest.mp found
    rw [← List.append_assoc]
    exact List.prefix_append _ after
  taken name behind isEnd found := by
    have bound := isEnd.length_le
    simp only [List.length_append] at bound
    rw [List.append_assoc] at found ⊢
    obtain ⟨isName, after, same, stops⟩ := declarationAt?_eq_some_iff_longest.mp found
    obtain rfl := List.append_cancel_left (List.append_cancel_left same)
    have some : 0 < directive.length := by decide
    exact head?_run_directivePattern isName stops (by omega)
  matched rest part isEnd isMatch begins := by
    obtain ⟨gap, name, ⟨some, blanks⟩, ⟨some', letters⟩, rfl⟩ := matches_directivePattern isMatch
    have isPart : gap <:+: text :=
      ((List.infix_append' directiveWords gap name).trans begins.isInfix).trans isEnd.isInfix
    obtain rfl := (spaced gap isPart blanks).resolve_left some
    obtain ⟨behind, rfl⟩ := begins
    obtain ⟨c, name, rfl⟩ := List.exists_cons_of_ne_nil some'
    have found := declarationAt?_cons (isDirectiveNameChar_iff.mpr (letters c List.mem_cons_self))
      (name ++ behind)
    rw [directive_eq] at found
    simp only [List.append_assoc, List.cons_append] at found ⊢
    rw [found]
    exact Option.some_ne_none _
  nothing := by decide
  apart front back name _ found some inside := declarationAt?_inside found some inside

end searching

theorem moduleFunctions?_eq_some_iff {help : String} {functions : NameSet} :
    moduleFunctions? help = some functions ↔ (∃ name, name ∈ functions) ∧ ∀ name, name ∈ functions ↔
      Follows (· = directive) (collapseChars help.toList) name.toList := by
  have members (name : String) : name ∈ (moduleFunctions? help).getD ∅ ↔
      Follows (· = directive) (collapseChars help.toList) name.toList :=
    mem_moduleFunctions?.trans mem_declarationsOf_iff_follows
  constructor
  · intro found
    rw [found] at members
    exact ⟨(isDeclaredName_of_mem found).1, members⟩
  · rintro ⟨⟨name, mem⟩, same⟩
    have read := (members name).mpr ((same name).mp mem)
    cases found : moduleFunctions? help with
    | none =>
      rw [found] at read
      exact absurd read (NameSet.not_mem_empty name)
    | some others =>
      rw [found] at members
      exact congrArg some (NameSet.ext fun name => (members name).trans (same name).symm)

/-- A module has no commands if no directive of its collapsed help has a letter or an underscore
behind it, and otherwise its commands are the longest runs of them behind directives. They are those
of the help itself, wrapped or not, and a search that goes on behind each match misses none. A
module without commands is an error, and apart from failures of the client there is no other. -/
theorem moduleFunctions?_runs (help : String) (more : Nat) :
    (moduleFunctions? help = none ↔
      ∀ c, isDirectiveNameChar c = true → ¬directive ++ [c] <:+: collapseChars help.toList) ∧
    (∀ functions, moduleFunctions? help = some functions ↔ (∃ name, name ∈ functions) ∧
      ∀ name, name ∈ functions ↔
        Follows (· = directive) (collapseChars help.toList) name.toList) ∧
    (∀ name, Follows (· = directive) (collapseChars help.toList) name ↔
      Follows IsWrappedDirective help.toList name) ∧
    (moduleFunctions? help).getD ∅ =
      .ofList ((Regex.captures (directivePattern (help.length + more)) 1
        (collapseChars help.toList)).map String.ofList) ∧
    ∀ (c : Client) (e : Extraction) (name : String),
      (∀ error, (Gather.moduleEntry c e name).result = .error error ↔
        c.answer (Query.moduleHelp name).arguments = .error error ∨
          ∃ answer, c.answer (Query.moduleHelp name).arguments = .ok answer ∧
            moduleFunctions? answer = none ∧
            error = .emptyModule name (Client.commandLine c.name
              (Query.moduleHelp name).arguments)) ∧
      (c.FailsAsCommand →
        ((∃ moduleName command,
            (Gather.moduleEntry c e name).result = .error (.emptyModule moduleName command)) ↔
          ∃ answer, c.answer (Query.moduleHelp name).arguments = .ok answer ∧
            moduleFunctions? answer = none)) := by
  refine ⟨?_, fun _ => moduleFunctions?_eq_some_iff, fun _ => follows_collapseChars, ?_, ?_⟩
  · rw [moduleFunctions?_eq_none_iff, declarationsOf_eq_nil_iff]
  · have fits := Text.length_collapseChars_toList_le help more
    rw [Regex.captures_eq_everywhere (reads_directivePattern (Text.isSpaced_collapseChars _) fits),
      ← declarationsOf]
    unfold moduleFunctions?
    split
    · rename_i none
      rw [none]
      rfl
    · rfl
  · intro c e name
    exact ⟨fun _ => Gather.moduleEntry_eq_error_iff, Gather.exists_emptyModule_iff⟩

def fetchContentHelp : String :=
  ".. command:: FetchContent_Declare\n\n.. command::\n   FetchContent_MakeAvailable\n\n.. command::"

def fetchContentClient : Client :=
  .ofTable (.ofList [("--help-module FetchContent", fetchContentHelp)])

theorem moduleFunctions?_runs_fetchContent :
    fetchContentClient.answer (Query.moduleHelp "FetchContent").arguments = .ok fetchContentHelp ∧
    fetchContentClient.FailsAsCommand ∧
    moduleFunctions? fetchContentHelp =
      some (.ofList ["FetchContent_Declare", "FetchContent_MakeAvailable"]) ∧
    Follows IsWrappedDirective fetchContentHelp.toList "FetchContent_MakeAvailable".toList ∧
    (∀ error,
      (Gather.moduleEntry fetchContentClient .standard "FetchContent").result ≠ .error error) ∧
    ¬∃ moduleName command,
      (Gather.moduleEntry fetchContentClient .standard "FetchContent").result =
        .error (.emptyModule moduleName command) := by
  have answered : fetchContentClient.answer (Query.moduleHelp "FetchContent").arguments =
      .ok fetchContentHelp := by decide +kernel
  have fails : fetchContentClient.FailsAsCommand := Client.failsAsCommand_ofTable _
  have found : moduleFunctions? fetchContentHelp =
      some (.ofList ["FetchContent_Declare", "FetchContent_MakeAvailable"]) := by decide +kernel
  obtain ⟨-, commands, wrapped, -, gathers⟩ := moduleFunctions?_runs fetchContentHelp 0
  obtain ⟨refused, empty⟩ := gathers fetchContentClient .standard "FetchContent"
  have listed := ((commands _).mp found).2 "FetchContent_MakeAvailable"
  refine ⟨answered, fails, found, ?_, fun error failed => ?_, fun isEmpty => ?_⟩
  · exact (wrapped _).mp (listed.mp (by decide +kernel))
  · rcases (refused error).mp failed with unanswered | ⟨answer, same, none, -⟩
    · rw [answered] at unanswered
      cases unanswered
    · rw [answered] at same
      cases same
      rw [found] at none
      cases none
  · obtain ⟨answer, same, none⟩ := (empty fails).mp isEmpty
    rw [answered] at same
    cases same
    rw [found] at none
    cases none

end CMakeGrammar.Help
