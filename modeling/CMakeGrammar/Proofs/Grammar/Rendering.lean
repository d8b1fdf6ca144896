import CMakeGrammar.Proofs.Grammar.Nodes
import CMakeGrammar.Proofs.Template.Showing
/-! What the grammar's nodes show of a vocabulary: its document, spread over lines. -/
namespace CMakeGrammar.Grammar
open Json (Part written signs quoted indent spread spreadItems spreadMembers leadItems leadMembers
  spread_array spread_object spreadItems_append spreadMembers_append
  written_append)
open Template (Node Param Call Path Frame Shows Reaches IsRound)

theorem written_content (s : String) : written [.content s] = Json.escapeChars s.toList := by
  simp [Part.text]

theorem written_opened_closed (depth : Nat) (key before middle after : String) :
    written (opened depth key before) ++ (written [.content middle] ++ written (closed after)) =
      written (leadMembers depth [textMember key (before ++ middle ++ after)]) := by
  simp [opened, closed, leadMembers, textMember, spread, quoted, signs, Part.text]

theorem written_begun (depth : Nat) (stem key : String) (bracket : Char) :
    written (begun depth (stem ++ key) bracket) =
      written (indent depth) ++ (written [.sign '"', .content stem] ++ (written [.content key] ++
        written (signs ['"', ':', ' ', bracket, '\n']))) := by
  simp [begun, quoted, signs, Part.text]

theorem leadMembers_append (depth : Nat) (ms ns : List (String × Json)) :
    leadMembers depth (ms ++ ns) = leadMembers depth ms ++ leadMembers depth ns := by
  simp [leadMembers]

theorem leadMembers_object (depth : Nat) (key : String) {members : List (String × Json)}
    (h : ∀ k s, members ≠ [(k, .string s)]) :
    leadMembers depth [(key, .object members)] =
      begun depth key '{' ++ spreadMembers (depth + 1) members ++ ended depth '}' := by
  simp [leadMembers, spread_object depth h, begun, ended, signs]

theorem leadItems_object (depth : Nat) {members : List (String × Json)}
    (h : ∀ k s, members ≠ [(k, .string s)]) :
    leadItems depth [.object members] =
      indent depth ++ signs ['{', '\n'] ++ spreadMembers (depth + 1) members ++
        ended depth '}' := by
  simp [leadItems, spread_object depth h, ended, signs]

theorem spreadMembers_array (depth : Nat) (key : String) {items : List Json}
    (h : ∀ s others, items ≠ .string s :: others) :
    spreadMembers depth [(key, .array items)] =
      begun depth key '[' ++ spreadItems (depth + 1) items ++ indent depth ++
        signs [']', '\n'] := by
  simp [spreadMembers, spread_array depth h, begun, signs]

theorem leadMembers_array (depth : Nat) (key : String) {items : List Json}
    (h : ∀ s others, items ≠ .string s :: others) :
    leadMembers depth [(key, .array items)] =
      begun depth key '[' ++ spreadItems (depth + 1) items ++ ended depth ']' := by
  simp [leadMembers, spread_array depth h, begun, ended, signs]

theorem spreadMembers_object (depth : Nat) (key : String) {members : List (String × Json)}
    (h : ∀ k s, members ≠ [(k, .string s)]) :
    spreadMembers depth [(key, .object members)] =
      begun depth key '{' ++ spreadMembers (depth + 1) members ++ indent depth ++
        signs ['}', '\n'] := by
  simp [spreadMembers, spread_object depth h, begun, signs]

theorem leadMembers_callRule (key opening scope : String) {rules : List Json}
    (h : ∀ s others, rules ≠ .string s :: others) :
    leadMembers 2 [(key, callRule opening scope rules)] =
      begun 2 key '{' ++ leadMembers 3 [textMember "begin" opening] ++
        leadMembers 3 (parenthesisMembers (callCaptures scope)) ++ begun 3 "patterns" '[' ++
        spreadItems 4 rules ++ indent 3 ++ signs [']', '\n'] ++ ended 2 '}' := by
  have split : textMember "begin" opening ::
      (parenthesisMembers (callCaptures scope) ++ [patterns rules]) =
        ([textMember "begin" opening] ++ parenthesisMembers (callCaptures scope)) ++
          [("patterns", .array rules)] := by
    simp [patterns]
  rw [callRule, parenthesized, split, leadMembers_object _ _ (by simp [parenthesisMembers]),
    spreadMembers_append _ _ (by simp), leadMembers_append, spreadMembers_array _ _ h]
  simp

section
variable {frames : List Frame} {inside : Option String → List Node → Template.Body}

theorem shows_alternationNode {p : Path} {v : Json} {names : List String}
    (reaches : Reaches frames p v) (areNames : Template.Invocation.names? v = some names)
    (line column : Nat) :
    Shows frames (Template.renderNode inside (alternationNode line column (.path p)))
      (written [.content (Alternation.ofNames names)]) := by
  rw [alternationNode, Template.renderNode, written_content]
  exact (Template.shows_alternation reaches areNames false false).locate _

theorem shows_keyNode {f : Frame} {m : String × Json} {isLast : Bool} (h : IsRound f m isLast)
    (line column : Nat) :
    Shows (f :: frames) (Template.renderNode inside (keyNode line column))
      (written [.content m.1]) := by
  rw [keyNode, Template.renderNode, written_content, loopData]
  exact (Template.shows_value (Template.reaches_data "@key" h.key) (by decide)).locate _

theorem isTrue_ofNames (names : List String) :
    Template.Value.isTrue false (.ofNames names) = !names.isEmpty := by
  simp [Template.Value.isTrue, Json.ofNames]

theorem shows_keywordRules {keywords : Path} {keywordSet : NameSet}
    (areKeywords : Reaches frames keywords (.ofNames keywordSet.toList)) (line : Nat)
    (scope : String) :
    Shows frames
      (Template.renderNode inside (ifNode line (.path keywords)
        [.text (written (indent 4 ++ signs ['{', '\n'] ++ opened 5 "match" "\\b(")),
          alternationNode (line + 2) 25 (.path keywords),
          .text (written (closed ")\\b" ++ spreadMembers 5 [textMember "name" scope] ++
            ended 4 '}'))] none))
      (written (leadItems 4 (keywordRules scope keywordSet))) := by
  refine Template.shows_if areKeywords ?_
  rw [isTrue_ofNames]
  by_cases none : keywordSet.toList.isEmpty = true
  · have noRule : keywordRules scope keywordSet = [] := by
      simp [keywordRules, NameSet.isEmpty, none]
    rw [noRule, none]
    exact Template.shows_nil
  · rw [Bool.not_eq_true] at none
    have rule : written (leadItems 4 (keywordRules scope keywordSet)) =
        written (indent 4 ++ signs ['{', '\n'] ++ opened 5 "match" "\\b(") ++
          (written [.content (Alternation.ofNames keywordSet.toList)] ++
            (written (closed ")\\b" ++ spreadMembers 5 [textMember "name" scope] ++ ended 4 '}') ++
              [])) := by
      have isRule : keywordRules scope keywordSet =
          [.object ([textMember "match" (wordPattern keywordSet.toList)] ++
            [textMember "name" scope])] := by
        simp [keywordRules, NameSet.isEmpty, none]
      rw [isRule, leadItems_object _ (by simp), spreadMembers_append _ _ (by simp), wordPattern]
      simp only [written_append, ← written_opened_closed, List.append_assoc, List.append_nil]
    rw [rule, none]
    exact Template.shows_cons (Template.shows_text _) (Template.shows_cons
      (shows_alternationNode areKeywords (Template.names?_ofNames _) _ _)
        (Template.shows_cons (Template.shows_text _) Template.shows_nil))

theorem shows_ruleNodes {f : Frame} {m : String × Json} {isLast : Bool} (h : IsRound f m isLast)
    {callees keywords : Path} {callee : Json} {names : List String} {keywordSet : NameSet}
    (areCallees : Reaches (f :: frames) callees callee)
    (areNames : Template.Invocation.names? callee = some names)
    (areKeywords : Reaches (f :: frames) keywords (.ofNames keywordSet.toList))
    (line column : Nat) (stem scope keywordScope : String) :
    Shows (f :: frames)
      (Template.renderAll inside
        (ruleNodes written line column stem scope keywordScope (.path callees) (.path keywords)))
      (written (leadMembers 2 [(stem ++ m.1, callRule (callPattern names) scope
        (keywordRules keywordScope keywordSet ++ [reference "arguments"]))])) := by
  have isNoText : ∀ s others,
      keywordRules keywordScope keywordSet ++ [reference "arguments"] ≠ .string s :: others := by
    unfold keywordRules reference
    split <;> simp
  have layout : written (leadMembers 2 [(stem ++ m.1, callRule (callPattern names) scope
      (keywordRules keywordScope keywordSet ++ [reference "arguments"]))]) =
      written (indent 2 ++ .sign '"' :: [.content stem]) ++ (written [.content m.1] ++
        (written (signs ['"', ':', ' ', '{', '\n'] ++ opened 3 "begin" "(?i)\\b(") ++
        (written [.content (Alternation.ofNames names)] ++
        (written (closed ")\\s*(\\()" ++ leadMembers 3 (parenthesisMembers (callCaptures scope)) ++
          begun 3 "patterns" '[') ++
        (written (leadItems 4 (keywordRules keywordScope keywordSet)) ++
        (written (spreadItems 4 [reference "arguments"] ++ indent 3 ++ signs [']', '\n'] ++
          ended 2 '}') ++ [])))))) := by
    rw [leadMembers_callRule _ _ _ isNoText, spreadItems_append _ _ (by simp), callPattern]
    simp only [written_append, ← written_opened_closed, List.append_assoc, List.append_nil]
    rw [written_begun]
    simp only [List.append_assoc]
  rw [layout, ruleNodes]
  refine Template.shows_cons (Template.shows_text _) (Template.shows_cons (shows_keyNode h _ _) ?_)
  refine Template.shows_cons (Template.shows_text _) (Template.shows_cons
    (shows_alternationNode areCallees areNames _ _) ?_)
  refine Template.shows_cons (Template.shows_text _) (Template.shows_cons
    (shows_keywordRules areKeywords _ _) ?_)
  exact Template.shows_cons (Template.shows_text _) Template.shows_nil

theorem shows_reference {f : Frame} {m : String × Json} {isLast : Bool} (h : IsRound f m isLast)
    {ns : List Node} {text : List Char} (depth line column : Nat) {opening stem : String}
    (isOpening : opening = "#" ++ stem) {closing more : List Part}
    (isClosing : closing = signs ['"', ' ', '}'] ++ more)
    (shown : Shows (f :: frames) (Template.renderAll inside ns) text) :
    Shows (f :: frames)
      (Template.renderAll inside
        (.text (written (indent depth ++ signs ['{', ' '] ++ quoted "include" ++
            signs [':', ' ', '"'] ++ [.content opening])) ::
          keyNode line column :: .text (written closing) :: ns))
      (written (indent depth ++ spread depth (reference (stem ++ m.1)) ++ more) ++ text) := by
  have layout : written (indent depth ++ spread depth (reference (stem ++ m.1)) ++ more) ++ text =
      written (indent depth ++ signs ['{', ' '] ++ quoted "include" ++ signs [':', ' ', '"'] ++
        [.content opening]) ++ (written [.content m.1] ++ (written closing ++ text)) := by
    simp [isOpening, isClosing, reference, textMember, spread, quoted, signs, Part.text]
  rw [layout]
  exact Template.shows_cons (Template.shows_text _) (Template.shows_cons (shows_keyNode h _ _)
    (Template.shows_cons (Template.shows_text _) shown))

theorem inTurn_leadItems {α : Type} (depth : Nat) (item : α → Json) (entries : List α) :
    Template.inTurn (fun _ a => written (leadItems depth [item a])) entries =
      written (leadItems depth (entries.map item)) := by
  induction entries with
  | nil => rfl
  | cons a as ih =>
    rw [Template.inTurn, ih, ← written_append]
    simp [leadItems]

theorem inTurn_leadMembers {α : Type} (depth : Nat) (member : α → String × Json)
    (entries : List α) :
    Template.inTurn (fun _ a => written (leadMembers depth [member a])) entries =
      written (leadMembers depth (entries.map member)) := by
  induction entries with
  | nil => rfl
  | cons a as ih =>
    rw [Template.inTurn, ih, ← written_append, List.map_cons, ← leadMembers_append]
    rfl

theorem inTurn_spreadItems {α : Type} (depth : Nat) (item : α → Json) (entries : List α) :
    Template.inTurn (fun isLast a => written (indent depth ++ spread depth (item a)) ++
      ((if isLast = true then [] else [',']) ++ ['\n'])) entries =
        written (spreadItems depth (entries.map item)) := by
  induction entries with
  | nil => rfl
  | cons a as ih =>
    rw [Template.inTurn, ih]
    cases as with
    | nil => simp [spreadItems]
    | cons b bs => simp [spreadItems]

end

section
variable {inside : Option String → List Node → Template.Body} (v : Vocabulary)

def contextFrame : Frame := ⟨.document v.context [], [], [], []⟩

theorem reaches_context {name : String} {value : Json}
    (isMember : v.context.get? name = some value) :
    Reaches [contextFrame v] (.relative [.name name] name) value := by
  refine Template.reaches_member name rfl rfl ?_ isMember
  intro f hf
  rw [List.mem_singleton.mp hf]
  rfl

theorem shows_moduleIncludes :
    Shows [contextFrame v]
      (Template.renderNode inside (eachNode 11 "modules"
        [.text (written (indent 2 ++ signs ['{', ' '] ++ quoted "include" ++
            signs [':', ' ', '"'] ++ [.content "#module-"])),
          keyNode 12 27, .text (written (signs ['"', ' ', '}', ',', '\n']))]))
      (written (leadItems 2 (moduleIncludes v))) := by
  have keys : moduleIncludes v = v.modules.entries.map fun e => reference (moduleKey e.1) := by
    simp [moduleIncludes, NameMap.keys]
  rw [keys, ← inTurn_leadItems]
  refine Template.shows_each (reaches_context v rfl) ?_
  intro f entry isLast _ h
  have item : written (leadItems 2 [reference (moduleKey entry.1)]) =
      written (indent 2 ++ spread 2 (reference ("module-" ++ entry.1)) ++ signs [',', '\n']) ++
        [] := by
    simp [leadItems, moduleKey]
  rw [item]
  exact shows_reference h 2 12 27 (by decide) rfl Template.shows_nil

theorem shows_commandIncludes :
    Shows [contextFrame v]
      (Template.renderNode inside (eachNode 88 "commands"
        [.text (written (indent 4 ++ signs ['{', ' '] ++ quoted "include" ++
            signs [':', ' ', '"'] ++ [.content "#command-"])),
          keyNode 89 32, .text (written (signs ['"', ' ', '}'])),
          .block (some ⟨89, 43⟩) false (.mk "unless" [loopData "last"] []) ⟨none, none⟩
            [.text (written (signs [',']))] none,
          .text (written (signs ['\n']))]))
      (written (spreadItems 4 (commandIncludes v))) := by
  have keys : commandIncludes v = v.commands.entries.map fun e => reference (commandKey e.1) := by
    simp [commandIncludes, NameMap.keys]
  rw [keys, ← inTurn_spreadItems]
  refine Template.shows_each (reaches_context v rfl) ?_
  intro f entry isLast _ h
  rw [← List.append_nil (indent 4 ++ _)]
  refine shows_reference h 4 89 32 (by decide) rfl ?_
  refine Template.shows_cons (Template.shows_unless (Template.reaches_data "@last" h.last) ?_)
    (Template.shows_cons (Template.shows_text _) Template.shows_nil)
  cases isLast with
  | true => exact Template.shows_nil
  | false => exact Template.shows_cons (Template.shows_text _) Template.shows_nil

theorem shows_moduleRules :
    Shows [contextFrame v]
      (Template.renderNode inside (eachNode 64 "modules"
        (ruleNodes written 65 13 "module-" "support.function.module.cmake"
          "keyword.other.module.cmake" (member "functions") (member "keywords"))))
      (written (leadMembers 2 (moduleRules v))) := by
  rw [moduleRules, ← inTurn_leadMembers]
  refine Template.shows_each (reaches_context v rfl) ?_
  intro f entry isLast _ h
  have unbound : ∀ g ∈ [f, contextFrame v], g.bound = [] := by
    intro g hg
    rcases List.mem_cons.mp hg with rfl | hg
    · exact h.bound
    · rw [List.mem_singleton.mp hg]
      rfl
  exact shows_ruleNodes h (Template.reaches_member _ h.value h.present unbound rfl)
    (Template.names?_ofNames _) (Template.reaches_member _ h.value h.present unbound rfl) _ _ _ _ _

theorem shows_commandRules :
    Shows [contextFrame v]
      (Template.renderNode inside (eachNode 93 "commands"
        (ruleNodes written 94 14 "command-" "support.function.cmake" "keyword.other.cmake"
          (loopData "key") (.path (.relative [] "this")))))
      (written (leadMembers 2 (commandRules v))) := by
  rw [commandRules, ← inTurn_leadMembers]
  refine Template.shows_each (reaches_context v rfl) ?_
  intro f entry isLast _ h
  have keywords : Reaches [f, contextFrame v] (.relative [] "this") (.ofNames entry.2.toList) := by
    have this : Reaches [f, contextFrame v] (.relative [] "this") f.value.value :=
      Template.reaches_this "this" h.present
    rwa [h.value] at this
  exact shows_ruleNodes h (Template.reaches_data "@key" h.key) rfl keywords _ _ _ _ _

theorem shows_namesNode {p : Path} {names : NameSet} {frames : List Frame}
    (areNames : Reaches frames p (.ofNames names.toList)) (line : Nat) :
    Shows frames (Template.renderNode inside (namesNode written line (.path p)))
      (written (leadMembers 3 [textMember "match"
        (if names.isEmpty then nothingPattern else wordPattern names.toList)])) := by
  refine Template.shows_if areNames ?_
  rw [isTrue_ofNames, NameSet.isEmpty]
  by_cases none : names.toList.isEmpty = true
  · rw [none]
    have layout : written (leadMembers 3 [textMember "match" nothingPattern]) =
        written (leadMembers 3 [textMember "match" nothingPattern]) ++ [] := by
      rw [List.append_nil]
    rw [if_pos rfl, layout]
    exact Template.shows_cons (Template.shows_text _) Template.shows_nil
  · rw [Bool.not_eq_true] at none
    rw [none, if_neg Bool.false_ne_true, wordPattern, ← written_opened_closed,
      ← List.append_nil (written (closed _))]
    exact Template.shows_cons (Template.shows_text _) (Template.shows_cons
      (shows_alternationNode areNames (Template.names?_ofNames _) _ _) (Template.shows_cons
        (Template.shows_text _) Template.shows_nil))

theorem not_text_of_map_reference (names : List String) (s : String) (others : List Json) :
    names.map reference ≠ .string s :: others := by
  cases names <;> simp [reference]

theorem leadMembers_commands :
    leadMembers 2 [("commands", .object [patterns (commandIncludes v)])] =
      begun 2 "commands" '{' ++ begun 3 "patterns" '[' ++ spreadItems 4 (commandIncludes v) ++
        (indent 3 ++ signs [']', '\n'] ++ ended 2 '}') := by
  have includes : commandIncludes v = (v.commands.keys.map commandKey).map reference := by
    simp [commandIncludes]
  rw [leadMembers_object _ _ (by simp [patterns]), patterns, spreadMembers_array _ _
    (by rw [includes]; exact not_text_of_map_reference _)]
  simp

theorem written_generatorExpressions (names : List String) :
    written (leadMembers 2 [("generator-expressions", generatorExpressionsRule names)]) =
      written (begun 2 "generator-expressions" '{' ++ opened 3 "begin" "\\$<(") ++
        (written [.content (Alternation.ofNames names)] ++
          written (closed ")?" ++ spreadMembers 3 generatorExpressionMembers ++ ended 2 '}')) := by
  have split : textMember "begin" (openingPattern names) :: generatorExpressionMembers =
      [textMember "begin" (openingPattern names)] ++ generatorExpressionMembers := rfl
  rw [generatorExpressionsRule, leadMembers_object _ _ (by simp [generatorExpressionMembers]),
    split, spreadMembers_append _ _ (by simp [generatorExpressionMembers]), openingPattern]
  simp only [written_append, ← written_opened_closed, List.append_assoc]

theorem written_comment (version : String) :
    written (leadMembers 1 [textMember "comment" (comment version)]) =
      written (opened 1 "comment" "Generated from the help output of CMake ") ++
        (written [.content version] ++ written (closed ". Do not edit by hand.")) := by
  rw [written_opened_closed]
  rfl

theorem leadMembers_namesRule (key : String) (names : NameSet) (scope : String) :
    leadMembers 2 [(key, namesRule names scope)] =
      begun 2 key '{' ++ leadMembers 3 [textMember "match"
        (if names.isEmpty then nothingPattern else wordPattern names.toList)] ++
          (spreadMembers 3 [textMember "name" scope] ++ ended 2 '}') := by
  have split (m n : String × Json) : [m, n] = [m] ++ [n] := rfl
  rw [namesRule, leadMembers_object _ _ (by simp), split, spreadMembers_append _ _ (by simp)]
  simp

theorem spreadMembers_repository :
    spreadMembers 2 (repository v) =
      leadMembers 2 leadingRules ++ (leadMembers 2 (moduleRules v) ++
        (leadMembers 2 [("commands", .object [patterns (commandIncludes v)])] ++
        (leadMembers 2 (commandRules v) ++ (leadMembers 2 argumentRules ++
        (leadMembers 2 [("generator-expressions",
          generatorExpressionsRule v.generatorExpressions.toList)] ++
        (leadMembers 2 [("variables", namesRule v.variableNames "variable.language.cmake")] ++
        (leadMembers 2 [("properties",
          namesRule v.properties "support.constant.property.cmake")] ++
        spreadMembers 2 trailingRules))))))) := by
  have split (m : String × Json) (ms : List (String × Json)) : m :: ms = [m] ++ ms := rfl
  rw [repository, split ("commands", _), split ("generator-expressions", _),
    split ("variables", _), split ("properties", _)]
  have last : trailingRules ≠ [] := by simp [trailingRules]
  have rest {ms ns : List (String × Json)} (h : ns ≠ []) : ms ++ ns ≠ [] := by simp [h]
  rw [spreadMembers_append, spreadMembers_append, spreadMembers_append, spreadMembers_append,
    spreadMembers_append, spreadMembers_append, spreadMembers_append, spreadMembers_append]
  all_goals simp [last]

theorem spread_document :
    spread 0 (document v) ++ signs ['\n'] =
      signs ['{', '\n'] ++ (leadMembers 1 heading ++
        (leadMembers 1 [textMember "comment" (comment v.version)] ++ (begun 1 "patterns" '[' ++
        (leadItems 2 leadingIncludes ++ (leadItems 2 (moduleIncludes v) ++
        (spreadItems 2 trailingIncludes ++ (ended 1 ']' ++ (begun 1 "repository" '{' ++
        (spreadMembers 2 (repository v) ++ (indent 1 ++
        (signs ['}', '\n'] ++ signs ['}', '\n']))))))))))) := by
  have split (m : String × Json) (ms : List (String × Json)) : m :: ms = [m] ++ ms := rfl
  have includes (s : String) (others : List Json) :
      leadingIncludes ++ (moduleIncludes v ++ trailingIncludes) ≠ .string s :: others := by
    simp [leadingIncludes, reference]
  have rules (k s : String) : repository v ≠ [(k, .string s)] := by
    intro eq
    have long := congrArg List.length eq
    simp only [repository, List.length_append, List.length_cons, List.length_nil] at long
    omega
  rw [document, split (textMember "comment" _), split (patterns _), patterns,
    spread_object _ (by simp [heading]), spreadMembers_append _ _ (by simp),
    spreadMembers_append _ _ (by simp), spreadMembers_append _ _ (by simp),
    leadMembers_array _ _ includes, spreadMembers_object _ _ rules,
    spreadItems_append _ _ (by simp [trailingIncludes]),
    spreadItems_append _ _ (by simp [trailingIncludes])]
  simp [signs, indent]

theorem shows_nodes :
    Shows [contextFrame v] (Template.renderAll inside nodes)
      (written (spread 0 (document v) ++ signs ['\n'])) := by
  have version : Shows [contextFrame v]
      (Template.renderNode inside (.place ⟨6, 55⟩ false (.value (member "version"))))
      (written [.content v.version]) := by
    have reaches : Reaches [contextFrame v] (.relative [.name "version"] "version")
        (.string v.version) := reaches_context v rfl
    rw [Template.renderNode, written_content, member]
    exact (Template.shows_value reaches (by decide)).locate _
  have generatorExpressions : Shows [contextFrame v]
      (Template.renderNode inside (alternationNode 162 22 (member "generator_expressions")))
      (written [.content (Alternation.ofNames v.generatorExpressions.toList)]) :=
    shows_alternationNode (reaches_context v rfl) (Template.names?_ofNames _) _ _
  have areVariables : Reaches [contextFrame v] (.relative [.name "variables"] "variables")
      (.ofNames v.variableNames.toList) := reaches_context v rfl
  have variableNames : Shows [contextFrame v]
      (Template.renderNode inside (namesNode written 177 (member "variables"))) _ :=
    shows_namesNode areVariables _
  have areProperties : Reaches [contextFrame v] (.relative [.name "properties"] "properties")
      (.ofNames v.properties.toList) := reaches_context v rfl
  have properties : Shows [contextFrame v]
      (Template.renderNode inside (namesNode written 185 (member "properties"))) _ :=
    shows_namesNode areProperties _
  rw [nodes, nodesWith]
  apply Template.Shows.of_eq
  · apply Template.shows_cons (Template.shows_text _)
    apply Template.shows_cons version
    apply Template.shows_cons (Template.shows_text _)
    apply Template.shows_cons (shows_moduleIncludes v)
    apply Template.shows_cons (Template.shows_text _)
    apply Template.shows_cons (shows_moduleRules v)
    apply Template.shows_cons (Template.shows_text _)
    apply Template.shows_cons (shows_commandIncludes v)
    apply Template.shows_cons (Template.shows_text _)
    apply Template.shows_cons (shows_commandRules v)
    apply Template.shows_cons (Template.shows_text _)
    apply Template.shows_cons generatorExpressions
    apply Template.shows_cons (Template.shows_text _)
    apply Template.shows_cons variableNames
    apply Template.shows_cons (Template.shows_text _)
    apply Template.shows_cons properties
    exact Template.shows_cons (Template.shows_text _) Template.shows_nil
  · rw [spread_document, spreadMembers_repository]
    simp only [leadMembers_commands, leadMembers_namesRule, written_comment, written_append,
      written_generatorExpressions, List.append_assoc, List.append_nil]

end

/-- Rendering does not fail, whatever room the stack has, and shows the document and a line end. -/
theorem render_nodes (stack : Nat) (v : Vocabulary) :
    (render stack nodes v).result =
      .ok (String.ofList (written (spread 0 (document v) ++ signs ['\n']))) := by
  have plain : ({ Template.Scope.ofDocument templateName nodes v.context with
      ownName := some templateName } : Template.Scope).IsPlain [contextFrame v] := ⟨rfl, rfl⟩
  obtain ⟨after, ran, -⟩ := shows_nodes v _ plain
  have rendered : (Template.render stack templateName v.context nodes).result =
      .ok (written (spread 0 (document v) ++ signs ['\n'])) := by
    have run : (Template.render stack templateName v.context nodes).result =
        (((Template.renderAll (Template.renderWithin stack) nodes).run
          { Template.Scope.ofDocument templateName nodes v.context with
            ownName := some templateName } >>= fun r => pure r.1).result) := rfl
    rw [run, Recorded.result_bind, ran]
    rfl
  rw [render, Recorded.result_bind, rendered]
  rfl

end CMakeGrammar.Grammar
