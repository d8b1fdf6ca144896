import CMakeGrammar.Proofs.Gather.Comparison
import CMakeGrammar.Proofs.Gather.WellFormed
import CMakeGrammar.Proofs.Help.Listing
/-! Listings written in another way: with their lines in another order, some of them more than once,
indented or among blank ones, or with other line ends. A run sees the set of the lines only, so it
puts the same queries and ends in the same way; languages too may be named in any order. -/
namespace CMakeGrammar.Gather

def listingQueries : List Query := [.variableList, .commandList, .propertyList]

def SameLines (output other : String) : Prop :=
  ∀ line, Help.IsTrimmedLine output line ↔ Help.IsTrimmedLine other line

/-- Tables with the same lines in their listings, and otherwise with the same answers. -/
structure Relisted (responses others : NameMap String) : Prop where
  listings : ∀ q ∈ listingQueries,
    Option.Rel SameLines (responses.get? q.line) (others.get? q.line)
  rest : ∀ line, line ∉ listingQueries.map Query.line →
    (responses.get? line).map Text.trim = (others.get? line).map Text.trim

theorem sameLines_iff {output other : String} :
    SameLines output other ↔
      ∀ entry, entry ∈ Help.listingEntries output ↔ entry ∈ Help.listingEntries other := by
  simp only [SameLines, Help.mem_listingEntries]

theorem sameLines_trim {output other : String} (h : SameLines output other) :
    SameLines (Text.trim output) (Text.trim other) := by
  rw [sameLines_iff] at h ⊢
  simpa only [Help.listingEntries_trim] using h

variable {responses others : NameMap String} {e : Extraction} {languages : List Language}

theorem Relisted.answers (h : Relisted responses others) {q : Query}
    (isListing : q ∈ listingQueries) :
    (∃ output other, (Client.ofTable responses).answer q.arguments = .ok output ∧
      (Client.ofTable others).answer q.arguments = .ok other ∧ SameLines output other) ∨
    (Client.ofTable responses).answer q.arguments = (Client.ofTable others).answer q.arguments := by
  have same := h.listings q isListing
  generalize here : responses.get? q.line = found at same
  generalize there : others.get? q.line = otherFound at same
  cases same with
  | some same => exact .inl ⟨_, _, answer_of_some here, answer_of_some there, sameLines_trim same⟩
  | none => exact .inr (by rw [answer_of_none here, answer_of_none there])

theorem Relisted.answer_eq (h : Relisted responses others) {q : Query}
    (other : q ∉ listingQueries) :
    (Client.ofTable responses).answer q.arguments =
      (Client.ofTable others).answer q.arguments := by
  apply answer_ofTable_congr
  apply h.rest
  intro mem
  obtain ⟨p, isListing, sameLine⟩ := List.mem_map.mp mem
  exact other (Query.line_injective sameLine ▸ isListing)

theorem Relisted.failure?_eq (h : Relisted responses others) (q : Query) :
    failure? (.ofTable responses) q = failure? (.ofTable others) q := by
  by_cases isListing : q ∈ listingQueries
  -- whatever a listing says is taken, so it counts only whether both tables have it
  · have taken (c : Client) (output : String) : rejection? c output q = none := by
      simp only [listingQueries, List.mem_cons, List.not_mem_nil, or_false] at isListing
      rcases isListing with rfl | rfl | rfl <;> rfl
    rcases h.answers isListing with ⟨output, other, here, there, -⟩ | same
    · simp only [failure?, here, there, taken]
    · simp only [failure?, same, taken]
  · simp only [failure?, h.answer_eq isListing]
    rfl

theorem Relisted.kept_eq (h : Relisted responses others) :
    kept (.ofTable responses) e = kept (.ofTable others) e := by
  have isListing : Query.commandList ∈ listingQueries := by simp [listingQueries]
  rcases h.answers isListing with ⟨output, other, here, there, same⟩ | same
  · simp only [kept, here, there]
    apply NameSet.ext
    simp only [NameSet.mem_sdiff, NameSet.mem_ofList, sameLines_iff.mp same, implies_true]
  · exact kept_congr same

theorem Relisted.listing_unique (h : Relisted responses others)
    (sameLanguages : ∀ l, l ∈ languages ↔ l ∈ e.languages) {q : Query}
    (isListing : q ∈ listingQueries)
    {names otherNames : NameSet} (here : (listing (.ofTable responses) e q).result = .ok names)
    (there : (listing (.ofTable others) { e with languages } q).result = .ok otherNames) :
    names = otherNames := by
  obtain ⟨output, answered, rfl⟩ := listing_eq_ok_iff.mp here
  obtain ⟨other, otherAnswered, rfl⟩ := listing_eq_ok_iff.mp there
  apply Help.expand_congr fun l => (sameLanguages l).symm
  apply sameLines_iff.mp
  rcases h.answers isListing with ⟨_, _, first, second, same⟩ | same
  · rw [answered] at first
    rw [otherAnswered] at second
    cases first
    cases second
    exact same
  · rw [answered, otherAnswered] at same
    rw [Except.ok.inj same]
    exact fun _ => Iff.rfl

/-- Writing the listings in another way, and the languages too, leaves a run as it is. -/
theorem vocabulary_relisted (h : Relisted responses others)
    (sameLanguages : ∀ l, l ∈ languages ↔ l ∈ e.languages) :
    (vocabulary (.ofTable responses) e).queries =
        (vocabulary (.ofTable others) { e with languages }).queries ∧
      (vocabulary (.ofTable responses) e).result =
        (vocabulary (.ofTable others) { e with languages }).result := by
  have samePlan : plan (kept (.ofTable responses) e).toList e =
      plan (kept (.ofTable others) { e with languages }).toList { e with languages } := by
    rw [h.kept_eq]
    rfl
  obtain ⟨queries, ends⟩ := queries_vocabulary_congr samePlan fun q _ => h.failure?_eq q
  refine ⟨queries, result_eq ends fun v w ok otherOk => ?_⟩
  have here := isGathered_of_ok _ _ ok
  have there := isGathered_of_ok _ _ otherOk
  have alike {q : Query} (other : q ∉ listingQueries) :
      AnswersAlike (.ofTable responses) (.ofTable others) q :=
        answersAlike_of_eq (h.answer_eq other)
  apply eq_of_parts
  · exact ok_unique ((version_alike (alike (by decide))).mp here.version) there.version
  · exact h.listing_unique sameLanguages (by decide) here.variableNames there.variableNames
  · apply commandMap_unique here.commands there.commands
    · intro command
      rw [h.kept_eq]
      rfl
    · intro command keywords
      exact commandKeywords_alike (alike (by simp [listingQueries]))
  · exact ok_unique ((generatorExpressions_alike (alike (by simp [listingQueries]))).mp
      here.generatorExpressions) there.generatorExpressions
  · exact h.listing_unique sameLanguages (by decide) here.properties there.properties
  · apply modules_unique here.modules there.modules rfl
    intro name entry
    exact moduleEntry_alike (alike (by simp [listingQueries]))

def lineSet (output : String) : NameSet := .ofList (Help.listingEntries output)

theorem rel_sameLines {found other : Option String} (h : found.map lineSet = other.map lineSet) :
    Option.Rel SameLines found other := by
  cases found with
  | none =>
    rw [Option.map_none, eq_comm, Option.map_eq_none_iff] at h
    subst h
    exact .none
  | some output =>
    rw [Option.map_some, eq_comm, Option.map_eq_some_iff] at h
    obtain ⟨otherOutput, rfl, same⟩ := h
    refine .some (sameLines_iff.mpr fun entry => ?_)
    rw [← NameSet.mem_ofList, ← NameSet.mem_ofList, ← lineSet, ← lineSet, same]

/-- The listings of `smallHelp` in another order, with repeated and blank lines and other line
ends. -/
def relistedHelp : NameMap String :=
  ((smallHelp.insert "--help-variable-list"
      "<CONFIG>_POSTFIX\r\n\r\n\tCMAKE_<LANG>_FLAGS\r\nCMAKE_<LANG>_FLAGS\r\n").insert
    "--help-command-list" "project\nproject\n\n  if").insert
    "--help-property-list" "\n\n\tOUTPUT_NAME\r\n"

theorem vocabulary_relisted_small :
    Relisted smallHelp relistedHelp ∧
      (∀ l, l ∈ [Language.cxx, .c, .cxx] ↔ l ∈ smallSettings.languages) ∧
      (vocabulary (.ofTable smallHelp) smallSettings).queries =
        (vocabulary (.ofTable relistedHelp)
          { smallSettings with languages := [.cxx, .c, .cxx] }).queries ∧
      (vocabulary (.ofTable smallHelp) smallSettings).result =
        (vocabulary (.ofTable relistedHelp)
          { smallSettings with languages := [.cxx, .c, .cxx] }).result := by
  have sameListings : ∀ q ∈ listingQueries,
      (smallHelp.get? q.line).map lineSet = (relistedHelp.get? q.line).map lineSet := by
    decide +kernel
  have relisted : Relisted smallHelp relistedHelp := by
    refine ⟨fun q mem => rel_sameLines (sameListings q mem), fun line other => ?_⟩
    have lines : listingQueries.map Query.line =
      ["--help-variable-list", "--help-command-list", "--help-property-list"] := rfl
    simp only [lines, List.mem_cons, List.not_mem_nil, or_false, not_or] at other
    rw [relistedHelp, NameMap.get?_insert, NameMap.get?_insert, NameMap.get?_insert,
      if_neg other.2.2, if_neg other.2.1, if_neg other.1]
  have languages : ∀ l, l ∈ [Language.cxx, .c, .cxx] ↔ l ∈ smallSettings.languages := by
    intro l
    cases l <;> decide
  exact ⟨relisted, languages, vocabulary_relisted relisted languages⟩

end CMakeGrammar.Gather
