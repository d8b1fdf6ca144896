import CMakeGrammar.Proofs.Gather.Failures
import CMakeGrammar.Proofs.Help.Shape
import CMakeGrammar.Proofs.Regex.Captures
/-! Versions by where they stand in a text. A version is complete where three runs of digits with
dots between them stand behind its lead, and it is taken from the leftmost place where one is
complete. A lead begins with a letter that stands nowhere else in it and in no version. So nothing
complete reaches into another lead, and an incomplete version in front of a complete one is passed
over, also where it runs into it (`firstWhere_versionAt?_append`). -/
namespace CMakeGrammar.Help
open Regex (Expression CharClass)
open Text (Place isDecimalDigit firstWhere)

def IsNumber (digits : List Char) : Prop :=
  digits ≠ [] ∧ ∀ c ∈ digits, isDecimalDigit c = true

/-- A version stands here behind its lead, with all the digits of its third number. -/
structure IsComplete (o : Place) (version : List Char) : Prop where
  inside : o.inside = versionLead ++ version
  isVersion : IsVersion version
  ends : ∀ c ∈ o.after.head?, isDecimalDigit c = false

def HoldsVersion (text : List Char) : Prop :=
  ∃ version, IsVersion version ∧ versionLead ++ version <:+: text

section reading
variable {cs digits rest version : List Char}

theorem isVersion_iff : IsVersion version ↔ ∃ major minor patch,
    version = major ++ '.' :: (minor ++ '.' :: patch) ∧
      IsNumber major ∧ IsNumber minor ∧ IsNumber patch := by
  simp [IsVersion, IsNumber]

theorem number?_eq_some_iff : number? cs = some (digits, rest) ↔
    cs = digits ++ rest ∧ IsNumber digits ∧ ∀ c ∈ rest.head?, isDecimalDigit c = false := by
  constructor
  · intro found
    have isNumber : IsNumber digits := digits_of_number? found
    have parts := List.takeWhile_append_dropWhile (p := isDecimalDigit) (l := cs)
    unfold number? at found
    dsimp only at found
    split at found
    · cases found
    · obtain ⟨rfl, rfl⟩ := Prod.mk.inj (Option.some.inj found)
      have behind : cs.drop (cs.takeWhile isDecimalDigit).length = cs.dropWhile isDecimalDigit := by
        have skipped := congrArg (List.drop (cs.takeWhile isDecimalDigit).length) parts
        rw [List.drop_left] at skipped
        exact skipped.symm
      rw [behind]
      exact ⟨parts.symm, isNumber, Text.stops_of_head?_dropWhile isDecimalDigit cs⟩
  · rintro ⟨rfl, ⟨some, all⟩, stops⟩
    simp [number?, Text.takeWhile_append_of_head? all stops, some]

theorem versionNumber?_eq_some_iff : versionNumber? cs = some version ↔ IsVersion version ∧
    ∃ after, cs = version ++ after ∧ ∀ c ∈ after.head?, isDecimalDigit c = false := by
  constructor
  · intro found
    refine ⟨isVersion_of_versionNumber? found, ?_⟩
    simp only [versionNumber?, Option.bind_eq_bind, Option.bind_eq_some_iff] at found
    obtain ⟨⟨major, _⟩, isMajor, _, isDot, ⟨minor, _⟩, isMinor, _, isDot', ⟨patch, after⟩, isPatch,
      made⟩ := found
    obtain rfl := Text.after?_eq_some_iff.mp isDot
    obtain rfl := Text.after?_eq_some_iff.mp isDot'
    obtain ⟨rfl, -⟩ := number?_eq_some_iff.mp isMajor
    obtain ⟨rfl, -⟩ := number?_eq_some_iff.mp isMinor
    obtain ⟨rfl, -, stops⟩ := number?_eq_some_iff.mp isPatch
    refine ⟨after, ?_, stops⟩
    simp [← Option.some.inj made]
  · rintro ⟨isVersion, after, rfl, stops⟩
    obtain ⟨major, minor, patch, rfl, isMajor, isMinor, isPatch⟩ := isVersion_iff.mp isVersion
    have dotted (rest : List Char) : Text.after? ['.'] ('.' :: rest) = some rest :=
      Text.after?_eq_some_iff.mpr rfl
    have undotted (rest : List Char) : ∀ c ∈ ('.' :: rest).head?, isDecimalDigit c = false := by
      rintro c ⟨⟩
      decide
    have first := number?_eq_some_iff.mpr ⟨rfl, isMajor,
      undotted (minor ++ '.' :: (patch ++ after))⟩
    have second := number?_eq_some_iff.mpr ⟨rfl, isMinor, undotted (patch ++ after)⟩
    have third := number?_eq_some_iff.mpr ⟨rfl, isPatch, stops⟩
    simp [versionNumber?, first, dotted, second, third]

theorem versionAt?_eq_some_iff : versionAt? cs = some version ↔ IsVersion version ∧
    ∃ after, cs = versionLead ++ (version ++ after) ∧
      ∀ c ∈ after.head?, isDecimalDigit c = false := by
  rw [versionAt?, Option.bind_eq_some_iff]
  simp only [Text.after?_eq_some_iff, versionNumber?_eq_some_iff]
  constructor
  · rintro ⟨_, rfl, isVersion, after, rfl, stops⟩
    exact ⟨isVersion, after, rfl, stops⟩
  · rintro ⟨isVersion, after, rfl, stops⟩
    exact ⟨_, rfl, isVersion, after, rfl, stops⟩

theorem IsVersion.append (isVersion : IsVersion version)
    (all : ∀ c ∈ digits, isDecimalDigit c = true) : IsVersion (version ++ digits) := by
  obtain ⟨major, minor, patch, rfl, isMajor, isMinor, some, isPatch⟩ := isVersion_iff.mp isVersion
  refine isVersion_iff.mpr ⟨major, minor, patch ++ digits, by simp, isMajor, isMinor,
    List.append_ne_nil_of_left_ne_nil some digits, List.forall_mem_append.mpr ⟨isPatch, all⟩⟩

theorem versionAt?_append (isVersion : IsVersion version) (after : List Char) :
    versionAt? (versionLead ++ (version ++ after)) =
      some (version ++ after.takeWhile isDecimalDigit) := by
  have parts := List.takeWhile_append_dropWhile (p := isDecimalDigit) (l := after)
  refine versionAt?_eq_some_iff.mpr ⟨isVersion.append (List.all_eq_true.mp List.all_takeWhile),
    after.dropWhile isDecimalDigit, ?_, Text.stops_of_head?_dropWhile isDecimalDigit after⟩
  rw [List.append_assoc, parts]

theorem not_mem_version {c : Char} (isVersion : IsVersion version)
    (notDigit : isDecimalDigit c = false) (notDot : c ≠ '.') : c ∉ version := by
  obtain ⟨major, minor, patch, rfl, numbers⟩ := isVersion
  have outside : ∀ digits ∈ [major, minor, patch], c ∉ digits := by
    intro digits mem inDigits
    rw [(numbers digits mem).2 c inDigits] at notDigit
    cases notDigit
  simp only [List.forall_mem_cons] at outside
  simp [outside, notDot]

/-- The letter that a lead begins with stands nowhere else up to the end of the version. -/
theorem first_not_mem_rest (isVersion : IsVersion version) :
    'c' ∉ "make version ".toList ++ version := by
  rw [List.mem_append, not_or]
  exact ⟨by decide, not_mem_version isVersion (by decide) (by decide)⟩

theorem versionLead_eq : versionLead = 'c' :: "make version ".toList := by decide

theorem versionAt?_inside {front back : List Char}
    (found : versionAt? (front ++ back) = some version)
    (some : front ≠ []) (inside : front.length < (versionLead ++ version).length) :
    versionAt? back = none := by
  obtain ⟨isVersion, after, whole, -⟩ := versionAt?_eq_some_iff.mp found
  have begins : 'c' :: ("make version ".toList ++ version) <+: front ++ back := by
    rw [whole, ← List.append_assoc, versionLead_eq]
    exact List.prefix_append _ after
  rw [versionLead_eq] at inside
  have other := Regex.not_mem_head?_inside begins (first_not_mem_rest isVersion) some
    (Nat.le_of_lt_succ inside)
  rw [Option.eq_none_iff_forall_ne_some]
  intro version' foundInside
  obtain ⟨-, after', rfl, -⟩ := versionAt?_eq_some_iff.mp foundInside
  exact other (by rw [versionLead_eq]; rfl)

theorem versionAt?_append_lead (some : cs ≠ []) :
    versionAt? (cs ++ (versionLead ++ rest)) = versionAt? cs := by
  rw [Option.ext_iff]
  intro version
  rw [versionAt?_eq_some_iff, versionAt?_eq_some_iff]
  refine and_congr_right fun isVersion => ?_
  constructor
  · rintro ⟨after, whole, stops⟩
    have begins : versionLead ++ version <+: cs ++ (versionLead ++ rest) :=
      ⟨after, by rw [List.append_assoc, whole]⟩
    have fits : (versionLead ++ version).length ≤ cs.length := by
      rw [versionLead_eq] at begins ⊢
      refine Nat.le_of_not_lt fun longer => ?_
      exact Regex.not_mem_head?_inside begins (first_not_mem_rest isVersion) some
        (Nat.le_of_lt_succ longer) rfl
    obtain ⟨after', rfl⟩ := List.prefix_of_prefix_length_le begins (List.prefix_append cs _) fits
    simp only [List.append_assoc, List.append_cancel_left_eq] at whole
    refine ⟨after', List.append_assoc .., fun c first => stops c ?_⟩
    rw [← whole, List.head?_append, Option.mem_def.mp first]
    rfl
  · rintro ⟨after, rfl, stops⟩
    refine ⟨after ++ (versionLead ++ rest), by simp, fun c first => ?_⟩
    cases after with
    | nil =>
      obtain rfl : 'c' = c := by simpa [versionLead_eq] using first
      decide
    | cons d after => exact stops c first

theorem firstWhere_versionAt?_append (isVersion : IsVersion version) (cs after : List Char) :
    firstWhere versionAt? (cs ++ (versionLead ++ (version ++ after))) =
      (firstWhere versionAt? cs).or (some (version ++ after.takeWhile isDecimalDigit)) := by
  induction cs with
  | nil =>
    have here := versionAt?_append isVersion after
    rw [versionLead_eq] at here ⊢
    show (versionAt? ('c' :: "make version ".toList ++ (version ++ after))).or _ = _
    rw [here]
    rfl
  | cons c cs ih =>
    rw [List.cons_append, firstWhere, ← List.cons_append,
      versionAt?_append_lead (List.cons_ne_nil c cs), ih, firstWhere, Option.or_assoc]

end reading

section places
variable {o : Place} {before rest version : List Char} {text v : String}

theorem IsComplete.versionAt? (h : IsComplete o version) :
    Help.versionAt? (o.inside ++ o.after) = some version :=
  versionAt?_eq_some_iff.mpr ⟨h.isVersion, o.after, by rw [h.inside, List.append_assoc], h.ends⟩

theorem exists_isComplete (read : versionAt? rest = some version) (before : List Char) :
    ∃ o : Place, o.before = before ∧ o.inside ++ o.after = rest ∧ IsComplete o version := by
  obtain ⟨isVersion, after, rfl, stops⟩ := versionAt?_eq_some_iff.mp read
  exact ⟨⟨before, versionLead ++ version, after⟩, rfl, List.append_assoc .., rfl, isVersion, stops⟩

theorem version?_eq_some_iff :
    version? text = some v ↔ firstWhere versionAt? text.toList = some v.toList := by
  rw [version?, Option.map_eq_some_iff]
  constructor
  · rintro ⟨version, read, rfl⟩
    rw [read, String.toList_ofList]
  · exact fun read => ⟨v.toList, read, String.ofList_toList⟩

/-- The version is taken from the complete place in front of which none is complete. -/
theorem version?_eq_some_iff_place : version? text = some v ↔ ∃ o : Place, o.text = text.toList ∧
    IsComplete o v.toList ∧
      ∀ (e : Place) other, e.text = text.toList → IsComplete e other → o.start ≤ e.start := by
  rw [version?_eq_some_iff, Text.firstWhere_eq_some_iff]
  constructor
  · rintro ⟨before, rest, whole, -, read, first⟩
    obtain ⟨o, rfl, rfl, complete⟩ := exists_isComplete read before
    refine ⟨o, whole.symm, complete, fun e other isText isComplete =>
      Nat.le_of_not_lt fun earlier => ?_⟩
    have same : e.before ++ (e.inside ++ e.after) = o.before ++ (o.inside ++ o.after) :=
      isText.trans whole
    obtain ⟨back, isBefore⟩ : e.before <+: o.before :=
      List.prefix_of_prefix_length_le ⟨_, same⟩ (List.prefix_append _ _) (Nat.le_of_lt earlier)
    have some : back ≠ [] := by
      rintro rfl
      rw [List.append_nil] at isBefore
      rw [Place.start, Place.start, isBefore] at earlier
      exact Nat.lt_irrefl _ earlier
    have none := first e.before back isBefore.symm some
    rw [← isBefore, List.append_assoc, List.append_cancel_left_eq] at same
    rw [← same, isComplete.versionAt?] at none
    cases none
  · rintro ⟨o, isText, complete, leftmost⟩
    have nonempty : o.inside ++ o.after ≠ [] := by
      rw [complete.inside]
      exact List.append_ne_nil_of_left_ne_nil (List.append_ne_nil_of_left_ne_nil (by decide) _) _
    refine ⟨o.before, _, isText.symm, nonempty, complete.versionAt?,
      fun front back isSplit some => ?_⟩
    rw [Option.eq_none_iff_forall_ne_some]
    intro other read
    obtain ⟨e, rfl, isRest, isComplete⟩ := exists_isComplete read front
    have same : e.text = text.toList := by
      rw [← isText, Place.text, isRest, Place.text, isSplit, List.append_assoc]
    have later := leftmost e other same isComplete
    have longer := List.length_pos_iff.mpr some
    rw [Place.start, Place.start, isSplit, List.length_append] at later
    omega

theorem version?_eq_none_iff : version? text = none ↔ ¬HoldsVersion text.toList := by
  rw [version?, Option.map_eq_none_iff, Text.firstWhere_eq_head?, List.head?_eq_none_iff,
    List.eq_nil_iff_forall_not_mem, HoldsVersion, not_exists]
  simp only [Text.mem_everywhere]
  constructor
  · rintro none version ⟨isVersion, before, after, whole⟩
    refine none _ ⟨before, versionLead ++ (version ++ after), ?_, ?_,
      versionAt?_append isVersion after⟩
    · rw [← whole, List.append_assoc, List.append_assoc]
    · exact List.append_ne_nil_of_left_ne_nil (by decide) _
  · rintro none version ⟨before, rest, whole, -, read⟩
    obtain ⟨isVersion, after, rfl, -⟩ := versionAt?_eq_some_iff.mp read
    exact none version ⟨isVersion, before, after,
      by rw [whole, List.append_assoc, List.append_assoc]⟩

theorem version?_append (isVersion : IsVersion v.toList) (text after : String) :
    version? (text ++ ("cmake version " ++ v ++ after)) =
      (version? text).or (some (v ++ String.ofList (after.toList.takeWhile isDecimalDigit))) := by
  have read (lead : String) : version? (text ++ (lead ++ v ++ after)) =
      (firstWhere versionAt? (text.toList ++ (lead.toList ++ (v.toList ++ after.toList)))).map
        String.ofList := by
    simp [version?]
  calc version? (text ++ ("cmake version " ++ v ++ after))
      = (firstWhere versionAt? (text.toList ++ (versionLead ++ (v.toList ++ after.toList)))).map
          String.ofList := read "cmake version "
    _ = ((firstWhere versionAt? text.toList).or
          (some (v.toList ++ after.toList.takeWhile isDecimalDigit))).map String.ofList := by
        rw [firstWhere_versionAt?_append isVersion]
    _ = (version? text).or (some (v ++ String.ofList (after.toList.takeWhile isDecimalDigit))) := by
        rw [Option.map_or, Option.map_some, String.ofList_append, String.ofList_toList, version?]

end places

theorem toNat_lt_of_isDecimalDigit {c : Char} (digit : isDecimalDigit c = true) :
    c.toNat < 0x1FBFA := by
  unfold isDecimalDigit at digit
  split at digit
  · omega
  · exact Text.lt_of_inRanges (by decide) digit

def digitClass : CharClass :=
  .below isDecimalDigit 0x1FBFA (fun _ => toNat_lt_of_isDecimalDigit) ⟨'0', by decide⟩

def numberThen (n : Nat) (e : Expression) : Expression :=
  .both (digitClass.many n) (.both (.literal ['.']) e)

/-- `cmake version (\d+\.\d+\.\d+)` for all texts that have no more characters than `n`. -/
def versionPattern (n : Nat) : Expression :=
  .both (.literal versionLead)
    (.group 1 (numberThen n (numberThen n (digitClass.many n))))

section searching
variable {n : Nat} {text digits rest version : List Char}

theorem matches_numberThen {e : Expression} {part : List Char}
    (isMatch : (numberThen n e).Matches part) :
    ∃ digits rest, part = digits ++ '.' :: rest ∧ IsNumber digits ∧ e.Matches rest := by
  obtain ⟨digits, _, rfl, isNumber, _, rest, rfl, isDot, isRest⟩ := isMatch
  obtain rfl := Expression.matches_literal.mp isDot
  obtain ⟨some, all, -⟩ := Expression.matches_many.mp isNumber
  exact ⟨digits, rest, rfl, ⟨some, all⟩, isRest⟩

theorem matches_versionPattern {part : List Char} (isMatch : (versionPattern n).Matches part) :
    ∃ version, IsVersion version ∧ part = versionLead ++ version := by
  obtain ⟨_, _, rfl, isLead, isVersion⟩ := isMatch
  obtain rfl := Expression.matches_literal.mp isLead
  obtain ⟨major, _, rfl, isMajor, others⟩ :=
    matches_numberThen (Expression.matches_group.mp isVersion)
  obtain ⟨minor, patch, rfl, isMinor, isPatch⟩ := matches_numberThen others
  obtain ⟨some, all, -⟩ := Expression.matches_many.mp isPatch
  exact ⟨_, isVersion_iff.mpr ⟨major, minor, patch, rfl, isMajor, isMinor, some, all⟩, rfl⟩

theorem firstOf_numberThen {α : Type} {e : Expression} {groups : List (Nat × List Char)}
    {next : Regex.Progress → Option α} (isNumber : IsNumber digits) (fits : digits.length ≤ n) :
    (numberThen n e).firstOf ⟨groups, digits ++ '.' :: rest⟩ next =
    e.firstOf ⟨groups, rest⟩ next := by
  have dotted : Text.after? ['.'] ('.' :: rest) = some rest := Text.after?_eq_some_iff.mpr rfl
  rw [numberThen, Expression.firstOf_both,
    Expression.firstOf_many digitClass isNumber.1 isNumber.2 fits,
    Expression.firstOf_both, Expression.firstOf_literal, dotted, Option.bind_some]
  · rintro c ⟨⟩
    decide
  · intro _ c isDigit behind
    have other : c ≠ '.' := by
      rintro rfl
      revert isDigit
      decide
    rw [Expression.firstOf_both, Expression.firstOf_literal, Text.after?_cons_of_ne other,
      Option.bind_none]

theorem head?_run_versionPattern {after : List Char} (isVersion : IsVersion version)
    (stops : ∀ c ∈ after.head?, isDecimalDigit c = false) (fits : version.length ≤ n) :
    ((versionPattern n).run ⟨[], versionLead ++ (version ++ after)⟩).head? =
      some ⟨[(1, version)], after⟩ := by
  have opened : Text.after? versionLead (versionLead ++ (version ++ after)) =
      some (version ++ after) :=
    Text.after?_eq_some_iff.mpr rfl
  obtain ⟨major, minor, patch, isParts, isMajor, isMinor, some, all⟩ := isVersion_iff.mp isVersion
  have parts : version ++ after = major ++ '.' :: (minor ++ '.' :: (patch ++ after)) := by
    simp [isParts]
  have size := congrArg List.length isParts
  simp only [List.length_append, List.length_cons] at size
  rw [Expression.head?_run, versionPattern, Expression.firstOf_both,
    Expression.firstOf_literal, opened,
    Option.bind_some, Expression.firstOf_group, parts, firstOf_numberThen isMajor (by omega),
    firstOf_numberThen isMinor (by omega),
    Expression.firstOf_many digitClass some all (by omega) stops, ← parts, Expression.take_front]
  nofun

theorem reads_versionPattern (fits : text.length ≤ n) :
    Regex.Reads (versionPattern n) 1 versionAt? (versionLead ++ ·) text where
  begins rest version found := by
    obtain ⟨-, after, rfl, -⟩ := versionAt?_eq_some_iff.mp found
    rw [← List.append_assoc]
    exact List.prefix_append _ after
  taken version behind isEnd found := by
    have bound := isEnd.length_le
    simp only [List.length_append] at bound
    rw [List.append_assoc] at found ⊢
    obtain ⟨isVersion, after, same, stops⟩ := versionAt?_eq_some_iff.mp found
    obtain rfl := List.append_cancel_left (List.append_cancel_left same)
    exact head?_run_versionPattern isVersion stops (by omega)
  matched rest part _ isMatch begins := by
    obtain ⟨version, isVersion, rfl⟩ := matches_versionPattern isMatch
    obtain ⟨after, rfl⟩ := begins
    rw [List.append_assoc, versionAt?_append isVersion]
    exact Option.some_ne_none _
  nothing := by decide
  apart front back version _ found some inside := versionAt?_inside found some inside

end searching

/-- A text has a version exactly if one stands behind its lead somewhere, and then it is taken from
the leftmost place where it stands with all the digits of its third number. A text in front matters
only if it has a version itself, and what is behind only by digits that come next. A search takes
the same version, and a text without one is an error; apart from failures of the client there is no
other. -/
theorem version?_leftmost (text : String) (more : Nat) :
    (∀ v, version? text = some v ↔ ∃ o : Place, o.text = text.toList ∧ IsComplete o v.toList ∧
      ∀ (e : Place) other, e.text = text.toList → IsComplete e other → o.start ≤ e.start) ∧
    (version? text = none ↔ ¬HoldsVersion text.toList) ∧
    (∀ version after : String, IsVersion version.toList →
      version? (text ++ ("cmake version " ++ version ++ after)) = (version? text).or
        (some (version ++ String.ofList (after.toList.takeWhile isDecimalDigit)))) ∧
    version? text =
      (Regex.captures (versionPattern (text.length + more)) 1 text.toList).head?.map String.ofList ∧
    ∀ c : Client,
      (∀ error, (Gather.version c).result = .error error ↔
        c.answer Query.version.arguments = .error error ∨
          ∃ output, c.answer Query.version.arguments = .ok output ∧ ¬HoldsVersion output.toList ∧
            error = .missingVersion (Client.commandLine c.name Query.version.arguments) output) ∧
      (c.FailsAsCommand →
        ((∃ command output, (Gather.version c).result = .error (.missingVersion command output)) ↔
          ∃ output, c.answer Query.version.arguments = .ok output ∧
          ¬HoldsVersion output.toList)) := by
  refine ⟨fun _ => version?_eq_some_iff_place, version?_eq_none_iff,
    fun _ after isVersion => version?_append isVersion text after, ?_, fun c => ⟨?_, ?_⟩⟩
  · have fits : text.toList.length ≤ text.length + more := by
      rw [String.length_toList]
      exact Nat.le_add_right _ _
    rw [Regex.captures_eq_everywhere (reads_versionPattern fits), ← Text.firstWhere_eq_head?,
      version?]
  · intro error
    simp only [Gather.version_eq_error_iff, version?_eq_none_iff]
  · intro fails
    simp only [Gather.exists_missingVersion_iff fails, version?_eq_none_iff]

def cutVersion : String := "cmake version 3.28."

def cutClient : Client := .ofTable (.ofList [("--version", cutVersion)])

theorem version?_leftmost_cut :
    IsVersion "3.28.3".toList ∧
    version? (cutVersion ++ ("cmake version " ++ "3.28.3" ++ "-rc2")) = some "3.28.3" ∧
    cutClient.answer Query.version.arguments = .ok cutVersion ∧
    (Gather.version cutClient).result =
      .error (.missingVersion (Client.commandLine cutClient.name Query.version.arguments)
        cutVersion) ∧
    cutClient.FailsAsCommand ∧
    ∃ command output, (Gather.version cutClient).result =
      .error (.missingVersion command output) := by
  have isVersion : IsVersion "3.28.3".toList :=
    isVersion_of_version? (by decide +kernel : version? "cmake version 3.28.3" = some "3.28.3")
  have answered : cutClient.answer Query.version.arguments = .ok cutVersion := rfl
  have fails : cutClient.FailsAsCommand := Client.failsAsCommand_ofTable _
  have nothing : version? cutVersion = none := by decide +kernel
  obtain ⟨-, absent, behind, -, gathers⟩ := version?_leftmost cutVersion 0
  obtain ⟨refused, missing⟩ := gathers cutClient
  refine ⟨isVersion, ?_, answered,
    (refused _).mpr (.inr ⟨cutVersion, answered, absent.mp nothing, rfl⟩), fails,
    (missing fails).mpr ⟨cutVersion, answered, absent.mp nothing⟩⟩
  rw [behind "3.28.3" "-rc2" isVersion, nothing]
  decide +kernel

end CMakeGrammar.Help
