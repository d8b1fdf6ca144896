import CMakeGrammar.Gather
import CMakeGrammar.Proofs.Help.Shape
import CMakeGrammar.Proofs.Text.Collapsing
/-! Signatures by where they stand in a text. A signature is read where the name occurs with an
argument list behind it, and the scan goes on behind the closing parenthesis. So what is read are
occurrences one behind the other, and no occurrence is passed over but those that begin in one that
is read. -/
namespace CMakeGrammar

theorem Gather.result_signatureKeywords {e : Extraction} {command : String}
    (searchable : Help.isSearchable command = true) (help : String) :
    (signatureKeywords e command help).result =
      .ok (Help.signatureKeywords e.stoplist command help) :=
  signatureKeywords_eq_ok_iff.mpr ⟨searchable, rfl⟩

namespace Help
open Text (isBlank isBoundary isWordChar IsSpaced collapseChars)

/-- A name with an argument list in a text: what is before the name, between it and its opening
parenthesis, in the parentheses, and behind them. -/
structure Occurrence where
  before : List Char
  gap : List Char
  arguments : List Char
  after : List Char
  deriving DecidableEq, Repr

namespace Occurrence

def rest (o : Occurrence) : List Char := o.gap ++ '(' :: (o.arguments ++ ')' :: o.after)

def start (o : Occurrence) : Nat := o.before.length

def opened (name : List Char) (o : Occurrence) : List Char :=
  name ++ (o.gap ++ '(' :: o.arguments)

def closing (name : List Char) (o : Occurrence) : Nat := o.start + (o.opened name).length

def signature (name : List Char) (o : Occurrence) : Signature :=
  ⟨o.arguments, (o.opened name).length + 1⟩

theorem opened_append (name : List Char) (o : Occurrence) :
    o.opened name ++ ')' :: o.after = name ++ o.rest := by
  simp [opened, rest]

theorem length_opened (name : List Char) (o : Occurrence) :
    (o.opened name).length = name.length + o.gap.length + o.arguments.length + 1 := by
  simp [opened]
  omega

/-- The name stands between word boundaries, with at most one space before the parenthesis, and the
arguments end at the next closing one. -/
structure IsIn (name text : List Char) (o : Occurrence) : Prop where
  text : text = o.before ++ (name ++ o.rest)
  opens : isBoundary o.before.getLast? (name ++ o.rest).head? = true
  ends : isBoundary (o.before ++ name).getLast? o.rest.head? = true
  gap : o.gap = [] ∨ o.gap = [' ']
  arguments : ')' ∉ o.arguments

end Occurrence

theorem closing?_eq_some_iff {cs arguments : List Char} :
    closing? cs = some arguments ↔ ')' ∉ arguments ∧ ∃ after, cs = arguments ++ ')' :: after := by
  have upTo {front : List Char} (notClosed : ')' ∉ front) (after : List Char) :
      (front ++ ')' :: after).takeWhile (· != ')') = front := by
    refine Text.takeWhile_append_cons (fun c mem => bne_iff_ne.mpr ?_) (by decide) after
    rintro rfl
    exact notClosed mem
  rw [closing?]
  constructor
  · intro h
    split at h
    · rename_i closes
      obtain ⟨front, after, rfl, notClosed⟩ :=
        List.eq_append_cons_of_mem (List.contains_iff_mem.mp closes)
      cases h
      rw [upTo notClosed]
      exact ⟨notClosed, after, rfl⟩
    · cases h
  · rintro ⟨notClosed, after, rfl⟩
    rw [if_pos (by simp), upTo notClosed]

theorem eq_of_append_closing {arguments other rest rest' : List Char} (notClosed : ')' ∉ arguments)
    (notClosed' : ')' ∉ other) (same : arguments ++ ')' :: rest = other ++ ')' :: rest') :
    arguments = other ∧ rest = rest' := by
  have found := closing?_eq_some_iff.mpr ⟨notClosed, rest, rfl⟩
  rw [same, closing?_eq_some_iff.mpr ⟨notClosed', rest', rfl⟩] at found
  obtain rfl : other = arguments := Option.some.inj found
  exact ⟨rfl, (List.cons.inj (List.append_cancel_left same)).2⟩

theorem takeWhile_isBlank_append {gap : List Char} (blanks : ∀ c ∈ gap, isBlank c = true)
    (inner : List Char) : (gap ++ '(' :: inner).takeWhile isBlank = gap :=
  Text.takeWhile_append_cons blanks (by decide) inner

theorem exists_gap {rest inner : List Char}
    (opening : rest.drop (rest.takeWhile isBlank).length = '(' :: inner) :
    ∃ gap, rest = gap ++ '(' :: inner ∧ ∀ c ∈ gap, isBlank c = true := by
  refine ⟨rest.takeWhile isBlank, ?_, List.all_eq_true.mp List.all_takeWhile⟩
  rw [← opening]
  exact (List.prefix_iff_eq_append.mp (List.takeWhile_prefix isBlank)).symm

theorem signatureAt?_eq_some_iff {name cs : List Char} {before : Option Char} {s : Signature} :
    signatureAt? name before cs = some s ↔
      ∃ gap after, cs = name ++ (gap ++ '(' :: (s.arguments ++ ')' :: after)) ∧
        isBoundary before cs.head? = true ∧
        isBoundary (name.getLast?.or before) (gap ++ ['(']).head? = true ∧
        (∀ c ∈ gap, isBlank c = true) ∧ ')' ∉ s.arguments ∧
        s.length = name.length + gap.length + s.arguments.length + 2 := by
  constructor
  · intro h
    unfold signatureAt? at h
    split at h
    · rename_i opens
      rw [Bool.and_eq_true, List.isPrefixOf_iff_prefix] at opens
      obtain ⟨opens, rest, rfl⟩ := opens
      rw [List.drop_left] at h
      dsimp only at h
      split at h
      · rename_i ends
        split at h
        · rename_i inner opening
          obtain ⟨arguments, isArguments, rfl⟩ := Option.map_eq_some_iff.mp h
          obtain ⟨gap, rfl, blanks⟩ := exists_gap opening
          obtain ⟨notClosed, after, rfl⟩ := closing?_eq_some_iff.mp isArguments
          refine ⟨gap, after, rfl, opens, ?_, blanks, notClosed, ?_⟩
          · cases gap <;> exact ends
          · rw [takeWhile_isBlank_append blanks]
        · cases h
      · cases h
    · cases h
  · rintro ⟨gap, after, rfl, opens, ends, blanks, notClosed, length⟩
    have isEnd : isBoundary (name.getLast?.or before)
        (gap ++ '(' :: (s.arguments ++ ')' :: after)).head? = true := by
      cases gap <;> exact ends
    have isArguments : closing? (s.arguments ++ ')' :: after) = some s.arguments :=
      closing?_eq_some_iff.mpr ⟨notClosed, after, rfl⟩
    have isSignature :
        (⟨s.arguments, name.length + gap.length + s.arguments.length + 2⟩ : Signature) = s := by
      rw [← length]
    have begins : name.isPrefixOf (name ++ (gap ++ '(' :: (s.arguments ++ ')' :: after))) =
        true := by
      simp
    unfold signatureAt?
    rw [opens, begins, Bool.and_self, if_pos rfl, List.drop_left]
    dsimp only
    rw [isEnd, if_pos rfl, takeWhile_isBlank_append blanks, List.drop_left]
    show (closing? (s.arguments ++ ')' :: after)).map _ = some s
    rw [isArguments, Option.map_some, isSignature]

theorem signaturesFrom_skip (name read : List Char) (before : Option Char) (c : Char)
    (after : List Char) :
    signaturesFrom name (read.length + 1) before (read ++ c :: after) =
      signaturesFrom name 0 (some c) after := by
  induction read generalizing before with
  | nil => rw [List.nil_append, List.length_nil, signaturesFrom]
  | cons d read ih => rw [List.length_cons, List.cons_append, signaturesFrom, ih]

theorem signaturesFrom_of_some {name read after : List Char} {before : Option Char} {s : Signature}
    (found : signatureAt? name before (read ++ ')' :: after) = some s)
    (length : s.length = read.length + 1) :
    signaturesFrom name 0 before (read ++ ')' :: after) =
      s :: signaturesFrom name 0 (some ')') after := by
  cases read with
  | nil =>
    rw [List.nil_append] at found ⊢
    rw [signaturesFrom, found]
    show s :: signaturesFrom name (s.length - 1) (some ')') after = _
    rw [length]
    rfl
  | cons c read =>
    rw [List.cons_append] at found ⊢
    rw [signaturesFrom, found]
    show s :: signaturesFrom name (s.length - 1) (some c) (read ++ ')' :: after) = _
    rw [length, List.length_cons, Nat.add_sub_cancel, signaturesFrom_skip]

theorem signaturesFrom_of_none {name cs : List Char} {before : Option Char} {c : Char}
    (nothing : signatureAt? name before (c :: cs) = none) :
    signaturesFrom name 0 before (c :: cs) = signaturesFrom name 0 (some c) cs := by
  rw [signaturesFrom, nothing]

section
variable {name before cs : List Char}

theorem signatureAt?_iff_isIn (spaced : IsSpaced cs) {s : Signature} :
    signatureAt? name before.getLast? cs = some s ↔
      ∃ o : Occurrence, o.before = before ∧ o.IsIn name (before ++ cs) ∧ o.signature name = s := by
  have last : (before ++ name).getLast? = name.getLast?.or before.getLast? := List.getLast?_append
  rw [signatureAt?_eq_some_iff]
  constructor
  · rintro ⟨gap, after, rfl, opens, ends, blanks, notClosed, length⟩
    refine ⟨⟨before, gap, s.arguments, after⟩, rfl, ⟨rfl, opens, ?_, ?_, notClosed⟩, ?_⟩
    · rw [last]
      cases gap <;> exact ends
    · exact spaced gap ⟨name, _, List.append_assoc ..⟩ blanks
    · rw [Occurrence.signature, Occurrence.length_opened, ← length]
  · rintro ⟨⟨before, gap, arguments, after⟩, rfl, ⟨text, opens, ends, isGap, notClosed⟩, rfl⟩
    have rest := List.append_cancel_left text
    refine ⟨gap, after, rest, ?_, ?_, ?_, notClosed, ?_⟩
    · rw [rest]
      exact opens
    · rw [← last]
      cases gap <;> exact ends
    · rcases isGap with rfl | rfl <;> simp
    · rw [Occurrence.signature, Occurrence.length_opened]

theorem Occurrence.IsIn.unique {text : List Char} {o e : Occurrence} (ho : o.IsIn name text)
    (he : e.IsIn name text) (start : o.start = e.start) : o = e := by
  obtain ⟨before, gap, arguments, after⟩ := o
  obtain ⟨before', gap', arguments', after'⟩ := e
  obtain ⟨isBefore, whole⟩ := List.append_inj (ho.text.symm.trans he.text) start
  obtain rfl : before = before' := isBefore
  have rest : gap ++ '(' :: (arguments ++ ')' :: after) =
      gap' ++ '(' :: (arguments' ++ ')' :: after') := List.append_cancel_left whole
  obtain rfl : gap = gap' := by
    rcases ho.gap with rfl | rfl <;> rcases he.gap with rfl | rfl <;> simp_all
  have inner : arguments ++ ')' :: after = arguments' ++ ')' :: after' := by simpa using rest
  obtain ⟨isArguments, isAfter⟩ := eq_of_append_closing ho.arguments he.arguments inner
  rw [show arguments = arguments' from isArguments, isAfter]

theorem Occurrence.IsIn.start_lt {text : List Char} {o : Occurrence} (h : o.IsIn name text) :
    o.start < text.length := by
  rw [h.text, ← o.opened_append name, List.length_append, List.length_append, List.length_cons,
    Occurrence.start]
  omega

end

/-- What a scan of a text from some position on finds: occurrences one behind the other, and each
occurrence but those that begin inside of one that is found. -/
structure IsScan (name before cs : List Char) (found : List Occurrence) : Prop where
  isIn : ∀ o ∈ found, o.IsIn name (before ++ cs)
  start : ∀ o ∈ found, before.length ≤ o.start
  ordered : found.Pairwise fun o e => o.closing name < e.start
  complete : ∀ o : Occurrence, o.IsIn name (before ++ cs) → before.length ≤ o.start →
    o ∈ found ∨ ∃ e ∈ found, e.start < o.start ∧ o.start ≤ e.closing name

namespace IsScan
variable {name before cs : List Char} {found : List Occurrence}

theorem nil (name before : List Char) : IsScan name before [] [] where
  isIn := List.forall_mem_nil _
  start := List.forall_mem_nil _
  ordered := .nil
  complete o h behind := by
    have inside := h.start_lt
    rw [List.append_nil] at inside
    omega

theorem skip {c : Char} (scan : IsScan name (before ++ [c]) cs found)
    (nothing : ∀ o : Occurrence, o.IsIn name (before ++ c :: cs) → o.before ≠ before) :
    IsScan name before (c :: cs) found := by
  have text : before ++ [c] ++ cs = before ++ c :: cs := by simp
  obtain ⟨isIn, start, ordered, complete⟩ := scan
  rw [text] at isIn complete
  rw [List.length_append, List.length_singleton] at start complete
  refine ⟨isIn, fun o mem => Nat.le_of_succ_le (start o mem), ordered, fun o h behind => ?_⟩
  refine complete o h (Nat.lt_of_le_of_ne behind fun here => nothing o h ?_)
  exact (List.append_inj h.text here).1.symm

theorem take {o : Occurrence} (h : o.IsIn name (before ++ cs)) (here : o.before = before)
    (scan : IsScan name (before ++ (o.opened name ++ [')'])) o.after found) :
    IsScan name before cs (o :: found) := by
  have text : before ++ (o.opened name ++ [')']) ++ o.after = before ++ cs := by
    rw [h.text, ← o.opened_append, here]
    simp
  have length : (before ++ (o.opened name ++ [')'])).length = o.closing name + 1 := by
    rw [Occurrence.closing, Occurrence.start, here]
    simp
    omega
  have start : o.start = before.length := by rw [Occurrence.start, here]
  obtain ⟨isIn, behind, ordered, complete⟩ := scan
  rw [text] at isIn complete
  rw [length] at behind complete
  have inside : before.length ≤ o.closing name := by
    rw [← start]
    exact Nat.le_add_right _ _
  refine ⟨List.forall_mem_cons.mpr ⟨h, isIn⟩,
    List.forall_mem_cons.mpr ⟨Nat.le_of_eq start.symm, ?_⟩,
    List.pairwise_cons.mpr ⟨behind, ordered⟩, fun e he later => ?_⟩
  · intro e mem
    have := behind e mem
    omega
  · obtain begins | inner | beyond : e.start = o.start ∨
        (o.start < e.start ∧ e.start ≤ o.closing name) ∨ o.closing name + 1 ≤ e.start := by omega
    · exact .inl (List.mem_cons.mpr (.inl (he.unique h begins)))
    · exact .inr ⟨o, List.mem_cons_self, inner⟩
    · rcases complete e he beyond with mem | ⟨d, mem, reaches⟩
      · exact .inl (List.mem_cons_of_mem _ mem)
      · exact .inr ⟨d, List.mem_cons_of_mem _ mem, reaches⟩

end IsScan

theorem exists_scan (name before cs : List Char) (spaced : IsSpaced cs) :
    ∃ found : List Occurrence,
      signaturesFrom name 0 before.getLast? cs = found.map (·.signature name) ∧
        IsScan name before cs found := by
  cases cs with
  | nil => exact ⟨[], rfl, .nil name before⟩
  | cons c cs =>
    cases read : signatureAt? name before.getLast? (c :: cs) with
    | none =>
      have rest : IsSpaced cs := fun gap part =>
        spaced gap (part.trans (List.suffix_cons c cs).isInfix)
      obtain ⟨found, signatures, scan⟩ := exists_scan name (before ++ [c]) cs rest
      refine ⟨found, ?_, scan.skip fun o h here => ?_⟩
      · rw [signaturesFrom_of_none read, ← signatures, List.getLast?_concat]
      · have isRead := (signatureAt?_iff_isIn spaced).mpr ⟨o, here, h, rfl⟩
        rw [read] at isRead
        cases isRead
    | some s =>
      obtain ⟨o, here, h, rfl⟩ := (signatureAt?_iff_isIn spaced).mp read
      have whole : c :: cs = o.opened name ++ ')' :: o.after := by
        rw [o.opened_append]
        exact List.append_cancel_left (h.text.trans (by rw [here]))
      have rest : IsSpaced o.after := by
        refine fun gap part => spaced gap (part.trans (List.IsSuffix.isInfix ?_))
        exact ⟨o.opened name ++ [')'], by simp [whole]⟩
      have shorter : o.after.length < cs.length + 1 := by
        rw [← List.length_cons, whole, List.length_append, List.length_cons]
        omega
      obtain ⟨found, signatures, scan⟩ :=
        exists_scan name (before ++ (o.opened name ++ [')'])) o.after rest
      refine ⟨o :: found, ?_, scan.take h here⟩
      rw [whole] at read ⊢
      rw [signaturesFrom_of_some read rfl, List.map_cons, ← signatures, ← List.append_assoc,
        List.getLast?_concat]
termination_by cs.length

theorem exists_scan_signatures (command help : String) :
    ∃ found : List Occurrence,
      signatures command help = found.map (fun o => String.ofList (collapseChars o.arguments)) ∧
        IsScan command.toList [] (collapseChars help.toList) found := by
  obtain ⟨found, isRead, scan⟩ := exists_scan command.toList [] (collapseChars help.toList)
    (Text.isSpaced_collapseChars help.toList)
  refine ⟨found, ?_, scan⟩
  rw [signatures, signaturesOf, show signaturesFrom _ 0 none _ = _ from isRead, List.map_map]
  rfl

/-- The signatures of a command are its occurrences in the collapsed help, read from left to right:
none overlaps another, and an occurrence that is not read begins inside of one that is. A name that
is a word is never found in a longer word. The keywords are those of all argument lists together. -/
theorem signatures_occurrences (e : Extraction) (command help : String) :
    ∃ found : List Occurrence,
      (∀ o ∈ found, o.IsIn command.toList (collapseChars help.toList)) ∧
      (found.Pairwise fun o e => o.closing command.toList < e.start) ∧
      (∀ o : Occurrence, o.IsIn command.toList (collapseChars help.toList) →
        o ∈ found ∨ ∃ e ∈ found, e.start < o.start ∧ o.start ≤ e.closing command.toList) ∧
      signatures command help = found.map (fun o => String.ofList (collapseChars o.arguments)) ∧
      (∀ s ∈ signatures command help, ')' ∉ s.toList) ∧
      (Text.IsWord command →
        ∀ o ∈ found, Text.Place.IsRun isWordChar ⟨o.before, command.toList, o.rest⟩) ∧
      (isSearchable command = true →
        ∃ found, (Gather.signatureKeywords e command help).result = .ok found ∧
          ∀ word, word ∈ found ↔ ∃ s ∈ signatures command help, word ∈ keywords e.stoplist s) := by
  obtain ⟨found, isMap, scan⟩ := exists_scan_signatures command help
  refine ⟨found, scan.isIn, scan.ordered, fun o h => scan.complete o h (Nat.zero_le _),
    isMap, ?_, ?_,
    fun searchable => ⟨_, Gather.result_signatureKeywords searchable help, fun word =>
      mem_signatureKeywords⟩⟩
  · intro s mem
    rw [isMap] at mem
    obtain ⟨o, isFound, rfl⟩ := List.mem_map.mp mem
    rw [String.toList_ofList, Text.mem_collapseChars (by decide)]
    exact (scan.isIn o isFound).arguments
  · intro isWord o isFound
    have h := scan.isIn o isFound
    exact (Text.isRun_iff_isBoundary isWord _ _).mpr ⟨h.opens, h.ends⟩

end Help
end CMakeGrammar
