import CMakeGrammar.Proofs.Help.Occurrences
import CMakeGrammar.Proofs.Regex.Words
/-! Keywords by where they stand in a text. They are what a search for a capital and more capitals
or underscores between word boundaries finds, and so the whole words of that form. The words of a
text are kept when it is collapsed, and those between the parentheses of a signature are words of
all of it: what is cut off there are parentheses, which belong to no word. -/
namespace CMakeGrammar.Help
open Regex (Expression)
open Text (Place isWordChar collapseChars)

def capitals : List Char := "ABCDEFGHIJKLMNOPQRSTUVWXYZ".toList

def keywordChars : List Char := '_' :: capitals

/-- A capital and then, one to `n + 1` times, a capital or an underscore: `[A-Z][A-Z_]+` for all
texts that have no more characters than that. -/
def keywordExpression (n : Nat) : Expression :=
  .both (.oneOf capitals) (.both (.oneOf keywordChars) (.upTo n (.oneOf keywordChars)))

def keywordPlaces (n : Nat) (text : List Char) : List Place :=
  Regex.search (Regex.between (keywordExpression n)) text

theorem mem_capitals {c : Char} : c ∈ capitals ↔ c.isUpper = true := by
  constructor
  · have all : ∀ c ∈ capitals, c.isUpper = true := List.all_eq_true.mp (by decide)
    exact all c
  · intro upper
    have all : ∀ n ∈ List.range' 65 26, Char.ofNat n ∈ capitals := by decide
    have range : 'A'.val ≤ c.val ∧ c.val ≤ 'Z'.val := of_decide_eq_true upper
    have bounds : 65 ≤ c.toNat ∧ c.toNat ≤ 90 :=
      ⟨UInt32.le_iff_toNat_le.mp range.1, UInt32.le_iff_toNat_le.mp range.2⟩
    rw [← Char.ofNat_toNat c]
    exact all c.toNat (List.mem_range'_1.mpr (by omega))

theorem mem_keywordChars {c : Char} : c ∈ keywordChars ↔ c.isUpper = true ∨ c = '_' := by
  rw [keywordChars, List.mem_cons, mem_capitals, or_comm]

theorem isWordChar_of_mem_keywordChars {c : Char} (mem : c ∈ keywordChars) :
    isWordChar c = true := by
  have all : ∀ c ∈ keywordChars, isWordChar c = true := List.all_eq_true.mp (by decide)
  exact all c mem

theorem matches_keywordExpression {n : Nat} {word : List Char} :
    (keywordExpression n).Matches word ↔ IsKeyword word ∧ word.length ≤ n + 2 := by
  have some : capitals ≠ [] := by decide
  have some' : keywordChars ≠ [] := by decide
  simp only [keywordExpression, Expression.matches_both, Expression.matches_oneOf some,
    Expression.matches_oneOf some', Expression.matches_upTo_oneOf some', IsKeyword,
    mem_keywordChars, mem_capitals]
  constructor
  · rintro ⟨_, _, rfl, ⟨first, upper, rfl⟩, _, rest, rfl, ⟨second, mem, rfl⟩, fits, all⟩
    refine ⟨⟨first, second :: rest, rfl, upper, List.cons_ne_nil _ _,
      List.forall_mem_cons.mpr ⟨mem, all⟩⟩, ?_⟩
    exact Nat.add_le_add_right fits 2
  · rintro ⟨⟨first, rest, rfl, upper, some, all⟩, fits⟩
    obtain ⟨second, rest, rfl⟩ := List.exists_cons_of_ne_nil some
    obtain ⟨mem, all⟩ := List.forall_mem_cons.mp all
    refine ⟨[first], second :: rest, rfl, ⟨first, upper, rfl⟩, [second], rest, rfl,
      ⟨second, mem, rfl⟩, by simpa using fits, all⟩

theorem isWord_of_isKeyword {word : List Char} (h : IsKeyword word) :
    Text.IsWord (String.ofList word) := by
  obtain ⟨first, rest, rfl, upper, -, all⟩ := h
  refine ⟨by simp, ?_⟩
  rw [String.toList_ofList]
  refine List.forall_mem_cons.mpr ⟨?_, fun c mem => ?_⟩
  · exact isWordChar_of_mem_keywordChars (mem_keywordChars.mpr (.inl upper))
  · exact isWordChar_of_mem_keywordChars (mem_keywordChars.mpr (all c mem))

/-- The search finds the whole words that are keywords, and does not notice a bound that no word of
the text reaches. -/
theorem mem_keywordPlaces {n : Nat} {text : List Char} (fits : text.length ≤ n) {o : Place} :
    o ∈ keywordPlaces n text ↔ o.text = text ∧ o.IsRun isWordChar ∧ IsKeyword o.inside := by
  have words (word : List Char) (isMatch : (keywordExpression n).Matches word) :
      Text.IsWord (String.ofList word) :=
    isWord_of_isKeyword (matches_keywordExpression.mp isMatch).1
  rw [keywordPlaces, Regex.mem_search_between words, matches_keywordExpression]
  constructor
  · rintro ⟨isText, isRun, isKeyword, -⟩
    exact ⟨isText, isRun, isKeyword⟩
  · rintro ⟨rfl, isRun, isKeyword⟩
    refine ⟨rfl, isRun, isKeyword, ?_⟩
    rw [Place.text, List.length_append, List.length_append] at fits
    omega

theorem mem_keywords_iff_exists_place {stoplist : NameSet} {text word : String} :
    word ∈ keywords stoplist text ↔
      (∃ o : Place, o.text = text.toList ∧ o.IsRun isWordChar ∧ o.inside = word.toList) ∧
        IsKeyword word.toList ∧ word ∉ stoplist := by
  rw [mem_keywords, isKeyword_iff, and_assoc, words, Text.mem_runs_iff]

/-- The keywords of a text are its whole words of a capital and one or more capitals or underscores
but those of the stoplist: what a search for such words between word boundaries finds, the leftmost
first and each as long as can be. -/
theorem keywords_wholeWords (stoplist : NameSet) (text : String) (more : Nat) :
    (∀ word, word ∈ keywords stoplist text ↔
      (∃ o : Place, o.text = text.toList ∧ o.IsRun isWordChar ∧ o.inside = word.toList) ∧
        IsKeyword word.toList ∧ word ∉ stoplist) ∧
      (∀ o, o ∈ keywordPlaces (text.length + more) text.toList ↔
        o.text = text.toList ∧ o.IsRun isWordChar ∧ IsKeyword o.inside) ∧
      keywords stoplist text =
        .ofList (((keywordPlaces (text.length + more) text.toList).map
          fun o => String.ofList o.inside).filter (· ∉ stoplist)) := by
  have fits : text.toList.length ≤ text.length + more := by
    rw [String.length_toList]
    exact Nat.le_add_right _ _
  have found {o : Place} : o ∈ keywordPlaces (text.length + more) text.toList ↔
      o.text = text.toList ∧ o.IsRun isWordChar ∧ IsKeyword o.inside := mem_keywordPlaces fits
  refine ⟨fun word => mem_keywords_iff_exists_place, fun o => found, ?_⟩
  apply NameSet.ext
  intro word
  rw [mem_keywords_iff_exists_place, NameSet.mem_ofList, List.mem_filter, decide_eq_true_eq,
    List.mem_map, ← and_assoc]
  refine and_congr_left fun _ => ?_
  constructor
  · rintro ⟨⟨o, isText, isRun, inside⟩, isKeyword⟩
    refine ⟨o, found.mpr ⟨isText, isRun, inside ▸ isKeyword⟩, ?_⟩
    rw [inside, String.ofList_toList]
  · rintro ⟨o, isFound, rfl⟩
    obtain ⟨isText, isRun, isKeyword⟩ := found.mp isFound
    rw [String.toList_ofList]
    exact ⟨⟨o, isText, isRun, rfl⟩, isKeyword⟩

example : (keywords ∅ "FOO_ fooBAR BAR2 ÄBAR A _AB A__:B_C").toList =
    ["A__", "B_C", "FOO_"] := by
  decide +kernel

theorem words_collapseChars (text : List Char) : words (collapseChars text) = words text :=
  Text.runs_collapseChars (fun _ => Text.isWordChar_of_isBlank) text

theorem words_append_cons {c : Char} (h : isWordChar c = false) (front back : List Char) :
    words (front ++ c :: back) = words front ++ words back :=
  Text.runs_append_cons_of_neg h front back

theorem Occurrence.IsIn.words_arguments {name text : List Char} {o : Occurrence}
    (h : o.IsIn name text) : words o.arguments ⊆ words text := by
  have whole : text = (o.before ++ (name ++ o.gap)) ++ '(' :: (o.arguments ++ ')' :: o.after) := by
    rw [h.text, Occurrence.rest, List.append_assoc, List.append_assoc]
  rw [whole, words_append_cons (by decide), words_append_cons (by decide)]
  intro word mem
  exact List.mem_append_right _ (List.mem_append_left _ mem)

theorem words_of_mem_signatures {command help arguments : String}
    (h : arguments ∈ signatures command help) : words arguments.toList ⊆ words help.toList := by
  obtain ⟨found, isMap, scan⟩ := exists_scan_signatures command help
  rw [isMap] at h
  obtain ⟨o, isFound, rfl⟩ := List.mem_map.mp h
  rw [String.toList_ofList, words_collapseChars, ← words_collapseChars help.toList]
  exact (scan.isIn o isFound).words_arguments

/-- Collapsing a help text keeps its keywords, so those of a module are the keywords of its help.
Those of a command are among the keywords of its help. -/
theorem keywords_cut (e : Extraction) (command help : String) :
    moduleKeywords e.stoplist help = keywords e.stoplist help ∧
      (isSearchable command = true →
        ∃ found, (Gather.signatureKeywords e command help).result = .ok found) ∧
      ∀ found, (Gather.signatureKeywords e command help).result = .ok found →
        ∀ word ∈ found, word ∈ keywords e.stoplist help := by
  refine ⟨?_, fun searchable => ⟨_, Gather.result_signatureKeywords searchable help⟩, ?_⟩
  · rw [moduleKeywords, keywords, keywords, keywordsOf, keywordsOf, Text.toList_collapse,
      words_collapseChars]
  · intro found isFound word mem
    obtain ⟨-, rfl⟩ := Gather.signatureKeywords_eq_ok_iff.mp isFound
    obtain ⟨arguments, isSignature, inArguments⟩ := mem_signatureKeywords.mp mem
    obtain ⟨⟨isWord, isKey⟩, stop⟩ := mem_keywords.mp inArguments
    exact mem_keywords.mpr ⟨⟨words_of_mem_signatures isSignature isWord, isKey⟩, stop⟩

end CMakeGrammar.Help
