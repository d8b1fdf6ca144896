import CMakeGrammar.NameSet
import CMakeGrammar.Text.WordChar
import CMakeGrammar.Text.Runs
/-! Keywords of a help text: its whole words of an uppercase letter and then one or more uppercase
letters or underscores. A stoplist names the words that only look like keywords. -/
namespace CMakeGrammar.Help

def isKeywordChar (c : Char) : Bool :=
  c.isUpper || c == '_'

def isKeyword : List Char → Bool
  | first :: second :: rest => first.isUpper && (second :: rest).all isKeywordChar
  | _ => false

def words (text : List Char) : List (List Char) :=
  Text.runs Text.isWordChar text

def keywordsOf (text : List Char) : List (List Char) :=
  (words text).filter isKeyword

def keywords (stoplist : NameSet) (text : String) : NameSet :=
  NameSet.ofList ((keywordsOf text.toList).map String.ofList) \ stoplist

@[simp] theorem isKeyword_nil : isKeyword [] = false := rfl
@[simp] theorem isKeyword_singleton (c : Char) : isKeyword [c] = false := rfl

theorem mem_keywords {stoplist : NameSet} {text word : String} :
    word ∈ keywords stoplist text ↔
      (word.toList ∈ words text.toList ∧ isKeyword word.toList = true) ∧ word ∉ stoplist := by
  rw [keywords, NameSet.mem_sdiff, NameSet.mem_ofList, List.mem_map]
  constructor
  · rintro ⟨⟨w, h, rfl⟩, stop⟩
    exact ⟨by simpa [keywordsOf] using h, stop⟩
  · rintro ⟨⟨h, isKey⟩, stop⟩
    exact ⟨⟨word.toList, List.mem_filter.2 ⟨h, isKey⟩, by simp⟩, stop⟩

end CMakeGrammar.Help
