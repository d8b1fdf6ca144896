import Mathlib.Data.List.Forall2
import CMakeGrammar.Proofs.Json.Content
import CMakeGrammar.Proofs.Template.Showing
/-! String literals in a template. Their fixed content and the values between it are put behind each
other, and since what is escaped is the content of a literal too, the whole is one: it is read as
the texts of its pieces, one behind the other. -/
namespace CMakeGrammar.Template
open Json (Denotes)
open Text (Position)

/-- That a node is a piece of a literal, and the text that it denotes: fixed content, or something
that is shown as an escaped text. -/
inductive IsPiece (frames : List Frame) (inside : Option String → List Node → Body) :
    Node → List Char → Prop
  | fixed {content text : List Char} : Json.unescape? content = some text →
    IsPiece frames inside (.text content) text
  | escaped {n : Node} {text : List Char} :
    Shows frames (renderNode inside n) (Json.escapeChars text) → IsPiece frames inside n text

/-- That a literal is shown between other things, and that it is well escaped and read as a text. -/
def ShowsLiteral (frames : List Frame) (body : Body) (before after text : List Char) : Prop :=
  ∃ content, Shows frames body (before ++ '"' :: (content ++ '"' :: after)) ∧
    Json.IsWellEscaped content ∧
    Json.literal? ('"' :: (content ++ '"' :: after)) = some (String.ofList text, after) ∧
    Json.parse? (String.ofList ('"' :: (content ++ ['"']))) = some (.string (String.ofList text))

section
variable {frames : List Frame} {inside : Option String → List Node → Body}

theorem IsPiece.exists_denotes {n : Node} {text : List Char} (h : IsPiece frames inside n text) :
    ∃ content, Shows frames (renderNode inside n) content ∧ Denotes none content text := by
  cases h with
  | fixed content => exact ⟨_, shows_text _, Json.unescape?_eq_some_iff.mp content⟩
  | escaped shown => exact ⟨_, shown, Json.denotes_escapeChars text⟩

theorem exists_denotes_pieces {nodes others : List Node} {texts : List (List Char)}
    {rest : List Char} (pieces : List.Forall₂ (IsPiece frames inside) nodes texts)
    (shown : Shows frames (renderAll inside others) rest) :
    ∃ content, Shows frames (renderAll inside (nodes ++ others)) (content ++ rest) ∧
      Denotes none content texts.flatten := by
  induction pieces with
  | nil => exact ⟨[], shown, .nil⟩
  | cons piece _ ih =>
    obtain ⟨first, shownFirst, denotesFirst⟩ := piece.exists_denotes
    obtain ⟨behind, shownBehind, denotesBehind⟩ := ih
    refine ⟨first ++ behind, ?_, denotesFirst.append denotesBehind⟩
    rw [List.cons_append, List.append_assoc]
    exact shows_cons shownFirst shownBehind

theorem isPiece_value {p : Path} {v : Json} (reaches : Reaches frames p v)
    (unknown : Helper.ofName? p.written = none) (position : Position) :
    IsPiece frames inside (.place position false (.value (.path p))) (Value.print v) := by
  refine .escaped ?_
  rw [renderNode, renderContent]
  exact (shows_value reaches unknown).locate _

theorem isPiece_alternation {p : Path} {v : Json} {names : List String}
    (reaches : Reaches frames p v) (areNames : Invocation.names? v = some names)
    (position : Position) :
    IsPiece frames inside (.place position false (.call (.mk "regex_alternation" [.path p] [])))
      (Alternation.ofNames names).toList := by
  refine .escaped ?_
  rw [renderNode, renderContent]
  exact (shows_alternation reaches areNames false false).locate _

theorem showsLiteral_pieces {before after first last head tail : List Char} {nodes : List Node}
    {texts : List (List Char)} (begins : Json.unescape? first = some head)
    (pieces : List.Forall₂ (IsPiece frames inside) nodes texts)
    (ends : Json.unescape? last = some tail) :
    ShowsLiteral frames
      (renderAll inside
        (.text (before ++ '"' :: first) :: (nodes ++ [.text (last ++ '"' :: after)])))
      before after (head ++ (texts.flatten ++ tail)) := by
  have denotesFirst := Json.unescape?_eq_some_iff.mp begins
  have denotesLast := Json.unescape?_eq_some_iff.mp ends
  -- the closing text ends the content and goes on behind the quote
  have closing : Shows frames (renderAll inside [.text (last ++ '"' :: after)])
      (last ++ '"' :: after ++ []) := shows_cons (shows_text _) shows_nil
  obtain ⟨middle, shown, denotesMiddle⟩ := exists_denotes_pieces pieces closing
  have denotes : Denotes none (first ++ (middle ++ last)) (head ++ (texts.flatten ++ tail)) :=
    denotesFirst.append (denotesMiddle.append denotesLast)
  refine ⟨first ++ (middle ++ last), ?_, denotes.isWellEscaped,
    Json.literal?_of_denotes denotes after, Json.parse?_of_denotes denotes⟩
  exact (shows_cons (shows_text _) shown).of_eq (by simp)

end

/-- What is escaped is well escaped, is read as what it was, and can be escaped in parts; so what a
template shows of fixed contents and escaped values between two quotes is a literal that is read as
their texts, one behind the other. -/
theorem escape_interleaved (a b : String) :
    (Json.IsWellEscaped (Json.escape a).toList ∧
      Json.unescape? (Json.escape a).toList = some a.toList ∧
      Json.parse? ("\"" ++ Json.escape a ++ "\"") = some (.string a) ∧
      Json.escape (a ++ b) = Json.escape a ++ Json.escape b) ∧
    ∀ (frames : List Frame) (inside : Option String → List Node → Body),
      (∀ p v position, Reaches frames p v → Helper.ofName? p.written = none →
        IsPiece frames inside (.place position false (.value (.path p))) (Value.print v)) ∧
      (∀ p v names position, Reaches frames p v → Invocation.names? v = some names →
        IsPiece frames inside (.place position false (.call (.mk "regex_alternation" [.path p] [])))
          (Alternation.ofNames names).toList) ∧
      ∀ before after first last head tail nodes texts, Json.unescape? first = some head →
        List.Forall₂ (IsPiece frames inside) nodes texts → Json.unescape? last = some tail →
        ShowsLiteral frames
          (renderAll inside
            (.text (before ++ '"' :: first) :: (nodes ++ [.text (last ++ '"' :: after)])))
          before after (head ++ (texts.flatten ++ tail)) := by
  have denotes := Json.denotes_escapeChars a.toList
  have characters : (Json.escape a).toList = Json.escapeChars a.toList := String.toList_ofList
  refine ⟨⟨?_, ?_, ?_, Json.escape_append a b⟩, fun frames inside => ⟨?_, ?_, ?_⟩⟩
  · rw [characters]
    exact denotes.isWellEscaped
  · rw [characters]
    exact Json.unescape?_eq_some_iff.mpr denotes
  · have quoted : "\"" ++ Json.escape a ++ "\"" =
        String.ofList ('"' :: (Json.escapeChars a.toList ++ ['"'])) := by
      rw [← String.toList_inj]
      simp [characters]
    rw [quoted, Json.parse?_of_denotes denotes, String.ofList_toList]
  · exact fun _ _ position reaches unknown => isPiece_value reaches unknown position
  · exact fun _ _ _ position reaches areNames => isPiece_alternation reaches areNames position
  · exact fun _ _ _ _ _ _ _ _ => showsLiteral_pieces

section

def smallFrame : Frame := ⟨.derived (.object [("version", .string "3\n\"28\"")]), [], [], []⟩

def smallLine : List Node :=
  [.text ("  \"comment\": ".toList ++ '"' :: "\\u00e0 CMake ".toList),
    .place ⟨1, 28⟩ false (.value (.path (.relative [.name "version"] "version"))),
    .text (".".toList ++ '"' :: ",\n".toList)]

theorem escape_interleaved_small :
    ShowsLiteral [smallFrame] (renderAll (fun _ _ => pure []) smallLine) "  \"comment\": ".toList
      ",\n".toList "à CMake 3\n\"28\".".toList := by
  obtain ⟨-, lines⟩ := escape_interleaved "" ""
  obtain ⟨value, -, literal⟩ := lines [smallFrame] fun _ _ => pure []
  have reaches : Reaches [smallFrame] (.relative [.name "version"] "version")
      (.string "3\n\"28\"") :=
    reaches_member "version" rfl rfl (by simp [smallFrame]) rfl
  have version := value _ _ ⟨1, 28⟩ reaches (by decide)
  exact literal "  \"comment\": ".toList ",\n".toList "\\u00e0 CMake ".toList ".".toList
    "à CMake ".toList ".".toList _ _ (by decide) (.cons version .nil) (by decide)

end

end CMakeGrammar.Template
