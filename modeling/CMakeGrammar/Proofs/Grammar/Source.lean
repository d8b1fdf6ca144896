import CMakeGrammar.Proofs.Grammar.Nodes
import CMakeGrammar.Proofs.Template.Comparison
/-! The text of the grammar is a well-formed template with the nodes given here. This is a
computation, for which the characters of texts are found in a way that evaluates fast. -/
namespace CMakeGrammar.Grammar
open Json (Part written)
open Template (Node)

/-- A text's characters, by way of its bytes. Where these are not the characters themselves, nothing
is gained. -/
def characters (s : String) : List Char :=
  let cs := s.toByteArray.data.toList.map fun b => Char.ofNat b.toNat
  if String.ofList cs = s then cs else s.toList

theorem characters_eq (s : String) : characters s = s.toList := by
  unfold characters
  dsimp only
  split
  · rename_i same
    rw [← congrArg String.toList same, String.toList_ofList]
  · rfl

def partText : Part → List Char
  | .sign c => [c]
  | .content s => Json.escapeChars (characters s)

theorem written_eq : written = fun parts => parts.flatMap partText := by
  have part : Part.text = partText := by
    funext p
    cases p with
    | sign c => rfl
    | content s => rw [Part.text, partText, characters_eq]
  funext parts
  rw [written, part]

theorem parse?_of_chars {s : String} {cs : List Char} {ns : List Node} (h : s = String.ofList cs)
    (same : ((Template.Read.pieces cs (.ofText cs)).bind fun pieces =>
      Template.nodesFrom ⟨[], []⟩ (Template.layout pieces)).any (Node.areSame · ns) = true) :
    Template.parse? s = some ns := by
  rw [Option.any_eq_true] at same
  obtain ⟨found, isFound, same⟩ := same
  obtain ⟨pieces, arePieces, areNodes⟩ := Option.bind_eq_some_iff.mp isFound
  rw [h, Template.parse?, Template.pieces?, String.toList_ofList, arePieces]
  rw [← Node.eq_of_areSame same]
  exact areNodes

set_option maxRecDepth 100000 in
theorem parse?_source : Template.parse? source = some nodes := by
  rw [nodes, written_eq]
  refine @parse?_of_chars _ ?c _ (by unfold source; exact rfl) ?_
  decide +kernel

theorem builtIn_eq : builtIn = .ok nodes := by
  rw [builtIn, ofText, parse?_source]

end CMakeGrammar.Grammar
