import CMakeGrammar.Proofs.Regex.Preference
import CMakeGrammar.Proofs.Regex.Search
/-! What a group holds in the matches of a search. A search goes on behind each match, so it may
miss what begins inside of one. If nothing does, it finds what stands anywhere in the text
(`captures_eq_everywhere`). -/
namespace CMakeGrammar.Regex
open Text (Place)

def captures (e : Expression) (index : Nat) (text : List Char) : List (List Char) :=
  (search [e] text).filterMap fun o => e.captured? index (o.inside ++ o.after)

theorem not_mem_head?_inside {c : Char} {rest front back : List Char}
    (begins : c :: rest <+: front ++ back)
    (once : c ∉ rest) (some : front ≠ []) (inside : front.length ≤ rest.length) :
    c ∉ back.head? := by
  intro again
  obtain ⟨back, rfl⟩ := List.head?_eq_some_iff.mp again
  obtain ⟨d, front, rfl⟩ := List.exists_cons_of_ne_nil some
  rw [List.cons_append, List.cons_prefix_cons] at begins
  rw [List.length_cons] at inside
  have later : front ++ [c] <+: rest := by
    refine List.prefix_of_prefix_length_le ⟨back, ?_⟩ begins.2 (by simpa using inside)
    rw [List.append_assoc, List.singleton_append]
  exact once (later.subset (by simp))

/-- An expression matches where a name is read, in all that a text ends with. Its preferred match
takes up what a name is read from, the group holds the name, and no other name is read inside of
it. -/
structure Reads (e : Expression) (index : Nat) (at? : List Char → Option (List Char))
    (start : List Char → List Char) (text : List Char) : Prop where
  begins : ∀ rest name, at? rest = some name → start name <+: rest
  taken : ∀ name behind, start name ++ behind <:+ text → at? (start name ++ behind) = some name →
    (e.run ⟨[], start name ++ behind⟩).head? = some ⟨[(index, name)], behind⟩
  matched : ∀ rest part, rest <:+ text → e.Matches part → part <+: rest → at? rest ≠ none
  nothing : at? [] = none
  apart : ∀ front back name, front ++ back <:+ text → at? (front ++ back) = some name →
    front ≠ [] → front.length < (start name).length → at? back = none

namespace Reads
variable {e : Expression} {index : Nat} {at? : List Char → Option (List Char)}
  {start : List Char → List Char} {text before rest : List Char}

theorem head?_run (reads : Reads e index at? start text) (isEnd : rest <:+ text) :
    (e.run ⟨[], rest⟩).head? =
      (at? rest).map fun name => ⟨[(index, name)], rest.drop (start name).length⟩ := by
  cases read : at? rest with
  | some name =>
    obtain ⟨behind, rfl⟩ := reads.begins rest name read
    rw [reads.taken name behind isEnd read, Option.map_some, List.drop_left]
  | none =>
    exact Expression.head?_run_eq_none_iff.mpr fun part isMatch begins =>
      reads.matched rest part isEnd isMatch begins read

theorem captured? (reads : Reads e index at? start text) (isEnd : rest <:+ text) :
    e.captured? index rest = at? rest := by
  rw [Expression.captured?, reads.head?_run isEnd]
  cases at? rest with
  | none => rfl
  | some name => simp

theorem matchAt? (reads : Reads e index at? start text) (isEnd : rest <:+ text) :
    Regex.matchAt? [e] before rest = (at? rest).map fun name =>
      ⟨before, rest.take (rest.length - (rest.drop (start name).length).length),
        rest.drop (start name).length⟩ := by
  rw [Regex.matchAt?, runParts, reads.head?_run isEnd, Option.map_map]
  rfl

theorem filterMap_searchFrom (reads : Reads e index at? start text) {reach : Nat}
    (isEnd : rest <:+ text)
    (quiet : ∀ front back, rest = front ++ back → front.length < reach → at? back = none) :
    (searchFrom [e] before reach rest).filterMap
        (fun o => e.captured? index (o.inside ++ o.after)) = Text.everywhere at? rest := by
  induction rest generalizing before reach with
  | nil =>
    have none : found? [e] before reach [] = none := by
      rw [found?, reads.matchAt? isEnd, reads.nothing]
      exact ite_self _
    rw [searchFrom, none]
    rfl
  | cons c rest ih =>
    have isRest : rest <:+ text := (List.suffix_cons c rest).trans isEnd
    rw [searchFrom, List.filterMap_append, Text.everywhere_cons]
    cases reach with
    | succ reach =>
      have passed : at? (c :: rest) = none := quiet [] (c :: rest) rfl (Nat.succ_pos reach)
      rw [passed]
      refine ih isRest fun front back isSplit inner => ?_
      exact quiet (c :: front) back (by rw [isSplit, List.cons_append]) (Nat.succ_lt_succ inner)
    | zero =>
      have found : found? [e] before 0 (c :: rest) = _ := reads.matchAt? isEnd
      cases here : at? (c :: rest) with
      | none =>
        rw [here] at found
        rw [found]
        exact ih isRest fun front back _ inner => absurd inner (Nat.not_lt_zero _)
      | some name =>
        rw [here] at found
        have whole := rest_of_matchAt? (found?_eq_some_iff.mp found).2
        rw [found, Option.map_some, Option.toList_some, List.filterMap_cons, whole,
          reads.captured? isEnd, here]
        refine congrArg (name :: ·) (ih isRest fun front back isSplit inner => ?_)
        have split : c :: rest = c :: front ++ back := by rw [isSplit, List.cons_append]
        rw [reachBehind, Option.elim_some, List.length_take, List.length_drop,
          List.length_cons] at inner
        refine reads.apart (c :: front) back name (split ▸ isEnd) (split ▸ here)
          (List.cons_ne_nil _ _) ?_
        rw [List.length_cons]
        omega

end Reads

/-- A search misses nothing that is read anywhere in the text, if nothing is read inside of a
match. -/
theorem captures_eq_everywhere {e : Expression} {index : Nat} {at? : List Char → Option (List Char)}
    {start : List Char → List Char} {text : List Char} (reads : Reads e index at? start text) :
    captures e index text = Text.everywhere at? text :=
  reads.filterMap_searchFrom List.suffix_rfl fun _ _ _ inner => absurd inner (Nat.not_lt_zero _)

end CMakeGrammar.Regex
