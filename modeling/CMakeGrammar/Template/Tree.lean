import CMakeGrammar.Template.Layout
/-! Templates from their pieces: each block holds what stands between its tags. -/
namespace CMakeGrammar.Template
open Text (Position Cursor)

structure BranchHead where
  call : Call
  bindings : Bindings
  standsAlone : Bool

structure Branch where
  head : Option BranchHead
  nodes : List Node

inductive Opener
  | helper
  | inclusion (i : Inclusion)
  | decoration (call : Call)

/-- A block that is still open, its earlier branches last to first. Only one that calls a helper may
have several, and only others may be closed without their name. -/
structure OpenBlock where
  position : Position
  opener : Opener
  name : Option String
  earlier : List Branch
  current : Branch

namespace OpenBlock

def push (b : OpenBlock) (n : Node) : OpenBlock :=
  { b with current := { b.current with nodes := n :: b.current.nodes } }

def branch? (b : OpenBlock) (head : Option BranchHead) : Option OpenBlock :=
  match b.opener with
  | .helper =>
    b.current.head.map fun _ =>
      { b with earlier := b.current :: b.earlier, current := ⟨head, []⟩ }
  | _ => none

/-- The block made of some branches, last to first, of which the first is the block's own and has
its position. `otherwise` is what the branches already taken up make. -/
def node? (position : Position) (otherwise : Option (List Node)) : List Branch → Option Node
  | [] => none
  | [branch] =>
    branch.head.map fun h =>
      .block (some position) h.standsAlone h.call h.bindings branch.nodes.reverse otherwise
  | branch :: earlier =>
    match branch.head with
    | none => node? position (some branch.nodes.reverse) earlier
    | some h =>
      let inner := .block none h.standsAlone h.call h.bindings branch.nodes.reverse otherwise
      node? position (some [inner]) earlier

def node (b : OpenBlock) : Option Node :=
  match b.opener with
  | .helper => node? b.position none (b.current :: b.earlier)
  | .inclusion i => some (.inclusion b.position i (some b.current.nodes.reverse))
  | .decoration call => some (.decoration b.position call (some b.current.nodes.reverse))

def close? (b : OpenBlock) (name : Option String) : Option Node :=
  match b.opener, name with
  | .inclusion _, none => b.node
  | .decoration _, none => b.node
  | _, none => none
  | _, name => if b.name = name then b.node else none

end OpenBlock

structure Scaffold where
  nodes : List Node
  blocks : List OpenBlock

namespace Scaffold

def push (s : Scaffold) (n : Node) : Scaffold :=
  match s.blocks with
  | [] => { s with nodes := n :: s.nodes }
  | b :: rest => { s with blocks := b.push n :: rest }

def enter (s : Scaffold) (b : OpenBlock) : Scaffold := { s with blocks := b :: s.blocks }

def branch? (s : Scaffold) (head : Option BranchHead) : Option Scaffold :=
  match s.blocks with
  | [] => none
  | b :: rest => (b.branch? head).map fun b => { s with blocks := b :: rest }

def close? (s : Scaffold) (name : Option String) : Option Scaffold :=
  match s.blocks with
  | [] => none
  | b :: rest => (b.close? name).map (push { s with blocks := rest })

def add? (s : Scaffold) : Piece → Option Scaffold
  | .text chars => some (if chars.isEmpty then s else s.push (.text chars))
  | .raw chars => some (s.push (.text chars))
  | .tag t =>
    match t.tag with
    | .place raw content => some (s.push (.place t.position raw content))
    | .inclusion i =>
      some (s.push (.inclusion t.position { i with standsAlone := t.standsAlone } none))
    | .decoration call => some (s.push (.decoration t.position call none))
    | .inclusionOpen i =>
      let opener := .inclusion { i with standsAlone := t.standsAlone }
      some (s.enter ⟨t.position, opener, i.name?, [], ⟨none, []⟩⟩)
    | .decorationOpen call =>
      some (s.enter ⟨t.position, .decoration call, some call.name, [], ⟨none, []⟩⟩)
    | .blockOpen call bindings =>
      let head := ⟨call, bindings, t.standsAlone⟩
      some (s.enter ⟨t.position, .helper, some call.name, [], ⟨some head, []⟩⟩)
    | .otherwise => s.branch? none
    | .otherwiseBlock call bindings => s.branch? (some ⟨call, bindings, t.standsAlone⟩)
    | .blockClose name => s.close? name
    | .comment => some s

end Scaffold

def nodesFrom (s : Scaffold) : List Piece → Option (List Node)
  | [] => if s.blocks.isEmpty then some s.nodes.reverse else none
  | piece :: rest =>
    match s.add? piece with
    | some s => nodesFrom s rest
    | none => none

def parse? (source : String) : Option (List Node) :=
  match pieces? source with
  | some pieces => nodesFrom ⟨[], []⟩ (layout pieces)
  | none => none

end CMakeGrammar.Template
