import CMakeGrammar.Text.Split
import CMakeGrammar.Toml.Value
/-! Taking settings out of a document. What does not fit is reported with the place that it stands
at; a key that is not known is passed over. -/
namespace CMakeGrammar.Toml

structure Fault where
  reason : String
  span : Option Span
  deriving DecidableEq, Repr

namespace Fault

def unplaced (reason : String) : Fault := ⟨reason, none⟩

/-- The innermost place counts. -/
def within (span : Option Span) (f : Fault) : Fault := { f with span := f.span.or span }

def spaces (n : Nat) : String := String.ofList (List.replicate n ' ')

def excerpt (text : String) (span : Span) : String :=
  let line := span.position.line
  let before := span.position.column - 1
  let content := ((Text.splitAtChar '\n' text.toList).getD (line - 1) [])
  let marked := (text.toList.drop span.first).take (span.last - span.first)
  let size (cs : List Char) : Nat := (String.ofList cs).utf8ByteSize
  let marks := max 1 (min (size marked) (size content - before))
  let gutter := spaces ((toString line).length + 1) ++ "|"
  s!"TOML parse error at line {line}, column {before + 1}\n{gutter}\n{line} | " ++
    String.ofList content ++ s!"\n{gutter}" ++ spaces (before + 1) ++
    String.ofList (List.replicate marks '^') ++ "\n"

def report (text : String) (f : Fault) : String :=
  (f.span.map (excerpt text)).getD "" ++ f.reason ++ "\n"

end Fault

abbrev Decoder (α : Type) := Value → Except Fault α

namespace Decoder
variable {α σ : Type}

def placed (span : Option Span) (r : Except Fault α) : Except Fault α :=
  r.mapError (·.within span)

def mismatch (expected : String) (v : Value) : Except Fault α :=
  placed v.span? (.error (.unplaced (v.shape.mismatch .message expected)))

def text (expected : String) : Decoder String
  | .scalar _ (.text s) => .ok s
  | v => mismatch expected v

def word (expected : String) (read? : String → Option α) (unknown : String → String) :
    Decoder α := fun v => do
  let s ← text expected v
  match read? s with
  | some a => return a
  | none => throw (.unplaced (unknown s))

def list (item : Decoder α) : Decoder (List α)
  | .array span items => placed (some span) (items.mapM item)
  | .tables elements => placed (Value.tables elements).span? (elements.mapM item)
  | v => mismatch "a sequence" v

structure Field (σ : Type) where
  name : String
  set : σ → Decoder σ

def field (name : String) (decode : Decoder α) (put : σ → α → σ) : Field σ :=
  ⟨name, fun s v => (decode v).map (put s)⟩

def setEntry (fields : List (Field σ)) (s : σ) (entry : Key × Value) : Except Fault σ :=
  match fields.find? fun f => f.name = entry.1.name with
  | some f => placed (entry.2.span?.or (some entry.1.span)) (f.set s entry.2)
  | none => .ok s

def setItems : List (Field σ) → List Value → σ → Except Fault σ
  | f :: fields, v :: items, s =>
    match f.set s v with
    | .ok s => setItems fields items s
    | .error e => .error e
  | _, _, s => .ok s

/-- A record, from a table or from an array that has its fields in order. Fields that are not there
keep what they have; a complete record misses none in an array. -/
def record (name : String) (complete : Bool) (fields : List (Field σ)) (initial : σ) : Decoder σ
  | .table _ span entries => placed span (entries.foldlM (setEntry fields) initial)
  | .scalar _ .moment => .ok initial
  | .scalar span content => mismatch s!"struct {name}" (.scalar span content)
  | v =>
    let items := match v with
      | .array _ items => items
      | .tables elements => elements
      | _ => []
    placed v.span? do
      let s ← setItems fields items initial
      if complete && items.length < fields.length then
        let elements := if fields.length = 1 then "element" else "elements"
        throw (.unplaced (s!"invalid length {items.length}, expected struct {name} with " ++
          s!"{fields.length} {elements}"))
      else return s

end Decoder
end CMakeGrammar.Toml
