import CMakeGrammar.Toml.Value
/-! Building a document from its headers and key-value pairs. A key is set once, a table has one
header, and dotted keys only go into tables that such keys have made. -/
namespace CMakeGrammar.Toml.Value

def inLast? (f : Value → Option Value) : Value → Option Value
  | tables elements =>
    match elements.getLast? with
    | some last => (f last).map fun last => tables (elements.dropLast ++ [last])
    | none => none
  | v => f v

def isOpen (dotted : Bool) : Value → Bool
  | table .header _ _ => !dotted
  | table .implied _ _ => true
  | table .dotted _ _ => true
  | table .inline _ _ => false
  | tables _ => true
  | _ => false

/-- Works on the table at the end of a path, making the tables on the way that are not there. -/
def within? (dotted : Bool) (f : Value → Option Value) : List Key → Value → Option Value
  | [], v => f v
  | key :: path, table origin span entries =>
    match find? key.name entries with
    | none =>
      (within? dotted f path (table (if dotted then .dotted else .implied) none [])).map fun v =>
        table origin span (entries ++ [(key, v)])
    | some v =>
      if v.isOpen dotted then
        (v.inLast? (within? dotted f path)).map fun v =>
          table origin span (replace key v entries)
      else none
  | _, _ => none

def insert? (t : Value) (key : Key) (v : Value) : Option Value :=
  match t with
  | table origin span entries =>
    match find? key.name entries with
    | some _ => none
    | none => some (table origin span (entries ++ [(key, v)]))
  | _ => none

def isDotted : Value → Bool
  | table .dotted _ _ => true
  | _ => false

/-- Sets the key at the end of a dotted path. The table that holds it must be one that such a path
made, or the one that the path starts from. -/
def set? (t : Value) (path : List Key) (key : Key) (v : Value) : Option Value :=
  t.within? true (fun holder =>
    if holder.isDotted == path.isEmpty then none else holder.insert? key v) path

def reachTo (t v : Value) : Value :=
  match t with
  | table origin (some span) entries =>
    table origin (some ((v.span?.map span.through).getD span)) entries
  | t => t

def openTable? (path : List Key) (key : Key) (span : Span) (root : Value) : Option Value :=
  root.within? false (fun
    | table origin outer entries =>
      match find? key.name entries with
      | none => some (table origin outer (entries ++ [(key, table .header (some span) [])]))
      | some (table .implied _ inner) =>
        let others := entries.filter fun e => e.1.name ≠ key.name
        some (table origin outer (others ++ [(key, table .header (some span) inner)]))
      | some _ => none
    | _ => none) path

def openElement? (path : List Key) (key : Key) (span : Span) (root : Value) : Option Value :=
  let element := table .header (some span) []
  root.within? false (fun
    | table origin outer entries =>
      match find? key.name entries with
      | none => some (table origin outer (entries ++ [(key, tables [element])]))
      | some (tables elements) =>
        some (table origin outer (replace key (tables (elements ++ [element])) entries))
      | some _ => none
    | _ => none) path

def setIn? (root : Value) (current path : List Key) (key : Key) (v : Value) : Option Value :=
  root.within? false (fun t => ((t.reachTo v).set? path key v)) current

end CMakeGrammar.Toml.Value
