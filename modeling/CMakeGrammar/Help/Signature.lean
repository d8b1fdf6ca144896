import CMakeGrammar.Help.Keyword
/-! Signatures of a command: its name as a whole word, blanks, and an argument list that ends at
the next closing parenthesis. They are read from left to right in the collapsed help and do not
overlap. -/
namespace CMakeGrammar.Help

structure Signature where
  arguments : List Char
  length : Nat
  deriving DecidableEq, Repr

def closing? (cs : List Char) : Option (List Char) :=
  if cs.contains ')' then some (cs.takeWhile (· != ')')) else none

/-- The signature that starts here. `before` is the character in front of this position. The name
may be any text; both its ends must lie on a word boundary. -/
def signatureAt? (name : List Char) (before : Option Char) (cs : List Char) : Option Signature :=
  if Text.isBoundary before cs.head? && name.isPrefixOf cs then
    let rest := cs.drop name.length
    if Text.isBoundary (name.getLast?.or before) rest.head? then
      let blanks := rest.takeWhile Text.isBlank
      match rest.drop blanks.length with
      | '(' :: inner =>
        (closing? inner).map fun arguments =>
          ⟨arguments, name.length + blanks.length + arguments.length + 2⟩
      | _ => none
    else none
  else none

/-- The signatures from here on. The first `skip` characters belong to one already read. -/
def signaturesFrom (name : List Char) : Nat → Option Char → List Char → List Signature
  | _, _, [] => []
  | skip + 1, _, c :: cs => signaturesFrom name skip (some c) cs
  | 0, before, c :: cs =>
    match signatureAt? name before (c :: cs) with
    | some signature => signature :: signaturesFrom name (signature.length - 1) (some c) cs
    | none => signaturesFrom name 0 (some c) cs

def signaturesOf (name text : List Char) : List Signature :=
  signaturesFrom name 0 none text

def signatures (command help : String) : List String :=
  (signaturesOf command.toList (Text.collapseChars help.toList)).map fun signature =>
    String.ofList (Text.collapseChars signature.arguments)

def signatureKeywords (stoplist : NameSet) (command help : String) : NameSet :=
  (signatures command help).foldr (fun arguments found => keywords stoplist arguments ∪ found) ∅

def searchLimit : Nat := 10485760

/-- Searching for a name keeps a state of 32 bytes for every byte of it, and as much as 63 such
states for what stands around it. -/
def searchSize (command : String) : Nat := 32 * (command.utf8ByteSize + 63)

def isSearchable (command : String) : Bool := searchSize command ≤ searchLimit

@[simp] theorem signaturesOf_nil (name : List Char) : signaturesOf name [] = [] := rfl

end CMakeGrammar.Help
