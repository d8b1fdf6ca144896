import CMakeGrammar.Client
import CMakeGrammar.Extraction
import CMakeGrammar.Vocabulary
import CMakeGrammar.Help.Directive
import CMakeGrammar.Help.GeneratorExpression
import CMakeGrammar.Help.Listing
import CMakeGrammar.Help.Signature
import CMakeGrammar.Help.Version
/-! Gathering a vocabulary: the queries that are put to a client, in a fixed order, and what is made
of the answers. The first failure ends the run. -/
namespace CMakeGrammar.Gather
open Gathering (say sayAll)

def version (c : Client) : Gathering String := do
  let output ← c.query .version
  match Help.version? output with
  | some v => return v
  | none => .fail (.missingVersion (Client.commandLine c.name Query.version.arguments) output)

def skipped (e : Extraction) (entries : List String) : List LogEntry :=
  (entries.filter (Help.isUnsupported e.placeholder)).map fun entry =>
    ⟨.listings, .debug, "Skipping entry with unsupported placeholder",
      [("entry", Text.quoted entry)]⟩

def listing (c : Client) (e : Extraction) (q : Query) : Gathering NameSet := do
  let entries := Help.listingEntries (← c.query q)
  sayAll (skipped e entries)
  return Help.expand e.placeholder e.languages entries

def variableNames (c : Client) (e : Extraction) : Gathering NameSet := listing c e .variableList

def properties (c : Client) (e : Extraction) : Gathering NameSet := listing c e .propertyList

def commands (c : Client) (e : Extraction) : Gathering NameSet := do
  let output ← c.query .commandList
  return .ofList (Help.listingEntries output) \ e.excludedCommands

def signatureNotes (command : String) (signatures : List String) : List LogEntry :=
  if signatures.isEmpty then
    [⟨.signatures, .warn, "No signature found for command", [("command", Text.quoted command)]⟩]
  else
    signatures.map fun s =>
      ⟨.signatures, .debug, "Parsing signature",
        [("command", Text.quoted command), ("signature", s)]⟩

def unsearchable (command : String) : Error :=
  .pattern (s!"signature pattern for '{command}': Compiled regex exceeds size limit of " ++
    s!"{Help.searchLimit} bytes.")

def signatureKeywords (e : Extraction) (command help : String) : Gathering NameSet := do
  if Help.isSearchable command then
    sayAll (signatureNotes command (Help.signatures command help))
    return Help.signatureKeywords e.stoplist command help
  else .fail (unsearchable command)

theorem signatureKeywords_eq_ok_iff {e : Extraction} {command help : String} {keywords : NameSet} :
    (signatureKeywords e command help).result = .ok keywords ↔
      Help.isSearchable command = true ∧
        Help.signatureKeywords e.stoplist command help = keywords := by
  unfold signatureKeywords
  split
  · rename_i searchable
    rw [Recorded.bind_of_ok (a := ()) rfl]
    simp [searchable]
  · rename_i tooLarge
    simp [tooLarge]

def commandKeywords (c : Client) (e : Extraction) (command : String) : Gathering NameSet := do
  signatureKeywords e command (← c.query (.command command))

def keywordsOf (c : Client) (e : Extraction) :
    List String → Gathering (List (String × NameSet))
  | [] => return []
  | command :: others => do
    let keywords ← commandKeywords c e command
    say ⟨.gathering, .debug, "Gathered command",
      [("command", command), ("keywords", toString keywords.size)]⟩
    return (command, keywords) :: (← keywordsOf c e others)

def commandMap (c : Client) (e : Extraction) : Gathering (NameMap NameSet) := do
  let names ← commands c e
  return .ofList (← keywordsOf c e names.toList)

def generatorExpressions (c : Client) (e : Extraction) : Gathering NameSet := do
  return Help.generatorExpressions (← c.query (.manual e.manual))

/-- A module that declares nothing is an error. -/
def moduleEntry (c : Client) (e : Extraction) (name : String) : Gathering ModuleEntry := do
  let help ← c.query (.moduleHelp name)
  match Help.moduleFunctions? help with
  | some functions => return ⟨name, functions, Help.moduleKeywords e.stoplist help⟩
  | none =>
    .fail (.emptyModule name (Client.commandLine c.name (Query.moduleHelp name).arguments))

def entriesOf (c : Client) (e : Extraction) :
    List String → Gathering (List (String × ModuleEntry))
  | [] => return []
  | name :: others => do
    let entry ← moduleEntry c e name
    return (name, entry) :: (← entriesOf c e others)

def modules (c : Client) (e : Extraction) : Gathering (NameMap ModuleEntry) := do
  return .ofList (← entriesOf c e e.modules)

def countNotes (v : Vocabulary) : List LogEntry :=
  Category.all.map fun category =>
    .said .gathering .info s!"Gathered {v.count category} {category.label}"

def vocabulary (c : Client) (e : Extraction) : Gathering Vocabulary := do
  say (.said .gathering .info s!"Querying {c.name}")
  let version ← version c
  say (.said .gathering .info s!"CMake version {version}")
  let variableNames ← variableNames c e
  let commands ← commandMap c e
  let generatorExpressions ← generatorExpressions c e
  let properties ← properties c e
  let modules ← modules c e
  let v : Vocabulary :=
    ⟨version, variableNames, commands, generatorExpressions, properties, modules⟩
  sayAll (countNotes v)
  return v

end CMakeGrammar.Gather
