import CMakeGrammar.Number.Notation
/-! JSON values. Members of an object keep their order; an integer and a real number are different
values even where they are equal as numbers. -/
namespace CMakeGrammar

inductive Json
  | null
  | bool (b : Bool)
  | integer (n : Int)
  | real (x : Binary64)
  | string (s : String)
  | array (items : List Json)
  | object (members : List (String × Json))
  deriving Inhabited

namespace Json

mutual

def beq : Json → Json → Bool
  | null, null => true
  | bool a, bool b => a == b
  | integer a, integer b => a == b
  | real a, real b => a.equals b
  | string a, string b => a == b
  | array as, array bs => beqItems as bs
  | object as, object bs => beqMembers as bs
  | _, _ => false

def beqItems : List Json → List Json → Bool
  | [], [] => true
  | a :: as, b :: bs => beq a b && beqItems as bs
  | _, _ => false

def beqMembers : List (String × Json) → List (String × Json) → Bool
  | [], [] => true
  | (k, a) :: as, (l, b) :: bs => k == l && beq a b && beqMembers as bs
  | _, _ => false

end

instance : BEq Json := ⟨beq⟩

mutual

def depth : Json → Nat
  | array items => depthOfItems items + 1
  | object members => depthOfMembers members + 1
  | _ => 0

def depthOfItems : List Json → Nat
  | [] => 0
  | item :: items => max (depth item) (depthOfItems items)

def depthOfMembers : List (String × Json) → Nat
  | [] => 0
  | (_, value) :: members => max (depth value) (depthOfMembers members)

end

/-- Values as deep as this are not read. -/
def depthLimit : Nat := 128

def get? (key : String) : Json → Option Json
  | object members => members.lookup key
  | _ => none

def ofNames (names : List String) : Json := array (names.map string)

def strings (items : List Json) : List String :=
  items.filterMap fun
    | string s => some s
    | _ => none

@[simp] theorem strings_nil : strings [] = [] := rfl

@[simp] theorem strings_map_string (names : List String) : strings (names.map string) = names := by
  rw [strings, List.filterMap_map]
  exact List.filterMap_some

end Json
end CMakeGrammar
