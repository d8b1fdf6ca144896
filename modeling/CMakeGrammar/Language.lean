/-! The toolchain languages that an entry such as `CMAKE_<LANG>_COMPILER` stands for, in the order
in which CMake documents them. -/
namespace CMakeGrammar

inductive Language
  | c | cxx | cSharp | cuda | objC | objCxx | fortran | hip | ispc | swift
  | asm | asmNasm | asmMarmasm | asmMasm | asmAtt
  deriving DecidableEq, Repr, Inhabited

namespace Language

def all : List Language :=
  [c, cxx, cSharp, cuda, objC, objCxx, fortran, hip, ispc, swift,
    asm, asmNasm, asmMarmasm, asmMasm, asmAtt]

def name : Language → String
  | c => "C"
  | cxx => "CXX"
  | cSharp => "CSharp"
  | cuda => "CUDA"
  | objC => "OBJC"
  | objCxx => "OBJCXX"
  | fortran => "Fortran"
  | hip => "HIP"
  | ispc => "ISPC"
  | swift => "Swift"
  | asm => "ASM"
  | asmNasm => "ASM_NASM"
  | asmMarmasm => "ASM_MARMASM"
  | asmMasm => "ASM_MASM"
  | asmAtt => "ASM_ATT"

/-- Letter case counts. -/
def ofName? (s : String) : Option Language :=
  all.find? fun l => l.name = s

def index (l : Language) : Nat := all.idxOf l

def unknownMessage (s : String) : String := s!"Unknown language '{s}'"

def le (a b : Language) : Bool := a.index ≤ b.index

/-- Into documented order; a repeated language stays repeated. -/
def sort (ls : List Language) : List Language := ls.mergeSort le

theorem mem_all (l : Language) : l ∈ all := by cases l <;> simp [all]

theorem name_injective {a b : Language} (h : a.name = b.name) : a = b := by
  cases a <;> cases b <;> simp_all [name]

@[simp] theorem ofName?_name (l : Language) : ofName? l.name = some l := by
  cases l <;> rfl

end Language
end CMakeGrammar
