import CMakeGrammar.Template.Syntax
/-! A test for two templates being the same that can be evaluated. It sees only what the grammar's
template is made of: texts, places and blocks, and paths as parameters. -/
namespace CMakeGrammar.Template

namespace Param

def isSame : Param → Param → Bool
  | path p, path q => p = q
  | _, _ => false

theorem eq_of_isSame {p q : Param} (h : p.isSame q = true) : p = q := by
  cases p <;> cases q <;> simp_all [isSame]

def areSame : List Param → List Param → Bool
  | [], [] => true
  | p :: ps, q :: qs => p.isSame q && areSame ps qs
  | _, _ => false

theorem eq_of_areSame {ps qs : List Param} (h : areSame ps qs = true) : ps = qs := by
  induction ps generalizing qs with
  | nil => cases qs <;> simp_all [areSame]
  | cons p ps ih =>
    cases qs with
    | nil => simp [areSame] at h
    | cons q qs =>
      rw [areSame, Bool.and_eq_true] at h
      rw [eq_of_isSame h.1, ih h.2]

end Param

namespace Call

def isSame : Call → Call → Bool
  | mk name params [], mk name' params' [] => name = name' && Param.areSame params params'
  | _, _ => false

theorem eq_of_isSame {c d : Call} (h : c.isSame d = true) : c = d := by
  obtain ⟨name, params, named⟩ := c
  obtain ⟨name', params', named'⟩ := d
  cases named <;> cases named' <;> simp [isSame] at h
  rw [h.1, Param.eq_of_areSame h.2]

end Call

namespace Content

def isSame : Content → Content → Bool
  | call c, call d => c.isSame d
  | value p, value q => p.isSame q
  | _, _ => false

theorem eq_of_isSame {c d : Content} (h : c.isSame d = true) : c = d := by
  cases c <;> cases d <;> simp only [isSame, Bool.false_eq_true] at h
  · rw [Call.eq_of_isSame h]
  · rw [Param.eq_of_isSame h]

end Content

namespace Node

def headsSame (position position' : Option Text.Position) (standsAlone standsAlone' : Bool)
    (c c' : Call) (bindings bindings' : Bindings) : Bool :=
  position = position' && standsAlone = standsAlone' && c.isSame c' && bindings = bindings'

mutual

def isSame : Node → Node → Bool
  | text s, text t => s = t
  | place position raw c, place position' raw' c' =>
    position = position' && raw = raw' && c.isSame c'
  | block position alone c bindings body none, block position' alone' c' bindings' body' none =>
    headsSame position position' alone alone' c c' bindings bindings' && areSame body body'
  | block position alone c bindings body (some otherwise),
      block position' alone' c' bindings' body' (some otherwise') =>
    headsSame position position' alone alone' c c' bindings bindings' && areSame body body' &&
      areSame otherwise otherwise'
  | _, _ => false

def areSame : List Node → List Node → Bool
  | [], [] => true
  | n :: ns, m :: ms => isSame n m && areSame ns ms
  | _, _ => false

end

theorem eq_of_headsSame {position position' : Option Text.Position} {alone alone' : Bool}
    {c c' : Call} {bindings bindings' : Bindings}
    (h : headsSame position position' alone alone' c c' bindings bindings' = true) :
    position = position' ∧ alone = alone' ∧ c = c' ∧ bindings = bindings' := by
  simp only [headsSame, Bool.and_eq_true, decide_eq_true_eq] at h
  exact ⟨h.1.1.1, h.1.1.2, Call.eq_of_isSame h.1.2, h.2⟩

mutual

theorem eq_of_isSame : ∀ {n m : Node}, isSame n m = true → n = m
  | text s, m, h => by
    cases m <;> simp_all [isSame]
  | place position raw c, m, h => by
    cases m <;> simp only [isSame, Bool.and_eq_true, decide_eq_true_eq, Bool.false_eq_true] at h
    rw [h.1.1, h.1.2, Content.eq_of_isSame h.2]
  | block position alone c bindings body none, m, h => by
    cases m with
    | block position' alone' c' bindings' body' otherwise' =>
      cases otherwise' with
      | none =>
        rw [isSame, Bool.and_eq_true] at h
        obtain ⟨rfl, rfl, rfl, rfl⟩ := eq_of_headsSame h.1
        rw [eq_of_areSame h.2]
      | some _ => simp [isSame] at h
    | _ => simp [isSame] at h
  | block position alone c bindings body (some otherwise), m, h => by
    cases m with
    | block position' alone' c' bindings' body' otherwise' =>
      cases otherwise' with
      | none => simp [isSame] at h
      | some otherwise' =>
        rw [isSame, Bool.and_eq_true, Bool.and_eq_true] at h
        obtain ⟨rfl, rfl, rfl, rfl⟩ := eq_of_headsSame h.1.1
        rw [eq_of_areSame h.1.2, eq_of_areSame h.2]
    | _ => simp [isSame] at h
  | inclusion _ _ _, m, h => by simp [isSame] at h
  | decoration _ _ _, m, h => by simp [isSame] at h

theorem eq_of_areSame : ∀ {ns ms : List Node}, areSame ns ms = true → ns = ms
  | [], [], _ => rfl
  | [], _ :: _, h => by simp [areSame] at h
  | _ :: _, [], h => by simp [areSame] at h
  | n :: ns, m :: ms, h => by
    rw [areSame, Bool.and_eq_true] at h
    rw [eq_of_isSame h.1, eq_of_areSame h.2]

end

end Node
end CMakeGrammar.Template
