import DynamicMembers.Code.Basic
/-!
# Chains — an expression is calls on a root in one way

The root of an expression is no call, and its calls on its root give the expression back (`chain_chainRoot`).  Calls put
on an expression leave its root and come behind its own calls (`chainRoot_chain`, `chainCalls_chain`), so calls on a
root are told as they were put there (`chain_decomposes`).
-/
namespace DynamicMembers
namespace Code
namespace Expr

theorem chain_concat (root : Expr) (calls : List (String × List Expr)) (method : String) (args : List Expr) :
    chain root (calls ++ [(method, args)]) = methodCall (chain root calls) method args := by
  rw [chain, List.foldl_append]
  rfl

theorem chain_cons (root : Expr) (method : String) (args : List Expr) (later : List (String × List Expr)) :
    chain root ((method, args) :: later) = chain (methodCall root method args) later := rfl

theorem ne_methodCall {e : Expr} (h : e.isMethodCall = false) (target : Expr) (method : String) (args : List Expr) :
    e ≠ methodCall target method args := by
  rintro rfl
  cases h

theorem chainRoot_of_not_isMethodCall {e : Expr} (h : e.isMethodCall = false) : e.chainRoot = e := by
  rw [chainRoot]
  exact ne_methodCall h

theorem chainCalls_of_not_isMethodCall {e : Expr} (h : e.isMethodCall = false) : e.chainCalls = [] := by
  rw [chainCalls]
  exact ne_methodCall h

theorem isMethodCall_chainRoot (e : Expr) : e.chainRoot.isMethodCall = false := by
  fun_induction chainRoot e with
  | case1 target method args ih => exact ih
  | case2 e h =>
    rw [isMethodCall]
    exact h

theorem chain_chainRoot (e : Expr) : chain e.chainRoot e.chainCalls = e := by
  fun_induction chainRoot e with
  | case1 target method args ih => rw [chainCalls, chain_concat, ih]
  | case2 e h =>
    rw [chainCalls]
    · rfl
    · exact h

theorem chainRoot_chain : ∀ (calls : List (String × List Expr)) (e : Expr), (chain e calls).chainRoot = e.chainRoot
  | [], _ => rfl
  | (method, args) :: later, e => by
    rw [chain_cons, chainRoot_chain later, chainRoot]

theorem chainCalls_chain : ∀ (calls : List (String × List Expr)) (e : Expr),
    (chain e calls).chainCalls = e.chainCalls ++ calls
  | [], e => (List.append_nil e.chainCalls).symm
  | (method, args) :: later, e => by
    rw [chain_cons, chainCalls_chain later, chainCalls, List.append_assoc, List.singleton_append]

/-- **An expression is calls on a root that is no call, and only in one way.** -/
theorem chain_decomposes :
    (∀ e : Expr, e.chainRoot.isMethodCall = false ∧ chain e.chainRoot e.chainCalls = e) ∧
      ∀ (root : Expr) (calls : List (String × List Expr)), root.isMethodCall = false →
        (chain root calls).chainRoot = root ∧ (chain root calls).chainCalls = calls := by
  refine ⟨fun e => ⟨isMethodCall_chainRoot e, chain_chainRoot e⟩, fun root calls hroot => ⟨?_, ?_⟩⟩
  · rw [chainRoot_chain, chainRoot_of_not_isMethodCall hroot]
  · rw [chainCalls_chain, chainCalls_of_not_isMethodCall hroot, List.nil_append]

/-- A column with its modifiers. -/
theorem chain_decomposes_column : (var "table").isMethodCall = false ∧
    (chain (var "table") [("string", [str "email"]), ("nullable", []), ("unique", [])]).chainRoot = var "table" ∧
    (chain (var "table") [("string", [str "email"]), ("nullable", []), ("unique", [])]).chainCalls =
      [("string", [str "email"]), ("nullable", []), ("unique", [])] :=
  ⟨rfl, chain_decomposes.2 (var "table") _ rfl⟩

end Expr
end Code
end DynamicMembers
