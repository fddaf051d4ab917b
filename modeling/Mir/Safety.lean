import Mir.Typechecker

/-! # Where the checker can panic

`ADD` is the one arm with no error path: its fallback is `unimplemented!()`, so it panics
on every stack whose top two types are not `nat, nat` or `int, int`. Every other possible
panic (`split_off` in `DIP` and `DROP`, the `unwrap` in `DUP`, `swap` in `SWAP`) comes
after an `ensure_stack_len` that rules it out, so a block with no `ADD` never panics. -/

namespace Mir

theorem typecheckInstruction_add_eq_panic (stack : TypeStack) :
    typecheckInstruction .add stack = .panic ↔
      ∀ rest, stack ≠ .nat :: .nat :: rest ∧ stack ≠ .int :: .int :: rest := by
  unfold typecheckInstruction
  split <;> simp_all

/-- `ADD` on two booleans panics instead of returning an error. -/
theorem typecheck_add_bool_bool : typecheck [.add] [.bool, .bool] = .panic := rfl

mutual

/-- Whether `ADD` occurs in a block, at any depth. -/
def containsAdd : AST → Bool
  | [] => false
  | i :: ast => instructionContainsAdd i || containsAdd ast

/-- Whether `ADD` is the instruction or occurs in one of its blocks. -/
def instructionContainsAdd : Instruction → Bool
  | .add => true
  | .dip _ nested => containsAdd nested
  | .if_ nestedT nestedF => containsAdd nestedT || containsAdd nestedF
  | .loop nested => containsAdd nested
  | .drop _ | .dup _ | .gt | .int | .push _ _ | .swap => false

end

mutual

theorem typecheckInstruction_ne_panic :
    ∀ {i : Instruction} {stack : TypeStack}, instructionContainsAdd i = false →
      typecheckInstruction i stack ≠ .panic
  | .add, _, h => by simp [instructionContainsAdd] at h
  | .dip _ _, _, h => by
      rw [typecheckInstruction_dip]
      split <;> simp [typecheck_ne_panic h]
  | .drop _, _, _ => by
      rw [typecheckInstruction_drop]
      split <;> simp
  | .dup optHeight, stack, _ => by
      by_cases hn : 0 < optHeight.getD 1
      · rw [typecheckInstruction_dup hn]
        split <;> simp
      · obtain rfl : optHeight = some 0 := by cases optHeight <;> simp_all
        simp [typecheckInstruction]
  | .gt, _, _ | .int, _, _ => by
      unfold typecheckInstruction
      split <;> simp
  | .if_ _ _, _, h => by
      simp only [instructionContainsAdd, Bool.or_eq_false_iff] at h
      unfold typecheckInstruction
      split <;> simp [typecheck_ne_panic h.1, typecheck_ne_panic h.2]
  | .loop _, _, h => by
      unfold typecheckInstruction
      split
      · simp only [ne_eq, TcResult.nest_eq_panic, typecheck_ne_panic h, false_or, not_exists,
          not_and]
        intro live _
        split <;> simp
      · simp
  | .push _ _, _, _ => by simp [typecheckInstruction]
  | .swap, _, _ => by
      rw [typecheckInstruction_swap]
      split <;> simp

theorem typecheck_ne_panic :
    ∀ {ast : AST} {stack : TypeStack}, containsAdd ast = false → typecheck ast stack ≠ .panic
  | [], _, _ => by simp
  | _ :: _, _, h => by
      simp only [containsAdd, Bool.or_eq_false_iff] at h
      simp [typecheckInstruction_ne_panic h.1, typecheck_ne_panic h.2]

end

/-- Every panic of the checker is `ADD`'s: a block that panics contains an `ADD`. -/
theorem typecheck_panic_contains_add {ast : AST} {stack : TypeStack}
    (h : typecheck ast stack = .panic) : containsAdd ast = true := by
  by_contra hc
  exact typecheck_ne_panic (Bool.eq_false_iff.mpr hc) h

/-- `ADD` on two booleans under a `DIP`. -/
theorem typecheck_panic_contains_add_dip :
    typecheck [.dip none [.add]] [.nat, .bool, .bool] = .panic ∧
      containsAdd [.dip none [.add]] = true :=
  ⟨rfl, @typecheck_panic_contains_add _ [.nat, .bool, .bool] rfl⟩

end Mir
