import Mir.Typing

/-! # What a block leaves below the slots it uses

A block that checks on a stack checks on any deeper stack, and leaves the extra slots
untouched below its result (the frame rule). The change in stack height it makes is
`stackEffect`, a function of the block alone. -/

namespace Mir

/-! ## The frame rule -/

mutual

theorem InstrTyping.frame (r : TypeStack) {i : Instruction} {s s' : TypeStack} :
    InstrTyping i s s' → InstrTyping i (s ++ r) (s' ++ r)
  | .addNat rest => .addNat (rest ++ r)
  | .addInt rest => .addInt (rest ++ r)
  | @InstrTyping.dip optHeight _ s _ hl hb => by
      have hs : (s ++ r).take (optHeight.getD 1) = s.take (optHeight.getD 1) :=
        List.take_append_of_le_length hl
      have hd : (s ++ r).drop (optHeight.getD 1) = s.drop (optHeight.getD 1) ++ r :=
        List.drop_append_of_le_length hl
      have h := InstrTyping.dip (by simp; omega) (hd ▸ Typing.frame r hb)
      rwa [hs, ← List.append_assoc] at h
  | .drop hl => by
      rw [← List.drop_append_of_le_length hl]
      exact .drop (by simp; omega)
  | .dup hn ht =>
      .dup hn ((List.getElem?_append_left (List.getElem?_eq_some_iff.mp ht).1).trans ht)
  | .gt rest => .gt (rest ++ r)
  | .if_ ht hf => .if_ (Typing.frame r ht) (Typing.frame r hf)
  | .int rest => .int (rest ++ r)
  | .loop hb => .loop (Typing.frame r hb)
  | .push hv => .push hv
  | .swap a b rest => .swap a b (rest ++ r)

theorem Typing.frame (r : TypeStack) {ast : AST} {s s' : TypeStack} :
    Typing ast s s' → Typing ast (s ++ r) (s' ++ r)
  | .nil s => .nil (s ++ r)
  | .cons hi hb => .cons (InstrTyping.frame r hi) (Typing.frame r hb)

end

/-- Frame rule: types appended below the bottom of a stack the checker accepts are
passed through untouched, by every instruction and by nested blocks at any depth. -/
theorem typecheck_frame (ast : AST) (s r s' : TypeStack) (h : typecheck ast s = .ok s') :
    typecheck ast (s ++ r) = .ok (s' ++ r) :=
  ((Typing.of_typecheck h).frame r).execution

/-- The `test_dip` run, `DIP 1 { PUSH nat 6 }` on `int, bool`, again over a `mutez`. -/
theorem typecheck_frame_test_dip :
    typecheck [.dip (some 1) [.push .nat (.numberValue 6)]] [.int, .bool] =
        .ok [.int, .nat, .bool] ∧
      typecheck [.dip (some 1) [.push .nat (.numberValue 6)]] ([.int, .bool] ++ [.mutez]) =
        .ok ([.int, .nat, .bool] ++ [.mutez]) :=
  ⟨rfl, typecheck_frame _ _ _ _ rfl⟩

/-! ## Failures the frame keeps -/

mutual

/-- One instruction keeps a `StacksNotEqual` failure over a deeper stack: `IF` and `LOOP`
compare stacks that the frame rule extends alike, and `DIP` passes on its block's failure.
The other arms never fail so. -/
theorem typecheckInstruction_stacksNotEqual_frame (r : TypeStack) :
    ∀ {i : Instruction} {s x : TypeStack}, typecheckInstruction i s = .err .stacksNotEqual x →
      ∃ x', typecheckInstruction i (s ++ r) = .err .stacksNotEqual x'
  | .dip optHeight nested, s, _, h => by
      rw [typecheckInstruction_dip] at h ⊢
      split at h
      · rename_i hl
        obtain ⟨⟨_, hb⟩, -⟩ | ⟨_, -, hk⟩ := TcResult.nest_eq_err.mp h
        · rw [if_pos (by rw [List.length_append]; omega), List.drop_append_of_le_length hl]
          exact TcResult.exists_nest_eq_err (typecheck_stacksNotEqual_frame r hb)
        · cases hk
      · cases h
  | .if_ nestedT nestedF, _, _, h => by
      unfold typecheckInstruction at h ⊢
      split at h
      · simp only [List.cons_append]
        obtain ⟨⟨_, hT⟩, -⟩ | ⟨_, hT, h⟩ := TcResult.nest_eq_err.mp h
        · exact TcResult.exists_nest_eq_err (typecheck_stacksNotEqual_frame r hT)
        rw [((Typing.of_typecheck hT).frame r).execution, TcResult.ok_nest]
        obtain ⟨⟨_, hF⟩, -⟩ | ⟨_, hF, h⟩ := TcResult.nest_eq_err.mp h
        · exact TcResult.exists_nest_eq_err (typecheck_stacksNotEqual_frame r hF)
        rw [((Typing.of_typecheck hF).frame r).execution, TcResult.ok_nest]
        obtain ⟨he, -⟩ | ⟨-, h⟩ := orLeave_eq_err.mp h
        · simp [ensureStacksEq, (ensureStacksEq_eq_error.mp he).1]
        · cases h
      · cases h
  | .loop nested, _, _, h => by
      unfold typecheckInstruction at h ⊢
      split at h
      · simp only [List.cons_append]
        obtain ⟨⟨_, hB⟩, -⟩ | ⟨_, hB, h⟩ := TcResult.nest_eq_err.mp h
        · exact TcResult.exists_nest_eq_err (typecheck_stacksNotEqual_frame r hB)
        split at h
        · obtain ⟨he, -⟩ | ⟨-, h⟩ := orLeave_eq_err.mp h
          · rw [((Typing.of_typecheck hB).frame r).execution]
            simp [ensureStacksEq, (ensureStacksEq_eq_error.mp he).1]
          · cases h
        · cases h
      · cases h
  | .push _ _, _, _, h => by
      obtain ⟨he, -⟩ | ⟨-, h⟩ := orLeave_eq_err.mp h
      · cases typecheckValue_eq_error he
      · cases h
  | .dup optHeight, _, _, h => by
      by_cases hn : 0 < optHeight.getD 1
      · rw [typecheckInstruction_dup hn] at h
        split at h <;> cases h
      · obtain rfl : optHeight = some 0 := by cases optHeight <;> simp_all
        cases h
  | .add, _, _, h | .gt, _, _, h | .int, _, _, h => by
      unfold typecheckInstruction at h
      split at h <;> cases h
  | .drop _, _, _, h => by
      rw [typecheckInstruction_drop] at h
      split at h <;> cases h
  | .swap, _, _, h => by
      rw [typecheckInstruction_swap] at h
      split at h <;> cases h

/-- A `StacksNotEqual` failure does not come from a short stack: with any types appended
below, the check still fails with `StacksNotEqual`. The branches of an `IF` and the body
of a `LOOP` leave the appended slots untouched, so stacks that differed still differ. -/
theorem typecheck_stacksNotEqual_frame (r : TypeStack) :
    ∀ {ast : AST} {s s' : TypeStack}, typecheck ast s = .err .stacksNotEqual s' →
      ∃ s'', typecheck ast (s ++ r) = .err .stacksNotEqual s''
  | [], _, _, h => by cases h
  | i :: ast, s, _, h => by
      rw [typecheck_cons] at h ⊢
      rcases hi : typecheckInstruction i s with mid | ⟨e, x⟩ | _ <;> rw [hi] at h
      · rw [((InstrTyping.of_typecheckInstruction hi).frame r).execution]
        exact typecheck_stacksNotEqual_frame r h
      · cases h
        exact TcResult.exists_bind_eq_err (typecheckInstruction_stacksNotEqual_frame r hi)
      · cases h

end

/-- `IF { DROP } {}` on `bool, nat`: the branches leave `[]` and `nat`, and still
disagree over an `int`. -/
theorem typecheck_stacksNotEqual_frame_if :
    typecheck [.if_ [.drop none] []] [.bool, .nat] = .err .stacksNotEqual [.bool, .nat] ∧
      ∃ s'', typecheck [.if_ [.drop none] []] ([.bool, .nat] ++ [.int]) =
        .err .stacksNotEqual s'' :=
  ⟨rfl, typecheck_stacksNotEqual_frame [.int] rfl⟩

/-! ## Stack height -/

mutual

/-- The change in stack height a block makes when it checks. -/
def stackEffect : AST → Int
  | [] => 0
  | i :: ast => instructionEffect i + stackEffect ast

/-- The change in stack height one instruction makes: `IF` pops its `bool` and makes the
change of its branches, `LOOP` pops its `bool` and makes none. -/
def instructionEffect : Instruction → Int
  | .add => -1
  | .dip _ nested => stackEffect nested
  | .drop optHeight => -(optHeight.getD 1 : Int)
  | .dup _ => 1
  | .gt => 0
  | .if_ nestedT _ => stackEffect nestedT - 1
  | .int => 0
  | .loop _ => -1
  | .push _ _ => 1
  | .swap => 0

end

mutual

theorem InstrTyping.length_eq {i : Instruction} {s s' : TypeStack} :
    InstrTyping i s s' → (s'.length : Int) = s.length + instructionEffect i
  | .addNat _ | .addInt _ => by simp only [instructionEffect, List.length_cons]; omega
  | .dip hl hb => by
      have h := Typing.length_eq hb
      simp only [List.length_append, List.length_take, List.length_drop] at h ⊢
      simp only [instructionEffect]
      omega
  | .drop hl => by simp only [instructionEffect, List.length_drop]; omega
  | .if_ ht _ => by
      have h := Typing.length_eq ht
      simp only [List.length_cons] at h ⊢
      simp only [instructionEffect]
      omega
  | .loop _ | .dup _ _ | .push _ | .gt _ | .int _ | .swap _ _ _ => by
      simp only [instructionEffect, List.length_cons]; omega

theorem Typing.length_eq {ast : AST} {s s' : TypeStack} :
    Typing ast s s' → (s'.length : Int) = s.length + stackEffect ast
  | .nil _ => by simp [stackEffect]
  | .cons hi hb => by
      have h₁ := InstrTyping.length_eq hi
      have h₂ := Typing.length_eq hb
      simp only [stackEffect]
      omega

end

/-- An accepted block changes the stack height by `stackEffect`, computed from the block. -/
theorem typecheck_length_eq {ast : AST} {s s' : TypeStack} (h : typecheck ast s = .ok s') :
    (s'.length : Int) = s.length + stackEffect ast :=
  (Typing.of_typecheck h).length_eq

/-- `IF { DROP } { DIP { DROP } }` on `bool, nat, nat`: the effect of the first branch,
less the `bool`. -/
theorem typecheck_length_eq_if :
    typecheck [.if_ [.drop none] [.dip none [.drop none]]] [.bool, .nat, .nat] = .ok [.nat] ∧
      (([.nat] : TypeStack).length : Int) =
        ([.bool, .nat, .nat] : TypeStack).length +
          stackEffect [.if_ [.drop none] [.dip none [.drop none]]] :=
  ⟨rfl, typecheck_length_eq rfl⟩

/-- Every accepted block changes the stack height by the same amount on every stack,
whatever the types on it. -/
theorem typecheck_height_change (ast : AST) (s₁ s₁' s₂ s₂' : TypeStack)
    (h₁ : typecheck ast s₁ = .ok s₁') (h₂ : typecheck ast s₂ = .ok s₂') :
    (s₁'.length : Int) - s₁.length = (s₂'.length : Int) - s₂.length := by
  have e₁ := (Typing.of_typecheck h₁).length_eq
  have e₂ := (Typing.of_typecheck h₂).length_eq
  omega

/-- The `test_loop` body on two stacks of different types and heights. -/
theorem typecheck_height_change_test_loop :
    typecheck [.loop [.push .bool (.booleanValue true)]] [.bool, .int] = .ok [.int] ∧
      typecheck [.loop [.push .bool (.booleanValue true)]] [.bool, .nat, .nat] =
        .ok [.nat, .nat] ∧
      (([.int] : TypeStack).length : Int) - ([.bool, .int] : TypeStack).length =
        (([.nat, .nat] : TypeStack).length : Int) - ([.bool, .nat, .nat] : TypeStack).length :=
  ⟨rfl, rfl, typecheck_height_change [.loop [.push .bool (.booleanValue true)]] _ _ _ _ rfl rfl⟩

end Mir
