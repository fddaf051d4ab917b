import Mir.Typing

/-! # Equations between programs

`LOOP` types as its one-step unrolling through `IF`, and `DIP` acts additively on its
depth and distributes over sequencing. The `DIP` laws compare whole results, failures
included, through `TcResult.outcome`: the stack a failure leaves behind is the one thing
the two sides may disagree on. -/

namespace Mir

/-! ## Loop unrolling -/

theorem typing_singleton_iff {i : Instruction} {s s' : TypeStack} :
    Typing [i] s s' ↔ InstrTyping i s s' := by
  refine ⟨fun h => ?_, fun h => .cons h (.nil _)⟩
  obtain _ | ⟨hi, hb⟩ := h
  cases hb
  exact hi

theorem typing_append_iff {p q : AST} {s s'' : TypeStack} :
    Typing (p ++ q) s s'' ↔ ∃ s', Typing p s s' ∧ Typing q s' s'' := by
  constructor
  · intro h
    have h' := h.execution
    rw [typecheck_append, TcResult.bind_eq_ok] at h'
    obtain ⟨s', hp, hq⟩ := h'
    exact ⟨s', .of_typecheck hp, .of_typecheck hq⟩
  · rintro ⟨s', hp, hq⟩
    exact .of_typecheck (by simp [typecheck_append, hp.execution, hq.execution])

/-- The `LOOP` rule is the `IF` rule on the body followed by the loop again: the body's
result `bool :: t` is exactly the stack on which the loop types once more. -/
theorem loop_iff_if {nested : AST} {s s' : TypeStack} :
    InstrTyping (.loop nested) s s' ↔ InstrTyping (.if_ (nested ++ [.loop nested]) []) s s' := by
  constructor
  · intro h
    cases h with
    | loop hb =>
      exact .if_ (typing_append_iff.mpr ⟨_, hb, typing_singleton_iff.mpr (.loop hb)⟩) (.nil _)
  · intro h
    cases h with
    | if_ ht hf =>
      cases hf
      obtain ⟨_, hb, hl⟩ := typing_append_iff.mp ht
      cases typing_singleton_iff.mp hl with
      | loop hb' => exact .loop hb'

/-- `LOOP B` checks exactly when `IF { B ; LOOP B } {}` does, and leaves the same stack. -/
theorem typecheck_loop_unroll (nested : AST) (s s' : TypeStack) :
    typecheck [.loop nested] s = .ok s' ↔
      typecheck [.if_ (nested ++ [.loop nested]) []] s = .ok s' := by
  rw [typecheck_singleton, typecheck_singleton]
  exact ⟨fun h => (loop_iff_if.mp (.of_typecheckInstruction h)).execution,
    fun h => (loop_iff_if.mpr (.of_typecheckInstruction h)).execution⟩

/-- `LOOP B` unrolled `n` times through `IF`: `IF { B ; IF { B ; ... LOOP B } {} } {}`. -/
def unroll (nested : AST) : Nat → AST
  | 0 => [.loop nested]
  | n + 1 => [.if_ (nested ++ unroll nested n) []]

theorem instrTyping_if_nil_iff {nested : AST} {s s' : TypeStack} :
    InstrTyping (.if_ nested []) s s' ↔ ∃ t, s = .bool :: t ∧ s' = t ∧ Typing nested t t := by
  constructor
  · intro h
    cases h with
    | if_ ht hf =>
      cases hf
      exact ⟨_, rfl, rfl, ht⟩
  · rintro ⟨t, rfl, rfl, ht⟩
    exact .if_ ht (.nil _)

theorem typing_unroll_iff {nested : AST} {n : Nat} {s s' : TypeStack} :
    Typing (unroll nested n) s s' ↔ InstrTyping (.loop nested) s s' := by
  induction n generalizing s s' with
  | zero => exact typing_singleton_iff
  | succ n ih =>
    rw [unroll, typing_singleton_iff, instrTyping_if_nil_iff, loop_iff_if,
      instrTyping_if_nil_iff]
    simp only [typing_append_iff, ih, typing_singleton_iff]

/-- Every finite unrolling of a loop types exactly as the loop: the `LOOP` rule is the
fixed point of one-step unrolling. -/
theorem typecheck_unroll (nested : AST) (n : Nat) (s s' : TypeStack) :
    typecheck (unroll nested n) s = .ok s' ↔ typecheck [.loop nested] s = .ok s' :=
  ⟨fun h => (typing_singleton_iff.mpr (typing_unroll_iff.mp (.of_typecheck h))).execution,
    fun h => (typing_unroll_iff.mpr (typing_singleton_iff.mp (.of_typecheck h))).execution⟩

/-! ## Dip laws -/

/-- `DIP n B` ends as `B` does on the stack below the top `n` slots, with those slots put
back on top of a success. -/
theorem outcome_dip (optHeight : Option Nat) (nested : AST) (stack : TypeStack) :
    (typecheckInstruction (.dip optHeight nested) stack).outcome =
      if optHeight.getD 1 ≤ stack.length then
        (typecheck nested (stack.drop (optHeight.getD 1))).outcome.map
          (Except.map (stack.take (optHeight.getD 1) ++ ·))
      else some (.error .stackTooShort) := by
  rw [typecheckInstruction_dip]
  split
  · rw [TcResult.outcome_nest]
    cases typecheck nested _ <;> rfl
  · rfl

theorem outcome_dip_zero (nested : AST) (stack : TypeStack) :
    (typecheck [.dip (some 0) nested] stack).outcome = (typecheck nested stack).outcome := by
  rw [typecheck_singleton, outcome_dip]
  simp only [Option.getD_some, List.drop_zero, List.take_zero, List.nil_append,
    if_pos (Nat.zero_le _)]
  cases typecheck nested stack <;> rfl

theorem outcome_dip_dip (m n : Nat) (nested : AST) (stack : TypeStack) :
    (typecheck [.dip (some m) [.dip (some n) nested]] stack).outcome =
      (typecheck [.dip (some (m + n)) nested] stack).outcome := by
  simp only [typecheck_singleton, outcome_dip, Option.getD_some, List.drop_drop,
    List.length_drop]
  by_cases hm : m ≤ stack.length
  · by_cases hn : n ≤ stack.length - m
    · rw [if_pos hm, if_pos hn, if_pos (by omega)]
      cases typecheck nested (stack.drop (m + n)) <;>
        simp [TcResult.outcome, Except.map, List.take_add]
    · rw [if_pos hm, if_neg hn, if_neg (by omega)]
      rfl
  · rw [if_neg hm, if_neg (by omega)]

theorem outcome_dip_append (n : Nat) (p q : AST) (stack : TypeStack) :
    (typecheck [.dip (some n) (p ++ q)] stack).outcome =
      (typecheck [.dip (some n) p, .dip (some n) q] stack).outcome := by
  simp only [typecheck_cons, typecheck_nil, TcResult.bind_ok, typecheckInstruction_dip,
    Option.getD_some, typecheck_append]
  split
  · rename_i hn
    have hl : (stack.take n).length = n := List.length_take_of_le hn
    rcases typecheck p (stack.drop n) with l | ⟨e, l⟩ | _
    · have hle : n ≤ (stack.take n ++ l).length := by rw [List.length_append, hl]; omega
      simp only [TcResult.ok_bind, TcResult.ok_nest]
      rw [if_pos hle, List.drop_left' hl, List.take_left' hl]
    · rfl
    · rfl
  · rfl

/-- `DIP 0 B` is `B`, `DIP m { DIP n B }` is `DIP (m + n) B`, and `DIP n { B ; C }` is
`DIP n B ; DIP n C`: on every stack the two sides of each law end alike. -/
theorem typecheck_dip_laws (m n : Nat) (p q : AST) (stack : TypeStack) :
    (typecheck [.dip (some 0) p] stack).outcome = (typecheck p stack).outcome ∧
      (typecheck [.dip (some m) [.dip (some n) p]] stack).outcome =
        (typecheck [.dip (some (m + n)) p] stack).outcome ∧
      (typecheck [.dip (some n) (p ++ q)] stack).outcome =
        (typecheck [.dip (some n) p, .dip (some n) q] stack).outcome :=
  ⟨outcome_dip_zero p stack, outcome_dip_dip m n p stack, outcome_dip_append n p q stack⟩

end Mir
