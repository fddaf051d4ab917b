import Mir.Typechecker

/-! # Typing rules

The contract of the checker as inference rules, one for each way an arm of
`typecheck_instruction` can succeed. `InstrTyping i s s'` says that instruction `i` takes
the type stack `s` to `s'`, and `Typing ast s s'` chains the rules through a block. The
checker accepts a block on a stack exactly when a derivation exists, and leaves the
derived stack (`typing_iff`). -/

namespace Mir

/-- The literals `PUSH` admits at a declared type. -/
inductive Admissible : Ty → Value → Prop
  | nat {n : Int} : 0 ≤ n → Admissible .nat (.numberValue n)
  | int (n : Int) : Admissible .int (.numberValue n)
  | bool (b : Bool) : Admissible .bool (.booleanValue b)

theorem typecheckValue_eq_ok {t : Ty} {v : Value} :
    typecheckValue t v = .ok () ↔ Admissible t v := by
  constructor
  · intro h
    unfold typecheckValue at h
    split at h
    · split at h
      · exact .nat ‹_›
      · cases h
    · exact .int _
    · exact .bool _
    · cases h
  · rintro (h | n | b)
    · simp [typecheckValue, h]
    · rfl
    · rfl

mutual

/-- `InstrTyping i s s'`: instruction `i` takes the type stack `s` to `s'`. -/
inductive InstrTyping : Instruction → TypeStack → TypeStack → Prop
  | addNat (rest : TypeStack) : InstrTyping .add (.nat :: .nat :: rest) (.nat :: rest)
  | addInt (rest : TypeStack) : InstrTyping .add (.int :: .int :: rest) (.int :: rest)
  /-- `DIP n` sets the top `n` slots aside and types its block on the rest. -/
  | dip {optHeight nested s live} (hl : optHeight.getD 1 ≤ s.length)
      (hb : Typing nested (s.drop (optHeight.getD 1)) live) :
      InstrTyping (.dip optHeight nested) s (s.take (optHeight.getD 1) ++ live)
  | drop {optHeight s} (hl : optHeight.getD 1 ≤ s.length) :
      InstrTyping (.drop optHeight) s (s.drop (optHeight.getD 1))
  | dup {optHeight s t} (hn : 0 < optHeight.getD 1)
      (ht : s[optHeight.getD 1 - 1]? = some t) : InstrTyping (.dup optHeight) s (t :: s)
  | gt (rest : TypeStack) : InstrTyping .gt (.int :: rest) (.bool :: rest)
  /-- Both branches are typed on the tail under the `bool`, and must agree. -/
  | if_ {nestedT nestedF t s'} (ht : Typing nestedT t s') (hf : Typing nestedF t s') :
      InstrTyping (.if_ nestedT nestedF) (.bool :: t) s'
  | int (rest : TypeStack) : InstrTyping .int (.nat :: rest) (.int :: rest)
  /-- The body takes the tail under the `bool` to a `bool` over that same tail. -/
  | loop {nested t} (hb : Typing nested t (.bool :: t)) :
      InstrTyping (.loop nested) (.bool :: t) t
  | push {t v s} (hv : Admissible t v) : InstrTyping (.push t v) s (t :: s)
  | swap (a b : Ty) (rest : TypeStack) : InstrTyping .swap (a :: b :: rest) (b :: a :: rest)

/-- `Typing ast s s'`: the block `ast` takes `s` to `s'`, one instruction after another. -/
inductive Typing : AST → TypeStack → TypeStack → Prop
  | nil (s : TypeStack) : Typing [] s s
  | cons {i ast s s' s''} : InstrTyping i s s' → Typing ast s' s'' → Typing (i :: ast) s s''

end

/-! ## The checker decides the rules -/

mutual

theorem InstrTyping.execution {i : Instruction} {s s' : TypeStack} :
    InstrTyping i s s' → typecheckInstruction i s = .ok s'
  | .addNat _ | .addInt _ | .gt _ | .int _ => rfl
  | .dip hl hb => by rw [typecheckInstruction_dip, if_pos hl, Typing.execution hb]; rfl
  | .drop hl => by rw [typecheckInstruction_drop, if_pos hl]
  | .dup hn ht => by rw [typecheckInstruction_dup hn, ht]
  | .if_ ht hf => by
      simp [typecheckInstruction, Typing.execution ht, Typing.execution hf, ensureStacksEq]
  | .loop hb => by simp [typecheckInstruction, Typing.execution hb, ensureStacksEq]
  | .push hv => by simp [typecheckInstruction, typecheckValue_eq_ok.mpr hv]
  | .swap _ _ _ => typecheckInstruction_swap _

theorem Typing.execution {ast : AST} {s s' : TypeStack} :
    Typing ast s s' → typecheck ast s = .ok s'
  | .nil _ => rfl
  | .cons hi hb => by simp [InstrTyping.execution hi, Typing.execution hb]

end

mutual

theorem InstrTyping.of_typecheckInstruction :
    ∀ {i : Instruction} {s s' : TypeStack}, typecheckInstruction i s = .ok s' →
      InstrTyping i s s'
  | .add, _, _, h | .gt, _, _, h | .int, _, _, h => by
      unfold typecheckInstruction at h
      split at h <;> cases h <;> constructor
  | .dip _ _, _, _, h => by
      rw [typecheckInstruction_dip] at h
      split at h
      · obtain ⟨live, hb, h⟩ := TcResult.nest_eq_ok.mp h
        cases h
        exact .dip ‹_› (Typing.of_typecheck hb)
      · cases h
  | .drop _, _, _, h => by
      rw [typecheckInstruction_drop] at h
      split at h <;> cases h
      exact .drop ‹_›
  | .dup optHeight, _, _, h => by
      by_cases hn : 0 < optHeight.getD 1
      · rw [typecheckInstruction_dup hn] at h
        split at h <;> cases h
        exact .dup hn ‹_›
      · obtain rfl : optHeight = some 0 := by cases optHeight <;> simp_all
        cases h
  | .if_ _ _, _, _, h => by
      unfold typecheckInstruction at h
      split at h
      · simp only [TcResult.nest_eq_ok, orLeave_eq_ok, ensureStacksEq_eq_ok] at h
        obtain ⟨tStack, ht, fStack, hf, rfl, h⟩ := h
        cases h
        exact .if_ (Typing.of_typecheck ht) (Typing.of_typecheck hf)
      · cases h
  | .loop _, _, _, h => by
      unfold typecheckInstruction at h
      split at h
      · obtain ⟨live, hb, h⟩ := TcResult.nest_eq_ok.mp h
        split at h
        · obtain ⟨hr, h⟩ := orLeave_eq_ok.mp h
          cases h
          cases ensureStacksEq_eq_ok.mp hr
          exact .loop (Typing.of_typecheck hb)
        · cases h
      · cases h
  | .push _ _, _, _, h => by
      obtain ⟨hv, h⟩ := orLeave_eq_ok.mp h
      cases h
      exact .push (typecheckValue_eq_ok.mp hv)
  | .swap, _, _, h => by
      rw [typecheckInstruction_swap] at h
      split at h <;> cases h
      exact .swap _ _ _

theorem Typing.of_typecheck :
    ∀ {ast : AST} {s s' : TypeStack}, typecheck ast s = .ok s' → Typing ast s s'
  | [], _, _, h => by
      cases h
      exact .nil _
  | _ :: _, _, _, h => by
      obtain ⟨_, hi, hb⟩ := TcResult.bind_eq_ok.mp h
      exact .cons (InstrTyping.of_typecheckInstruction hi) (Typing.of_typecheck hb)

end

/-- The checker succeeds on a block exactly on the derivable typings, and leaves the
derived stack. -/
theorem typing_iff {ast : AST} {s s' : TypeStack} :
    Typing ast s s' ↔ typecheck ast s = .ok s' :=
  ⟨Typing.execution, Typing.of_typecheck⟩

/-- The checker is a decision procedure for the rules. -/
instance (ast : AST) (s s' : TypeStack) : Decidable (Typing ast s s') :=
  decidable_of_iff _ ⟨Typing.of_typecheck, Typing.execution⟩

/-- The Fibonacci program of the spec's first scenario, typed on `nat`. -/
example :
    Typing
      [.int, .push .int (.numberValue 0), .dup (some 2), .gt,
        .if_
          [.dip none [.push .int (.numberValue (-1)), .add], .push .int (.numberValue 1),
            .dup (some 3), .gt,
            .loop [.swap, .dup (some 2), .add,
              .dip (some 2) [.push .int (.numberValue (-1)), .add], .dup (some 3), .gt],
            .dip none [.drop (some 2)]]
          [.dip none [.drop none]]]
      [.nat] [.int] := by
  decide

end Mir
