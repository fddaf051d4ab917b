import Mir.Ast

/-! # The typechecker

`typecheck` and `typecheck_instruction` take the type stack as `&mut TypeStack` and
return `Result<(), TcError>`. A `TcResult` records the result together with the stack
the call leaves, on failure too, and a panic (`unimplemented!`, an `unwrap` of `None`,
a `split_off` or `swap` out of bounds) as a third way for a call to end. -/

namespace Mir

/-- How a call on `stack: &mut TypeStack` ends: `Ok(())` or `Err(e)`, each with the
stack left behind, or a panic. -/
inductive TcResult where
  | ok (stack : TypeStack)
  | err (e : TcError) (stack : TypeStack)
  | panic
  deriving DecidableEq, Repr

namespace TcResult

/-- One step of the loop in `typecheck`: the rest runs on the stack a success leaves,
while a failure or a panic ends the loop as it is. -/
def bind : TcResult → (TypeStack → TcResult) → TcResult
  | .ok stack, k => k stack
  | r, _ => r

/-- `typecheck(nested, &mut live)?` in an arm whose own stack is `stack`: a failure of
the nested block returns at once and leaves `stack`, a success goes on. -/
def nest : TcResult → TypeStack → (TypeStack → TcResult) → TcResult
  | .ok live, _, k => k live
  | .err e _, stack, _ => .err e stack
  | .panic, _, _ => .panic

/-- What a caller can rely on: the `Result`, and the stack only when it is `Ok(())`. -/
def outcome : TcResult → Option (Except TcError TypeStack)
  | .ok stack => some (.ok stack)
  | .err e _ => some (.error e)
  | .panic => none

@[simp] theorem ok_bind {stack : TypeStack} {k : TypeStack → TcResult} :
    (ok stack).bind k = k stack := rfl

@[simp] theorem err_bind {e : TcError} {stack : TypeStack} {k : TypeStack → TcResult} :
    (err e stack).bind k = err e stack := rfl

@[simp] theorem panic_bind {k : TypeStack → TcResult} : panic.bind k = panic := rfl

@[simp] theorem bind_ok (r : TcResult) : (r.bind fun stack => ok stack) = r := by
  cases r <;> rfl

theorem bind_assoc (r : TcResult) (k k' : TypeStack → TcResult) :
    (r.bind k).bind k' = r.bind fun stack => (k stack).bind k' := by
  cases r <;> rfl

@[simp] theorem bind_eq_ok {r : TcResult} {k : TypeStack → TcResult} {stack' : TypeStack} :
    r.bind k = ok stack' ↔ ∃ stack, r = ok stack ∧ k stack = ok stack' := by
  cases r <;> simp [bind]

@[simp] theorem bind_eq_panic {r : TcResult} {k : TypeStack → TcResult} :
    r.bind k = panic ↔ r = panic ∨ ∃ stack, r = ok stack ∧ k stack = panic := by
  cases r <;> simp [bind]

@[simp] theorem ok_nest {live stack : TypeStack} {k : TypeStack → TcResult} :
    (ok live).nest stack k = k live := rfl

@[simp] theorem err_nest {e : TcError} {live stack : TypeStack} {k : TypeStack → TcResult} :
    (err e live).nest stack k = err e stack := rfl

@[simp] theorem panic_nest {stack : TypeStack} {k : TypeStack → TcResult} :
    panic.nest stack k = panic := rfl

@[simp] theorem nest_eq_ok {r : TcResult} {stack stack' : TypeStack}
    {k : TypeStack → TcResult} :
    r.nest stack k = ok stack' ↔ ∃ live, r = ok live ∧ k live = ok stack' := by
  cases r <;> simp [nest]

@[simp] theorem nest_eq_panic {r : TcResult} {stack : TypeStack} {k : TypeStack → TcResult} :
    r.nest stack k = panic ↔ r = panic ∨ ∃ live, r = ok live ∧ k live = panic := by
  cases r <;> simp [nest]

@[simp] theorem nest_eq_err {r : TcResult} {stack stack' : TypeStack}
    {k : TypeStack → TcResult} {e : TcError} :
    r.nest stack k = err e stack' ↔
      (∃ live, r = err e live) ∧ stack' = stack ∨ ∃ live, r = ok live ∧ k live = err e stack' := by
  cases r <;> simp [nest, and_comm, eq_comm]

/-- A failure of the first part is a failure of the same kind of the whole. -/
theorem exists_bind_eq_err {r : TcResult} {e : TcError} {k : TypeStack → TcResult}
    (h : ∃ stack, r = err e stack) : ∃ stack, r.bind k = err e stack := by
  obtain ⟨stack, rfl⟩ := h
  exact ⟨stack, rfl⟩

/-- A failure of a nested block is a failure of the same kind of the enclosing arm. -/
theorem exists_nest_eq_err {r : TcResult} {e : TcError} {stack : TypeStack}
    {k : TypeStack → TcResult} (h : ∃ live, r = err e live) :
    ∃ stack', r.nest stack k = err e stack' := by
  obtain ⟨live, rfl⟩ := h
  exact ⟨stack, rfl⟩

/-- A nested failure and the enclosing one differ only in the stack left behind. -/
theorem outcome_nest (r : TcResult) (stack : TypeStack) (k : TypeStack → TcResult) :
    (r.nest stack k).outcome = (r.bind k).outcome := by
  cases r <;> rfl

end TcResult

/-- `check(..)?` for a stack helper in an arm whose stack is `stack`. -/
def orLeave : Except TcError Unit → TypeStack → TcResult → TcResult
  | .ok (), _, r => r
  | .error e, stack, _ => .err e stack

/-- `typecheck_value`: the literals `PUSH` admits at each declared type. -/
def typecheckValue : Ty → Value → Except TcError Unit
  | .nat, .numberValue n => if 0 ≤ n then .ok () else .error .genericTcError
  | .int, .numberValue _ => .ok ()
  | .bool, .booleanValue _ => .ok ()
  | _, _ => .error .genericTcError

theorem typecheckValue_eq_error {t : Ty} {v : Value} {e : TcError}
    (h : typecheckValue t v = .error e) : e = .genericTcError := by
  unfold typecheckValue at h
  split at h <;> (try split at h) <;> cases h <;> rfl

mutual

/-- `typecheck`: the instructions of a block in order, each on the stack the previous one
left. -/
def typecheck : AST → TypeStack → TcResult
  | [], stack => .ok stack
  | i :: ast, stack => (typecheckInstruction i stack).bind fun stack => typecheck ast stack

/-- `typecheck_instruction`, one arm per instruction. -/
def typecheckInstruction : Instruction → TypeStack → TcResult
  | .add, stack =>
      match stack with
      | .nat :: .nat :: rest => .ok (.nat :: rest)
      | .int :: .int :: rest => .ok (.int :: rest)
      | _ => .panic
  | .dip optHeight nested, stack =>
      let protectedHeight := optHeight.getD 1
      orLeave (ensureStackLen stack protectedHeight) stack <|
        match splitOff stack protectedHeight with
        | some (kept, live) =>
            (typecheck nested live).nest kept fun live => .ok (kept ++ live)
        | none => .panic
  | .drop optHeight, stack =>
      let dropHeight := optHeight.getD 1
      orLeave (ensureStackLen stack dropHeight) stack <|
        match splitOff stack dropHeight with
        | some (_, live) => .ok live
        | none => .panic
  | .dup (some 0), stack => .err .genericTcError stack
  | .dup optHeight, stack =>
      let dupHeight := optHeight.getD 1
      orLeave (ensureStackLen stack dupHeight) stack <|
        match stack[dupHeight - 1]? with
        | some t => .ok (t :: stack)
        | none => .panic
  | .gt, stack =>
      match stack with
      | .int :: rest => .ok (.bool :: rest)
      | _ => .err .genericTcError stack
  | .if_ nestedT nestedF, stack =>
      match stack with
      | .bool :: t =>
          (typecheck nestedT t).nest stack fun tStack =>
          (typecheck nestedF t).nest stack fun fStack =>
          orLeave (ensureStacksEq tStack fStack) stack (.ok tStack)
      | _ => .err .genericTcError stack
  | .int, stack =>
      match stack with
      | .nat :: rest => .ok (.int :: rest)
      | _ => .err .genericTcError stack
  | .loop nested, stack =>
      match stack with
      | .bool :: t =>
          (typecheck nested t).nest stack fun live =>
            match live with
            | .bool :: r => orLeave (ensureStacksEq t r) stack (.ok t)
            | _ => .err .genericTcError stack
      | _ => .err .genericTcError stack
  | .push t v, stack => orLeave (typecheckValue t v) stack (.ok (t :: stack))
  | .swap, stack =>
      orLeave (ensureStackLen stack 2) stack <|
        match stack with
        | a :: b :: rest => .ok (b :: a :: rest)
        | _ => .panic

end

@[simp] theorem orLeave_ok {stack : TypeStack} {r : TcResult} : orLeave (.ok ()) stack r = r :=
  rfl

@[simp] theorem orLeave_error {e : TcError} {stack : TypeStack} {r : TcResult} :
    orLeave (.error e) stack r = .err e stack := rfl

@[simp] theorem orLeave_eq_ok {c : Except TcError Unit} {stack stack' : TypeStack}
    {r : TcResult} : orLeave c stack r = .ok stack' ↔ c = .ok () ∧ r = .ok stack' := by
  rcases c with e | ⟨⟨⟩⟩ <;> simp

@[simp] theorem orLeave_eq_panic {c : Except TcError Unit} {stack : TypeStack} {r : TcResult} :
    orLeave c stack r = .panic ↔ c = .ok () ∧ r = .panic := by
  rcases c with e | ⟨⟨⟩⟩ <;> simp

@[simp] theorem orLeave_eq_err {c : Except TcError Unit} {stack stack' : TypeStack}
    {r : TcResult} {e : TcError} :
    orLeave c stack r = .err e stack' ↔
      c = .error e ∧ stack' = stack ∨ c = .ok () ∧ r = .err e stack' := by
  rcases c with e | ⟨⟨⟩⟩ <;> simp [eq_comm]

/-! ## Blocks -/

@[simp] theorem typecheck_nil (stack : TypeStack) : typecheck [] stack = .ok stack := rfl

@[simp] theorem typecheck_cons (i : Instruction) (ast : AST) (stack : TypeStack) :
    typecheck (i :: ast) stack =
      (typecheckInstruction i stack).bind fun stack => typecheck ast stack := rfl

/-- Checking a concatenation checks the second block on what the first one leaves. -/
theorem typecheck_append (p q : AST) (stack : TypeStack) :
    typecheck (p ++ q) stack = (typecheck p stack).bind fun stack => typecheck q stack := by
  induction p generalizing stack with
  | nil => rfl
  | cons i p ih => simp only [List.cons_append, typecheck_cons, ih, TcResult.bind_assoc]

theorem typecheck_singleton (i : Instruction) (stack : TypeStack) :
    typecheck [i] stack = typecheckInstruction i stack := by
  simp

/-! ## The guarded arms

`ensure_stack_len` runs before each `split_off`, `unwrap` and `swap` that could panic,
so these arms end in `Ok` or `StackTooShort`. -/

theorem typecheckInstruction_dip (optHeight : Option Nat) (nested : AST) (stack : TypeStack) :
    typecheckInstruction (.dip optHeight nested) stack =
      if optHeight.getD 1 ≤ stack.length then
        (typecheck nested (stack.drop (optHeight.getD 1))).nest (stack.take (optHeight.getD 1))
          fun live => .ok (stack.take (optHeight.getD 1) ++ live)
      else .err .stackTooShort stack := by
  unfold typecheckInstruction ensureStackLen splitOff
  split <;> simp [*]

theorem typecheckInstruction_drop (optHeight : Option Nat) (stack : TypeStack) :
    typecheckInstruction (.drop optHeight) stack =
      if optHeight.getD 1 ≤ stack.length then .ok (stack.drop (optHeight.getD 1))
      else .err .stackTooShort stack := by
  unfold typecheckInstruction ensureStackLen splitOff
  split <;> simp [*]

theorem typecheckInstruction_dup {optHeight : Option Nat} (h : 0 < optHeight.getD 1)
    (stack : TypeStack) :
    typecheckInstruction (.dup optHeight) stack =
      match stack[optHeight.getD 1 - 1]? with
      | some t => .ok (t :: stack)
      | none => .err .stackTooShort stack := by
  obtain _ | _ | n := optHeight
  · cases stack <;> simp [typecheckInstruction, ensureStackLen]
  · simp at h
  · unfold typecheckInstruction ensureStackLen
    by_cases hl : n + 1 ≤ stack.length
    · simp [hl, List.getElem?_eq_getElem (show n < stack.length by omega)]
    · simp [hl, List.getElem?_eq_none_iff.mpr (show stack.length ≤ n by omega)]

/-- The spec's ill-typed Fibonacci variant fails at `DUP 4`, one slot short. -/
example :
    typecheck
      [.int, .push .int (.numberValue 0), .dup (some 2), .gt,
        .if_
          [.dip none [.push .int (.numberValue (-1)), .add], .push .int (.numberValue 1),
            .dup (some 4), .gt,
            .loop [.swap, .dup (some 2), .add,
              .dip (some 2) [.push .int (.numberValue (-1)), .add], .dup (some 3), .gt],
            .dip none [.drop (some 2)]]
          [.dip none [.drop none]]]
      [.nat] = .err .stackTooShort [.bool, .int, .int] := by
  decide

theorem typecheckInstruction_swap (stack : TypeStack) :
    typecheckInstruction .swap stack =
      match stack with
      | a :: b :: rest => .ok (b :: a :: rest)
      | _ => .err .stackTooShort stack := by
  unfold typecheckInstruction ensureStackLen
  rcases stack with _ | ⟨a, _ | ⟨b, rest⟩⟩ <;> simp

/-! ## The stack a failure leaves -/

/-- The stack a failing instruction leaves behind. `DIP n` keeps only its `n` protected top
slots, since the live part it split off goes with the error of its block (and when the stack
is shorter than `n`, the `StackTooShort` case, that is the whole stack). Every other arm
fails before it changes the stack. -/
def stackLeftOnErr : Instruction → TypeStack → TypeStack
  | .dip optHeight _, stack => stack.take (optHeight.getD 1)
  | _, stack => stack

theorem typecheckInstruction_err {i : Instruction} {stack stack' : TypeStack} {e : TcError}
    (h : typecheckInstruction i stack = .err e stack') : stack' = stackLeftOnErr i stack := by
  cases i with
  | dip optHeight nested =>
    rw [typecheckInstruction_dip] at h
    split at h
    · obtain ⟨-, rfl⟩ | ⟨_, -, h⟩ := TcResult.nest_eq_err.mp h
      · rfl
      · cases h
    · cases h
      exact (List.take_of_length_le (by omega)).symm
  | add | gt | int =>
    unfold typecheckInstruction at h
    split at h <;> cases h <;> rfl
  | drop optHeight =>
    rw [typecheckInstruction_drop] at h
    split at h <;> cases h
    rfl
  | swap =>
    rw [typecheckInstruction_swap] at h
    split at h <;> cases h
    rfl
  | dup optHeight =>
    by_cases hn : 0 < optHeight.getD 1
    · rw [typecheckInstruction_dup hn] at h
      split at h <;> cases h
      rfl
    · obtain rfl : optHeight = some 0 := by cases optHeight <;> simp_all
      cases h
      rfl
  | push t v =>
    obtain ⟨-, rfl⟩ | ⟨-, h⟩ := orLeave_eq_err.mp h
    · rfl
    · cases h
  | if_ nestedT nestedF =>
    unfold typecheckInstruction at h
    split at h
    · obtain ⟨-, rfl⟩ | ⟨_, -, h⟩ := TcResult.nest_eq_err.mp h
      · rfl
      obtain ⟨-, rfl⟩ | ⟨_, -, h⟩ := TcResult.nest_eq_err.mp h
      · rfl
      obtain ⟨-, rfl⟩ | ⟨-, h⟩ := orLeave_eq_err.mp h
      · rfl
      · cases h
    · cases h
      rfl
  | loop nested =>
    unfold typecheckInstruction at h
    split at h
    · obtain ⟨-, rfl⟩ | ⟨_, -, h⟩ := TcResult.nest_eq_err.mp h
      · rfl
      split at h
      · obtain ⟨-, rfl⟩ | ⟨-, h⟩ := orLeave_eq_err.mp h
        · rfl
        · cases h
      · cases h
        rfl
    · cases h
      rfl

/-- A failed check of a block stops at its first failing instruction, run on the stack the
instructions before it left, and leaves what that instruction leaves: that same stack, or
for a `DIP` only its protected top slots. -/
theorem typecheck_err {ast : AST} {stack stack' : TypeStack} {e : TcError}
    (h : typecheck ast stack = .err e stack') :
    ∃ pre i post mid, ast = pre ++ i :: post ∧ typecheck pre stack = .ok mid ∧
      typecheckInstruction i mid = .err e stack' ∧ stack' = stackLeftOnErr i mid := by
  induction ast generalizing stack with
  | nil => cases h
  | cons i ast ih =>
    rw [typecheck_cons] at h
    rcases hi : typecheckInstruction i stack with mid | ⟨e', s''⟩ | _ <;> rw [hi] at h
    · obtain ⟨pre, j, post, mid', rfl, hpre, hj, hs⟩ := ih h
      exact ⟨i :: pre, j, post, mid', rfl, by simp [hi, hpre], hj, hs⟩
    · cases h
      exact ⟨[], i, ast, stack, rfl, rfl, hi, typecheckInstruction_err hi⟩
    · cases h

/-- `PUSH int 1 ; DIP 1 { GT }` on `nat`: the `GT` under the `DIP` fails, and only the
protected `int` is left. -/
theorem typecheck_err_dip :
    typecheck [.push .int (.numberValue 1), .dip (some 1) [.gt]] [.nat] =
        .err .genericTcError [.int] ∧
      ∃ pre i post mid, [.push .int (.numberValue 1), .dip (some 1) [.gt]] = pre ++ i :: post ∧
        typecheck pre [.nat] = .ok mid ∧ typecheckInstruction i mid = .err .genericTcError [.int] ∧
        [.int] = stackLeftOnErr i mid :=
  ⟨rfl, typecheck_err rfl⟩

end Mir
