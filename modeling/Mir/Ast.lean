import Mathlib.Data.List.Basic

/-! # Types, literals and instructions of the checked language

The typechecker (`typechecker.rs`) imports its syntax from the `ast` module and its stack
helpers from the `stack` module; neither is among the sources, so both are modelled here
from the spec's data model and from the checker's own uses of them. -/

namespace Mir

/-- Modelled from the spec: `ast::Type`, the static shape of one stack slot. -/
inductive Ty where
  | nat
  | int
  | bool
  | mutez
  deriving DecidableEq, Repr

/-- Modelled from the spec: `ast::Value`, a literal as parsed, before `PUSH` gives it a
type. -/
inductive Value where
  | numberValue (n : Int)
  | booleanValue (b : Bool)
  deriving DecidableEq, Repr

/-- Modelled from the spec: `ast::Instruction`, with the arguments the checker matches
on. Depth arguments are `Option<usize>`; the blocks of `dip`, `if_` and `loop` nest to
any depth. -/
inductive Instruction where
  | add
  | dip (optHeight : Option Nat) (nested : List Instruction)
  | drop (optHeight : Option Nat)
  | dup (optHeight : Option Nat)
  | gt
  | if_ (nestedT nestedF : List Instruction)
  | int
  | loop (nested : List Instruction)
  | push (t : Ty) (v : Value)
  | swap
  deriving Repr

/-- `ast::AST`: a block, an instruction sequence run in order. -/
abbrev AST := List Instruction

/-- `stack::TypeStack`, a `VecDeque<Type>` read with the top of the stack at index 0. -/
abbrev TypeStack := List Ty

/-- `TcError`, the typechecker's error type. -/
inductive TcError where
  | genericTcError
  | stackTooShort
  | stacksNotEqual
  deriving DecidableEq, Repr

/-! ## Stack helpers -/

/-- Modelled from the spec: `stack::ensure_stack_len` fails exactly when the stack holds
fewer than `l` types. The `?` at each call site converts its `StackTooShort` by `From`. -/
def ensureStackLen (stack : TypeStack) (l : Nat) : Except TcError Unit :=
  if l ≤ stack.length then .ok () else .error .stackTooShort

/-- Modelled from the spec: `stack::ensure_stacks_eq` compares two type sequences
element by element; `?` converts its `StacksNotEqual` by `From`. -/
def ensureStacksEq (stack1 stack2 : List Ty) : Except TcError Unit :=
  if stack1 = stack2 then .ok () else .error .stacksNotEqual

/-- `VecDeque::split_off(k)`: the deque keeps its first `k` slots and the rest is
returned, here as the pair `(kept, returned)`. It panics, here `none`, when `k` exceeds
the length. -/
def splitOff (stack : TypeStack) (k : Nat) : Option (TypeStack × TypeStack) :=
  if k ≤ stack.length then some (stack.take k, stack.drop k) else none

@[simp] theorem ensureStackLen_eq_ok {stack : TypeStack} {l : Nat} :
    ensureStackLen stack l = .ok () ↔ l ≤ stack.length := by
  unfold ensureStackLen; split <;> simp [*]

@[simp] theorem ensureStacksEq_eq_ok {stack1 stack2 : List Ty} :
    ensureStacksEq stack1 stack2 = .ok () ↔ stack1 = stack2 := by
  unfold ensureStacksEq; split <;> simp [*]

@[simp] theorem ensureStacksEq_eq_error {stack1 stack2 : List Ty} {e : TcError} :
    ensureStacksEq stack1 stack2 = .error e ↔ stack1 ≠ stack2 ∧ e = .stacksNotEqual := by
  unfold ensureStacksEq; split <;> simp_all [eq_comm]

end Mir
