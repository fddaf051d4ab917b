import Mir.Laws

/-! # Equivalent blocks

Two blocks are equivalent when the checker ends alike on them from every stack, up to the
stack a failure leaves behind. What `typecheck` returns on a sequence, a `DIP`, an `IF`
or a `LOOP` depends only on how its blocks end, so equivalence is a congruence: a block
may be replaced by an equivalent one anywhere in a program, at any depth, and the checker
returns the same on the whole program. -/

namespace Mir

/-- `p` and `q` end alike from every stack: the same result, and the same stack when it
is `Ok(())`. -/
def TcEquiv (p q : AST) : Prop :=
  ∀ stack, (typecheck p stack).outcome = (typecheck q stack).outcome

namespace TcResult

/-- The rest of a run sees only how the first part ended. -/
theorem outcome_bind_congr {r r' : TcResult} {k k' : TypeStack → TcResult}
    (h : r.outcome = r'.outcome) (hk : ∀ stack, (k stack).outcome = (k' stack).outcome) :
    (r.bind k).outcome = (r'.bind k').outcome := by
  cases r <;> cases r' <;> simp_all [outcome, bind]

theorem outcome_nest_congr {r r' : TcResult} {stack stack' : TypeStack}
    {k k' : TypeStack → TcResult}
    (h : r.outcome = r'.outcome) (hk : ∀ live, (k live).outcome = (k' live).outcome) :
    (r.nest stack k).outcome = (r'.nest stack' k').outcome := by
  rw [outcome_nest, outcome_nest]
  exact outcome_bind_congr h hk

end TcResult

namespace TcEquiv

theorem refl (p : AST) : TcEquiv p p := fun _ => rfl

theorem append {p p' q q' : AST} (hp : TcEquiv p p') (hq : TcEquiv q q') :
    TcEquiv (p ++ q) (p' ++ q') := fun stack => by
  rw [typecheck_append, typecheck_append]
  exact TcResult.outcome_bind_congr (hp stack) hq

theorem dip {p q : AST} (h : TcEquiv p q) (optHeight : Option Nat) :
    TcEquiv [.dip optHeight p] [.dip optHeight q] := fun stack => by
  simp only [typecheck_singleton, outcome_dip, h _]

theorem if_ {t t' f f' : AST} (ht : TcEquiv t t') (hf : TcEquiv f f') :
    TcEquiv [.if_ t f] [.if_ t' f'] := fun stack => by
  simp only [typecheck_singleton]
  unfold typecheckInstruction
  split
  · exact TcResult.outcome_nest_congr (ht _) fun _ =>
      TcResult.outcome_nest_congr (hf _) fun _ => rfl
  · rfl

theorem loop {p q : AST} (h : TcEquiv p q) : TcEquiv [.loop p] [.loop q] := fun stack => by
  simp only [typecheck_singleton]
  unfold typecheckInstruction
  split
  · exact TcResult.outcome_nest_congr (h _) fun _ => rfl
  · rfl

end TcEquiv

/-- `DROP k`: the stack without its top `k` slots when it has that many, `StackTooShort`
otherwise. -/
theorem outcome_drop (k : Nat) (stack : TypeStack) :
    (typecheck [.drop (some k)] stack).outcome =
      if k ≤ stack.length then some (.ok (stack.drop k)) else some (.error .stackTooShort) := by
  rw [typecheck_singleton, typecheckInstruction_drop, Option.getD_some]
  split <;> rfl

/-- The two drops end as the fused one: after `DROP m` succeeds, `DROP n` asks for `n` of the
`length - m` slots left. -/
theorem outcome_drop_drop (m n : Nat) (stack : TypeStack) :
    (typecheck [.drop (some m), .drop (some n)] stack).outcome =
      (typecheck [.drop (some (m + n))] stack).outcome := by
  rw [outcome_drop, typecheck_cons, typecheckInstruction_drop, Option.getD_some]
  by_cases hm : m ≤ stack.length
  · rw [if_pos hm, TcResult.ok_bind, outcome_drop, List.length_drop, List.drop_drop]
    split_ifs <;> first | rfl | omega
  · rw [if_neg hm, if_neg (by omega)]
    rfl

/-- `DROP m ; DROP n` ends as `DROP (m + n)` from every stack, and both leave the stack
without its top `m + n` slots when it has that many, and fail with `StackTooShort`
otherwise. -/
theorem drop_drop_equiv (m n : Nat) :
    TcEquiv [.drop (some m), .drop (some n)] [.drop (some (m + n))] ∧
      ∀ stack, (typecheck [.drop (some m), .drop (some n)] stack).outcome =
        if m + n ≤ stack.length then some (.ok (stack.drop (m + n)))
        else some (.error .stackTooShort) :=
  ⟨outcome_drop_drop m n, fun stack => (outcome_drop_drop m n stack).trans (outcome_drop _ _)⟩

/-! ## Replacement in context -/

/-- A block with one hole in it, at any depth: between other instructions, in the block of
a `DIP`, in a branch of an `IF` or in the body of a `LOOP`. -/
inductive Ctx where
  | hole
  | seq (pre : AST) (c : Ctx) (post : AST)
  | dip (optHeight : Option Nat) (c : Ctx)
  | ifT (c : Ctx) (nestedF : AST)
  | ifF (nestedT : AST) (c : Ctx)
  | loop (c : Ctx)

/-- The block `c` with `p` in its hole. -/
def Ctx.fill : Ctx → AST → AST
  | .hole, p => p
  | .seq pre c post, p => pre ++ c.fill p ++ post
  | .dip optHeight c, p => [.dip optHeight (c.fill p)]
  | .ifT c nestedF, p => [.if_ (c.fill p) nestedF]
  | .ifF nestedT c, p => [.if_ nestedT (c.fill p)]
  | .loop c, p => [.loop (c.fill p)]

/-- Replacing a block by an equivalent one anywhere inside a program leaves what the
checker returns on the program unchanged, from every stack. -/
theorem typecheck_fill_congr {p q : AST} (h : TcEquiv p q) (c : Ctx) :
    TcEquiv (c.fill p) (c.fill q) := by
  induction c with
  | hole => exact h
  | seq pre c post ih => exact ((TcEquiv.refl pre).append ih).append (TcEquiv.refl post)
  | dip optHeight c ih => exact ih.dip optHeight
  | ifT c nestedF ih => exact ih.if_ (TcEquiv.refl nestedF)
  | ifF nestedT c ih => exact (TcEquiv.refl nestedT).if_ ih
  | loop c ih => exact ih.loop

/-- `DIP 0 { DROP }` replaced by `DROP` inside `LOOP { SWAP ; _ }`. -/
theorem typecheck_fill_congr_dip_zero :
    TcEquiv [.dip (some 0) [.drop none]] [.drop none] ∧
      TcEquiv ((Ctx.loop (.seq [.swap] .hole [])).fill [.dip (some 0) [.drop none]])
        ((Ctx.loop (.seq [.swap] .hole [])).fill [.drop none]) :=
  ⟨outcome_dip_zero _, typecheck_fill_congr (outcome_dip_zero _) _⟩

end Mir
