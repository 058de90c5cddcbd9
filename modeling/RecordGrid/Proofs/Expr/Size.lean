import RecordGrid.Proofs.Expr.Completeness

/-!
# The size of an expression

The nodes of an expression, and the ways down from its root.  Nothing bounds them
in an expression as such, but a derivation does: every leaf is a primary, an
operator that joins two operands has a primary more on either side, and a node on
the way down has another operand beside it, or is a primary that holds others, or
nests a level.
-/

namespace RecordGrid

theorem Function.one_le_of_accepts {f : Function} {count : Nat} (h : f.accepts count = true) :
    1 ≤ count := by
  have hleast : f.minArgs ≤ count := of_decide_eq_true ((Bool.and_eq_true ..).mp h).1
  have hone : 1 ≤ f.minArgs := by cases f <;> decide
  exact Nat.le_trans hone hleast

namespace Expr

/-- The operands or arguments of the root. -/
def children : Expr → List Expr
  | .literal _ => []
  | .field _ => []
  | .binary _ left right => [left, right]
  | .unary _ operand => [operand]
  | .logical _ left right => [left, right]
  | .conditional condition onTrue onFalse => [condition, onTrue, onFalse]
  | .call _ args => args

/-- The nodes on a way down from the root, which may end anywhere. -/
inductive Path : Expr → List Expr → Prop where
  | root (e : Expr) : Path e [e]
  | step {e child : Expr} {path : List Expr} (hchild : child ∈ e.children)
      (hpath : Path child path) : Path e (e :: path)

mutual

/-- All nodes of an expression, each as the expression below it. -/
def nodes : Expr → List Expr
  | .literal value => [.literal value]
  | .field id => [.field id]
  | .binary op left right => .binary op left right :: (left.nodes ++ right.nodes)
  | .unary op operand => .unary op operand :: operand.nodes
  | .logical op left right => .logical op left right :: (left.nodes ++ right.nodes)
  | .conditional condition onTrue onFalse =>
      .conditional condition onTrue onFalse ::
        (condition.nodes ++ (onTrue.nodes ++ onFalse.nodes))
  | .call f args => .call f args :: nodesOfArgs args

def nodesOfArgs : List Expr → List Expr
  | [] => []
  | arg :: rest => arg.nodes ++ nodesOfArgs rest

end

mutual

/-- The number of nodes on the longest way down. -/
def height : Expr → Nat
  | .literal _ => 1
  | .field _ => 1
  | .binary _ left right => max left.height right.height + 1
  | .unary _ operand => operand.height + 1
  | .logical _ left right => max left.height right.height + 1
  | .conditional condition onTrue onFalse =>
      max condition.height (max onTrue.height onFalse.height) + 1
  | .call _ args => heightOfArgs args + 1

def heightOfArgs : List Expr → Nat
  | [] => 0
  | arg :: rest => max arg.height (heightOfArgs rest)

end

attribute [simp] nodes nodesOfArgs height heightOfArgs

/-- Literals and fields, which have nothing below them. -/
def isLeaf : Expr → Bool
  | .literal _ => true
  | .field _ => true
  | _ => false

/-- The operators between two operands. -/
def isJoin : Expr → Bool
  | .binary _ _ _ => true
  | .logical _ _ _ => true
  | _ => false

def leafCount (e : Expr) : Nat := e.nodes.countP isLeaf

def joinCount (e : Expr) : Nat := e.nodes.countP isJoin

/-- Every function is called with as many arguments as it takes. -/
def CallsAccepted (e : Expr) : Prop :=
  ∀ f args, .call f args ∈ e.nodes → f.accepts args.length = true

variable {e child : Expr} {path args : List Expr}

theorem nodes_eq (e : Expr) : e.nodes = e :: nodesOfArgs e.children := by
  cases e <;> simp [children]

theorem height_eq (e : Expr) : e.height = heightOfArgs e.children + 1 := by
  cases e <;> simp [children]

/-! ## Ways down -/

theorem height_le_heightOfArgs (harg : e ∈ args) : e.height ≤ heightOfArgs args := by
  induction args with
  | nil => cases harg
  | cons arg rest ih =>
      rw [heightOfArgs]
      rcases List.mem_cons.1 harg with rfl | hrest
      · exact Nat.le_max_left ..
      · exact Nat.le_trans (ih hrest) (Nat.le_max_right ..)

theorem height_lt_of_mem_children (hchild : child ∈ e.children) : child.height < e.height := by
  rw [height_eq e]
  exact Nat.lt_succ_of_le (height_le_heightOfArgs hchild)

theorem Path.length_le_height (hpath : Path e path) : path.length ≤ e.height := by
  induction hpath with
  | root e =>
      rw [height_eq]
      exact Nat.le_add_left ..
  | step hchild _ ih => exact Nat.lt_of_le_of_lt ih (height_lt_of_mem_children hchild)

theorem nodes_subset_nodesOfArgs (harg : e ∈ args) : e.nodes ⊆ nodesOfArgs args := by
  induction args with
  | nil => cases harg
  | cons arg rest ih =>
      rw [nodesOfArgs]
      rcases List.mem_cons.1 harg with rfl | hrest
      · exact List.subset_append_left ..
      · exact List.Subset.trans (ih hrest) (List.subset_append_right ..)

theorem CallsAccepted.of_mem_children (he : e.CallsAccepted) (hchild : child ∈ e.children) :
    child.CallsAccepted := by
  intro f args hcall
  refine he f args ?_
  rw [nodes_eq e]
  exact List.mem_cons_of_mem _ (nodes_subset_nodesOfArgs hchild hcall)

/-! ## What a derivation leaves room for -/

/-- The expression is no larger than what so many primaries in so many levels can
stand for. -/
structure Fits (levels primaries : Nat) (e : Expr) : Prop where
  joins_lt : e.joinCount < e.leafCount
  leaves_le : e.leafCount ≤ primaries
  height_le : e.height ≤ levels + primaries
  accepted : e.CallsAccepted

/-- The same of several expressions side by side.  The primaries of all others are
no use to the one that is highest. -/
structure FitArgs (levels primaries : Nat) (args : List Expr) : Prop where
  joins_le : (nodesOfArgs args).countP isJoin + args.length ≤ (nodesOfArgs args).countP isLeaf
  leaves_le : (nodesOfArgs args).countP isLeaf ≤ primaries
  height_le : heightOfArgs args + args.length ≤ levels + primaries + 1
  accepted : ∀ f args', .call f args' ∈ nodesOfArgs args → f.accepts args'.length = true

variable {levels levels' primaries primaries' : Nat}

theorem fitArgs_nil : FitArgs 0 0 [] where
  joins_le := by simp
  leaves_le := by simp
  height_le := by simp
  accepted := by simp

theorem Fits.cons (he : e.Fits levels primaries) (hargs : FitArgs levels' primaries' args) :
    FitArgs (max levels levels') (primaries + primaries') (e :: args) := by
  obtain ⟨hjoins, hleaves, hheight, hcalls⟩ := he
  obtain ⟨hjoins', hleaves', hheight', hcalls'⟩ := hargs
  rw [joinCount, leafCount] at hjoins
  rw [leafCount] at hleaves
  refine ⟨?_, ?_, ?_, ?_⟩
  · rw [nodesOfArgs, List.countP_append, List.countP_append, List.length_cons]
    omega
  · rw [nodesOfArgs, List.countP_append]
    omega
  · rw [heightOfArgs, List.length_cons]
    omega
  · intro f args' hcall
    exact (List.mem_append.1 hcall).elim (hcalls f args') (hcalls' f args')

theorem Fits.singleton (he : e.Fits levels primaries) : FitArgs levels primaries [e] := by
  have hone := he.cons fitArgs_nil
  rwa [Nat.max_zero] at hone

theorem fits_of_isLeaf (he : e.isLeaf = true) : e.Fits 0 1 := by
  have hchildren : e.children = [] ∧ e.isJoin = false ∧ ∀ f args, e ≠ .call f args := by
    cases e with
    | literal value => exact ⟨rfl, rfl, nofun⟩
    | field id => exact ⟨rfl, rfl, nofun⟩
    | _ => cases he
  obtain ⟨hnone, hjoin, hcall⟩ := hchildren
  have hnodes : e.nodes = [e] := by rw [nodes_eq, hnone, nodesOfArgs]
  refine ⟨?_, ?_, ?_, ?_⟩
  · simp [joinCount, leafCount, hnodes, he, hjoin]
  · simp [leafCount, hnodes, he]
  · exact Nat.le_of_eq (by rw [height_eq, hnone, heightOfArgs])
  · intro f args hmem
    rw [hnodes, List.mem_singleton] at hmem
    exact absurd hmem.symm (hcall f args)

/-- A node adds to what stands below it.  It needs a primary or a level for itself,
unless it has two operands or more. -/
theorem FitArgs.node
    (hbelow : FitArgs levels primaries e.children) (hinner : e.isLeaf = false)
    (hjoin : e.isJoin = true → 2 ≤ e.children.length) (hsome : 1 ≤ e.children.length)
    (hlegal : ∀ f args, e = .call f args → f.accepts args.length = true)
    (hprimaries : primaries ≤ primaries')
    (hroom : levels + primaries + 2 ≤ levels' + primaries' + e.children.length) :
    e.Fits levels' primaries' := by
  obtain ⟨hjoins, hleaves, hheight, hcalls⟩ := hbelow
  refine ⟨?_, ?_, ?_, ?_⟩
  · rw [joinCount, leafCount, nodes_eq, List.countP_cons, List.countP_cons, hinner]
    cases hroot : e.isJoin with
    | true =>
        have htwo := hjoin hroot
        simp only [if_true, Bool.false_eq_true, if_false]
        omega
    | false =>
        simp only [Bool.false_eq_true, if_false]
        omega
  · rw [leafCount, nodes_eq, List.countP_cons, hinner]
    simp only [Bool.false_eq_true, if_false]
    omega
  · rw [height_eq]
    omega
  · intro f args hcall
    rw [nodes_eq, List.mem_cons] at hcall
    exact hcall.elim (fun hroot => hlegal f args hroot.symm) (hcalls f args)

theorem Fits.join
    {rank : Rank} {s : Symbol} {join : Expr → Expr → Expr} (joins : rank.Joins s join)
    {left right : Expr} (hleft : left.Fits levels primaries)
    (hright : right.Fits levels' primaries') :
    (join left right).Fits (max levels levels') (primaries + primaries') := by
  have hbelow := hleft.cons hright.singleton
  cases joins <;> exact hbelow.node rfl (fun _ => Nat.le_refl 2) (Nat.le_add_left 1 1)
    (fun _ _ hcall => nomatch hcall) (Nat.le_refl _) (Nat.le_refl _)

theorem Fits.unary (op : UnaryOp) (he : e.Fits levels primaries) :
    (Expr.unary op e).Fits (levels + 1) primaries := by
  refine he.singleton.node rfl (fun hjoin => nomatch hjoin) (Nat.le_refl 1)
    (fun _ _ hcall => nomatch hcall) (Nat.le_refl _) ?_
  rw [children, List.length_singleton]
  omega

theorem FitArgs.call {f : Function} (hargs : FitArgs levels primaries args)
    (hlegal : f.accepts args.length = true) : (Expr.call f args).Fits levels (primaries + 1) := by
  have hsome := Function.one_le_of_accepts hlegal
  refine FitArgs.node (e := .call f args) hargs rfl (fun hjoin => nomatch hjoin) hsome ?_
    (Nat.le_succ _) ?_
  · intro g args' hcall
    obtain ⟨rfl, rfl⟩ := Expr.call.inj hcall
    exact hlegal
  · rw [children]
    omega

/-! ## Derivations -/

mutual

theorem Derivation.fits {p : Phrase} (d : Derivation p) :
    d.expr.Fits d.nesting d.primaries := by
  match d with
  | .expression body =>
      have hbody := body.fits
      exact ⟨hbody.joins_lt, hbody.leaves_le,
        Nat.le_trans hbody.height_le (Nat.add_le_add_right (Nat.le_succ _) _), hbody.accepted⟩
  | .condition only => exact only.fits
  | .conditional condition onTrue onFalse =>
      have hbelow := condition.fits.cons (onTrue.fits.cons onFalse.fits.singleton)
      exact hbelow.node rfl (fun hjoin => nomatch hjoin) (Nat.le_add_left 1 2)
        (fun _ _ hcall => nomatch hcall) (Nat.le_refl _) (Nat.le_succ _)
  | .operand _ only => exact only.fits
  | .chain _ left _ _ joins right => exact left.fits.join joins right.fits
  | .bare operand => exact operand.fits
  | .prefixed _ op _ operand => exact operand.fits.unary op
  | .literal _ value _ => exact fits_of_isLeaf rfl
  | .field name => exact fits_of_isLeaf rfl
  | .group inner =>
      have hinner := inner.fits
      exact ⟨hinner.joins_lt, Nat.le_succ_of_le hinner.leaves_le,
        Nat.le_succ_of_le hinner.height_le, hinner.accepted⟩
  | .call _ f _ count arguments legal =>
      refine arguments.fits.call ?_
      rw [arguments.length_exprs]
      exact legal

theorem Arguments.fits {count : Nat} (arguments : Arguments count) :
    FitArgs arguments.nesting arguments.primaries arguments.exprs := by
  match arguments with
  | .none => exact fitArgs_nil
  | .some _ first rest => exact first.fits.cons rest.fits

theorem FurtherArguments.fits {count : Nat} (further : FurtherArguments count) :
    FitArgs further.nesting further.primaries further.exprs := by
  match further with
  | .nil => exact fitArgs_nil
  | .cons _ next rest => exact next.fits.cons rest.fits

end

end Expr
end RecordGrid
