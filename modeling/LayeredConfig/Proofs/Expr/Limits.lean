import LayeredConfig.Proofs.Expr.Counter

/-!
# Limits and recursion

Three recursions read and evaluate an expression, and each of them is bounded. The scanner makes no more
rounds than there are characters. The parser counts its levels (`Counting.keeps`). The evaluator goes down
the tree, which has no more nodes than the expression has tokens: each constructor is there because of a
token that no other one has (`Derives.size_le`). Since a list of tokens has a greatest
length, so has a chain of calls of the evaluator, also where a long chain of operators is a deep tree
without any nesting.
-/

namespace LayeredConfig.Expr

/-! ## Rounds of the scanner -/

/-- The scanner with a number of rounds; in each it takes white space or a token. -/
def scanWithin : (rounds : Nat) → List Char → Option (Except SyntaxError (List Token))
  | _, [] => some (.ok [])
  | 0, _ :: _ => none
  | rounds + 1, c :: rest =>
    if Text.isBlank c then scanWithin rounds rest
    else match lexeme c rest with
      | .error e => some (.error e)
      | .ok (token, rest) => (scanWithin rounds rest).map fun tokens => tokens.map (token :: ·)

/-- Each round takes a character or more. -/
theorem scanWithin_eq {rounds : Nat} {s : List Char} (h : s.length ≤ rounds) :
    scanWithin rounds s = some (scan s) := by
  induction rounds generalizing s with
  | zero =>
    obtain rfl := List.eq_nil_of_length_eq_zero (Nat.le_zero.1 h)
    rw [scanWithin, scan]
  | succ rounds ih =>
    cases s with
    | nil => rw [scanWithin, scan]
    | cons c rest =>
      rw [List.length_cons] at h
      by_cases hblank : Text.isBlank c = true
      · rw [scanWithin, scan, if_pos hblank, if_pos hblank, ih (by omega)]
      · have hvisible : Text.isBlank c = false := eq_false_of_ne_true hblank
        cases hlexeme : lexeme c rest with
        | error e =>
          rw [scanWithin, if_neg hblank, scan_of_lexeme_error hvisible hlexeme]
          simp only [hlexeme]
        | ok found =>
          obtain ⟨token, rest'⟩ := found
          have hle := length_of_lexeme hlexeme
          rw [scanWithin, if_neg hblank, scan_of_lexeme hvisible hlexeme]
          simp only [hlexeme, ih (show rest'.length ≤ rounds by omega), Option.map_some]

/-- A source has no more tokens than characters. -/
theorem length_of_scan {s : List Char} {tokens : List Token} (h : scan s = .ok tokens) :
    tokens.length ≤ s.length := by
  fun_induction scan s generalizing tokens with
  | case1 =>
    cases h
    exact Nat.le_refl _
  | case2 c rest hblank ih => exact Nat.le_succ_of_le (ih h)
  | case3 => cases h
  | case4 => cases h
  | case5 c rest hblank token rest' htoken hle tokens' hscan ih =>
    -- the token stands for `c`, and the others come from what is left
    cases h
    exact Nat.succ_le_succ (Nat.le_trans (ih hscan) hle)

/-! ## Nodes of a tree -/

mutual

/-- A tree and the trees in it. -/
def Node.subtrees : Node → List Node
  | .literal v => [.literal v]
  | .var => [.var]
  | .list items => .list items :: allSubtrees items
  | .neg operand => .neg operand :: operand.subtrees
  | .not operand => .not operand :: operand.subtrees
  | .binary op left right => .binary op left right :: (left.subtrees ++ right.subtrees)
  | .compare first rest => .compare first rest :: (first.subtrees ++ linkSubtrees rest)
  | .and left right => .and left right :: (left.subtrees ++ right.subtrees)
  | .or left right => .or left right :: (left.subtrees ++ right.subtrees)
  | .index target index => .index target index :: (target.subtrees ++ index.subtrees)
  | .call function arguments => .call function arguments :: allSubtrees arguments

/-- The trees and the trees in them. -/
def allSubtrees : List Node → List Node
  | [] => []
  | node :: nodes => node.subtrees ++ allSubtrees nodes

/-- The trees of the links and the trees in them. -/
def linkSubtrees : List (CompareOp × Node) → List Node
  | [] => []
  | (_, node) :: links => node.subtrees ++ linkSubtrees links

end

/-- The number of constructors of a tree. -/
def Node.size (node : Node) : Nat := node.subtrees.length

/-- Every node counts. -/
theorem Node.size_pos (node : Node) : 0 < node.size := by
  cases node <;> exact Nat.succ_pos _

section

variable (left right : Node) (items : List Node)

theorem Node.size_list : (Node.list items).size = (allSubtrees items).length + 1 := rfl

theorem Node.size_call (function : Builtin) :
    (Node.call function items).size = (allSubtrees items).length + 1 := rfl

theorem Node.size_binary (op : BinaryOp) : (Node.binary op left right).size = left.size + right.size + 1 :=
  congrArg (· + 1) List.length_append

theorem Node.size_and : (Node.and left right).size = left.size + right.size + 1 :=
  congrArg (· + 1) List.length_append

theorem Node.size_or : (Node.or left right).size = left.size + right.size + 1 :=
  congrArg (· + 1) List.length_append

theorem Node.size_index : (Node.index left right).size = left.size + right.size + 1 :=
  congrArg (· + 1) List.length_append

theorem Node.size_compare (links : List (CompareOp × Node)) :
    (Node.compare left links).size = left.size + (linkSubtrees links).length + 1 :=
  congrArg (· + 1) List.length_append

theorem length_allSubtrees_cons :
    (allSubtrees (left :: items)).length = left.size + (allSubtrees items).length := List.length_append

theorem length_linkSubtrees_cons (op : CompareOp) (links : List (CompareOp × Node)) :
    (linkSubtrees ((op, left) :: links)).length = left.size + (linkSubtrees links).length :=
  List.length_append

end

/-- A node of a list is no greater than the list. -/
theorem size_le_allSubtrees {node : Node} {nodes : List Node} (h : node ∈ nodes) :
    node.size ≤ (allSubtrees nodes).length := by
  induction h with
  | head nodes =>
    rw [length_allSubtrees_cons]
    exact Nat.le_add_right _ _
  | tail _ _ ih =>
    rw [length_allSubtrees_cons]
    exact Nat.le_trans ih (Nat.le_add_left _ _)

theorem size_le_linkSubtrees {link : CompareOp × Node} {links : List (CompareOp × Node)} (h : link ∈ links) :
    link.2.size ≤ (linkSubtrees links).length := by
  induction h with
  | head links =>
    rw [length_linkSubtrees_cons]
    exact Nat.le_add_right _ _
  | tail _ _ ih =>
    rw [length_linkSubtrees_cons]
    exact Nat.le_trans ih (Nat.le_add_left _ _)

mutual

/-- The trees in a tree have no more constructors than the tree. -/
theorem Node.size_le_of_mem {sub : Node} : ∀ node : Node, sub ∈ node.subtrees → sub.size ≤ node.size
  | .literal _, h | .var, h => by
    rw [Node.subtrees, List.mem_singleton] at h
    exact Nat.le_of_eq (congrArg Node.size h)
  | .list items, h | .call _ items, h => by
    rw [Node.subtrees, List.mem_cons] at h
    rcases h with rfl | h
    · exact Nat.le_refl _
    · exact Nat.le_succ_of_le (size_le_of_mem_allSubtrees items h)
  | .neg operand, h | .not operand, h => by
    rw [Node.subtrees, List.mem_cons] at h
    rcases h with rfl | h
    · exact Nat.le_refl _
    · exact Nat.le_succ_of_le (Node.size_le_of_mem operand h)
  | .binary _ left right, h | .and left right, h | .or left right, h | .index left right, h => by
    rw [Node.subtrees, List.mem_cons, List.mem_append] at h
    rcases h with rfl | h | h
    · exact Nat.le_refl _
    · have hleft := Node.size_le_of_mem left h
      simp only [Node.size_binary, Node.size_and, Node.size_or, Node.size_index]
      omega
    · have hright := Node.size_le_of_mem right h
      simp only [Node.size_binary, Node.size_and, Node.size_or, Node.size_index]
      omega
  | .compare first rest, h => by
    rw [Node.subtrees, List.mem_cons, List.mem_append] at h
    rcases h with rfl | h | h
    · exact Nat.le_refl _
    · have hfirst := Node.size_le_of_mem first h
      rw [Node.size_compare]
      omega
    · have hrest := size_le_of_mem_linkSubtrees rest h
      rw [Node.size_compare]
      omega

/-- What stands inside a list of nodes is no greater than the list. -/
theorem size_le_of_mem_allSubtrees {sub : Node} : ∀ nodes : List Node,
    sub ∈ allSubtrees nodes → sub.size ≤ (allSubtrees nodes).length
  | [], h => by cases h
  | node :: nodes, h => by
    rw [allSubtrees, List.mem_append] at h
    rw [length_allSubtrees_cons]
    rcases h with h | h
    · exact Nat.le_trans (Node.size_le_of_mem node h) (Nat.le_add_right _ _)
    · exact Nat.le_trans (size_le_of_mem_allSubtrees nodes h) (Nat.le_add_left _ _)

theorem size_le_of_mem_linkSubtrees {sub : Node} : ∀ links : List (CompareOp × Node),
    sub ∈ linkSubtrees links → sub.size ≤ (linkSubtrees links).length
  | [], h => by cases h
  | (_, node) :: links, h => by
    rw [linkSubtrees, List.mem_append] at h
    rw [length_linkSubtrees_cons]
    rcases h with h | h
    · exact Nat.le_trans (Node.size_le_of_mem node h) (Nat.le_add_right _ _)
    · exact Nat.le_trans (size_le_of_mem_linkSubtrees links h) (Nat.le_add_left _ _)

end

/-- An operator adds one node to those of its operands. -/
theorem Joins.size {p : Phrase} {token : Token} {build : Node → Node → Node} (h : Joins p token build)
    (a b : Node) : (build a b).size = a.size + b.size + 1 := by
  cases h <;> simp only [Node.size_or, Node.size_and, Node.size_binary]

/-- Every constructor is there because of a token of its own. -/
theorem Derives.size_le {n : Nat} {p : Phrase} {ts : List Token} {t : Node} (h : Derives n p ts t) :
    t.size ≤ ts.length := by
  -- a link has the token of its operator besides, which pays for the constructor of the whole chain
  induction h using @Derives.rec _
    (fun _ ts links _ => (linkSubtrees links).length + links.length ≤ ts.length)
    (fun _ ts items _ => (allSubtrees items).length ≤ ts.length) with
  | single _ _ ih => exact ih
  | join _ hjoin _ _ iha ihb =>
    rw [hjoin.size, List.length_append, List.length_cons]
    omega
  | not _ ih | negative _ ih => exact Nat.succ_le_succ ih
  | positive _ ih => exact Nat.le_succ_of_le ih
  | comparison _ _ iha ihlinks =>
    rw [List.length_cons] at ihlinks
    rw [Node.size_compare, List.length_append]
    omega
  | power _ _ iha ihb =>
    rw [Node.size_binary, List.length_append, List.length_cons]
    omega
  | index _ _ iha ihb =>
    rw [Node.size_index, List.length_append, List.length_cons]
    simp only [List.length_append, List.length_cons]
    omega
  | stands h => cases h <;> exact Nat.le_refl _
  | group _ ih =>
    simp only [List.length_append, List.length_cons]
    omega
  | list _ ih =>
    rw [Node.size_list]
    simp only [List.length_append, List.length_cons]
    omega
  | call _ _ _ ih =>
    rw [Node.size_call]
    simp only [List.length_append, List.length_cons]
    omega
  | done | nil => exact Nat.le_refl _
  | link op _ _ ih ihlinks =>
    have hpos := op.tokens_pos
    rw [length_linkSubtrees_cons]
    simp only [List.length_append, List.length_cons]
    omega
  | last _ ih =>
    rw [length_allSubtrees_cons]
    exact ih
  | cons _ _ ih ihitems =>
    rw [length_allSubtrees_cons, List.length_append, List.length_cons]
    omega

/-! ## Frames of the evaluator -/

/-- An evaluation that may not come to an end. -/
abbrev Bounded (α : Type) := ExceptT EvalError Option α

/-- An evaluation that has come to an end. -/
def ended {α : Type} (outcome : Outcome α) : Bounded α := some outcome

/-- Whether each link of a chain holds, with something that evaluates trees. -/
def linksBy (evaluate : Node → Bounded Value) (left : Value) : List (CompareOp × Node) → Bounded Value
  | [] => return .bool true
  | (op, node) :: links => do
    let right ← evaluate node
    if ← ended (holds op left right) then linksBy evaluate right links
    else return .bool false

/-- One call of the evaluator, with something that evaluates the trees below. -/
def Node.evalBy (evaluate : Node → Bounded Value) (x : Value) : Node → Bounded Value
  | .literal v => return v
  | .var => return x
  | .list items => return .array (← items.mapM evaluate)
  | .neg operand => do ended (negate (← evaluate operand))
  | .not operand => return .bool (!(← evaluate operand).isTruthy)
  | .and left right => do
    let v ← evaluate left
    if v.isTruthy then evaluate right else return v
  | .or left right => do
    let v ← evaluate left
    if v.isTruthy then return v else evaluate right
  | .binary op left right => do
    let a ← evaluate left
    let b ← evaluate right
    ended (Expr.binary op a b)
  | .compare first rest => do linksBy evaluate (← evaluate first) rest
  | .index target place => do
    let v ← evaluate target
    let i ← evaluate place
    ended (indexed v i)
  | .call function arguments => do ended (Expr.call function (← arguments.mapM evaluate))

/-- The value of a tree, evaluated by calls that are nested no deeper than a number of frames. -/
def evalWithin (x : Value) : (frames : Nat) → Node → Bounded Value
  | 0 => fun _ => none
  | frames + 1 => Node.evalBy (evalWithin x frames) x

theorem ended_ok_bind {α β : Type} (a : α) (k : α → Bounded β) : ended (.ok a) >>= k = k a := rfl

/-- A list of nodes ends in the bounded evaluator as it does in the other one if each of them does. -/
theorem mapM_eq_ended {x : Value} {evaluate : Node → Bounded Value} {nodes : List Node}
    (h : ∀ node ∈ nodes, evaluate node = ended (node.eval x)) :
    nodes.mapM evaluate = ended (evalAll x nodes) := by
  induction nodes with
  | nil => rfl
  | cons node nodes ih =>
    rw [List.forall_mem_cons] at h
    rw [List.mapM_cons, h.1, ih h.2, evalAll]
    cases node.eval x with
    | error e => rfl
    | ok v => cases evalAll x nodes <;> rfl

/-- A chain ends in the bounded evaluator as it does in the other one if each operand does. -/
theorem linksBy_eq_ended {x left : Value} {evaluate : Node → Bounded Value}
    {links : List (CompareOp × Node)} (h : ∀ link ∈ links, evaluate link.2 = ended (link.2.eval x)) :
    linksBy evaluate left links = ended (evalLinks x left links) := by
  induction links generalizing left with
  | nil => rfl
  | cons link links ih =>
    obtain ⟨op, node⟩ := link
    rw [List.forall_mem_cons] at h
    rw [linksBy, h.1, evalLinks]
    cases node.eval x with
    | error e => rfl
    | ok right =>
      simp only [ended_ok_bind]
      cases holds op left right with
      | error e => rfl
      | ok holds =>
        cases holds with
        | false => rfl
        | true => exact ih h.2

/-- One call is right if the calls that it makes are, and those are for trees with fewer constructors. -/
theorem Node.evalBy_eq_ended {x : Value} {evaluate : Node → Bounded Value} {node : Node}
    (h : ∀ below : Node, below.size < node.size → evaluate below = ended (below.eval x)) :
    node.evalBy evaluate x = ended (node.eval x) := by
  cases node with
  | literal v => rfl
  | var => rfl
  | list items =>
    -- a list counts itself, so its items are smaller
    have hbelow (item : Node) (hmem : item ∈ items) : evaluate item = ended (item.eval x) :=
      h item (Nat.lt_succ_of_le (size_le_allSubtrees hmem))
    rw [Node.evalBy, Node.eval, mapM_eq_ended hbelow]
    cases evalAll x items <;> rfl
  | neg operand =>
    rw [Node.evalBy, Node.eval, h operand (Nat.lt_succ_self _)]
    cases operand.eval x <;> rfl
  | not operand =>
    rw [Node.evalBy, Node.eval, h operand (Nat.lt_succ_self _)]
    cases operand.eval x <;> rfl
  | binary op left right =>
    have hsize := Node.size_binary left right op
    -- the right operand is called only once the left one has a value
    rw [Node.evalBy, Node.eval, h left (by omega)]
    cases left.eval x with
    | error e => rfl
    | ok a =>
      rw [ended_ok_bind, h right (by omega)]
      cases right.eval x <;> rfl
  | compare first rest =>
    have hsize := Node.size_compare first rest
    rw [Node.evalBy, Node.eval, h first (by omega)]
    cases first.eval x with
    | error e => rfl
    | ok v =>
      refine linksBy_eq_ended fun link hlink => h link.2 ?_
      have hle := size_le_linkSubtrees hlink
      omega
  | and left right =>
    have hsize := Node.size_and left right
    rw [Node.evalBy, Node.eval, h left (by omega)]
    cases left.eval x with
    | error e => rfl
    | ok v =>
      simp only [ended_ok_bind, h right (by omega)]
      split <;> rfl
  | or left right =>
    have hsize := Node.size_or left right
    rw [Node.evalBy, Node.eval, h left (by omega)]
    cases left.eval x with
    | error e => rfl
    | ok v =>
      simp only [ended_ok_bind, h right (by omega)]
      split <;> rfl
  | index target place =>
    have hsize := Node.size_index target place
    rw [Node.evalBy, Node.eval, h target (by omega)]
    cases target.eval x with
    | error e => rfl
    | ok v =>
      rw [ended_ok_bind, h place (by omega)]
      cases place.eval x <;> rfl
  | call function arguments =>
    have hbelow (argument : Node) (hmem : argument ∈ arguments) :
        evaluate argument = ended (argument.eval x) := h argument (Nat.lt_succ_of_le (size_le_allSubtrees hmem))
    rw [Node.evalBy, Node.eval, mapM_eq_ended hbelow]
    cases evalAll x arguments <;> rfl

/-- As many frames as a tree has constructors are enough to evaluate it. -/
theorem evalWithin_eq_ended {x : Value} {frames : Nat} {node : Node} (h : node.size ≤ frames) :
    evalWithin x frames node = ended (node.eval x) := by
  -- a call takes one frame and hands the others on, to trees that are smaller by one at least
  induction frames generalizing node with
  | zero =>
    have hpos : 0 < node.size := node.size_pos
    omega
  | succ frames ih => exact Node.evalBy_eq_ended fun below hbelow => ih (by omega)

example : evalWithin .null 1 (.neg .var) = none := rfl

/-! ## The limits -/

/-- What is accepted has a list of tokens that is not too long, and the tree is derived from it. -/
theorem derives_of_parse {source : String} {expr : Expr} (h : Expr.parse source = .ok expr) :
    ∃ tokens, scan source.toList = .ok tokens ∧ tokens.length ≤ 1024 ∧ Derives 64 .or tokens expr.root := by
  unfold Expr.parse parseNode at h
  split at h
  · cases h
  · next root hroot =>
    cases h
    split at hroot
    · cases hroot
    · next tokens hscan => exact ⟨tokens, hscan, parseTokens_sound hroot⟩

/-- **The limits bound the recursions.** The scanner ends after no more rounds than there are characters,
and finds no more tokens than there are characters. On a list of 1024 tokens or fewer the parser ends, with
a tree or an error; its counter is never above 64, and each part of the parser that returns does so with
the counter where it was. No tree in an accepted expression has more constructors than the expression has
tokens, and 1024 frames are enough to evaluate it, for every value. -/
theorem recursions_bounded :
    (∀ source : String, scanWithin source.length source.toList = some (scan source.toList) ∧
      ∀ tokens, scan source.toList = .ok tokens → tokens.length ≤ source.length) ∧
    (∀ tokens : List Token, tokens.length ≤ 1024 → ∀ calls, 16 * tokens.length + 12 ≤ calls →
      (∃ rest values, Counting.expression calls ⟨tokens, 0, []⟩ =
        some (parseTokens tokens, ⟨rest, 0, values⟩) ∧ ∀ v ∈ values, v ≤ 64) ∧
      ∀ phrase depth values, depth ≤ 64 →
        ∃ outcome cursor, Counting.read calls phrase ⟨tokens, depth, values⟩ = some (outcome, cursor)) ∧
    (∀ calls, Counting.AllKeep calls) ∧
    ∀ source expr, Expr.parse source = .ok expr → ∃ tokens, scan source.toList = .ok tokens ∧
      tokens.length ≤ 1024 ∧ (∀ node ∈ expr.root.subtrees, node.size ≤ tokens.length) ∧
      ∀ x, evalWithin x 1024 expr.root = some (expr.eval x) := by
  refine ⟨fun source => ⟨?_, fun tokens hscan => ?_⟩, fun tokens hlength calls hcalls => ⟨?_, ?_⟩,
    Counting.keeps, fun source expr h => ?_⟩
  · exact scanWithin_eq (Nat.le_of_eq String.length_toList)
  · rw [← String.length_toList]
    exact length_of_scan hscan
  · exact Counting.expression_ends hlength hcalls
  · intro phrase depth values hdepth
    obtain ⟨outcome, rest, values', hrun, -⟩ :=
      Counting.read_agrees phrase hdepth (Nat.le_add_right_of_le (Nat.le_of_succ_le hcalls)) values
    exact ⟨outcome, _, hrun⟩
  · obtain ⟨tokens, hscan, hlength, hderives⟩ := derives_of_parse h
    have hsize := hderives.size_le
    refine ⟨tokens, hscan, hlength, fun node hnode => ?_, fun x => ?_⟩
    · exact Nat.le_trans (Node.size_le_of_mem _ hnode) hsize
    · exact evalWithin_eq_ended (Nat.le_trans hsize hlength)

/-- An expression of nine tokens is a tree of six constructors. -/
theorem recursions_bounded_signed :
    ∃ expr, Expr.parse "-(x[1] + 2)" = .ok expr ∧ expr.root.size = 6 ∧
      (∃ tokens, scan "-(x[1] + 2)".toList = .ok tokens ∧ tokens.length = 9 ∧
        (∀ node ∈ expr.root.subtrees, node.size ≤ 9) ∧
        ∃ rest values, Counting.expression 156 ⟨tokens, 0, []⟩ = some (.ok expr.root, ⟨rest, 0, values⟩) ∧
          ∀ v ∈ values, v ≤ 64) ∧
      ∀ x, evalWithin x 1024 expr.root = some (expr.eval x) := by
  have h : Expr.parse "-(x[1] + 2)" = .ok ⟨"-(x[1] + 2)",
      .neg (.binary .add (.index .var (.literal (.integer 1))) (.literal (.integer 2)))⟩ := by
    with_unfolding_all rfl
  obtain ⟨-, hparser, -, hevaluator⟩ := recursions_bounded
  obtain ⟨tokens, hscan, hlength, hsize, heval⟩ := hevaluator _ _ h
  have htokens : tokens = [.symbol .minus, .symbol .openParen, .word "x", .symbol .openBracket, .integer 1,
      .symbol .closeBracket, .symbol .plus, .integer 2, .symbol .closeParen] := by
    refine Except.ok.inj (hscan.symm.trans ?_)
    with_unfolding_all rfl
  subst htokens
  exact ⟨_, h, rfl, ⟨_, hscan, rfl, hsize, (hparser _ hlength 156 (Nat.le_refl _)).1⟩, heval⟩

end LayeredConfig.Expr
