import LayeredConfig.Expr.Eval
import LayeredConfig.Proofs.Expr.Parser
import LayeredConfig.Proofs.Expr.Spelling

/-!
# Expression trees as text

`Node.render` writes an expression tree as a text that parses to the tree again (`parse_render`). Every
operand that is itself an operation stands in parentheses; a `Style` may put more of them around operands,
and around what stands between brackets or commas anyway. `Node.nesting` counts the levels that the parts
of the text are nested in, as the parser counts them.
-/

namespace LayeredConfig.Expr

/-! ## Writing a tree -/

/-- The token of a literal. Floats have none, and no integer has a sign of its own. -/
def literalToken? : Value → Option Token
  | .null => some (.word "null")
  | .bool b => some (.word (if b then "true" else "false"))
  | .integer i => if 0 ≤ i.toInt then some (.integer i) else none
  | .string s => some (.string s)
  | _ => none

/-- The symbol of an arithmetic operator. -/
def BinaryOp.symbol : BinaryOp → Symbol
  | add => .plus
  | sub => .minus
  | mul => .star
  | div => .slash
  | floorDiv => .floorDivide
  | mod => .percent
  | pow => .power

/-- Whether the tree is an operation on other trees. -/
def Node.isOperation : Node → Bool
  | neg _ | not _ | binary _ _ _ | compare _ _ | and _ _ | or _ _ => true
  | _ => false

/-- Where a tree gets parentheses: as an operand at least if it is an operation, and perhaps as an index,
an item or an argument. -/
structure Style where
  operand : Node → Bool
  enclosed : Node → Bool
  operand_of_isOperation : ∀ node, node.isOperation = true → operand node = true

/-- The tokens with parentheses around them, if they get any. -/
def grouped (group : Bool) (tokens : List Token) : List Token :=
  if group then .symbol .openParen :: tokens ++ [.symbol .closeParen] else tokens

mutual

/-- The tokens of a tree. -/
def Node.tokens (style : Style) : Node → List Token
  | .literal v => (literalToken? v).toList
  | .var => [.word "x"]
  | .list items => .symbol .openBracket :: itemTokens style items ++ [.symbol .closeBracket]
  | .neg a => .symbol .minus :: grouped (style.operand a) (a.tokens style)
  | .not a => .word "not" :: grouped (style.operand a) (a.tokens style)
  | .binary op a b =>
    grouped (style.operand a) (a.tokens style) ++
      .symbol op.symbol :: grouped (style.operand b) (b.tokens style)
  | .compare a links => grouped (style.operand a) (a.tokens style) ++ linkTokens style links
  | .and a b =>
    grouped (style.operand a) (a.tokens style) ++
      .word "and" :: grouped (style.operand b) (b.tokens style)
  | .or a b =>
    grouped (style.operand a) (a.tokens style) ++
      .word "or" :: grouped (style.operand b) (b.tokens style)
  | .index a b =>
    grouped (style.operand a) (a.tokens style) ++
      .symbol .openBracket :: grouped (style.enclosed b) (b.tokens style) ++ [.symbol .closeBracket]
  | .call f arguments =>
    .word f.name :: .symbol .openParen :: itemTokens style arguments ++ [.symbol .closeParen]

/-- The tokens of items, with commas between them. -/
def itemTokens (style : Style) : List Node → List Token
  | [] => []
  | item :: items =>
    grouped (style.enclosed item) (item.tokens style) ++
      if items.isEmpty then [] else .symbol .comma :: itemTokens style items

/-- The tokens of the links of a chain of comparisons. -/
def linkTokens (style : Style) : List (CompareOp × Node) → List Token
  | [] => []
  | (op, a) :: links =>
    op.tokens ++ grouped (style.operand a) (a.tokens style) ++ linkTokens style links

end

/-- The text of a tree. -/
def Node.render (style : Style) (node : Node) : String := unwords (node.tokens style)

/-- The levels of a part that may stand in parentheses. -/
def deepened (group : Bool) (levels : Nat) : Nat := if group then levels + 1 else levels

mutual

/-- The levels that the parts of the text of a tree are nested in. Parentheses are a level; an operand of
`not` or of a sign, an exponent, an index, an item and an argument each lie one level deeper as well. -/
def Node.nesting (style : Style) : Node → Nat
  | .literal _ | .var => 0
  | .list items => itemsNesting style items
  | .neg a => deepened (style.operand a) (a.nesting style) + 1
  | .not a => deepened (style.operand a) (a.nesting style) + 1
  | .binary .pow a b =>
    max (deepened (style.operand a) (a.nesting style))
      (deepened (style.operand b) (b.nesting style) + 1)
  | .binary _ a b =>
    max (deepened (style.operand a) (a.nesting style)) (deepened (style.operand b) (b.nesting style))
  | .compare a links => max (deepened (style.operand a) (a.nesting style)) (linksNesting style links)
  | .and a b =>
    max (deepened (style.operand a) (a.nesting style)) (deepened (style.operand b) (b.nesting style))
  | .or a b =>
    max (deepened (style.operand a) (a.nesting style)) (deepened (style.operand b) (b.nesting style))
  | .index a b =>
    max (deepened (style.operand a) (a.nesting style))
      (deepened (style.enclosed b) (b.nesting style) + 1)
  | .call _ arguments => itemsNesting style arguments

/-- The levels that the parts of items are nested in. -/
def itemsNesting (style : Style) : List Node → Nat
  | [] => 0
  | item :: items =>
    max (deepened (style.enclosed item) (item.nesting style) + 1) (itemsNesting style items)

/-- The levels that the parts of links are nested in. -/
def linksNesting (style : Style) : List (CompareOp × Node) → Nat
  | [] => 0
  | (_, a) :: links =>
    max (deepened (style.operand a) (a.nesting style)) (linksNesting style links)

end

/-- The trees that can be written: every literal has a token, every chain of comparisons a link, and every
call a number of arguments that its function accepts. -/
inductive Node.Printable : Node → Prop
  | literal {v} (h : (literalToken? v).isSome) : Printable (.literal v)
  | var : Printable .var
  | list {items} (h : ∀ item ∈ items, Printable item) : Printable (.list items)
  | neg {a} (h : Printable a) : Printable (.neg a)
  | not {a} (h : Printable a) : Printable (.not a)
  | binary {op a b} (ha : Printable a) (hb : Printable b) : Printable (.binary op a b)
  | compare {a link links} (ha : Printable a) (h : ∀ other ∈ link :: links, Printable other.2) :
      Printable (.compare a (link :: links))
  | and {a b} (ha : Printable a) (hb : Printable b) : Printable (.and a b)
  | or {a b} (ha : Printable a) (hb : Printable b) : Printable (.or a b)
  | index {a b} (ha : Printable a) (hb : Printable b) : Printable (.index a b)
  | call {f arguments} (haccepts : f.accepts arguments.length = true)
      (h : ∀ argument ∈ arguments, Printable argument) : Printable (.call f arguments)

variable {style : Style}

/-! ## The tokens are legible -/

/-- The name of a function is legible. -/
theorem legible_name (f : Builtin) : (Token.word f.name).Legible := by
  refine legible_word (List.mem_append_right _ (List.mem_map_of_mem ?_))
  cases f <;> decide

theorem legible_compareOp (op : CompareOp) : ∀ token ∈ op.tokens, token.Legible := by
  have hnot : (Token.word "not").Legible := legible_word (by decide)
  have hin : (Token.word "in").Legible := legible_word (by decide)
  cases op <;> simp [CompareOp.tokens, legible_symbol, hnot, hin]

/-- The token of a literal is read back, and stands for the literal. -/
theorem legible_stands_literal {v : Value} {token : Token} (h : literalToken? v = some token) :
    token.Legible ∧ Stands token (.literal v) := by
  cases v with
  | null =>
    cases h
    exact ⟨legible_word (by decide), .nullWord (.inl rfl)⟩
  | bool b =>
    cases h
    cases b with
    | false => exact ⟨legible_word (by decide), .falseWord (.inl rfl)⟩
    | true => exact ⟨legible_word (by decide), .trueWord (.inl rfl)⟩
  | integer i =>
    simp only [literalToken?] at h
    split at h
    · next hsign =>
      cases h
      exact ⟨legible_integer hsign, .integer i⟩
    · cases h
  | string s =>
    cases h
    exact ⟨legible_string s, .string s⟩
  | _ => cases h

/-- Parentheses are legible, so a legible part stays so in them. -/
theorem legible_grouped {group : Bool} {tokens : List Token} (h : ∀ token ∈ tokens, token.Legible) :
    ∀ token ∈ grouped group tokens, token.Legible := by
  cases group with
  | false => exact h
  | true => simpa [grouped, legible_symbol, or_imp, forall_and] using h

/-- Commas are legible, so legible items are so together. -/
theorem legible_items {items : List Node}
    (h : ∀ item ∈ items, ∀ token ∈ item.tokens style, token.Legible) :
    ∀ token ∈ itemTokens style items, token.Legible := by
  induction items with
  | nil => simp [itemTokens]
  | cons item items ih =>
    obtain ⟨hitem, hitems⟩ := List.forall_mem_cons.1 h
    rw [itemTokens, List.forall_mem_append]
    refine ⟨legible_grouped hitem, ?_⟩
    split
    · simp
    · exact List.forall_mem_cons.2 ⟨legible_symbol _, ih hitems⟩

theorem legible_links {links : List (CompareOp × Node)}
    (h : ∀ link ∈ links, ∀ token ∈ link.2.tokens style, token.Legible) :
    ∀ token ∈ linkTokens style links, token.Legible := by
  induction links with
  | nil => simp [linkTokens]
  | cons link links ih =>
    obtain ⟨hlink, hlinks⟩ := List.forall_mem_cons.1 h
    rw [linkTokens, List.forall_mem_append, List.forall_mem_append]
    exact ⟨⟨legible_compareOp link.1, legible_grouped hlink⟩, ih hlinks⟩

/-- Every token of the text of a tree is read back as itself. -/
theorem Node.Printable.legible {node : Node} (h : node.Printable) :
    ∀ token ∈ node.tokens style, token.Legible := by
  induction h with
  | literal h =>
    obtain ⟨token, htoken⟩ := Option.isSome_iff_exists.1 h
    simpa [Node.tokens, htoken] using (legible_stands_literal htoken).1
  | var => simpa [Node.tokens] using legible_word (w := "x") (by decide)
  | list _ ih => simpa [Node.tokens, legible_symbol, or_imp, forall_and] using legible_items ih
  | neg _ ih =>
    simpa [Node.tokens, legible_symbol] using legible_grouped ih
  | not _ ih =>
    simpa [Node.tokens, legible_word (w := "not") (by decide)] using legible_grouped ih
  | binary _ _ iha ihb | index _ _ iha ihb =>
    simpa [Node.tokens, legible_symbol, or_imp, forall_and] using
      ⟨legible_grouped iha, legible_grouped ihb⟩
  | and _ _ iha ihb =>
    simpa [Node.tokens, legible_word (w := "and") (by decide), or_imp, forall_and] using
      ⟨legible_grouped iha, legible_grouped ihb⟩
  | or _ _ iha ihb =>
    simpa [Node.tokens, legible_word (w := "or") (by decide), or_imp, forall_and] using
      ⟨legible_grouped iha, legible_grouped ihb⟩
  | compare _ _ iha ih =>
    exact List.forall_mem_append.2 ⟨legible_grouped iha, legible_links ih⟩
  | call _ _ ih =>
    simpa [Node.tokens, legible_symbol, legible_name, or_imp, forall_and] using legible_items ih

/-! ## The tokens are phrases -/

/-- How tight a phrase binds. -/
def Phrase.rung : Phrase → Nat
  | or => 0
  | and => 1
  | not => 2
  | comparison => 3
  | additive => 4
  | term => 5
  | unary => 6
  | power => 7
  | postfixed => 8
  | atom => 9

theorem Phrase.rung_le (p : Phrase) : p.rung ≤ Phrase.atom.rung := by
  cases p <;> decide

/-- A tighter phrase is one rung up. -/
theorem Phrase.rung_of_tighter {p q : Phrase} (h : p.tighter? = some q) : q.rung = p.rung + 1 := by
  cases p <;> cases h <;> rfl

/-- Only an atom has no tighter phrase. -/
theorem Phrase.eq_atom {p : Phrase} (h : p.tighter? = none) : p = .atom := by
  cases p <;> first | rfl | cases h

/-- A phrase is a phrase of every kind that binds no tighter. -/
theorem Derives.loosen {n : Nat} {p q : Phrase} {ts : List Token} {t : Node} (h : Derives n p ts t)
    (hle : q.rung ≤ p.rung) : Derives n q ts t := by
  obtain ⟨k, hk⟩ := Nat.exists_eq_add_of_le hle
  clear hle
  induction k generalizing q with
  | zero =>
    obtain rfl : p = q := by cases p <;> cases q <;> first | rfl | cases hk
    exact h
  | succ k ih =>
    cases htighter : q.tighter? with
    | none =>
      obtain rfl := Phrase.eq_atom htighter
      have hle := p.rung_le
      omega
    | some r =>
      have hrung := Phrase.rung_of_tighter htighter
      exact .single htighter (ih (by omega))

/-- The kind of phrase that the text of an arithmetic operation is. -/
def BinaryOp.phrase : BinaryOp → Phrase
  | add | sub => .additive
  | mul | div | floorDiv | mod => .term
  | pow => .power

/-- The kind of phrase that the text of a tree is. -/
def Node.phrase : Node → Phrase
  | literal _ | var | list _ | call _ _ => .atom
  | index _ _ => .postfixed
  | binary op _ _ => op.phrase
  | neg _ => .unary
  | compare _ _ => .comparison
  | not _ => .not
  | and _ _ => .and
  | or _ _ => .or

/-- What is no operation binds as tight as an operator may ask for. -/
theorem Node.rung_le_phrase {node : Node} (h : node.isOperation = false) :
    Phrase.postfixed.rung ≤ node.phrase.rung := by
  cases node with
  | literal | var | list | call => exact Nat.le_succ _
  | index => exact Nat.le_refl _
  | _ => cases h

/-- The tokens of a tree are a phrase with this tree, as soon as there are levels enough. -/
def Node.Derived (style : Style) (node : Node) : Prop :=
  ∀ n, node.nesting style ≤ n → Derives n node.phrase (node.tokens style) node

/-- What lies a level deeper has a level less for its parts. -/
theorem exists_inner {levels n : Nat} (h : levels + 1 ≤ n) : ∃ m, n = m + 1 ∧ levels ≤ m := by
  cases n with
  | zero => exact absurd h (Nat.not_succ_le_zero _)
  | succ m => exact ⟨m, rfl, Nat.le_of_succ_le_succ h⟩

/-- A part is a phrase of the kind that its place asks for, bare where it binds tightly enough and as an
atom in parentheses. -/
theorem derives_grouped {node : Node} (h : node.Derived style) {group : Bool} {n : Nat} {p : Phrase}
    (hn : deepened group (node.nesting style) ≤ n) (hbare : group = false → p.rung ≤ node.phrase.rung) :
    Derives n p (grouped group (node.tokens style)) node := by
  cases group with
  | false => exact (h n hn).loosen (hbare rfl)
  | true =>
    obtain ⟨m, rfl, hm⟩ := exists_inner hn
    have hinner : Derives m .or (node.tokens style) node := (h m hm).loosen (Nat.zero_le _)
    exact (Derives.group hinner).loosen p.rung_le

/-- An operand is a phrase as tight as an operator may ask for. -/
theorem derives_operand {node : Node} (h : node.Derived style) {n : Nat} {p : Phrase}
    (hn : deepened (style.operand node) (node.nesting style) ≤ n)
    (hp : p.rung ≤ Phrase.postfixed.rung := by decide) :
    Derives n p (grouped (style.operand node) (node.tokens style)) node := by
  refine derives_grouped h hn fun hgroup => Nat.le_trans hp (Node.rung_le_phrase ?_)
  refine eq_false_of_ne_true fun hoperation => ?_
  rw [style.operand_of_isOperation node hoperation] at hgroup
  cases hgroup

/-- A part between brackets or commas is an expression, with parentheses or without. -/
theorem derives_enclosed {node : Node} (h : node.Derived style) {n : Nat}
    (hn : deepened (style.enclosed node) (node.nesting style) ≤ n) :
    Derives n .or (grouped (style.enclosed node) (node.tokens style)) node :=
  derives_grouped h hn fun _ => Nat.zero_le _

/-- Items with commas between them are items of the grammar. -/
theorem derives_items {items : List Node} (h : ∀ item ∈ items, item.Derived style) {n : Nat}
    (hn : itemsNesting style items ≤ n) : DerivesItems n (itemTokens style items) items := by
  induction items with
  | nil => exact .nil
  | cons item items ih =>
    obtain ⟨hitem, hitems⟩ := List.forall_mem_cons.1 h
    obtain ⟨hfirst, hothers⟩ := Nat.max_le.1 hn
    obtain ⟨m, rfl, hm⟩ := exists_inner hfirst
    have hderives := derives_enclosed hitem hm
    rw [itemTokens]
    cases items with
    | nil => simpa using DerivesItems.last hderives
    | cons next items => exact .cons hderives (ih hitems hothers)

theorem derives_links {links : List (CompareOp × Node)} (h : ∀ link ∈ links, link.2.Derived style)
    {n : Nat} (hn : linksNesting style links ≤ n) : DerivesLinks n (linkTokens style links) links := by
  induction links with
  | nil => exact .done
  | cons link links ih =>
    obtain ⟨hlink, hlinks⟩ := List.forall_mem_cons.1 h
    obtain ⟨hfirst, hothers⟩ := Nat.max_le.1 hn
    exact .link link.1 (derives_operand hlink hfirst) (ih hlinks hothers)

/-- All arithmetic operators but the power join phrases from left to right. -/
theorem BinaryOp.joins {op : BinaryOp} (h : op ≠ .pow) :
    ∃ q, op.phrase.tighter? = some q ∧ q.rung ≤ Phrase.postfixed.rung ∧
      op.phrase.rung ≤ Phrase.postfixed.rung ∧ Joins op.phrase (.symbol op.symbol) (.binary op) := by
  cases op with
  | add => exact ⟨_, rfl, by decide, by decide, .add⟩
  | sub => exact ⟨_, rfl, by decide, by decide, .sub⟩
  | mul => exact ⟨_, rfl, by decide, by decide, .mul⟩
  | div => exact ⟨_, rfl, by decide, by decide, .div⟩
  | floorDiv => exact ⟨_, rfl, by decide, by decide, .floorDiv⟩
  | mod => exact ⟨_, rfl, by decide, by decide, .mod⟩
  | pow => exact absurd rfl h

/-- An operation is a phrase of its operator: its operands, in parentheses unless they are atoms, fit on
both sides. -/
theorem derived_binary (op : BinaryOp) {a b : Node} (ha : a.Derived style) (hb : b.Derived style) :
    (Node.binary op a b).Derived style := by
  intro n hn
  by_cases hop : op = .pow
  · subst hop
    obtain ⟨hleft, hright⟩ := Nat.max_le.1 hn
    obtain ⟨m, rfl, hm⟩ := exists_inner hright
    exact .power (derives_operand ha hleft) (derives_operand hb hm)
  · obtain ⟨q, htighter, hq, hp, hjoins⟩ := BinaryOp.joins hop
    rw [Node.nesting] at hn
    · obtain ⟨hleft, hright⟩ := Nat.max_le.1 hn
      exact .join htighter hjoins (derives_operand ha hleft hp) (derives_operand hb hright hq)
    · exact hop

/-- The text of a tree is a phrase with this tree. -/
theorem Node.Printable.derived {node : Node} (h : node.Printable) : node.Derived style := by
  induction h with
  | @literal v h =>
    obtain ⟨token, htoken⟩ := Option.isSome_iff_exists.1 h
    intro n _
    rw [Node.tokens, htoken]
    exact .stands (legible_stands_literal htoken).2
  | var => exact fun n _ => .stands .var
  | list _ ih => exact fun n hn => .list (derives_items ih hn)
  | neg _ ih =>
    intro n hn
    obtain ⟨m, rfl, hm⟩ := exists_inner hn
    exact .negative (derives_operand ih hm)
  | not _ ih =>
    intro n hn
    obtain ⟨m, rfl, hm⟩ := exists_inner hn
    exact .not (derives_operand ih hm)
  | binary _ _ iha ihb => exact derived_binary _ iha ihb
  | compare _ _ iha ih =>
    intro n hn
    obtain ⟨ha, hlinks⟩ := Nat.max_le.1 hn
    exact .comparison (derives_operand iha ha) (derives_links ih hlinks)
  | and _ _ iha ihb =>
    intro n hn
    obtain ⟨ha, hb⟩ := Nat.max_le.1 hn
    exact .join (p := .and) rfl .and (derives_operand iha ha) (derives_operand ihb hb)
  | or _ _ iha ihb =>
    intro n hn
    obtain ⟨ha, hb⟩ := Nat.max_le.1 hn
    exact .join (p := .or) rfl .or (derives_operand iha ha) (derives_operand ihb hb)
  | index _ _ iha ihb =>
    intro n hn
    obtain ⟨ha, hb⟩ := Nat.max_le.1 hn
    obtain ⟨m, rfl, hm⟩ := exists_inner hb
    exact .index (derives_operand iha ha) (derives_enclosed ihb hm)
  | call haccepts _ ih => exact fun n hn => .call _ haccepts (derives_items ih hn)

/-! ## Reading the text back -/

/-- **Printing and parsing.** The text of a tree parses to the tree, if it has at most 1024 tokens and at
most 64 levels of nesting. -/
theorem parse_render {node : Node} (h : node.Printable) (hlength : (node.tokens style).length ≤ maxTokens)
    (hnesting : node.nesting style ≤ maxDepth) :
    Expr.parse (node.render style) = .ok ⟨node.render style, node⟩ := by
  have hscan : scan (node.render style).toList = .ok (node.tokens style) := scan_unwords h.legible
  have hderives : Derives 64 .or (node.tokens style) node :=
    (h.derived 64 hnesting).loosen (Nat.zero_le _)
  have hparse : parseNode (node.render style) = .ok node := by
    rw [parseNode, hscan]
    exact parseTokens_complete hlength hderives
  rw [Expr.parse, hparse]

/-- No more parentheses than operands need. -/
def Style.sparse : Style := ⟨Node.isOperation, fun _ => false, fun _ h => h⟩

/-- A tree with a literal that needs escapes, a power of a negative base and a chain of comparisons. -/
def tangled : Node :=
  .compare (.binary .pow (.neg (.literal (.integer 2))) (.index .var (.or .var (.literal .null))))
    [(.notIn, .list [.literal (.string "\\\"é"), .call .round [.var, .literal (.integer 1)]]),
      (.le, .not (.literal (.bool true)))]

theorem printable_tangled : tangled.Printable := by
  refine .compare (.binary (.neg (.literal rfl)) (.index .var (.or .var (.literal rfl)))) ?_
  rw [List.forall_mem_cons, List.forall_mem_singleton]
  refine ⟨.list ?_, .not (.literal rfl)⟩
  rw [List.forall_mem_cons, List.forall_mem_singleton]
  refine ⟨.literal rfl, .call rfl ?_⟩
  rw [List.forall_mem_cons, List.forall_mem_singleton]
  exact ⟨.var, .literal rfl⟩

/-- Escapes, parentheses and the two words of `not in` survive. -/
theorem parse_tangled :
    tangled.render .sparse =
        "( ( - 2 ) ** x [ x or null ] ) not in [ \"\\\\\\\"é\" , round ( x , 1 ) ] <= ( not true )" ∧
      Expr.parse (tangled.render .sparse) = .ok ⟨tangled.render .sparse, tangled⟩ :=
  ⟨by decide, parse_render printable_tangled (by decide) (by decide)⟩

end LayeredConfig.Expr
