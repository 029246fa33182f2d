import LayeredConfig.Expr.Lexer
import LayeredConfig.Expr.Node

/-!
# The grammar of expressions

Which lists of tokens are which expression trees, said without a parser. Phrases form a ladder from the
loosest binding to the tightest (`Phrase.tighter?`): a phrase may always be a single tighter one. Four
rungs join phrases by operators from left to right (`Joins`):

    or       = and ("or" and)*
    and      = not ("and" not)*
    additive = term (("+" | "-") term)*
    term     = unary (("*" | "/" | "//" | "%") unary)*

The other rungs have rules of their own:

    not        = "not" not | comparison
    comparison = additive (cmp additive)*      cmp = == != < <= > >= in, not in
    unary      = ("-" | "+") unary | power
    power      = postfixed ["**" unary]
    postfixed  = atom ("[" or "]")*
    atom       = literal | "x" | "(" or ")" | "[" items "]" | function "(" items ")"

`Derives levels` bounds the nesting: an operand of `not` or of a sign, an exponent, a parenthesised or
indexing expression and each item or argument use up one of the levels.
-/

namespace LayeredConfig.Expr

/-- A kind of phrase. -/
inductive Phrase where
  | or
  | and
  | not
  | comparison
  | additive
  | term
  | unary
  | power
  | postfixed
  | atom
deriving DecidableEq, Repr

/-- The phrase that binds next tighter. -/
def Phrase.tighter? : Phrase → Option Phrase
  | or => some and
  | and => some not
  | not => some comparison
  | comparison => some additive
  | additive => some term
  | term => some unary
  | unary => some power
  | power => some postfixed
  | postfixed => some atom
  | atom => none

/-- The tokens that join two phrases, with the tree that they build. -/
inductive Joins : Phrase → Token → (Node → Node → Node) → Prop where
  | or : Joins .or (.word "or") .or
  | and : Joins .and (.word "and") .and
  | add : Joins .additive (.symbol .plus) (.binary .add)
  | sub : Joins .additive (.symbol .minus) (.binary .sub)
  | mul : Joins .term (.symbol .star) (.binary .mul)
  | div : Joins .term (.symbol .slash) (.binary .div)
  | floorDiv : Joins .term (.symbol .floorDivide) (.binary .floorDiv)
  | mod : Joins .term (.symbol .percent) (.binary .mod)

/-- The tokens of a comparison operator. -/
def CompareOp.tokens : CompareOp → List Token
  | eq => [.symbol .equal]
  | ne => [.symbol .notEqual]
  | lt => [.symbol .less]
  | le => [.symbol .atMost]
  | gt => [.symbol .greater]
  | ge => [.symbol .atLeast]
  | isIn => [.word "in"]
  | notIn => [.word "not", .word "in"]

/-- The tokens that are a phrase by themselves, with their tree. -/
inductive Stands : Token → Node → Prop where
  | integer (i : Int64) : Stands (.integer i) (.literal (.integer i))
  | float (x : Float) : Stands (.float x) (.literal (.float x))
  | string (s : String) : Stands (.string s) (.literal (.string s))
  | trueWord {w : String} (h : w = "true" ∨ w = "True") :
      Stands (.word w) (.literal (.bool true))
  | falseWord {w : String} (h : w = "false" ∨ w = "False") :
      Stands (.word w) (.literal (.bool false))
  | nullWord {w : String} (h : w = "null" ∨ w = "None") : Stands (.word w) (.literal .null)
  | var : Stands (.word "x") .var

mutual

/-- The tokens are a phrase of a kind with a tree, within a number of levels of nesting. -/
inductive Derives : (levels : Nat) → Phrase → List Token → Node → Prop where
  | single {n p q ts t} (h : p.tighter? = some q) : Derives n q ts t → Derives n p ts t
  | join {n p q ts us a b token build} (h : p.tighter? = some q) (hjoin : Joins p token build) :
      Derives n p ts a → Derives n q us b → Derives n p (ts ++ token :: us) (build a b)
  | not {n ts t} : Derives n .not ts t → Derives (n + 1) .not (.word "not" :: ts) (.not t)
  | comparison {n ts us a link links} :
      Derives n .additive ts a → DerivesLinks n us (link :: links) →
      Derives n .comparison (ts ++ us) (.compare a (link :: links))
  | negative {n ts t} :
      Derives n .unary ts t → Derives (n + 1) .unary (.symbol .minus :: ts) (.neg t)
  | positive {n ts t} : Derives n .unary ts t → Derives (n + 1) .unary (.symbol .plus :: ts) t
  | power {n ts us a b} :
      Derives (n + 1) .postfixed ts a → Derives n .unary us b →
      Derives (n + 1) .power (ts ++ .symbol .power :: us) (.binary .pow a b)
  | index {n ts us a b} :
      Derives (n + 1) .postfixed ts a → Derives n .or us b →
      Derives (n + 1) .postfixed (ts ++ .symbol .openBracket :: us ++ [.symbol .closeBracket])
        (.index a b)
  | stands {n token t} (h : Stands token t) : Derives n .atom [token] t
  | group {n ts t} :
      Derives n .or ts t →
      Derives (n + 1) .atom (.symbol .openParen :: ts ++ [.symbol .closeParen]) t
  | list {n ts items} :
      DerivesItems n ts items →
      Derives n .atom (.symbol .openBracket :: ts ++ [.symbol .closeBracket]) (.list items)
  | call {n ts items} (f : Builtin) (h : f.accepts items.length = true) :
      DerivesItems n ts items →
      Derives n .atom (.word f.name :: .symbol .openParen :: ts ++ [.symbol .closeParen])
        (.call f items)

/-- The tokens are the links of a chain of comparisons. -/
inductive DerivesLinks : (levels : Nat) → List Token → List (CompareOp × Node) → Prop where
  | done {n} : DerivesLinks n [] []
  | link {n ts us t links} (op : CompareOp) :
      Derives n .additive ts t → DerivesLinks n us links →
      DerivesLinks n (op.tokens ++ ts ++ us) ((op, t) :: links)

/-- The tokens are items with commas between them, and perhaps one more comma after the last; each
item uses up a level. -/
inductive DerivesItems : (levels : Nat) → List Token → List Node → Prop where
  | nil {n} : DerivesItems n [] []
  | last {n ts t} : Derives n .or ts t → DerivesItems (n + 1) ts [t]
  | cons {n ts us t items} :
      Derives n .or ts t → DerivesItems (n + 1) us items →
      DerivesItems (n + 1) (ts ++ .symbol .comma :: us) (t :: items)

end

/-! ## How phrases begin -/

/-- The tokens with which a phrase may begin: signs open no phrase tighter than `unary`, and `not`
opens none tighter than `not`. -/
def Phrase.opens (p : Phrase) : Token → Bool
  | .symbol .openParen => true
  | .symbol .openBracket => true
  | .symbol .minus => p ∉ [power, postfixed, atom]
  | .symbol .plus => p ∉ [power, postfixed, atom]
  | .symbol _ => false
  | .word w => w ≠ "not" || p ∈ [or, and, not]
  | _ => true

/-- A phrase begins as the tighter phrases inside it do. -/
theorem Phrase.opens_of_tighter {p q : Phrase} (h : p.tighter? = some q) {token : Token}
    (ho : q.opens token = true) : p.opens token = true := by
  cases token with
  | word w => cases p <;> cases h <;> simp_all [opens]
  | symbol s => cases s <;> cases p <;> cases h <;> simp_all [opens]
  | _ => rfl

/-- A token that stands for a value begins every phrase. -/
theorem Stands.opens {token : Token} {t : Node} (h : Stands token t) (p : Phrase) :
    p.opens token = true := by
  cases h with
  | trueWord h | falseWord h | nullWord h => rcases h with rfl | rfl <;> rfl
  | _ => rfl

/-- The name of a function begins every phrase. -/
theorem Phrase.opens_name (p : Phrase) (f : Builtin) : p.opens (.word f.name) = true := by
  cases f <;> rfl

/-- A phrase begins with a token that may open it. -/
theorem Derives.opens {n : Nat} {p : Phrase} {ts : List Token} {t : Node} (h : Derives n p ts t) :
    ∃ token us, ts = token :: us ∧ p.opens token = true := by
  induction h using @Derives.rec _ (fun _ _ _ _ => True) (fun _ _ _ _ => True) with
  | single hq _ ih =>
    obtain ⟨token, us, rfl, ho⟩ := ih
    exact ⟨token, us, rfl, Phrase.opens_of_tighter hq ho⟩
  | join _ _ _ _ ih _ | index _ _ ih _ =>
    obtain ⟨token, us, rfl, ho⟩ := ih
    exact ⟨token, _, rfl, ho⟩
  | comparison _ _ ih _ | power _ _ ih _ =>
    obtain ⟨token, us, rfl, ho⟩ := ih
    exact ⟨token, _, rfl, Phrase.opens_of_tighter rfl ho⟩
  | stands h => exact ⟨_, [], rfl, h.opens _⟩
  | call f _ _ _ => exact ⟨_, _, rfl, Phrase.opens_name _ f⟩
  | not _ _ | negative _ _ | positive _ _ | group _ _ | list _ _ => exact ⟨_, _, rfl, rfl⟩
  | done | link | nil | last | cons => trivial

/-! ## Operators as rounds of a loop -/

/-- From `a`, rounds of an operator and an operand lead to `t`. -/
inductive Rounds (joins : Token → (Node → Node → Node) → Prop)
    (language : List Token → Node → Prop) : Node → List Token → Node → Prop where
  | done {a} : Rounds joins language a [] a
  | round {a b t token build ts us} (hjoin : joins token build) (h : language ts b) :
      Rounds joins language (build a b) us t → Rounds joins language a (token :: ts ++ us) t

variable {joins : Token → (Node → Node → Node) → Prop} {language : List Token → Node → Prop}

/-- Rounds may be made one run after another. -/
theorem Rounds.append {a b t : Node} {ts us : List Token} (h : Rounds joins language a ts b)
    (h' : Rounds joins language b us t) : Rounds joins language a (ts ++ us) t := by
  induction h with
  | done => exact h'
  | round hjoin hl _ ih => simpa using Rounds.round hjoin hl (ih h')

/-- A language that is closed under joining on the right holds what rounds lead to. -/
theorem Rounds.closed (whole : List Token → Node → Prop)
    (hclosed : ∀ {ts us a b token build}, joins token build → whole ts a → language us b →
      whole (ts ++ token :: us) (build a b))
    {a t : Node} {us : List Token} (h : Rounds joins language a us t) :
    ∀ {ts}, whole ts a → whole (ts ++ us) t := by
  induction h with
  | done => intro ts ha; simpa using ha
  | round hjoin hl _ ih => intro ts ha; simpa using ih (hclosed hjoin ha hl)

/-- The phrases that operators join from left to right. -/
def Phrase.isJoined : Phrase → Bool
  | or | and | additive | term => true
  | _ => false

/-- Phrases joined from left to right are a first phrase and rounds. -/
theorem Derives.rounds {n : Nat} {p q : Phrase} {ts : List Token} {t : Node}
    (h : Derives n p ts t) (hp : p.isJoined = true) (hq : p.tighter? = some q) :
    ∃ us a vs, ts = us ++ vs ∧ Derives n q us a ∧ Rounds (Joins p) (Derives n q) a vs t := by
  induction h using @Derives.rec _ (fun _ _ _ _ => True) (fun _ _ _ _ => True) with
  | single hq' h _ =>
    cases hq.symm.trans hq'
    exact ⟨_, _, [], by simp, h, .done⟩
  | join hq' hjoin _ h' ih _ =>
    cases hq.symm.trans hq'
    obtain ⟨us, a, vs, rfl, ha, hrounds⟩ := ih hp hq
    refine ⟨us, a, _, ?_, ha, hrounds.append (Rounds.round hjoin h' .done)⟩
    simp
  | done | link | nil | last | cons => trivial
  | _ => cases hp

/-- Nothing is nested in a phrase without levels. -/
def Inner (n : Nat) (p : Phrase) (ts : List Token) (t : Node) : Prop :=
  ∃ m, n = m + 1 ∧ Derives m p ts t

/-- An index in brackets, without the opening one. -/
def Bracketed (n : Nat) (ts : List Token) (t : Node) : Prop :=
  ∃ us, ts = us ++ [.symbol .closeBracket] ∧ Inner n .or us t

/-- The bracket that opens an index. -/
inductive Indexes : Token → (Node → Node → Node) → Prop where
  | index : Indexes (.symbol .openBracket) .index

/-- An atom with indices is an atom and rounds. -/
theorem Derives.indices {n : Nat} {p : Phrase} {ts : List Token} {t : Node} (h : Derives n p ts t)
    (hp : p = .postfixed) :
    ∃ us a vs, ts = us ++ vs ∧ Derives n .atom us a ∧ Rounds Indexes (Bracketed n) a vs t := by
  induction h using @Derives.rec _ (fun _ _ _ _ => True) (fun _ _ _ _ => True) with
  | single hq h _ =>
    subst hp
    cases hq
    exact ⟨_, _, [], by simp, h, .done⟩
  | index _ h' ih _ =>
    obtain ⟨us, a, vs, rfl, ha, hrounds⟩ := ih rfl
    refine ⟨us, a, _, ?_, ha, hrounds.append (Rounds.round .index ⟨_, rfl, _, rfl, h'⟩ .done)⟩
    simp
  | join _ hjoin => subst hp; cases hjoin
  | done | link | nil | last | cons => trivial
  | _ => cases hp

end LayeredConfig.Expr
