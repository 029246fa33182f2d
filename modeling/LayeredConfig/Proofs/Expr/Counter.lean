import LayeredConfig.Proofs.Expr.RoundTrip

/-!
# The parser with a counter

`read` is the parser as one recursion over phrases, with a counter of the levels that are open: `nested`
looks at the counter, turns it up, reads a phrase and turns it down again, whether the phrase was read or
not. So the counter comes back wherever the parser does, and it is never turned beyond the greatest depth
(`keeps`). Nothing else bounds the recursion. The number of calls is there to say that it ends, and a run
that takes more has no result; `read_agrees` shows that calls in proportion to the tokens are enough, and
that what is read is what the readers of `Level` give.
-/

namespace LayeredConfig.Expr

/-- Where the parser is: the tokens that are left, the number of open levels, and every number that there
has been since the start, the last one first. -/
structure Cursor where
  tokens : List Token
  depth : Nat
  values : List Nat

/-- Turns the counter to a value. -/
def Cursor.turn (cursor : Cursor) (depth : Nat) : Cursor :=
  { cursor with depth := depth, values := depth :: cursor.values }

/-- A parser that counts. It may fail, and it may fail to end. -/
abbrev Counting (α : Type) := ExceptT SyntaxError (StateT Cursor Option) α

namespace Counting

/-- What may stand at the front of the tokens, with what follows it. -/
abbrev Finder (α : Type) := List Token → Option (α × List Token)

/-- Takes what is found at the front of the tokens, if it is. -/
def attempt {α : Type} (find : Finder α) : Counting (Option α) := fun cursor =>
  match find cursor.tokens with
  | none => some (.ok none, cursor)
  | some (a, rest) => some (.ok (some a), { cursor with tokens := rest })

/-- The token that stands at the front. -/
def peek : Counting (Option Token) := fun cursor => some (.ok cursor.tokens.head?, cursor)

/-- Any token. -/
def token? : Finder Token
  | [] => none
  | token :: rest => some (token, rest)

/-- A symbol. -/
def symbol? (symbol : Symbol) : Finder Unit
  | .symbol s :: rest => if s = symbol then some ((), rest) else none
  | _ => none

/-- A word. -/
def word? (word : String) : Finder Unit
  | .word w :: rest => if w = word then some ((), rest) else none
  | _ => none

/-- An operator. -/
def operator? (operator : Token → Option (Node → Node → Node)) : Finder (Node → Node → Node)
  | [] => none
  | token :: rest => (operator token).map fun combine => (combine, rest)

/-- Takes a symbol, which has to stand there. -/
def demand (symbol : Symbol) : Counting Unit := do
  match ← attempt (symbol? symbol) with
  | some _ => return ()
  | none => throw (.expected symbol)

/-- The run has taken all its calls. -/
def stuck {α : Type} : Counting α := fun _ => none

mutual

/-- Reads a phrase. -/
def read : (calls : Nat) → Phrase → Counting Node
  | 0, _ => stuck
  | calls + 1, .or => do operands calls (keyword "or" .or) .and (← read calls .and)
  | calls + 1, .and => do operands calls (keyword "and" .and) .not (← read calls .not)
  | calls + 1, .not => do
    match ← attempt (word? "not") with
    | some _ => return .not (← nested calls .not)
    | none => read calls .comparison
  | calls + 1, .comparison => do
    let first ← read calls .additive
    return Node.ofLinks first (← links calls)
  | calls + 1, .additive => do operands calls additiveOperator .term (← read calls .term)
  | calls + 1, .term => do operands calls termOperator .unary (← read calls .unary)
  | calls + 1, .unary => do
    match ← attempt (symbol? .minus) with
    | some _ => return .neg (← nested calls .unary)
    | none =>
      match ← attempt (symbol? .plus) with
      | some _ => nested calls .unary
      | none => read calls .power
  | calls + 1, .power => do
    let base ← read calls .postfixed
    match ← attempt (symbol? .power) with
    | some _ => return .binary .pow base (← nested calls .unary)
    | none => return base
  | calls + 1, .postfixed => do indices calls (← read calls .atom)
  | calls + 1, .atom => do
    match ← attempt token? with
    | none => throw .unexpectedEnd
    | some (.integer i) => return .literal (.integer i)
    | some (.float x) => return .literal (.float x)
    | some (.string s) => return .literal (.string s)
    | some (.symbol .openParen) =>
      let inner ← nested calls .or
      demand .closeParen
      return inner
    | some (.symbol .openBracket) => return .list (← items calls .closeBracket)
    | some (.word name) =>
      match wordAtom? name with
      | some node => return node
      | none => call calls name
    | some token => throw (.unexpected token)

/-- Reads a call after the name of its function. -/
def call : (calls : Nat) → (name : String) → Counting Node
  | 0, _ => stuck
  | calls + 1, name => do
    match Builtin.ofName? name with
    | none => throw (.unknownName name)
    | some function =>
      demand .openParen
      let arguments ← items calls .closeParen
      if function.accepts arguments.length then return .call function arguments
      else throw (.argumentCount name)

/-- Reads further operands as long as an operator stands before them. -/
def operands : (calls : Nat) → (operator : Token → Option (Node → Node → Node)) → (operand : Phrase) →
    (left : Node) → Counting Node
  | 0, _, _, _ => stuck
  | calls + 1, operator, operand, left => do
    match ← attempt (operator? operator) with
    | none => return left
    | some combine => operands calls operator operand (combine left (← read calls operand))

/-- Reads the links of a chain of comparisons. -/
def links : (calls : Nat) → Counting (List (CompareOp × Node))
  | 0 => stuck
  | calls + 1 => do
    match ← attempt comparison? with
    | none => return []
    | some op =>
      let node ← read calls .additive
      return (op, node) :: (← links calls)

/-- Reads indices in brackets after a node. -/
def indices : (calls : Nat) → (node : Node) → Counting Node
  | 0, _ => stuck
  | calls + 1, node => do
    match ← attempt (symbol? .openBracket) with
    | none => return node
    | some _ =>
      let index ← nested calls .or
      demand .closeBracket
      indices calls (.index node index)

/-- Reads items separated by commas up to and including a symbol. -/
def items : (calls : Nat) → (close : Symbol) → Counting (List Node)
  | 0, _ => stuck
  | calls + 1, close => do
    match ← attempt (symbol? close) with
    | some _ => return []
    | none =>
      let node ← nested calls .or
      match ← attempt (symbol? .comma) with
      | some _ => return node :: (← items calls close)
      | none =>
        demand close
        return [node]

/-- Reads a phrase one level deeper, and comes back whether or not it is read. -/
def nested : (calls : Nat) → Phrase → Counting Node
  | 0, _ => stuck
  | calls + 1, phrase => fun cursor => do
    if maxDepth ≤ cursor.depth then return (.error .tooDeep, cursor)
    else
      let (outcome, cursor) ← read calls phrase (cursor.turn (cursor.depth + 1))
      return (outcome, cursor.turn (cursor.depth - 1))

end

/-- Reads a list of tokens that is one expression from end to end. -/
def expression (calls : Nat) : Counting Node := do
  let node ← read calls .or
  match ← peek with
  | some token => throw (.trailing token)
  | none => return node

variable {α β : Type}

/-- What is done second starts where the first ends. -/
theorem bind_apply (m : Counting α) (k : α → Counting β) (cursor : Cursor) :
    (m >>= k) cursor = match m cursor with
      | none => none
      | some (.error e, cursor) => some (.error e, cursor)
      | some (.ok a, cursor) => k a cursor := by
  change (m cursor).bind _ = _
  cases m cursor with
  | none => rfl
  | some result =>
    obtain ⟨outcome, cursor⟩ := result
    cases outcome <;> rfl

/-! ## The counter -/

/-- From a depth that is allowed, the parser comes back to the same depth whenever it comes back, and no
depth that it has been at is beyond what is allowed. -/
def Keeps (m : Counting α) : Prop :=
  ∀ cursor outcome cursor', cursor.depth ≤ maxDepth → m cursor = some (outcome, cursor') →
    cursor'.depth = cursor.depth ∧
      ∃ visited, cursor'.values = visited ++ cursor.values ∧ ∀ v ∈ visited, v ≤ maxDepth

theorem keeps_pure (a : α) : Keeps (pure a) := by
  intro cursor outcome cursor' _ hrun
  cases hrun
  exact ⟨rfl, [], rfl, List.forall_mem_nil _⟩

theorem keeps_throw (e : SyntaxError) : Keeps (throw e : Counting α) := by
  intro cursor outcome cursor' _ hrun
  cases hrun
  exact ⟨rfl, [], rfl, List.forall_mem_nil _⟩

/-- A run without calls does not come back. -/
theorem keeps_stuck : Keeps (stuck : Counting α) := fun _ _ _ _ hrun => by cases hrun

theorem keeps_peek : Keeps peek := by
  intro cursor outcome cursor' _ hrun
  cases hrun
  exact ⟨rfl, [], rfl, List.forall_mem_nil _⟩

/-- Taking tokens leaves the counter alone. -/
theorem keeps_attempt (find : Finder α) : Keeps (attempt find) := by
  intro cursor outcome cursor' _ hrun
  unfold attempt at hrun
  split at hrun
  · cases hrun
    exact ⟨rfl, [], rfl, List.forall_mem_nil _⟩
  · cases hrun
    exact ⟨rfl, [], rfl, List.forall_mem_nil _⟩

/-- Parts that keep the counter, one after the other, keep it together. -/
theorem Keeps.bind {m : Counting α} {k : α → Counting β} (hm : Keeps m) (hk : ∀ a, Keeps (k a)) :
    Keeps (m >>= k) := by
  intro cursor outcome cursor' hdepth hrun
  rw [bind_apply] at hrun
  split at hrun
  · cases hrun
  · next e middle hfirst =>
    cases hrun
    exact hm cursor _ _ hdepth hfirst
  · next a middle hfirst =>
    obtain ⟨hmiddle, visited, hvalues, hvisited⟩ := hm cursor _ middle hdepth hfirst
    obtain ⟨hback, visited', hvalues', hvisited'⟩ := hk a middle _ cursor' (hmiddle ▸ hdepth) hrun
    refine ⟨hback.trans hmiddle, visited' ++ visited, ?_, ?_⟩
    · rw [hvalues', hvalues, List.append_assoc]
    · simp only [List.mem_append]
      rintro v (hv | hv)
      · exact hvisited' v hv
      · exact hvisited v hv

theorem keeps_demand (symbol : Symbol) : Keeps (demand symbol) :=
  (keeps_attempt _).bind fun
    | some _ => keeps_pure _
    | none => keeps_throw _

/-- The counter goes up and comes down again, whatever happens in between. -/
theorem keeps_nested {calls : Nat} {phrase : Phrase} (h : Keeps (read calls phrase)) :
    Keeps (nested (calls + 1) phrase) := by
  intro cursor outcome cursor' hdepth hrun
  simp only [nested] at hrun
  by_cases hdeep : maxDepth ≤ cursor.depth
  · rw [if_pos hdeep] at hrun
    cases hrun
    exact ⟨rfl, [], rfl, List.forall_mem_nil _⟩
  · rw [if_neg hdeep] at hrun
    have hup : (cursor.turn (cursor.depth + 1)).depth ≤ maxDepth := Nat.lt_of_not_le hdeep
    obtain ⟨⟨outcome', inside⟩, hread, hdown⟩ := Option.bind_eq_some_iff.1 hrun
    cases hdown
    obtain ⟨hinside, visited, hvalues, hvisited⟩ := h _ _ _ hup hread
    -- the phrase was left at the depth where it was begun, so one less is where the counter stood
    have hback : inside.depth - 1 = cursor.depth := by
      rw [hinside]
      rfl
    refine ⟨hback, (inside.depth - 1) :: visited ++ [cursor.depth + 1], ?_, ?_⟩
    · simp only [Cursor.turn, hvalues, List.cons_append, List.append_assoc, List.nil_append]
    · intro v hv
      simp only [List.cons_append, List.mem_cons, List.mem_append, List.not_mem_nil, or_false] at hv
      rcases hv with rfl | hv | rfl
      · rw [hback]
        exact hdepth
      · exact hvisited v hv
      · exact hup

/-- Whatever part of the parser runs, with a number of calls, the counter is kept. -/
structure AllKeep (calls : Nat) : Prop where
  read (phrase : Phrase) : Keeps (read calls phrase)
  call (name : String) : Keeps (call calls name)
  operands (operator : Token → Option (Node → Node → Node)) (operand : Phrase) (left : Node) :
    Keeps (operands calls operator operand left)
  links : Keeps (links calls)
  indices (node : Node) : Keeps (indices calls node)
  items (close : Symbol) : Keeps (items calls close)
  nested (phrase : Phrase) : Keeps (nested calls phrase)

section

variable {calls : Nat}

/-- A phrase keeps the counter if what it reads with one call less does: by cases on the phrase. -/
theorem AllKeep.read_succ (h : AllKeep calls) (phrase : Phrase) : Keeps (Counting.read (calls + 1) phrase) := by
  cases phrase with
  -- the phrases whose operands stand in a loop
  | or | and | additive | term =>
    rw [Counting.read]
    exact (h.read _).bind fun left => h.operands _ _ left
  | not =>
    rw [Counting.read]
    refine (keeps_attempt _).bind fun found => ?_
    cases found with
    | some _ => exact (h.nested _).bind fun _ => keeps_pure _
    | none => exact h.read _
  | comparison =>
    rw [Counting.read]
    exact (h.read _).bind fun first => h.links.bind fun links => keeps_pure _
  | unary =>
    rw [Counting.read]
    refine (keeps_attempt _).bind fun minus => ?_
    cases minus with
    | some _ => exact (h.nested _).bind fun _ => keeps_pure _
    | none =>
      refine (keeps_attempt _).bind fun plus => ?_
      cases plus with
      | some _ => exact h.nested _
      | none => exact h.read _
  | power =>
    rw [Counting.read]
    refine (h.read _).bind fun base => (keeps_attempt _).bind fun found => ?_
    cases found with
    | some _ => exact (h.nested _).bind fun _ => keeps_pure _
    | none => exact keeps_pure _
  | postfixed =>
    rw [Counting.read]
    exact (h.read _).bind fun node => h.indices node
  | atom =>
    rw [Counting.read]
    refine (keeps_attempt _).bind fun found => ?_
    split
    · exact keeps_throw _
    · exact keeps_pure _
    · exact keeps_pure _
    · exact keeps_pure _
    · exact (h.nested _).bind fun inner => (keeps_demand _).bind fun _ => keeps_pure _
    · exact (h.items _).bind fun nodes => keeps_pure _
    · split
      · exact keeps_pure _
      · exact h.call _
    · exact keeps_throw _

/-- A call keeps the counter if its arguments do. -/
theorem AllKeep.call_succ (h : AllKeep calls) (name : String) : Keeps (Counting.call (calls + 1) name) := by
  rw [Counting.call]
  split
  · exact keeps_throw _
  · refine (keeps_demand _).bind fun _ => (h.items _).bind fun arguments => ?_
    split
    · exact keeps_pure _
    · exact keeps_throw _

theorem AllKeep.operands_succ (h : AllKeep calls) (operator : Token → Option (Node → Node → Node))
    (operand : Phrase) (left : Node) : Keeps (Counting.operands (calls + 1) operator operand left) := by
  rw [Counting.operands]
  refine (keeps_attempt _).bind fun found => ?_
  cases found with
  | none => exact keeps_pure _
  | some combine => exact (h.read _).bind fun right => h.operands _ _ _

theorem AllKeep.links_succ (h : AllKeep calls) : Keeps (Counting.links (calls + 1)) := by
  rw [Counting.links]
  refine (keeps_attempt _).bind fun found => ?_
  cases found with
  | none => exact keeps_pure _
  | some op => exact (h.read _).bind fun node => h.links.bind fun links => keeps_pure _

theorem AllKeep.indices_succ (h : AllKeep calls) (node : Node) : Keeps (Counting.indices (calls + 1) node) := by
  rw [Counting.indices]
  refine (keeps_attempt _).bind fun found => ?_
  cases found with
  | none => exact keeps_pure _
  | some _ => exact (h.nested _).bind fun index => (keeps_demand _).bind fun _ => h.indices _

/-- Items keep the counter if the next one and the rest do. -/
theorem AllKeep.items_succ (h : AllKeep calls) (close : Symbol) : Keeps (Counting.items (calls + 1) close) := by
  rw [Counting.items]
  refine (keeps_attempt _).bind fun found => ?_
  cases found with
  | some _ => exact keeps_pure _
  | none =>
    refine (h.nested _).bind fun node => (keeps_attempt _).bind fun comma => ?_
    cases comma with
    | some _ => exact (h.items _).bind fun nodes => keeps_pure _
    | none => exact (keeps_demand _).bind fun _ => keeps_pure _

/-- Whatever part of the parser runs, the counter is kept. -/
theorem keeps (calls : Nat) : AllKeep calls := by
  induction calls with
  | zero =>
    exact ⟨fun _ => keeps_stuck, fun _ => keeps_stuck, fun _ _ _ => keeps_stuck, keeps_stuck,
      fun _ => keeps_stuck, fun _ => keeps_stuck, fun _ => keeps_stuck⟩
  | succ calls h =>
    exact ⟨h.read_succ, h.call_succ, h.operands_succ, h.links_succ, h.indices_succ, h.items_succ,
      fun phrase => keeps_nested (h.read phrase)⟩

theorem keeps_expression : Keeps (expression calls) := by
  refine ((keeps calls).read .or).bind fun node => keeps_peek.bind fun found => ?_
  cases found with
  | some token => exact keeps_throw _
  | none => exact keeps_pure _

end

/-! ## Agreement with the readers

Most calls take no token: from `or` the parser goes down one phrase after another until an atom takes one.
There are ten phrases, so 16 calls for each token leave room for the way down and for the loops on it. What
a phrase needs beyond that is the number of calls down to an atom.
-/

/-- Started at a depth, the counting parser ends at the same depth with a result of a reader. -/
def Gives (m : Counting α) (depth : Nat) (tokens : List Token)
    (result : Except SyntaxError (α × List Token)) : Prop :=
  ∀ values, ∃ outcome rest values',
    m ⟨tokens, depth, values⟩ = some (outcome, ⟨rest, depth, values'⟩) ∧
      rest.length ≤ tokens.length ∧ result = outcome.map fun a => (a, rest)

section

variable {m : Counting α} {k : α → Counting β} {depth : Nat} {tokens : List Token}

theorem gives_pure (a : α) : Gives (pure a) depth tokens (.ok (a, tokens)) := fun values =>
  ⟨.ok a, tokens, values, rfl, Nat.le_refl _, rfl⟩

theorem gives_throw (e : SyntaxError) : Gives (throw e : Counting α) depth tokens (.error e) := fun values =>
  ⟨.error e, tokens, values, rfl, Nat.le_refl _, rfl⟩

/-- What follows goes on with what is left, unless there is an error. -/
theorem Gives.bind {result : Except SyntaxError (α × List Token)} {whole : Except SyntaxError (β × List Token)}
    (hm : Gives m depth tokens result) (herror : ∀ e, result = .error e → whole = .error e)
    (hk : ∀ a rest, result = .ok (a, rest) → rest.length ≤ tokens.length → Gives (k a) depth rest whole) :
    Gives (m >>= k) depth tokens whole := by
  intro values
  obtain ⟨outcome, rest, values', hrun, hlength, hresult⟩ := hm values
  rw [bind_apply, hrun]
  -- the depth is the same after `m` in both cases; only after a result does `k` go on
  cases outcome with
  | error e => exact ⟨.error e, rest, values', rfl, hlength, herror e hresult⟩
  | ok a =>
    obtain ⟨outcome, rest', values'', hrun', hlength', hwhole⟩ := hk a rest hresult hlength values'
    exact ⟨outcome, rest', values'', hrun', Nat.le_trans hlength' hlength, hwhole⟩

theorem gives_peek {k : Option Token → Counting β} {whole : Except SyntaxError (β × List Token)}
    (hk : Gives (k tokens.head?) depth tokens whole) : Gives (peek >>= k) depth tokens whole := hk

/-- What is found at the front is taken, and a token with it. -/
theorem gives_attempt {find : Finder α} {k : Option α → Counting β}
    {whole : Except SyntaxError (β × List Token)}
    (hnone : find tokens = none → Gives (k none) depth tokens whole)
    (hsome : ∀ a rest, find tokens = some (a, rest) → rest.length < tokens.length ∧
      Gives (k (some a)) depth rest whole) : Gives (attempt find >>= k) depth tokens whole := by
  intro values
  rw [bind_apply, attempt]
  cases hfind : find tokens with
  | none => exact hnone hfind values
  | some found =>
    obtain ⟨a, rest⟩ := found
    obtain ⟨hlt, hgives⟩ := hsome a rest hfind
    obtain ⟨outcome, rest', values', hrun, hlength, hwhole⟩ := hgives values
    exact ⟨outcome, rest', values', hrun, by omega, hwhole⟩

/-- A symbol is found where the tokens begin with it. -/
theorem symbol?_eq_some_iff {symbol : Symbol} {rest : List Token} {u : Unit} :
    symbol? symbol tokens = some (u, rest) ↔ tokens = .symbol symbol :: rest := by
  unfold symbol?
  split
  · next s us =>
    split
    · next h => simp [h]
    · next h => simp [h]
  · next hother =>
    refine iff_of_false nofun ?_
    rintro rfl
    exact hother symbol rest rfl

theorem symbol?_eq_none_iff {symbol : Symbol} :
    symbol? symbol tokens = none ↔ ∀ rest, tokens ≠ .symbol symbol :: rest := by
  constructor
  · rintro hnone rest rfl
    simp [symbol?] at hnone
  · intro hne
    cases h : symbol? symbol tokens with
    | none => rfl
    | some found => exact absurd (symbol?_eq_some_iff.1 h) (hne found.2)

theorem word?_eq_some_iff {word : String} {rest : List Token} {u : Unit} :
    word? word tokens = some (u, rest) ↔ tokens = .word word :: rest := by
  unfold word?
  split
  · next w us =>
    split
    · next h => simp [h]
    · next h => simp [h]
  · next hother =>
    refine iff_of_false nofun ?_
    rintro rfl
    exact hother word rest rfl

/-- A symbol that is not found is the one that was expected. -/
theorem expect_eq_error {symbol : Symbol} (h : symbol? symbol tokens = none) :
    expect symbol tokens = .error (.expected symbol) := by
  rw [symbol?_eq_none_iff] at h
  unfold expect
  split
  · next s rest =>
    split
    · next hs => exact absurd (congrArg (fun s => Token.symbol s :: rest) hs) (h rest)
    · rfl
  · rfl

/-- Demanding a symbol agrees with expecting it, and what follows agrees on fewer tokens. -/
theorem gives_demand {symbol : Symbol} {k : Unit → Counting β}
    {whole : Except SyntaxError (β × List Token)}
    (herror : ∀ e, expect symbol tokens = .error e → whole = .error e)
    (hok : ∀ rest, expect symbol tokens = .ok rest → rest.length < tokens.length →
      Gives (k ()) depth rest whole) : Gives (demand symbol >>= k) depth tokens whole := by
  have hdemand : Gives (demand symbol) depth tokens ((expect symbol tokens).map fun rest => ((), rest)) := by
    refine gives_attempt (fun hnone => ?_) fun u rest hsome => ?_
    · rw [expect_eq_error hnone]
      exact gives_throw _
    · obtain rfl := symbol?_eq_some_iff.1 hsome
      rw [expect_self]
      exact ⟨Nat.lt_succ_self _, gives_pure ()⟩
  cases hexpect : expect symbol tokens with
  | error e =>
    rw [hexpect] at hdemand
    exact hdemand.bind (fun e' he => by cases he; exact herror e hexpect) fun u rest h => by cases h
  | ok rest =>
    rw [hexpect] at hdemand
    refine hdemand.bind (fun e he => by cases he) fun u rest' h _ => ?_
    cases h
    obtain rfl := expect_eq_ok_iff.1 hexpect
    exact hok rest hexpect (Nat.lt_succ_self _)

end

/-- Without a `not` at the front a negation is a comparison. -/
theorem negation_of_none {inner : Level} {tokens : List Token} (hnone : word? "not" tokens = none) :
    inner.negation tokens = inner.comparison tokens := by
  unfold Level.negation
  split
  · next name rest =>
    split
    · next hname => simp [word?, hname] at hnone
    · rfl
  · rfl

end Counting

/-- Every comparison takes a token at least. -/
theorem CompareOp.tokens_pos (op : CompareOp) : 0 < op.tokens.length := by
  cases op <;> decide

/-- The reader of a level for a phrase. -/
def Level.reader (inner : Level) : Phrase → Reader Node
  | .or => inner.disjunction
  | .and => inner.conjunction
  | .not => inner.negation
  | .comparison => inner.comparison
  | .additive => inner.additive
  | .term => inner.term
  | .unary => inner.signed
  | .power => inner.power
  | .postfixed => inner.postfixed
  | .atom => inner.atom

namespace Counting

/-- One level deeper, the counting parser agrees with the readers inside. -/
structure NestedAgrees (inner : Level) (depth : Nat) : Prop where
  or : ∀ {calls tokens}, 16 * tokens.length + 12 ≤ calls →
    Gives (nested calls .or) depth tokens (inner.or tokens)
  not : ∀ {calls tokens}, 16 * tokens.length + 12 ≤ calls →
    Gives (nested calls .not) depth tokens (inner.not tokens)
  unary : ∀ {calls tokens}, 16 * tokens.length + 12 ≤ calls →
    Gives (nested calls .unary) depth tokens (inner.unary tokens)

/-- The last item is the one with no comma after it. -/
theorem itemsFrom_last {item : Reader Node} {close : Symbol} {fuel : Nat} {e : SyntaxError} {node : Node}
    {tokens rest : List Token} (hclose : expect close tokens = .error e)
    (hread : item tokens = .ok (node, rest)) (hnone : symbol? .comma rest = none) :
    itemsFrom item close (fuel + 1) tokens = (expect close rest).map fun rest => ([node], rest) := by
  rw [itemsFrom]
  simp only [hclose, hread]
  split
  · next heq => cases heq
  · next heq =>
    cases heq
    exact absurd rfl (symbol?_eq_none_iff.1 hnone _)
  · next heq =>
    cases heq
    cases expect close rest <;> rfl

theorem indicesFrom_of_none {item : Reader Node} {fuel : Nat} {node : Node} {tokens : List Token}
    (hnone : symbol? .openBracket tokens = none) : indicesFrom item fuel node tokens = .ok (node, tokens) := by
  unfold indicesFrom
  split
  · rfl
  · exact absurd rfl (symbol?_eq_none_iff.1 hnone _)
  · rfl

/-- Without a power sign a power is its base. -/
theorem power_of_none {inner : Level} {base : Node} {tokens rest : List Token}
    (hread : inner.postfixed tokens = .ok (base, rest)) (hnone : symbol? .power rest = none) :
    inner.power tokens = .ok (base, rest) := by
  unfold Level.power
  simp only [hread]
  split
  · next heq => cases heq
  · next heq =>
    cases heq
    exact absurd rfl (symbol?_eq_none_iff.1 hnone _)
  · next heq =>
    cases heq
    rfl

theorem signed_of_none {inner : Level} {tokens : List Token} (hminus : symbol? .minus tokens = none)
    (hplus : symbol? .plus tokens = none) : inner.signed tokens = inner.power tokens := by
  unfold Level.signed
  split
  · exact absurd rfl (symbol?_eq_none_iff.1 hminus _)
  · exact absurd rfl (symbol?_eq_none_iff.1 hplus _)
  · rfl

section

variable {inner : Level} {depth calls : Nat} {tokens : List Token} (hnested : NestedAgrees inner depth)
include hnested

/-- Items agree, by induction on the rounds of the reader: each item and its comma leave fewer tokens. -/
theorem items_gives {close : Symbol} {fuel : Nat} (hfuel : tokens.length < fuel)
    (hcalls : 16 * tokens.length + 13 ≤ calls) :
    Gives (items calls close) depth tokens (itemsFrom inner.or close fuel tokens) := by
  induction fuel generalizing calls tokens with
  | zero => exact absurd hfuel (Nat.not_lt_zero _)
  | succ fuel ih =>
    obtain ⟨calls, rfl⟩ := Nat.exists_eq_add_one.2 (show 0 < calls by omega)
    rw [items]
    refine gives_attempt (fun hopen => ?_) fun u rest hsome => ?_
    · have hclose := expect_eq_error hopen
      refine (hnested.or (by omega)).bind (fun e he => ?_) fun node rest hread hrest => ?_
      · simp only [itemsFrom, hclose, he]
      · -- the reader looks for the comma after the item, as the parser does
        refine gives_attempt (fun hnone => ?_) fun u rest' hsome => ?_
        · rw [itemsFrom_last hclose hread hnone]
          refine gives_demand (fun e he => ?_) fun rest hlast _ => ?_
          · rw [he, Except.map]
          · rw [hlast, Except.map]
            exact gives_pure _
        · obtain rfl := symbol?_eq_some_iff.1 hsome
          rw [List.length_cons] at hrest
          refine ⟨Nat.lt_succ_self _,
            (ih (by omega) (by omega)).bind (fun e he => ?_) fun nodes rest hnodes _ => ?_⟩
          · simp only [itemsFrom, hclose, hread, he]
          · simp only [itemsFrom, hclose, hread, hnodes]
            exact gives_pure _
    · obtain rfl := symbol?_eq_some_iff.1 hsome
      rw [itemsFrom, expect_self]
      exact ⟨Nat.lt_succ_self _, gives_pure _⟩

/-- A call agrees, with its checks of the name and of the number of arguments. -/
theorem call_gives {name : String} (hcalls : 16 * tokens.length + 1 ≤ calls) :
    Gives (call calls name) depth tokens (inner.call name tokens) := by
  obtain ⟨calls, rfl⟩ := Nat.exists_eq_add_one.2 (show 0 < calls by omega)
  rw [call]
  cases hname : Builtin.ofName? name with
  | none =>
    simp only [Level.call, hname]
    exact gives_throw _
  | some function =>
    refine gives_demand (fun e he => ?_) fun rest hopen hlt => ?_
    · simp only [Level.call, hname, he]
    · refine (items_gives hnested (Nat.lt_succ_self rest.length) (by omega)).bind
        (fun e he => ?_) fun arguments rest' hread _ => ?_
      · simp only [Level.call, hname, hopen, he]
      · simp only [Level.call, hname, hopen, hread]
        split
        · exact gives_pure _
        · exact gives_throw _

/-- An atom agrees, by cases on the token at the front. -/
theorem atom_gives (hcalls : 16 * tokens.length + 2 ≤ calls) :
    Gives (read calls .atom) depth tokens (inner.atom tokens) := by
  obtain ⟨calls, rfl⟩ := Nat.exists_eq_add_one.2 (show 0 < calls by omega)
  rw [read]
  cases tokens with
  | nil =>
    refine gives_attempt (fun hnone => ?_) fun token rest hsome => by cases hsome
    exact gives_throw _
  | cons token tokens =>
    rw [List.length_cons] at hcalls
    refine gives_attempt (fun hnone => by cases hnone) fun token' rest hsome => ?_
    cases hsome
    -- one token is taken, which pays for 16 more calls
    refine ⟨Nat.lt_succ_self _, ?_⟩
    cases token with
    | integer | float | string => exact gives_pure _
    | word name =>
      cases hword : wordAtom? name with
      | some node =>
        simp only [Level.atom, hword]
        exact gives_pure _
      | none =>
        simp only [Level.atom, hword]
        exact call_gives hnested (by omega)
    | symbol s =>
      cases s with
      | openParen =>
        refine (hnested.or (by omega)).bind (fun e he => ?_) fun node rest hread _ => ?_
        · simp only [Level.atom, he]
        · refine gives_demand (fun e he => ?_) fun rest' hclose _ => ?_
          · simp only [Level.atom, hread, he]
          · simp only [Level.atom, hread, hclose]
            exact gives_pure _
      | openBracket =>
        refine (items_gives hnested (Nat.lt_succ_self tokens.length) (by omega)).bind
          (fun e he => ?_) fun nodes rest hread _ => ?_
        · simp only [Level.atom, he]
        · simp only [Level.atom, hread]
          exact gives_pure _
      | _ => exact gives_throw _

/-- Indices agree, by induction on the rounds of the reader: each bracket leaves fewer tokens. -/
theorem indices_gives {fuel : Nat} {node : Node} (hfuel : tokens.length ≤ fuel)
    (hcalls : 16 * tokens.length + 1 ≤ calls) :
    Gives (indices calls node) depth tokens (indicesFrom inner.or fuel node tokens) := by
  induction fuel generalizing calls node tokens with
  | zero =>
    obtain rfl := List.eq_nil_of_length_eq_zero (Nat.le_zero.1 hfuel)
    obtain ⟨calls, rfl⟩ := Nat.exists_eq_add_one.2 (show 0 < calls by omega)
    rw [indices]
    exact gives_attempt (fun _ => gives_pure _) fun u rest hsome => by cases hsome
  | succ fuel ih =>
    obtain ⟨calls, rfl⟩ := Nat.exists_eq_add_one.2 (show 0 < calls by omega)
    rw [indices]
    refine gives_attempt (fun hnone => ?_) fun u rest hsome => ?_
    · rw [indicesFrom_of_none hnone]
      exact gives_pure _
    · obtain rfl := symbol?_eq_some_iff.1 hsome
      rw [List.length_cons] at hfuel hcalls
      refine ⟨Nat.lt_succ_self _, (hnested.or (by omega)).bind (fun e he => ?_)
        fun index rest' hread hle => ?_⟩
      · simp only [indicesFrom, he]
      · refine gives_demand (fun e he => ?_) fun rest'' hclose hlt => ?_
        · simp only [indicesFrom, hread, he]
        · simp only [indicesFrom, hread, hclose]
          exact ih (by omega) (by omega)

/-- An atom with its indices agrees. -/
theorem postfixed_gives (hcalls : 16 * tokens.length + 3 ≤ calls) :
    Gives (read calls .postfixed) depth tokens (inner.postfixed tokens) := by
  obtain ⟨calls, rfl⟩ := Nat.exists_eq_add_one.2 (show 0 < calls by omega)
  rw [read]
  refine (atom_gives hnested (by omega)).bind (fun e he => ?_) fun node rest hread hle => ?_
  · simp only [Level.postfixed, he]
  · simp only [Level.postfixed, hread]
    exact indices_gives hnested (Nat.le_refl _) (by omega)

/-- A power agrees; its exponent is a signed phrase one level deeper. -/
theorem power_gives (hcalls : 16 * tokens.length + 4 ≤ calls) :
    Gives (read calls .power) depth tokens (inner.power tokens) := by
  obtain ⟨calls, rfl⟩ := Nat.exists_eq_add_one.2 (show 0 < calls by omega)
  rw [read]
  refine (postfixed_gives hnested (by omega)).bind (fun e he => ?_) fun base rest hread hle => ?_
  · simp only [Level.power, he]
  · refine gives_attempt (fun hnone => ?_) fun u rest' hsome => ?_
    · rw [power_of_none hread hnone]
      exact gives_pure _
    · obtain rfl := symbol?_eq_some_iff.1 hsome
      rw [List.length_cons] at hle
      refine ⟨Nat.lt_succ_self _, (hnested.unary (by omega)).bind (fun e he => ?_)
        fun exponent rest hread' _ => ?_⟩
      · simp only [Level.power, hread, he]
      · simp only [Level.power, hread, hread']
        exact gives_pure _

/-- A signed phrase agrees; what is behind a sign is one level deeper. -/
theorem signed_gives (hcalls : 16 * tokens.length + 5 ≤ calls) :
    Gives (read calls .unary) depth tokens (inner.signed tokens) := by
  obtain ⟨calls, rfl⟩ := Nat.exists_eq_add_one.2 (show 0 < calls by omega)
  rw [read]
  refine gives_attempt (fun hminus => ?_) fun u rest hsome => ?_
  · refine gives_attempt (fun hplus => ?_) fun u rest hsome => ?_
    · rw [signed_of_none hminus hplus]
      exact power_gives hnested (by omega)
    · obtain rfl := symbol?_eq_some_iff.1 hsome
      rw [List.length_cons] at hcalls
      exact ⟨Nat.lt_succ_self _, hnested.unary (by omega)⟩
  · obtain rfl := symbol?_eq_some_iff.1 hsome
    rw [List.length_cons] at hcalls
    refine ⟨Nat.lt_succ_self _, (hnested.unary (by omega)).bind (fun e he => ?_)
      fun operand rest hread _ => ?_⟩
    · simp only [Level.signed, he]
    · simp only [Level.signed, hread]
      exact gives_pure _

omit hnested in
/-- Operators between operands are read in a loop, from left to right. -/
theorem operands_gives {operator : Token → Option (Node → Node → Node)} {phrase : Phrase}
    {operand : Reader Node} {bound : Nat} (hbound : bound ≤ 16)
    (hoperand : ∀ {calls tokens}, 16 * tokens.length + bound ≤ calls →
      Gives (read calls phrase) depth tokens (operand tokens))
    {fuel : Nat} {left : Node} (hfuel : tokens.length ≤ fuel) (hcalls : 16 * tokens.length + 1 ≤ calls) :
    Gives (operands calls operator phrase left) depth tokens
      (chainFrom operand operator fuel left tokens) := by
  induction fuel generalizing calls left tokens with
  | zero =>
    obtain rfl := List.eq_nil_of_length_eq_zero (Nat.le_zero.1 hfuel)
    obtain ⟨calls, rfl⟩ := Nat.exists_eq_add_one.2 (show 0 < calls by omega)
    rw [operands]
    exact gives_attempt (fun _ => gives_pure _) fun u rest hsome => by cases hsome
  | succ fuel ih =>
    obtain ⟨calls, rfl⟩ := Nat.exists_eq_add_one.2 (show 0 < calls by omega)
    rw [operands]
    cases tokens with
    | nil => exact gives_attempt (fun _ => gives_pure _) fun u rest hsome => by cases hsome
    | cons token tokens =>
      rw [List.length_cons] at hfuel hcalls
      refine gives_attempt (fun hnone => ?_) fun combine rest hsome => ?_
      · have hoperator : operator token = none := Option.map_eq_none_iff.1 hnone
        simp only [chainFrom, hoperator]
        exact gives_pure _
      · -- the operator pays for the calls of its operand
        obtain ⟨combine', hoperator, heq⟩ := Option.map_eq_some_iff.1 hsome
        cases heq
        refine ⟨Nat.lt_succ_self _, (hoperand (by omega)).bind (fun e he => ?_)
          fun right rest hread hle => ?_⟩
        · simp only [chainFrom, hoperator, he]
        · simp only [chainFrom, hoperator, hread]
          exact ih (by omega) (by omega)

omit hnested in
/-- An operand, and then the loop. -/
theorem chain_gives {operator : Token → Option (Node → Node → Node)} {phrase : Phrase}
    {operand : Reader Node} {bound : Nat} (hbound : bound ≤ 16)
    (hoperand : ∀ {calls tokens}, 16 * tokens.length + bound ≤ calls →
      Gives (read calls phrase) depth tokens (operand tokens))
    (hcalls : 16 * tokens.length + bound ≤ calls) (hpositive : 16 * tokens.length + 1 ≤ calls) :
    Gives (read calls phrase >>= operands calls operator phrase) depth tokens
      (chain operand operator tokens) := by
  refine (hoperand hcalls).bind (fun e he => ?_) fun left rest hread hle => ?_
  · simp only [chain, he]
  · simp only [chain, hread]
    exact operands_gives hbound hoperand (Nat.le_refl _) (by omega)

theorem term_gives (hcalls : 16 * tokens.length + 6 ≤ calls) :
    Gives (read calls .term) depth tokens (inner.term tokens) := by
  obtain ⟨calls, rfl⟩ := Nat.exists_eq_add_one.2 (show 0 < calls by omega)
  rw [read]
  exact chain_gives (by decide) (signed_gives hnested) (by omega) (by omega)

theorem additive_gives (hcalls : 16 * tokens.length + 7 ≤ calls) :
    Gives (read calls .additive) depth tokens (inner.additive tokens) := by
  obtain ⟨calls, rfl⟩ := Nat.exists_eq_add_one.2 (show 0 < calls by omega)
  rw [read]
  exact chain_gives (by decide) (term_gives hnested) (by omega) (by omega)

/-- The links of a comparison agree, by induction on the rounds of the reader. -/
theorem links_gives {fuel : Nat} (hfuel : tokens.length ≤ fuel) (hcalls : 16 * tokens.length + 1 ≤ calls) :
    Gives (links calls) depth tokens (linksFrom inner.additive fuel tokens) := by
  induction fuel generalizing calls tokens with
  | zero =>
    obtain rfl := List.eq_nil_of_length_eq_zero (Nat.le_zero.1 hfuel)
    obtain ⟨calls, rfl⟩ := Nat.exists_eq_add_one.2 (show 0 < calls by omega)
    rw [links]
    exact gives_attempt (fun _ => gives_pure _) fun op rest hsome => by cases hsome
  | succ fuel ih =>
    obtain ⟨calls, rfl⟩ := Nat.exists_eq_add_one.2 (show 0 < calls by omega)
    rw [links]
    refine gives_attempt (fun hnone => ?_) fun op rest hsome => ?_
    · simp only [linksFrom, hnone]
      exact gives_pure _
    · -- the operator may be two words long, but it is not empty
      have hlt : rest.length < tokens.length := by
        rw [comparison?_eq_some_iff.1 hsome, List.length_append]
        have hpos := op.tokens_pos
        omega
      refine ⟨hlt, (additive_gives hnested (by omega)).bind (fun e he => ?_) fun node rest' hread hle => ?_⟩
      · simp only [linksFrom, hsome, he]
      · refine (ih (by omega) (by omega)).bind (fun e he => ?_) fun links rest'' hlinks _ => ?_
        · simp only [linksFrom, hsome, hread, he]
        · simp only [linksFrom, hsome, hread, hlinks]
          exact gives_pure _

/-- A comparison agrees, with or without links. -/
theorem comparison_gives (hcalls : 16 * tokens.length + 8 ≤ calls) :
    Gives (read calls .comparison) depth tokens (inner.comparison tokens) := by
  obtain ⟨calls, rfl⟩ := Nat.exists_eq_add_one.2 (show 0 < calls by omega)
  rw [read]
  refine (additive_gives hnested (by omega)).bind (fun e he => ?_) fun first rest hread hle => ?_
  · simp only [Level.comparison, he]
  · refine (links_gives hnested (Nat.le_refl _) (by omega)).bind (fun e he => ?_) fun links rest' hlinks _ => ?_
    · simp only [Level.comparison, hread, he]
    · simp only [Level.comparison, hread, hlinks]
      exact gives_pure _

/-- A negation agrees; what is behind a `not` is one level deeper. -/
theorem negation_gives (hcalls : 16 * tokens.length + 9 ≤ calls) :
    Gives (read calls .not) depth tokens (inner.negation tokens) := by
  obtain ⟨calls, rfl⟩ := Nat.exists_eq_add_one.2 (show 0 < calls by omega)
  rw [read]
  refine gives_attempt (fun hnone => ?_) fun u rest hsome => ?_
  · rw [negation_of_none hnone]
    exact comparison_gives hnested (by omega)
  · obtain rfl := word?_eq_some_iff.1 hsome
    rw [List.length_cons] at hcalls
    refine ⟨Nat.lt_succ_self _, (hnested.not (by omega)).bind (fun e he => ?_)
      fun operand rest hread _ => ?_⟩
    · simp only [Level.negation, if_pos, he]
    · simp only [Level.negation, if_pos, hread]
      exact gives_pure _

theorem conjunction_gives (hcalls : 16 * tokens.length + 10 ≤ calls) :
    Gives (read calls .and) depth tokens (inner.conjunction tokens) := by
  obtain ⟨calls, rfl⟩ := Nat.exists_eq_add_one.2 (show 0 < calls by omega)
  rw [read]
  exact chain_gives (by decide) (negation_gives hnested) (by omega) (by omega)

theorem disjunction_gives (hcalls : 16 * tokens.length + 11 ≤ calls) :
    Gives (read calls .or) depth tokens (inner.disjunction tokens) := by
  obtain ⟨calls, rfl⟩ := Nat.exists_eq_add_one.2 (show 0 < calls by omega)
  rw [read]
  exact chain_gives (by decide) (conjunction_gives hnested) (by omega) (by omega)

/-- If it does so one level deeper, the counting parser agrees with the readers of a level. -/
theorem read_gives (phrase : Phrase) (hcalls : 16 * tokens.length + 11 ≤ calls + phrase.rung) :
    Gives (read calls phrase) depth tokens (inner.reader phrase tokens) := by
  have hrung := phrase.rung_le
  cases phrase with
  | or => exact disjunction_gives hnested hcalls
  | and => exact conjunction_gives hnested (Nat.le_of_succ_le_succ hcalls)
  | not => exact negation_gives hnested (by simp only [Phrase.rung] at hcalls; omega)
  | comparison => exact comparison_gives hnested (by simp only [Phrase.rung] at hcalls; omega)
  | additive => exact additive_gives hnested (by simp only [Phrase.rung] at hcalls; omega)
  | term => exact term_gives hnested (by simp only [Phrase.rung] at hcalls; omega)
  | unary => exact signed_gives hnested (by simp only [Phrase.rung] at hcalls; omega)
  | power => exact power_gives hnested (by simp only [Phrase.rung] at hcalls; omega)
  | postfixed => exact postfixed_gives hnested (by simp only [Phrase.rung] at hcalls; omega)
  | atom => exact atom_gives hnested (by simp only [Phrase.rung] at hcalls; omega)

end

/-! ## Levels -/

section

variable {inner : Level} {depth calls : Nat} {tokens : List Token} {phrase : Phrase}

/-- At the greatest depth a level deeper is refused, and the counter stays where it was. -/
theorem nested_tooDeep (hdepth : maxDepth ≤ depth) :
    Gives (nested (calls + 1) phrase) depth tokens (.error .tooDeep) := by
  intro values
  refine ⟨.error .tooDeep, tokens, values, ?_, Nat.le_refl _, rfl⟩
  simp only [nested, if_pos hdepth]
  rfl

/-- Below the greatest depth a level deeper agrees with what is read there. -/
theorem nested_gives {result : Except SyntaxError (Node × List Token)} (hdepth : depth < maxDepth)
    (h : Gives (read calls phrase) (depth + 1) tokens result) :
    Gives (nested (calls + 1) phrase) depth tokens result := by
  intro values
  obtain ⟨outcome, rest, values', hrun, hlength, hresult⟩ := h ((depth + 1) :: values)
  refine ⟨outcome, rest, depth :: values', ?_, hlength, hresult⟩
  simp only [nested, if_neg (Nat.not_le.2 hdepth), Cursor.turn, hrun]
  rfl

/-- At the greatest depth the readers inside are those that refuse everything. -/
theorem nestedAgrees_bottom : NestedAgrees .bottom maxDepth := by
  have h {phrase : Phrase} {calls : Nat} {tokens : List Token} (hcalls : 16 * tokens.length + 12 ≤ calls) :
      Gives (nested calls phrase) maxDepth tokens (.error .tooDeep) := by
    obtain ⟨calls, rfl⟩ := Nat.exists_eq_add_one.2 (show 0 < calls by omega)
    exact nested_tooDeep (Nat.le_refl _)
  exact ⟨h, h, h⟩

/-- Agreement inside goes on to the level above, for each of the three phrases that nest. -/
theorem NestedAgrees.above (h : NestedAgrees inner (depth + 1)) (hdepth : depth < maxDepth) :
    NestedAgrees inner.above depth := by
  have hphrase {phrase : Phrase} {calls : Nat} {tokens : List Token}
      (hcalls : 16 * tokens.length + 12 ≤ calls) :
      Gives (nested calls phrase) depth tokens (inner.reader phrase tokens) := by
    obtain ⟨calls, rfl⟩ := Nat.exists_eq_add_one.2 (show 0 < calls by omega)
    exact nested_gives hdepth (read_gives h phrase (by omega))
  exact ⟨hphrase, hphrase, hphrase⟩

end

/-- The level inside the phrases that stand at a depth. -/
def inside (depth : Nat) : Level :=
  match maxDepth - depth with
  | 0 => .bottom
  | levels + 1 => .ofDepth levels

/-- At every depth that is allowed, one level deeper the counting parser agrees with the level inside. -/
theorem nestedAgrees_inside {depth : Nat} (hdepth : depth ≤ maxDepth) : NestedAgrees (inside depth) depth := by
  obtain ⟨levels, hlevels⟩ := Nat.exists_eq_add_of_le hdepth
  induction levels generalizing depth with
  | zero =>
    obtain rfl : maxDepth = depth := hlevels
    exact nestedAgrees_bottom
  | succ levels ih =>
    have habove : inside depth = (inside (depth + 1)).above := by
      have hhere : maxDepth - depth = levels + 1 := by omega
      have hbelow : maxDepth - (depth + 1) = levels := by omega
      rw [inside, inside, hhere, hbelow]
      cases levels <;> rfl
    rw [habove]
    exact (ih (by omega) (by omega)).above (by omega)

/-- At every depth the counting parser agrees with the readers of the levels that are left. -/
theorem read_agrees {depth calls : Nat} {tokens : List Token} (phrase : Phrase) (hdepth : depth ≤ maxDepth)
    (hcalls : 16 * tokens.length + 11 ≤ calls + phrase.rung) :
    Gives (read calls phrase) depth tokens ((inside depth).reader phrase tokens) :=
  read_gives (nestedAgrees_inside hdepth) phrase hcalls

/-- The whole parser ends with what the parser of token lists gives. -/
theorem expression_agrees {calls : Nat} {tokens : List Token} (hlength : tokens.length ≤ maxTokens)
    (hcalls : 16 * tokens.length + 12 ≤ calls) :
    Gives (expression calls) 0 tokens ((parseTokens tokens).map fun node => (node, [])) := by
  have htop : (Level.ofDepth maxDepth).or tokens = (inside 0).reader .or tokens := rfl
  have hshort : ¬ maxTokens < tokens.length := Nat.not_lt.2 hlength
  refine (read_agrees .or (Nat.zero_le _) (by omega)).bind (fun e he => ?_) fun node rest hread _ => ?_
  · rw [← htop] at he
    simp only [parseTokens, hshort, if_false, he]
    rfl
  · rw [← htop] at hread
    cases rest with
    | nil =>
      simp only [parseTokens, hshort, if_false, hread]
      exact gives_peek (gives_pure _)
    | cons token rest =>
      simp only [parseTokens, hshort, if_false, hread]
      exact gives_peek (gives_throw _)

/-- The whole parser ends, and its counter was never beyond the greatest depth. -/
theorem expression_ends {calls : Nat} {tokens : List Token} (hlength : tokens.length ≤ maxTokens)
    (hcalls : 16 * tokens.length + 12 ≤ calls) :
    ∃ rest values, expression calls ⟨tokens, 0, []⟩ = some (parseTokens tokens, ⟨rest, 0, values⟩) ∧
      ∀ v ∈ values, v ≤ maxDepth := by
  obtain ⟨outcome, rest, values, hrun, -, hresult⟩ := expression_agrees hlength hcalls []
  have houtcome : outcome = parseTokens tokens := by
    cases hparse : parseTokens tokens <;> cases outcome <;> rw [hparse] at hresult <;> cases hresult <;> rfl
  obtain ⟨-, visited, hvalues, hvisited⟩ := keeps_expression _ _ _ (Nat.zero_le _) hrun
  obtain rfl : values = visited := hvalues.trans (List.append_nil visited)
  rw [houtcome] at hrun
  exact ⟨rest, values, hrun, hvisited⟩

end Counting

end LayeredConfig.Expr
