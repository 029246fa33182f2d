import LayeredConfig.Expr.Parser
import LayeredConfig.Proofs.Expr.Grammar

/-!
# Readers and the languages they read

`Reads` is what every reader of the parser is shown to satisfy: what it takes off the front is a phrase
of its language, and it takes such a phrase whole if what follows cannot be mistaken for more of it
(`ends`). The loops of the parser get one such theorem each, from that of their operand. Their fuel is
always the number of tokens that are left, which is never too little.
-/

namespace LayeredConfig.Expr

/-- The reader takes phrases of the language off the front, with their trees. It takes a phrase as far
as it goes when it stands before tokens at which a phrase ends. -/
structure Reads {α : Type} (reader : Reader α) (language : List Token → α → Prop)
    (ends : List Token → Prop) : Prop where
  sound : ∀ {tokens tree rest}, reader tokens = .ok (tree, rest) →
    ∃ used, tokens = used ++ rest ∧ language used tree
  complete : ∀ {used tree rest}, language used tree → ends rest →
    reader (used ++ rest) = .ok (tree, rest)

/-- A reader may be said to read any description of its language, and to need more at its end. -/
theorem Reads.congr {α : Type} {reader : Reader α} {language language' : List Token → α → Prop}
    {ends ends' : List Token → Prop} (h : Reads reader language ends)
    (hlanguage : ∀ ts t, language ts t ↔ language' ts t) (hends : ∀ rest, ends' rest → ends rest) :
    Reads reader language' ends' where
  sound h' := by
    obtain ⟨used, rfl, hl⟩ := h.sound h'
    exact ⟨used, rfl, (hlanguage _ _).1 hl⟩
  complete hl hrest := h.complete ((hlanguage _ _).2 hl) (hends _ hrest)

/-- What follows does not begin with an operator. -/
def EndsBefore (operator : Token → Option (Node → Node → Node)) (rest : List Token) : Prop :=
  ∀ token us, rest = token :: us → operator token = none

/-- Expecting a symbol succeeds where the tokens begin with it. -/
theorem expect_eq_ok_iff {symbol : Symbol} {tokens rest : List Token} :
    expect symbol tokens = .ok rest ↔ tokens = .symbol symbol :: rest := by
  unfold expect
  split
  · next s us =>
    split
    · next h => simp [h]
    · next h => simp [h]
  · next h =>
    constructor
    · intro hrest
      cases hrest
    · rintro rfl
      exact (h symbol rest rfl).elim

@[simp] theorem expect_self (symbol : Symbol) (rest : List Token) :
    expect symbol (.symbol symbol :: rest) = .ok rest :=
  expect_eq_ok_iff.2 rfl

/-! ## Operators between operands -/

section Loop

variable {operand : Reader Node} {operator : Token → Option (Node → Node → Node)}
  {joins : Token → (Node → Node → Node) → Prop} {language : List Token → Node → Prop}
  {ends : List Token → Prop}

/-- What the loop takes are rounds. -/
theorem chainFrom_sound (hoperand : Reads operand language ends)
    (hjoins : ∀ token build, operator token = some build ↔ joins token build)
    {fuel : Nat} {left t : Node} {tokens rest : List Token}
    (h : chainFrom operand operator fuel left tokens = .ok (t, rest)) :
    ∃ used, tokens = used ++ rest ∧ Rounds joins language left used t := by
  induction fuel generalizing left tokens with
  | zero =>
    cases h
    exact ⟨[], rfl, .done⟩
  | succ fuel ih =>
    cases tokens with
    | nil =>
      cases h
      exact ⟨[], rfl, .done⟩
    | cons token tokens =>
      simp only [chainFrom] at h
      split at h
      · cases h
        exact ⟨[], rfl, .done⟩
      · next build hbuild =>
        split at h
        · cases h
        · next right tokens' hright =>
          obtain ⟨ts, rfl, hts⟩ := hoperand.sound hright
          obtain ⟨us, rfl, hus⟩ := ih h
          exact ⟨token :: ts ++ us, by simp, .round ((hjoins token build).1 hbuild) hts hus⟩

/-- Between two rounds an operand ends, since an operator follows it. -/
theorem Rounds.ends_append (hops : ∀ token build us, joins token build → ends (token :: us))
    {a t : Node} {used rest : List Token} (h : Rounds joins language a used t) (hrest : ends rest) :
    ends (used ++ rest) := by
  cases h with
  | done => exact hrest
  | round hjoin _ _ => exact hops _ _ _ hjoin

/-- The loop takes all the rounds that are there, if it has fuel for every token. -/
theorem chainFrom_complete (hoperand : Reads operand language ends)
    (hjoins : ∀ token build, operator token = some build ↔ joins token build)
    (hops : ∀ token build us, joins token build → ends (token :: us))
    {left t : Node} {used rest : List Token} (h : Rounds joins language left used t)
    (hrest : ends rest) (hstop : EndsBefore operator rest)
    {fuel : Nat} (hfuel : (used ++ rest).length ≤ fuel) :
    chainFrom operand operator fuel left (used ++ rest) = .ok (t, rest) := by
  induction h generalizing fuel with
  | done =>
    cases fuel with
    | zero => rfl
    | succ fuel =>
      cases rest with
      | nil => rfl
      | cons token us => simp [chainFrom, hstop token us rfl]
  | @round a b t token build ts us hjoin hts hus ih =>
    cases fuel with
    | zero => simp at hfuel
    | succ fuel =>
      -- the operand ends where the next round begins
      have hread : operand (ts ++ (us ++ rest)) = .ok (b, us ++ rest) :=
        hoperand.complete hts (hus.ends_append hops hrest)
      have hleft : (us ++ rest).length ≤ fuel := by
        simp only [List.cons_append, List.length_cons, List.length_append] at hfuel ⊢
        omega
      simp only [List.cons_append, List.append_assoc, chainFrom,
        (hjoins token build).2 hjoin, hread]
      exact ih hleft

/-- Reads a first operand of its own kind, and then further operands with operators before them. -/
def chainAfter (first operand : Reader Node) (operator : Token → Option (Node → Node → Node)) :
    Reader Node := fun tokens => match first tokens with
  | .error e => .error e
  | .ok (a, rest) => chainFrom operand operator rest.length a rest

/-- A first operand and a loop behind it. -/
theorem reads_chainAfter {first : Reader Node} {initial : List Token → Node → Prop}
    {endsFirst : List Token → Prop} (hfirst : Reads first initial endsFirst)
    (hoperand : Reads operand language ends)
    (hjoins : ∀ token build, operator token = some build ↔ joins token build)
    (hopsFirst : ∀ token build us, joins token build → endsFirst (token :: us))
    (hops : ∀ token build us, joins token build → ends (token :: us)) :
    Reads (chainAfter first operand operator)
      (fun used t => ∃ us a vs, used = us ++ vs ∧ initial us a ∧ Rounds joins language a vs t)
      (fun rest => endsFirst rest ∧ ends rest ∧ EndsBefore operator rest) where
  sound {tokens t rest} h := by
    unfold chainAfter at h
    split at h
    · cases h
    · next a tokens' ha =>
      obtain ⟨us, rfl, hus⟩ := hfirst.sound ha
      obtain ⟨vs, rfl, hvs⟩ := chainFrom_sound hoperand hjoins h
      exact ⟨us ++ vs, by simp, us, a, vs, rfl, hus, hvs⟩
  complete {used t rest} h hrest := by
    obtain ⟨us, a, vs, rfl, hus, hvs⟩ := h
    obtain ⟨hrestFirst, hrest, hstop⟩ := hrest
    have hread : first (us ++ (vs ++ rest)) = .ok (a, vs ++ rest) :=
      hfirst.complete hus (hvs.ends_append hopsFirst hrestFirst)
    simp only [List.append_assoc, chainAfter, hread]
    exact chainFrom_complete hoperand hjoins hops hvs hrest hstop (Nat.le_refl _)

end Loop

/-- An index without its opening bracket. -/
def bracketed (item : Reader Node) : Reader Node := fun tokens => match item tokens with
  | .error e => .error e
  | .ok (index, rest) => match expect .closeBracket rest with
    | .error e => .error e
    | .ok rest => .ok (index, rest)

/-- The bracket that opens an index is the operator of a loop over indices. -/
def indexOperator : Token → Option (Node → Node → Node)
  | .symbol .openBracket => some .index
  | _ => none

/-- The loop over indices is the loop over operands whose operator is the opening bracket. -/
theorem indicesFrom_eq_chainFrom (item : Reader Node) (fuel : Nat) (node : Node)
    (tokens : List Token) :
    indicesFrom item fuel node tokens =
      chainFrom (bracketed item) indexOperator fuel node tokens := by
  induction fuel generalizing node tokens with
  | zero => rfl
  | succ fuel ih =>
    cases tokens with
    | nil => rfl
    | cons token rest =>
      cases token with
      | symbol s =>
        cases s with
        | openBracket =>
          simp only [indicesFrom, chainFrom, indexOperator, bracketed]
          cases item rest with
          | error e => rfl
          | ok read =>
            obtain ⟨index, rest⟩ := read
            cases h : expect .closeBracket rest with
            | error e => simp [h]
            | ok rest => simp only [h]; exact ih _ _
        | _ => rfl
      | _ => rfl

/-- The opening bracket is the operator of an index, and the only one. -/
theorem indexOperator_eq_some_iff (token : Token) (build : Node → Node → Node) :
    indexOperator token = some build ↔ Indexes token build := by
  constructor
  · intro h
    unfold indexOperator at h
    split at h
    · cases h; exact .index
    · cases h
  · rintro ⟨⟩
    rfl

/-- If a reader takes items, the one with a bracket behind takes the rest of an index. -/
theorem reads_bracketed {item : Reader Node} {n : Nat} {ends : List Token → Prop}
    (hitem : Reads item (Inner n .or) ends) (hclose : ∀ us, ends (.symbol .closeBracket :: us)) :
    Reads (bracketed item) (Bracketed n) (fun _ => True) where
  sound {tokens t rest} h := by
    unfold bracketed at h
    split at h
    · cases h
    · next index tokens' hread =>
      split at h
      · cases h
      · next rest' hexpect =>
        cases h
        obtain ⟨us, rfl, hus⟩ := hitem.sound hread
        rw [expect_eq_ok_iff.1 hexpect]
        exact ⟨us ++ [.symbol .closeBracket], by simp, us, rfl, hus⟩
  complete {used t rest} h _ := by
    obtain ⟨us, rfl, hus⟩ := h
    have hread : item (us ++ .symbol .closeBracket :: rest) =
        .ok (t, .symbol .closeBracket :: rest) := hitem.complete hus (hclose rest)
    simp [bracketed, hread]

/-! ## Links and items -/

/-- The comparison operator in front of the tokens is the one whose tokens stand there. -/
theorem comparison?_eq_some_iff {tokens rest : List Token} {op : CompareOp} :
    comparison? tokens = some (op, rest) ↔ tokens = op.tokens ++ rest := by
  constructor
  · intro h
    unfold comparison? at h
    split at h
    any_goals (cases h; rfl)
    · next first us =>
      split at h
      · next hfirst => cases h; subst hfirst; rfl
      · split at h
        · next second vs _ =>
          split at h
          · next hwords => cases h; obtain ⟨rfl, rfl⟩ := hwords; rfl
          · cases h
        · cases h
    · cases h
  · rintro rfl
    cases op <;> rfl

/-- What is taken as links are links. -/
theorem linksFrom_sound {operand : Reader Node} {n : Nat} {ends : List Token → Prop}
    (hoperand : Reads operand (Derives n .additive) ends) {fuel : Nat} {tokens rest : List Token}
    {links : List (CompareOp × Node)}
    (h : linksFrom operand fuel tokens = .ok (links, rest)) :
    ∃ used, tokens = used ++ rest ∧ DerivesLinks n used links := by
  induction fuel generalizing tokens links with
  | zero =>
    cases h
    exact ⟨[], rfl, .done⟩
  | succ fuel ih =>
    simp only [linksFrom] at h
    split at h
    · cases h
      exact ⟨[], rfl, .done⟩
    · next op tokens' hop =>
      split at h
      · cases h
      · next node tokens'' hnode =>
        split at h
        · cases h
        · next links' rest' hlinks =>
          cases h
          obtain ⟨ts, rfl, hts⟩ := hoperand.sound hnode
          obtain ⟨us, rfl, hus⟩ := ih hlinks
          rw [comparison?_eq_some_iff.1 hop]
          exact ⟨op.tokens ++ ts ++ us, by simp, .link op hts hus⟩

/-- All links are taken, each up to the operator of the next one. -/
theorem linksFrom_complete {operand : Reader Node} {n : Nat} {ends : List Token → Prop}
    (hops : ∀ op : CompareOp, ∀ us, ends (op.tokens ++ us)) {rest : List Token} (hrest : ends rest)
    (hstop : comparison? rest = none) (hoperand : Reads operand (Derives n .additive) ends)
    {used : List Token} {links : List (CompareOp × Node)} {fuel : Nat}
    (h : DerivesLinks n used links) (hfuel : (used ++ rest).length ≤ fuel) :
    linksFrom operand fuel (used ++ rest) = .ok (links, rest) := by
  induction fuel generalizing used links with
  | zero =>
    cases h with
    | done => rfl
    | link op _ _ => cases op <;> simp [CompareOp.tokens] at hfuel
  | succ fuel ih =>
    cases h with
    | done => simp [linksFrom, hstop]
    | @link _ ts us t links op hts hus =>
      have hop : comparison? (op.tokens ++ (ts ++ (us ++ rest))) = some (op, ts ++ (us ++ rest)) :=
        comparison?_eq_some_iff.2 rfl
      -- an operand ends before the next operator, and the last one where the links do
      have hends : ends (us ++ rest) := by
        cases hus with
        | done => exact hrest
        | link op' _ _ => simpa using hops op' _
      have hleft : (us ++ rest).length ≤ fuel := by
        have hlength : 0 < op.tokens.length := by cases op <;> simp [CompareOp.tokens]
        simp only [List.length_append] at hfuel ⊢
        omega
      simp only [List.append_assoc, linksFrom, hop, hoperand.complete hts hends,
        ih hus hleft]

/-- What is taken up to the closing bracket are items, and perhaps a last comma. -/
theorem itemsFrom_sound {item : Reader Node} {n : Nat} {ends : List Token → Prop} {close : Symbol}
    (hitem : Reads item (Inner n .or) ends) {fuel : Nat} {tokens rest : List Token}
    {items : List Node} (h : itemsFrom item close fuel tokens = .ok (items, rest)) :
    ∃ used, tokens = used ++ .symbol close :: rest ∧ DerivesItems n used items := by
  induction fuel generalizing tokens items with
  | zero => cases h
  | succ fuel ih =>
    simp only [itemsFrom] at h
    split at h
    · next rest' hclose =>
      cases h
      exact ⟨[], expect_eq_ok_iff.1 hclose, .nil⟩
    · split at h
      · cases h
      · next node us hnode =>
        split at h
        · cases h
        · next nodes rest' hnodes =>
          cases h
          obtain ⟨ts, rfl, m, rfl, hts⟩ := hitem.sound hnode
          obtain ⟨vs, rfl, hvs⟩ := ih hnodes
          exact ⟨ts ++ .symbol .comma :: vs, by simp, .cons hts hvs⟩
      · next node us _ hnode =>
        split at h
        · cases h
        · next rest' hexpect =>
          cases h
          obtain ⟨ts, rfl, m, rfl, hts⟩ := hitem.sound hnode
          rw [expect_eq_ok_iff.1 hexpect]
          exact ⟨ts, rfl, .last hts⟩

/-- A phrase does not begin with a bracket that closes. -/
theorem Derives.expect_close {n : Nat} {p : Phrase} {ts : List Token} {t : Node}
    (h : Derives n p ts t) {close : Symbol} (hclose : close = .closeParen ∨ close = .closeBracket)
    (rest : List Token) : ∃ e, expect close (ts ++ rest) = .error e := by
  obtain ⟨token, us, rfl, hopens⟩ := h.opens
  cases hexpect : expect close (token :: us ++ rest) with
  | error e => exact ⟨e, rfl⟩
  | ok left =>
    obtain ⟨rfl, -⟩ := List.cons.inj (expect_eq_ok_iff.1 hexpect)
    rcases hclose with rfl | rfl <;> cases hopens

/-- All items are taken: none of them begins with the bracket that closes the list. -/
theorem itemsFrom_complete {item : Reader Node} {n : Nat} {ends : List Token → Prop}
    {close : Symbol} (hclose : close = .closeParen ∨ close = .closeBracket)
    (hends : ∀ us, ends (.symbol close :: us)) (hcomma : ∀ us, ends (.symbol .comma :: us))
    (hitem : Reads item (Inner n .or) ends) {used rest : List Token} {items : List Node}
    {fuel : Nat} (h : DerivesItems n used items) (hfuel : used.length < fuel) :
    itemsFrom item close fuel (used ++ .symbol close :: rest) = .ok (items, rest) := by
  induction fuel generalizing used items with
  | zero => cases hfuel
  | succ fuel ih =>
    cases h with
    | nil => simp [itemsFrom]
    | @last m ts t hts =>
      obtain ⟨e, he⟩ := hts.expect_close hclose (.symbol close :: rest)
      have hread : item (used ++ .symbol close :: rest) = .ok (t, .symbol close :: rest) :=
        hitem.complete ⟨m, rfl, hts⟩ (hends rest)
      rcases hclose with rfl | rfl <;> simp [itemsFrom, he, hread]
    | @cons m ts us t items hts hus =>
      obtain ⟨e, he⟩ := hts.expect_close hclose (.symbol .comma :: (us ++ .symbol close :: rest))
      have hread : item (ts ++ .symbol .comma :: (us ++ .symbol close :: rest)) =
          .ok (t, .symbol .comma :: (us ++ .symbol close :: rest)) :=
        hitem.complete ⟨m, rfl, hts⟩ (hcomma _)
      have hleft : us.length < fuel := by
        simp only [List.length_append, List.length_cons] at hfuel
        omega
      simp only [List.append_assoc, List.cons_append, itemsFrom, he, hread, ih hus hleft]

end LayeredConfig.Expr
