import LayeredConfig.Proofs.Expr.Reader

/-!
# The parser reads the grammar

Each reader of a level reads the phrases of its kind (`reads_atom` to `reads_or`), provided that the
readers of the level inside do (`Level.Fits`). By induction on the levels the same holds of the
parser: `parseTokens_eq_ok_iff`.
-/

namespace LayeredConfig.Expr

/-! ## Where phrases end -/

@[simp] theorem endsBefore_nil (operator : Token → Option (Node → Node → Node)) :
    EndsBefore operator [] := by
  intro token us h
  cases h

@[simp] theorem endsBefore_cons {operator : Token → Option (Node → Node → Node)} {token : Token}
    {us : List Token} : EndsBefore operator (token :: us) ↔ operator token = none := by
  simp [EndsBefore]

/-- No index follows. -/
def PostfixedEnds (rest : List Token) : Prop := EndsBefore indexOperator rest

/-- No index and no exponent follow. -/
def PowerEnds (rest : List Token) : Prop :=
  PostfixedEnds rest ∧ ∀ us, rest ≠ .symbol .power :: us

/-- Nothing follows that a term could take. -/
def TermEnds (rest : List Token) : Prop := PowerEnds rest ∧ EndsBefore termOperator rest

/-- Nothing follows that a sum could take. -/
def AdditiveEnds (rest : List Token) : Prop := TermEnds rest ∧ EndsBefore additiveOperator rest

/-- Nothing follows that a comparison could take. -/
def ComparisonEnds (rest : List Token) : Prop := AdditiveEnds rest ∧ comparison? rest = none

/-- Nothing follows that operands of `and` could take. -/
def AndEnds (rest : List Token) : Prop :=
  ComparisonEnds rest ∧ EndsBefore (keyword "and" .and) rest

/-- Nothing follows that operands of `or` could take. -/
def OrEnds (rest : List Token) : Prop := AndEnds rest ∧ EndsBefore (keyword "or" .or) rest

/-- A symbol that only stands at the end of an expression ends every phrase. -/
theorem orEnds_symbol {s : Symbol} (hs : s = .closeParen ∨ s = .closeBracket ∨ s = .comma)
    (us : List Token) : OrEnds (.symbol s :: us) := by
  rcases hs with rfl | rfl | rfl <;>
    simp [OrEnds, AndEnds, ComparisonEnds, AdditiveEnds, TermEnds, PowerEnds, PostfixedEnds,
      indexOperator, termOperator, additiveOperator, comparison?, keyword]

theorem orEnds_nil : OrEnds [] := by
  simp [OrEnds, AndEnds, ComparisonEnds, AdditiveEnds, TermEnds, PowerEnds, PostfixedEnds,
    comparison?]

/-- An operator between factors ends a power. -/
theorem powerEnds_of_joins {token : Token} {build : Node → Node → Node}
    (h : Joins .term token build) (us : List Token) : PowerEnds (token :: us) := by
  cases h <;> simp [PowerEnds, PostfixedEnds, indexOperator]

theorem termEnds_of_joins {token : Token} {build : Node → Node → Node}
    (h : Joins .additive token build) (us : List Token) : TermEnds (token :: us) := by
  cases h <;> simp [TermEnds, PowerEnds, PostfixedEnds, indexOperator, termOperator]

/-- The operator of a comparison ends a sum. -/
theorem additiveEnds_comparison (op : CompareOp) (us : List Token) :
    AdditiveEnds (op.tokens ++ us) := by
  cases op <;> simp [CompareOp.tokens, AdditiveEnds, TermEnds, PowerEnds, PostfixedEnds,
    indexOperator, termOperator, additiveOperator]

/-- Of the words, only `in` and `not` begin a comparison. -/
theorem comparison?_word {w : String} (hin : w ≠ "in") (hnot : w ≠ "not") (us : List Token) :
    comparison? (.word w :: us) = none := by
  simp only [comparison?, hin, hnot, if_false, false_and]
  split <;> rfl

theorem comparisonEnds_of_joins {token : Token} {build : Node → Node → Node}
    (h : Joins .and token build) (us : List Token) : ComparisonEnds (token :: us) := by
  cases h
  simp [ComparisonEnds, AdditiveEnds, TermEnds, PowerEnds, PostfixedEnds, indexOperator,
    termOperator, additiveOperator, comparison?_word]

theorem andEnds_of_joins {token : Token} {build : Node → Node → Node}
    (h : Joins .or token build) (us : List Token) : AndEnds (token :: us) := by
  cases h
  simp [AndEnds, ComparisonEnds, AdditiveEnds, TermEnds, PowerEnds, PostfixedEnds, indexOperator,
    termOperator, additiveOperator, comparison?_word, keyword]

/-! ## Operators of the parser -/

/-- The parser joins factors with the operators of the grammar. -/
theorem termOperator_eq_some_iff (token : Token) (build : Node → Node → Node) :
    termOperator token = some build ↔ Joins .term token build := by
  constructor
  · intro h
    unfold termOperator at h
    split at h <;> cases h <;> constructor
  · intro h
    cases h <;> rfl

theorem additiveOperator_eq_some_iff (token : Token) (build : Node → Node → Node) :
    additiveOperator token = some build ↔ Joins .additive token build := by
  constructor
  · intro h
    unfold additiveOperator at h
    split at h <;> cases h <;> constructor
  · intro h
    cases h <;> rfl

/-- A keyword joins where the word stands, and nothing else does. -/
theorem keyword_eq_some_iff {name : String} {build : Node → Node → Node} {token : Token}
    {combine : Node → Node → Node} :
    keyword name build token = some combine ↔ token = .word name ∧ combine = build := by
  unfold keyword
  split
  · next w =>
    split
    · next hw => simp [hw, eq_comm]
    · next hw => simp [hw]
  · next hword =>
    have hne : token ≠ .word name := fun h => hword name h
    simp [hne]

/-- The parser joins the operands of `and` as the grammar does. -/
theorem keyword_and_eq_some_iff (token : Token) (build : Node → Node → Node) :
    keyword "and" .and token = some build ↔ Joins .and token build := by
  rw [keyword_eq_some_iff]
  constructor
  · rintro ⟨rfl, rfl⟩
    exact .and
  · rintro ⟨⟩
    exact ⟨rfl, rfl⟩

theorem keyword_or_eq_some_iff (token : Token) (build : Node → Node → Node) :
    keyword "or" .or token = some build ↔ Joins .or token build := by
  rw [keyword_eq_some_iff]
  constructor
  · rintro ⟨rfl, rfl⟩
    exact .or
  · rintro ⟨⟩
    exact ⟨rfl, rfl⟩

/-- The words that the parser takes for values are those of the grammar, with the same values. -/
theorem wordAtom?_eq_some_iff {w : String} {t : Node} :
    wordAtom? w = some t ↔ Stands (.word w) t := by
  constructor
  · intro h
    unfold wordAtom? at h
    repeat' split at h
    · next hw => cases h; subst hw; exact .var
    · next hw => cases h; exact .trueWord hw
    · next hw => cases h; exact .falseWord hw
    · next hw => cases h; exact .nullWord hw
    · cases h
  · intro h
    cases h with
    | trueWord h | falseWord h | nullWord h => rcases h with rfl | rfl <;> rfl
    | var => rfl

/-- A function is found by its own name only. -/
theorem ofName?_eq_some_iff {w : String} {f : Builtin} :
    Builtin.ofName? w = some f ↔ w = f.name := by
  constructor
  · intro h
    have hname : f.name = w := by simpa using List.find?_some h
    exact hname.symm
  · rintro rfl
    cases f <;> rfl

theorem wordAtom?_name (f : Builtin) : wordAtom? f.name = none := by
  cases f <;> rfl

/-! ## Levels -/

/-- The readers of a level read the phrases of a language. -/
structure Level.Fits (level : Level) (language : Phrase → List Token → Node → Prop) : Prop where
  or : Reads level.or (language .or) OrEnds
  not : Reads level.not (language .not) ComparisonEnds
  unary : Reads level.unary (language .unary) PowerEnds

section Above

variable {inner : Level} {n : Nat} (hinner : inner.Fits (Inner n))
include hinner

/-- What is read as a call is one, with the name, the parentheses and a number of arguments that is
accepted. -/
theorem call_sound {name : String} {tokens rest : List Token} {t : Node}
    (h : inner.call name tokens = .ok (t, rest)) :
    ∃ used, .word name :: tokens = used ++ rest ∧ Derives n .atom used t := by
  unfold Level.call at h
  split at h
  · cases h
  · next f hf =>
    split at h
    · cases h
    · next tokens' hopen =>
      split at h
      · cases h
      · next items rest' hitems =>
        split at h
        · next haccepts =>
          cases h
          obtain ⟨ts, rfl, hts⟩ := itemsFrom_sound hinner.or hitems
          rw [ofName?_eq_some_iff.1 hf, expect_eq_ok_iff.1 hopen]
          exact ⟨_, by simp, .call f haccepts hts⟩
        · cases h

/-- What is read as an atom is one: by cases on the token at the front, as in `Level.atom`. -/
theorem atom_sound {tokens rest : List Token} {t : Node} (h : inner.atom tokens = .ok (t, rest)) :
    ∃ used, tokens = used ++ rest ∧ Derives n .atom used t := by
  unfold Level.atom at h
  split at h
  · cases h
  · cases h; exact ⟨[_], rfl, .stands (.integer _)⟩
  · cases h; exact ⟨[_], rfl, .stands (.float _)⟩
  · cases h; exact ⟨[_], rfl, .stands (.string _)⟩
  · next tokens' =>
    split at h
    · cases h
    · next t' us hread =>
      split at h
      · cases h
      · next rest' hclose =>
        cases h
        obtain ⟨ts, rfl, m, rfl, hts⟩ := hinner.or.sound hread
        rw [expect_eq_ok_iff.1 hclose]
        exact ⟨_, by simp, .group hts⟩
  · next tokens' =>
    split at h
    · cases h
    · next items rest' hitems =>
      cases h
      obtain ⟨ts, rfl, hts⟩ := itemsFrom_sound hinner.or hitems
      exact ⟨_, by simp, .list hts⟩
  · next name tokens' =>
    split at h
    · next hword =>
      cases h
      exact ⟨[_], rfl, .stands (wordAtom?_eq_some_iff.1 hword)⟩
    · exact call_sound hinner h
  · cases h

/-- Every atom is read as one. -/
theorem atom_complete {used rest : List Token} {t : Node} (h : Derives n .atom used t) :
    inner.atom (used ++ rest) = .ok (t, rest) := by
  cases h with
  | single hq _ => cases hq
  | join hq _ _ _ => cases hq
  | stands hstands =>
    cases hstands with
    | integer | float | string => rfl
    | trueWord hw => simp [Level.atom, wordAtom?_eq_some_iff.2 (.trueWord hw)]
    | falseWord hw => simp [Level.atom, wordAtom?_eq_some_iff.2 (.falseWord hw)]
    | nullWord hw => simp [Level.atom, wordAtom?_eq_some_iff.2 (.nullWord hw)]
    | var => rfl
  | @group m ts t hts =>
    have hread : inner.or (ts ++ .symbol .closeParen :: rest) =
        .ok (t, .symbol .closeParen :: rest) :=
      hinner.or.complete ⟨m, rfl, hts⟩ (orEnds_symbol (by simp) rest)
    simp [Level.atom, hread]
  | @list _ ts items hts =>
    have hread : itemsFrom inner.or .closeBracket ((ts ++ .symbol .closeBracket :: rest).length + 1)
        (ts ++ .symbol .closeBracket :: rest) = .ok (items, rest) :=
      itemsFrom_complete (Or.inr rfl) (orEnds_symbol (by simp)) (orEnds_symbol (by simp))
        hinner.or hts (by rw [List.length_append]; omega)
    simp [Level.atom, -List.length_append, hread]
  | @call _ ts items f haccepts hts =>
    have hread : itemsFrom inner.or .closeParen ((ts ++ .symbol .closeParen :: rest).length + 1)
        (ts ++ .symbol .closeParen :: rest) = .ok (items, rest) :=
      itemsFrom_complete (Or.inl rfl) (orEnds_symbol (by simp)) (orEnds_symbol (by simp))
        hinner.or hts (by rw [List.length_append]; omega)
    have hname : Builtin.ofName? f.name = some f := ofName?_eq_some_iff.2 rfl
    simp [Level.atom, Level.call, wordAtom?_name, hname, haccepts, -List.length_append, hread]

/-- Atoms end by themselves, whatever follows them. -/
theorem reads_atom : Reads inner.atom (Derives n .atom) (fun _ => True) where
  sound := atom_sound hinner
  complete h _ := atom_complete hinner h

/-- Indices are taken as long as a bracket opens one, each around the tree of those before it. -/
theorem reads_postfixed : Reads inner.postfixed (Derives n .postfixed) PostfixedEnds := by
  have hloop : inner.postfixed = chainAfter inner.atom (bracketed inner.or) indexOperator := by
    funext tokens
    cases h : inner.atom tokens <;>
      simp [Level.postfixed, chainAfter, h, indicesFrom_eq_chainFrom]
  rw [hloop]
  refine (reads_chainAfter (reads_atom hinner)
    (reads_bracketed hinner.or (orEnds_symbol (by simp))) indexOperator_eq_some_iff
    (fun _ _ _ _ => trivial) (fun _ _ _ _ => trivial)).congr (fun ts t => ?_)
    (fun rest hrest => ⟨trivial, trivial, hrest⟩)
  constructor
  · rintro ⟨us, a, vs, rfl, ha, hrounds⟩
    refine hrounds.closed (Derives n .postfixed) ?_ (.single rfl ha)
    rintro ts us a b token build ⟨⟩ ha ⟨vs, rfl, m, rfl, hb⟩
    simpa using Derives.index ha hb
  · intro h
    exact h.indices rfl

/-- A power is a base, or a base with an exponent one level deeper. -/
theorem power_sound {tokens rest : List Token} {t : Node}
    (h : inner.power tokens = .ok (t, rest)) :
    ∃ used, tokens = used ++ rest ∧ Derives n .power used t := by
  unfold Level.power at h
  split at h
  · cases h
  · next base us hbase =>
    obtain ⟨ts, rfl, hts⟩ := (reads_postfixed hinner).sound hbase
    split at h
    · cases h
    · next exponent rest' hexponent =>
      cases h
      obtain ⟨vs, rfl, m, rfl, hvs⟩ := hinner.unary.sound hexponent
      exact ⟨_, by simp, .power hts hvs⟩
  · next base us _ hbase =>
    cases h
    obtain ⟨ts, rfl, hts⟩ := (reads_postfixed hinner).sound hbase
    exact ⟨ts, rfl, .single rfl hts⟩

/-- A power is taken whole, since no further exponent follows it. -/
theorem power_complete {used rest : List Token} {t : Node} (h : Derives n .power used t)
    (hrest : PowerEnds rest) : inner.power (used ++ rest) = .ok (t, rest) := by
  obtain ⟨hindex, hpower⟩ := hrest
  cases h with
  | single hq hts =>
    cases hq
    simp only [Level.power, (reads_postfixed hinner).complete hts hindex]
  | join hq hjoin _ _ => cases hjoin
  | @power m ts us a b hts hus =>
    have hbase : inner.postfixed (ts ++ .symbol .power :: (us ++ rest)) =
        .ok (a, .symbol .power :: (us ++ rest)) :=
      (reads_postfixed hinner).complete hts (by simp [PostfixedEnds, indexOperator])
    have hexponent : inner.unary (us ++ rest) = .ok (b, rest) :=
      hinner.unary.complete ⟨m, rfl, hus⟩ ⟨hindex, hpower⟩
    simp [Level.power, hbase, hexponent]

/-- What is read behind signs is a signed phrase, or a power where there is no sign. -/
theorem signed_sound {tokens rest : List Token} {t : Node}
    (h : inner.signed tokens = .ok (t, rest)) :
    ∃ used, tokens = used ++ rest ∧ Derives n .unary used t := by
  unfold Level.signed at h
  split at h
  · split at h
    · cases h
    · next node us hread =>
      cases h
      obtain ⟨ts, rfl, m, rfl, hts⟩ := hinner.unary.sound hread
      exact ⟨_, by simp, .negative hts⟩
  · obtain ⟨ts, rfl, m, rfl, hts⟩ := hinner.unary.sound h
    exact ⟨_, by simp, .positive hts⟩
  · obtain ⟨ts, rfl, hts⟩ := power_sound hinner h
    exact ⟨ts, rfl, .single rfl hts⟩

/-- Every signed phrase is read as one, up to where a power ends. -/
theorem signed_complete {used rest : List Token} {t : Node} (h : Derives n .unary used t)
    (hrest : PowerEnds rest) : inner.signed (used ++ rest) = .ok (t, rest) := by
  cases h with
  | single hq hts =>
    cases hq
    -- a power does not begin with a sign
    have hpower := power_complete hinner hts hrest
    obtain ⟨token, us, rfl, hopens⟩ := hts.opens
    rw [← hpower]
    cases token with
    | symbol s => cases s <;> first | rfl | cases hopens
    | _ => rfl
  | join hq hjoin _ _ => cases hjoin
  | @negative m ts t hts =>
    simp [Level.signed, hinner.unary.complete ⟨m, rfl, hts⟩ hrest]
  | @positive m ts t hts =>
    simpa [Level.signed] using hinner.unary.complete ⟨m, rfl, hts⟩ hrest

/-- A sign takes the signed phrase behind it; `+` leaves no trace in the tree. -/
theorem reads_signed : Reads inner.signed (Derives n .unary) PowerEnds where
  sound := signed_sound hinner
  complete := signed_complete hinner

omit hinner in
/-- A chain reads the phrases that its operators join from left to right. -/
theorem reads_chain {p q : Phrase} {operand : Reader Node}
    {operator : Token → Option (Node → Node → Node)} {ends : List Token → Prop}
    (hp : p.isJoined = true) (hq : p.tighter? = some q)
    (hoperand : Reads operand (Derives n q) ends)
    (hjoins : ∀ token build, operator token = some build ↔ Joins p token build)
    (hops : ∀ token build us, Joins p token build → ends (token :: us)) :
    Reads (chain operand operator) (Derives n p) (fun rest => ends rest ∧ EndsBefore operator rest) := by
  refine (reads_chainAfter hoperand hoperand hjoins hops hops).congr (fun ts t => ?_)
    (fun rest hrest => ⟨hrest.1, hrest⟩)
  constructor
  · rintro ⟨us, a, vs, rfl, ha, hrounds⟩
    exact hrounds.closed (Derives n p) (fun hjoin ha hb => .join hq hjoin ha hb) (.single hq ha)
  · intro h
    exact h.rounds hp hq

/-- Terms: signed phrases joined by `*`, `/`, `//` and `%`. -/
theorem reads_term : Reads inner.term (Derives n .term) TermEnds :=
  reads_chain rfl rfl (reads_signed hinner) termOperator_eq_some_iff
    fun _ _ us h => powerEnds_of_joins h us

/-- Sums: terms joined by `+` and `-`. -/
theorem reads_additive : Reads inner.additive (Derives n .additive) AdditiveEnds :=
  reads_chain rfl rfl (reads_term hinner) additiveOperator_eq_some_iff
    fun _ _ us h => termEnds_of_joins h us

/-- What is read as a comparison is a sum with links, or a sum. -/
theorem comparison_sound {tokens rest : List Token} {t : Node}
    (h : inner.comparison tokens = .ok (t, rest)) :
    ∃ used, tokens = used ++ rest ∧ Derives n .comparison used t := by
  unfold Level.comparison at h
  split at h
  · cases h
  · next first us hfirst =>
    obtain ⟨ts, rfl, hts⟩ := (reads_additive hinner).sound hfirst
    split at h
    · cases h
    · next links rest' hlinks =>
      cases h
      obtain ⟨vs, rfl, hvs⟩ := linksFrom_sound (reads_additive hinner) hlinks
      cases links with
      | nil =>
        cases hvs
        exact ⟨ts, rfl, .single rfl hts⟩
      | cons link links => exact ⟨ts ++ vs, by simp, .comparison hts hvs⟩

/-- Every comparison is read with all of its links. -/
theorem comparison_complete {used rest : List Token} {t : Node} (h : Derives n .comparison used t)
    (hrest : ComparisonEnds rest) : inner.comparison (used ++ rest) = .ok (t, rest) := by
  obtain ⟨hadditive, hlink⟩ := hrest
  have hlinks {us : List Token} {links : List (CompareOp × Node)} (h : DerivesLinks n us links) :
      linksFrom inner.additive (us ++ rest).length (us ++ rest) = .ok (links, rest) :=
    linksFrom_complete additiveEnds_comparison hadditive hlink (reads_additive hinner) h
      (Nat.le_refl _)
  cases h with
  | single hq hts =>
    cases hq
    -- a comparison without links is its first operand
    have hnone := hlinks .done
    simp only [List.nil_append] at hnone
    simp [Level.comparison, (reads_additive hinner).complete hts hadditive, hnone, Node.ofLinks]
  | join hq hjoin _ _ => cases hjoin
  | @comparison _ ts us a link links hts hus =>
    have hends : AdditiveEnds (us ++ rest) := by
      cases hus with
      | link op _ _ => simpa using additiveEnds_comparison op _
    simp only [List.append_assoc, Level.comparison,
      (reads_additive hinner).complete hts hends, hlinks hus, Node.ofLinks]

/-- What is read behind a `not` is a negation, or a comparison where there is none. -/
theorem negation_sound {tokens rest : List Token} {t : Node}
    (h : inner.negation tokens = .ok (t, rest)) :
    ∃ used, tokens = used ++ rest ∧ Derives n .not used t := by
  have hcomparison {tokens : List Token} (h : inner.comparison tokens = .ok (t, rest)) :
      ∃ used, tokens = used ++ rest ∧ Derives n .not used t := by
    obtain ⟨ts, rfl, hts⟩ := comparison_sound hinner h
    exact ⟨ts, rfl, .single rfl hts⟩
  unfold Level.negation at h
  split at h
  · split at h
    · next hname =>
      split at h
      · cases h
      · next node us hread =>
        cases h
        subst hname
        obtain ⟨ts, rfl, m, rfl, hts⟩ := hinner.not.sound hread
        exact ⟨_, by simp, .not hts⟩
    · exact hcomparison h
  · exact hcomparison h

/-- Every negation is read as one, up to where a comparison ends. -/
theorem negation_complete {used rest : List Token} {t : Node} (h : Derives n .not used t)
    (hrest : ComparisonEnds rest) : inner.negation (used ++ rest) = .ok (t, rest) := by
  cases h with
  | single hq hts =>
    cases hq
    -- a comparison does not begin with the word for negation
    have hcomparison := comparison_complete hinner hts hrest
    obtain ⟨token, us, rfl, hopens⟩ := hts.opens
    rw [← hcomparison]
    cases token with
    | word w =>
      have hne : w ≠ "not" := by simpa [Phrase.opens] using hopens
      simp [Level.negation, hne]
    | _ => rfl
  | join hq hjoin _ _ => cases hjoin
  | @not m ts t hts =>
    simp [Level.negation, hinner.not.complete ⟨m, rfl, hts⟩ hrest]

/-- A negation takes the negation or comparison behind it. -/
theorem reads_negation : Reads inner.negation (Derives n .not) ComparisonEnds where
  sound := negation_sound hinner
  complete := negation_complete hinner

/-- Operands of `and`. -/
theorem reads_conjunction : Reads inner.conjunction (Derives n .and) AndEnds :=
  reads_chain rfl rfl (reads_negation hinner) keyword_and_eq_some_iff
    fun _ _ us h => comparisonEnds_of_joins h us

/-- Operands of `or`. -/
theorem reads_disjunction : Reads inner.disjunction (Derives n .or) OrEnds :=
  reads_chain rfl rfl (reads_conjunction hinner) keyword_or_eq_some_iff
    fun _ _ us h => andEnds_of_joins h us

/-- If the readers inside read what is nested one level deeper, the readers of the level read its
phrases. -/
theorem Level.Fits.above : inner.above.Fits (Derives n) :=
  ⟨reads_disjunction hinner, reads_negation hinner, reads_signed hinner⟩

end Above

/-- Nothing is read below the last level, and nothing is nested there. -/
theorem fits_bottom : Level.bottom.Fits (Inner 0) := by
  have hnone (p : Phrase) (ts : List Token) (t : Node) : ¬ Inner 0 p ts t := by
    rintro ⟨m, hm, -⟩
    cases hm
  constructor <;> refine ⟨fun h => ?_, fun h => (hnone _ _ _ h).elim⟩ <;> cases h

/-- The readers that may open `n` levels read the phrases of `n` levels. -/
theorem fits_ofDepth (n : Nat) : (Level.ofDepth n).Fits (Derives n) := by
  induction n with
  | zero => exact fits_bottom.above
  | succ n ih =>
    -- what is nested in a phrase of n + 1 levels has n levels
    have hlift {reader : Reader Node} {p : Phrase} {ends : List Token → Prop}
        (h : Reads reader (Derives n p) ends) : Reads reader (Inner (n + 1) p) ends :=
      h.congr (fun ts t => ⟨fun ht => ⟨n, rfl, ht⟩, fun ⟨m, hm, ht⟩ => by cases hm; exact ht⟩)
        fun _ h => h
    exact Level.Fits.above ⟨hlift ih.or, hlift ih.not, hlift ih.unary⟩

/-- What the parser reads is in the grammar. -/
theorem parseTokens_sound {tokens : List Token} {t : Node} (h : parseTokens tokens = .ok t) :
    tokens.length ≤ 1024 ∧ Derives 64 .or tokens t := by
  unfold parseTokens at h
  split at h
  · cases h
  · next hlength =>
    split at h
    · cases h
    · next node hread =>
      cases h
      obtain ⟨used, rfl, hused⟩ := (fits_ofDepth 64).or.sound hread
      exact ⟨Nat.le_of_not_lt hlength, by simpa using hused⟩
    · cases h

/-- What is in the grammar, the parser reads. -/
theorem parseTokens_complete {tokens : List Token} {t : Node} (hlength : tokens.length ≤ 1024)
    (h : Derives 64 .or tokens t) : parseTokens tokens = .ok t := by
  have hread := (fits_ofDepth 64).or.complete h orEnds_nil
  rw [List.append_nil] at hread
  simp [parseTokens, maxTokens, maxDepth, Nat.not_lt.2 hlength, hread]

/-- **The parser accepts exactly the grammar.** A list of tokens is read as a tree if and only if it
has at most 1024 tokens and is that tree within 64 levels of nesting. -/
theorem parseTokens_eq_ok_iff (tokens : List Token) (t : Node) :
    parseTokens tokens = .ok t ↔ tokens.length ≤ 1024 ∧ Derives 64 .or tokens t :=
  ⟨parseTokens_sound, fun h => parseTokens_complete h.1 h.2⟩

end LayeredConfig.Expr
