import RecordQuery.Proofs.Expression.Spelling

/-!
# The grammar of expressions

An expression is derived from tokens by rules of five levels.  The rules for sums and products call
themselves on the left: the operations of one level associate to the left.  A power stands behind
the signs, and what stands behind its mark may have signs and be a power again.

* `Derives`: the rules.  `Spells`: the tokens of a text derive an expression.
* `from_sum?`: what the readers take from the front of a list of tokens derives the expression that
  they return.
* `Derives.taken`: what derives an expression is taken from the front of every list in which it does
  not go on.
* `read?_eq_some_iff`: so the expressions read from texts are those derived.
* `evaluate?_iff_spells`: and the values are theirs.
-/

namespace RecordQuery.Expression

open Token (Spelled Separable)

/-- The levels of the grammar, from the loosest to the tightest. -/
inductive Category where
  | sum
  | product
  | signed
  | power
  | atom

/-- Tokens derive an expression of a level. -/
inductive Derives : Category → List Token → Expression → Prop
  | product {ts a} (h : Derives .product ts a) : Derives .sum ts a
  | add {ts us a b} (h : Derives .sum ts a) (g : Derives .product us b) :
    Derives .sum (ts ++ .mark '+' :: us) (.add a b)
  | sub {ts us a b} (h : Derives .sum ts a) (g : Derives .product us b) :
    Derives .sum (ts ++ .mark '-' :: us) (.sub a b)
  | signed {ts a} (h : Derives .signed ts a) : Derives .product ts a
  | mul {ts us a b} (h : Derives .product ts a) (g : Derives .signed us b) :
    Derives .product (ts ++ .mark '*' :: us) (.mul a b)
  | div {ts us a b} (h : Derives .product ts a) (g : Derives .signed us b) :
    Derives .product (ts ++ .mark '/' :: us) (.div a b)
  | mod {ts us a b} (h : Derives .product ts a) (g : Derives .signed us b) :
    Derives .product (ts ++ .mark '%' :: us) (.mod a b)
  | neg {ts a} (h : Derives .signed ts a) : Derives .signed (.mark '-' :: ts) (.neg a)
  | pos {ts a} (h : Derives .signed ts a) : Derives .signed (.mark '+' :: ts) a
  | power {ts a} (h : Derives .power ts a) : Derives .signed ts a
  | pow {ts us a b} (h : Derives .atom ts a) (g : Derives .signed us b) :
    Derives .power (ts ++ .mark '^' :: us) (.pow a b)
  | atom {ts a} (h : Derives .atom ts a) : Derives .power ts a
  | numeral (x : Float) : Derives .atom [.numeral x] (.literal x)
  | paren {ts a} (h : Derives .sum ts a) : Derives .atom (.mark '(' :: (ts ++ [.mark ')'])) a

/-- A text derives an expression: it spells tokens that derive a sum. -/
def Spells (text : String) (a : Expression) : Prop :=
  ∃ tokens, Spelled tokens text.toList ∧ Derives .sum tokens a

variable {tokens ts rest : List Token} {category : Category} {a : Expression} {c : Char}

/-- The tokens that a reading has taken from the front derive its expression. -/
def Reading.From (found : Reading tokens) (category : Category) : Prop :=
  ∃ ts, tokens = ts ++ found.rest ∧ Derives category ts found.expression

/-! ### What is read is derived -/

theorem Derives.sumOperation {us : List Token} {b : Expression}
    {operation : Expression → Expression → Expression} (hop : sumOperation? c = some operation)
    (h : Derives .sum ts a) (g : Derives .product us b) :
    Derives .sum (ts ++ .mark c :: us) (operation a b) := by
  unfold sumOperation? at hop
  split at hop <;> cases hop
  · exact .add h g
  · exact .sub h g

theorem Derives.productOperation {us : List Token} {b : Expression}
    {operation : Expression → Expression → Expression} (hop : productOperation? c = some operation)
    (h : Derives .product ts a) (g : Derives .signed us b) :
    Derives .product (ts ++ .mark c :: us) (operation a b) := by
  unfold productOperation? at hop
  split at hop <;> cases hop
  · exact .mul h g
  · exact .div h g
  · exact .mod h g

theorem eq_append_mark {tokens ts us inner rest : List Token} (htokens : tokens = ts ++ inner)
    {others : List Token} (hinner : inner = .mark c :: others) (hothers : others = us ++ rest) :
    tokens = (ts ++ .mark c :: us) ++ rest := by
  rw [htokens, hinner, hothers, List.append_assoc, List.cons_append]

theorem length_lt_of_eq_cons {token : Token} {inner rest : List Token} (h : inner = token :: rest) :
    rest.length < inner.length := h ▸ Nat.lt_succ_self _

-- The proofs call each other as the readers do, and end for the same reason.
mutual

theorem from_sum? {tokens : List Token} {found : Reading tokens} (h : sum? tokens = some found) :
    found.From .sum := by
  rw [sum?] at h
  cases hp : product? tokens with
  | none => rw [hp] at h; cases h
  | some first =>
    rw [hp] at h
    obtain ⟨ts, htokens, hfirst⟩ := from_product? hp
    exact from_moreTerms? ⟨ts, htokens, .product hfirst⟩ h
termination_by (tokens.length, 5)
decreasing_by
  · exact Prod.Lex.right _ (by decide)
  · exact Prod.Lex.left _ _ first.shorter

theorem from_moreTerms? {tokens : List Token} {sofar found : Reading tokens}
    (hsofar : sofar.From .sum) (h : moreTerms? tokens sofar = some found) : found.From .sum := by
  rw [moreTerms?] at h
  split at h
  · next c rest hrest =>
    have hshorter := length_lt_of_eq_cons hrest
    split at h
    · next operation hop =>
      split at h
      · next term hterm =>
        have hshortest := Nat.lt_trans term.shorter hshorter
        obtain ⟨ts, htokens, hd⟩ := hsofar
        obtain ⟨us, hus, hterm⟩ := from_product? hterm
        exact from_moreTerms? ⟨ts ++ .mark c :: us, eq_append_mark htokens hrest hus,
          .sumOperation hop hd hterm⟩ h
      · cases h
    · cases h; exact hsofar
  · cases h; exact hsofar
termination_by (sofar.rest.length, 6)
decreasing_by
  all_goals exact Prod.Lex.left _ _ (by assumption)

theorem from_product? {tokens : List Token} {found : Reading tokens}
    (h : product? tokens = some found) : found.From .product := by
  rw [product?] at h
  cases hs : signed? tokens with
  | none => rw [hs] at h; cases h
  | some first =>
    rw [hs] at h
    obtain ⟨ts, htokens, hfirst⟩ := from_signed? hs
    exact from_moreFactors? ⟨ts, htokens, .signed hfirst⟩ h
termination_by (tokens.length, 3)
decreasing_by
  · exact Prod.Lex.right _ (by decide)
  · exact Prod.Lex.left _ _ first.shorter

theorem from_moreFactors? {tokens : List Token} {sofar found : Reading tokens}
    (hsofar : sofar.From .product) (h : moreFactors? tokens sofar = some found) :
    found.From .product := by
  rw [moreFactors?] at h
  split at h
  · next c rest hrest =>
    have hshorter := length_lt_of_eq_cons hrest
    split at h
    · next operation hop =>
      split at h
      · next factor hfactor =>
        have hshortest := Nat.lt_trans factor.shorter hshorter
        obtain ⟨ts, htokens, hd⟩ := hsofar
        obtain ⟨us, hus, hfactor⟩ := from_signed? hfactor
        exact from_moreFactors? ⟨ts ++ .mark c :: us, eq_append_mark htokens hrest hus,
          .productOperation hop hd hfactor⟩ h
      · cases h
    · cases h; exact hsofar
  · cases h; exact hsofar
termination_by (sofar.rest.length, 4)
decreasing_by
  all_goals exact Prod.Lex.left _ _ (by assumption)

theorem from_signed? {tokens : List Token} {found : Reading tokens}
    (h : signed? tokens = some found) : found.From .signed := by
  rw [signed?.eq_def] at h
  split at h
  · next rest =>
    obtain ⟨inner, hinner, rfl⟩ := Option.map_eq_some_iff.mp h
    obtain ⟨ts, hts, hd⟩ := from_signed? hinner
    exact ⟨.mark '-' :: ts, congrArg (.mark '-' :: ·) hts, .neg hd⟩
  · next rest =>
    obtain ⟨inner, hinner, rfl⟩ := Option.map_eq_some_iff.mp h
    obtain ⟨ts, hts, hd⟩ := from_signed? hinner
    exact ⟨.mark '+' :: ts, congrArg (.mark '+' :: ·) hts, .pos hd⟩
  · obtain ⟨ts, hts, hd⟩ := from_power? h
    exact ⟨ts, hts, .power hd⟩
termination_by (tokens.length, 2)

theorem from_power? {tokens : List Token} {found : Reading tokens}
    (h : power? tokens = some found) : found.From .power := by
  rw [power?] at h
  cases hb : atom? tokens with
  | none => rw [hb] at h; cases h
  | some base =>
    rw [hb] at h
    obtain ⟨ts, htokens, hbase⟩ := from_atom? hb
    dsimp only at h
    split at h
    · next rest hrest =>
      have hshorter := Nat.lt_trans (length_lt_of_eq_cons hrest) base.shorter
      obtain ⟨exponent, hexponent, rfl⟩ := Option.map_eq_some_iff.mp h
      obtain ⟨us, hus, hd⟩ := from_signed? hexponent
      exact ⟨ts ++ .mark '^' :: us, eq_append_mark htokens hrest hus, .pow hbase hd⟩
    · cases h; exact ⟨ts, htokens, .atom hbase⟩
termination_by (tokens.length, 1)
decreasing_by
  · exact Prod.Lex.right _ (by decide)
  · exact Prod.Lex.left _ _ (by assumption)

theorem from_atom? {tokens : List Token} {found : Reading tokens}
    (h : atom? tokens = some found) : found.From .atom := by
  rw [atom?.eq_def] at h
  split at h
  · next x rest => cases h; exact ⟨[.numeral x], rfl, .numeral x⟩
  · next rest =>
    cases hs : sum? rest with
    | none => rw [hs] at h; cases h
    | some inside =>
      rw [hs] at h
      obtain ⟨ts, hts, hd⟩ := from_sum? hs
      dsimp only at h
      split at h
      · next after hrest =>
        cases h
        exact ⟨.mark '(' :: (ts ++ [.mark ')']),
          congrArg (.mark '(' :: ·) (eq_append_mark hts hrest rfl), .paren hd⟩
      · cases h
  · cases h
termination_by (tokens.length, 0)

end

/-! ### What is derived is read -/

/-- Tokens do not go on with one of the marks. -/
def Avoids (marks : List Char) (rest : List Token) : Prop :=
  ∀ c ∈ marks, ∀ others, rest ≠ .mark c :: others

theorem Avoids.nil (marks : List Char) : Avoids marks [] := fun _ _ _ h => by cases h

theorem Avoids.cons {marks : List Char} (hc : c ∉ marks) (others : List Token) :
    Avoids marks (.mark c :: others) := by
  intro d hd rest h
  cases h
  exact hc hd

theorem Avoids.mono {marks fewer : List Char} (h : Avoids marks rest)
    (hsub : ∀ c ∈ fewer, c ∈ marks) : Avoids fewer rest := fun c hc => h c (hsub c hc)

section Readers

variable {others : List Token} {operation : Expression → Expression → Expression}

theorem moreTerms?_mark (hop : sumOperation? c = some operation) {term : Reading others}
    (hterm : product? others = some term) (h : (Token.mark c :: others).length < tokens.length) :
    moreTerms? tokens ⟨a, .mark c :: others, h⟩ =
      moreTerms? tokens ⟨operation a term.expression, term.rest,
        Nat.lt_trans term.shorter (Nat.lt_of_succ_lt h)⟩ := by
  rw [moreTerms?]
  simp only [hop, hterm]

theorem moreTerms?_stop {sofar : Reading tokens} (h : Avoids ['+', '-'] sofar.rest) :
    moreTerms? tokens sofar = some sofar := by
  rw [moreTerms?]
  split
  · next c rest hrest =>
    have hnone : sumOperation? c = none := by
      unfold sumOperation?
      split
      · exact absurd hrest (h _ (by decide) _)
      · exact absurd hrest (h _ (by decide) _)
      · rfl
    rw [hnone]
  · rfl

theorem moreFactors?_mark (hop : productOperation? c = some operation) {factor : Reading others}
    (hfactor : signed? others = some factor)
    (h : (Token.mark c :: others).length < tokens.length) :
    moreFactors? tokens ⟨a, .mark c :: others, h⟩ =
      moreFactors? tokens ⟨operation a factor.expression, factor.rest,
        Nat.lt_trans factor.shorter (Nat.lt_of_succ_lt h)⟩ := by
  rw [moreFactors?]
  simp only [hop, hfactor]

theorem moreFactors?_stop {sofar : Reading tokens} (h : Avoids ['*', '/', '%'] sofar.rest) :
    moreFactors? tokens sofar = some sofar := by
  rw [moreFactors?]
  split
  · next c rest hrest =>
    have hnone : productOperation? c = none := by
      unfold productOperation?
      split
      · exact absurd hrest (h _ (by decide) _)
      · exact absurd hrest (h _ (by decide) _)
      · exact absurd hrest (h _ (by decide) _)
      · rfl
    rw [hnone]
  · rfl

theorem signed?_minus {found : Reading rest} (h : signed? rest = some found) :
    signed? (.mark '-' :: rest) =
      some ⟨.neg found.expression, found.rest, Nat.lt_succ_of_lt found.shorter⟩ := by
  rw [signed?, h, Option.map_some]

theorem signed?_plus {found : Reading rest} (h : signed? rest = some found) :
    signed? (.mark '+' :: rest) =
      some ⟨found.expression, found.rest, Nat.lt_succ_of_lt found.shorter⟩ := by
  rw [signed?, h, Option.map_some]
  rfl

theorem power?_mark {h} (hbase : atom? tokens = some ⟨a, .mark '^' :: others, h⟩)
    {exponent : Reading others} (hexponent : signed? others = some exponent) :
    power? tokens = some ⟨.pow a exponent.expression, exponent.rest,
      Nat.lt_trans exponent.shorter (Nat.lt_of_succ_lt h)⟩ := by
  rw [power?, hbase]
  simp only [hexponent, Option.map_some]

theorem power?_stop {base : Reading tokens} (hbase : atom? tokens = some base)
    (h : Avoids ['^'] base.rest) : power? tokens = some base := by
  rw [power?, hbase]
  dsimp only
  split
  · next others hrest => exact absurd hrest (h _ (by decide) _)
  · rfl

theorem atom?_numeral (x : Float) (rest : List Token) :
    atom? (.numeral x :: rest) = some ⟨.literal x, rest, Nat.lt_succ_self _⟩ := by
  rw [atom?]

theorem atom?_paren {h} (hinside : sum? rest = some ⟨a, .mark ')' :: others, h⟩) :
    atom? (.mark '(' :: rest) =
      some ⟨a, others, Nat.lt_succ_of_lt (Nat.lt_of_succ_lt h)⟩ := by
  rw [atom?, hinside]
  rfl

theorem signed?_of_avoids (h : Avoids ['-', '+'] tokens) : signed? tokens = power? tokens := by
  rw [signed?.eq_def]
  split
  · exact absurd rfl (h _ (by decide) _)
  · exact absurd rfl (h _ (by decide) _)
  · rfl

end Readers

/-- The readers take tokens from the front of every list in which they do not go on; of a sum and a
product they read the operations behind them next. -/
def Taken : Category → List Token → Expression → Prop
  | .sum, ts, a => ∀ {tokens rest}, tokens = ts ++ rest → Avoids ['*', '/', '%', '^'] rest →
    ∃ h, sum? tokens = moreTerms? tokens ⟨a, rest, h⟩
  | .product, ts, a => ∀ {tokens rest}, tokens = ts ++ rest → Avoids ['^'] rest →
    ∃ h, product? tokens = moreFactors? tokens ⟨a, rest, h⟩
  | .signed, ts, a => ∀ {tokens rest}, tokens = ts ++ rest → Avoids ['^'] rest →
    ∃ h, signed? tokens = some ⟨a, rest, h⟩
  | .power, ts, a => ∀ {tokens rest}, tokens = ts ++ rest → Avoids ['^'] rest →
    signed? tokens = power? tokens ∧ ∃ h, power? tokens = some ⟨a, rest, h⟩
  | .atom, ts, a => ∀ {tokens rest}, tokens = ts ++ rest →
    signed? tokens = power? tokens ∧ ∃ h, atom? tokens = some ⟨a, rest, h⟩

theorem Taken.sumOperation {us : List Token} {b : Expression}
    {operation : Expression → Expression → Expression} (hop : sumOperation? c = some operation)
    (hc : c ∉ ['*', '/', '%', '^']) (hsum : Taken .sum ts a) (hproduct : Taken .product us b) :
    Taken .sum (ts ++ .mark c :: us) (operation a b) := by
  intro tokens rest htokens hrest
  rw [List.append_assoc, List.cons_append] at htokens
  obtain ⟨hfirst, hsum⟩ := hsum htokens (.cons hc _)
  obtain ⟨hterm, hproduct⟩ := hproduct (Eq.refl (us ++ rest)) (hrest.mono (by simp))
  rw [moreFactors?_stop (hrest.mono (by simp))] at hproduct
  exact ⟨_, hsum.trans (moreTerms?_mark hop hproduct hfirst)⟩

theorem Taken.productOperation {us : List Token} {b : Expression}
    {operation : Expression → Expression → Expression} (hop : productOperation? c = some operation)
    (hc : c ∉ ['^']) (hproduct : Taken .product ts a) (hsigned : Taken .signed us b) :
    Taken .product (ts ++ .mark c :: us) (operation a b) := by
  intro tokens rest htokens hrest
  rw [List.append_assoc, List.cons_append] at htokens
  obtain ⟨hfirst, hproduct⟩ := hproduct htokens (.cons hc _)
  obtain ⟨hfactor, hsigned⟩ := hsigned (Eq.refl (us ++ rest)) hrest
  exact ⟨_, hproduct.trans (moreFactors?_mark hop hsigned hfirst)⟩

/-- **What is derived is taken by the readers.** -/
theorem Derives.taken (h : Derives category ts a) : Taken category ts a := by
  induction h with
  | product _ ih =>
    intro tokens rest htokens hrest
    obtain ⟨h, hread⟩ := ih htokens (hrest.mono (by simp))
    rw [moreFactors?_stop (hrest.mono (by simp))] at hread
    exact ⟨h, by rw [sum?, hread]⟩
  | add _ _ hsum hproduct => exact Taken.sumOperation rfl (by decide) hsum hproduct
  | sub _ _ hsum hproduct => exact Taken.sumOperation rfl (by decide) hsum hproduct
  | signed _ ih =>
    intro tokens rest htokens hrest
    obtain ⟨h, hread⟩ := ih htokens hrest
    exact ⟨h, by rw [product?, hread]⟩
  | mul _ _ hproduct hsigned => exact Taken.productOperation rfl (by decide) hproduct hsigned
  | div _ _ hproduct hsigned => exact Taken.productOperation rfl (by decide) hproduct hsigned
  | mod _ _ hproduct hsigned => exact Taken.productOperation rfl (by decide) hproduct hsigned
  | neg _ ih =>
    rintro tokens rest rfl hrest
    obtain ⟨_, hread⟩ := ih rfl hrest
    exact ⟨_, signed?_minus hread⟩
  | pos _ ih =>
    rintro tokens rest rfl hrest
    obtain ⟨_, hread⟩ := ih rfl hrest
    exact ⟨_, signed?_plus hread⟩
  | power _ ih =>
    intro tokens rest htokens hrest
    obtain ⟨hsigned, h, hread⟩ := ih htokens hrest
    exact ⟨h, hsigned.trans hread⟩
  | pow _ _ hatom hexponent =>
    intro tokens rest htokens hrest
    rw [List.append_assoc, List.cons_append] at htokens
    obtain ⟨hsigned, _, hbase⟩ := hatom htokens
    obtain ⟨_, hexponent⟩ := hexponent rfl hrest
    exact ⟨hsigned, _, power?_mark hbase hexponent⟩
  | atom _ ih =>
    intro tokens rest htokens hrest
    obtain ⟨hsigned, h, hbase⟩ := ih htokens
    exact ⟨hsigned, h, power?_stop hbase hrest⟩
  | numeral x =>
    rintro tokens rest rfl
    exact ⟨signed?_of_avoids (fun _ _ _ h => by cases h), _, atom?_numeral x rest⟩
  | @paren ts a _ ih =>
    rintro tokens rest rfl
    obtain ⟨_, hread⟩ := ih (List.append_assoc ts [.mark ')'] rest)
      (Avoids.cons (by decide) rest)
    rw [moreTerms?_stop (Avoids.cons (by decide) rest)] at hread
    exact ⟨signed?_of_avoids (.cons (by decide) _), _, atom?_paren hread⟩

/-! ### Texts -/

/-- A mark stands between any two numerals of the tokens of an expression. -/
theorem Derives.separable (h : Derives category ts a) : Separable ts := by
  induction h with
  | product _ ih => exact ih
  | signed _ ih => exact ih
  | power _ ih => exact ih
  | atom _ ih => exact ih
  | add _ _ hs ho => exact hs.append_mark ho (by decide) (by decide)
  | sub _ _ hs ho => exact hs.append_mark ho (by decide) (by decide)
  | mul _ _ hs ho => exact hs.append_mark ho (by decide) (by decide)
  | div _ _ hs ho => exact hs.append_mark ho (by decide) (by decide)
  | mod _ _ hs ho => exact hs.append_mark ho (by decide) (by decide)
  | pow _ _ hs ho => exact hs.append_mark ho (by decide) (by decide)
  | neg _ ih => exact .mark (by decide) (by decide) ih
  | pos _ ih => exact .mark (by decide) (by decide) ih
  | numeral x => exact .numeral x (fun _ h => by cases h) .nil
  | paren _ ih =>
    exact .mark (by decide) (by decide) (ih.append_mark .nil (by decide) (by decide))

/-- **An expression is read from a text exactly if the text derives it.** -/
theorem read?_eq_some_iff {text : String} : read? text = some a ↔ Spells text a := by
  constructor
  · intro h
    rw [read?] at h
    cases htokens : Token.readAll? text with
    | none => rw [htokens] at h; cases h
    | some tokens =>
      rw [htokens] at h
      dsimp only at h
      cases hsum : sum? tokens with
      | none => rw [hsum] at h; cases h
      | some found =>
        rw [hsum] at h
        obtain ⟨hrest, ha⟩ := Option.ite_none_right_eq_some.mp h
        obtain ⟨ts, hts, hd⟩ := from_sum? hsum
        rw [List.isEmpty_iff.mp hrest, List.append_nil] at hts
        cases ha
        exact ⟨tokens, Token.spelled_of_readFrom? (List.forall_mem_nil _) htokens, hts ▸ hd⟩
  · rintro ⟨tokens, htext, hd⟩
    obtain ⟨h, hsum⟩ := hd.taken (List.append_nil tokens).symm (.nil _)
    rw [moreTerms?_stop (.nil _)] at hsum
    rw [read?, Token.readAll?, Token.readFrom?_of_spelled hd.separable htext]
    simp only [hsum]
    rfl

/-- **A text has a value exactly if it derives an expression with that value**; it has none
otherwise, and the expression that it derives is unique. -/
theorem evaluate?_iff_spells (text : String) :
    (∀ v, evaluate? text = some v ↔ ∃ a, Spells text a ∧ a.value = v) ∧
      (evaluate? text = none ↔ ∀ a, ¬Spells text a) ∧
        ∀ a b, Spells text a → Spells text b → a = b := by
  refine ⟨fun v => ?_, ?_, fun a b ha hb => ?_⟩
  · simp only [evaluate?, Option.map_eq_some_iff, read?_eq_some_iff]
  · rw [evaluate?, Option.map_eq_none_iff, Option.eq_none_iff_forall_ne_some]
    exact forall_congr' fun a => not_congr read?_eq_some_iff
  · rw [← read?_eq_some_iff] at ha hb
    exact Option.some.inj (ha.symm.trans hb)

end RecordQuery.Expression
