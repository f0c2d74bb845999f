import SqlAssembly.Proofs.Condition.Scanning

/-! How the tokens of conditions are parsed. Tokens that are understood at a level are read there as
one expression, up to whatever the level stops at.
-/

namespace SqlAssembly.Grammar

open Reading (valueText)

-----------------------------------------------------------------------------------------
-- Understanding tokens
-----------------------------------------------------------------------------------------

/-- The next token is the operator's keyword. -/
def goesOn (op : Operator) : List Token → Bool
  | .word w :: _ => isKeyword op.keyword w
  | _ => false

/-- Nothing more is read at this level. -/
def Stops : Level → List Token → Prop
  | .factor, _ => True
  | .chain .and, tokens => goesOn .and tokens = false
  | .chain .or, tokens => goesOn .and tokens = false ∧ goesOn .or tokens = false

/-- With this much fuel the tokens are read as the expression, in front of whatever the level stops
at.
-/
def Understood (level : Level) (need : Nat) (tokens : List Token) (e : Expression) : Prop :=
  ∀ fuel rest,
    need ≤ fuel → Stops level rest → read fuel level (tokens ++ rest) = some (e, rest)

theorem Stops.goesOn {op : Operator} {rest : List Token} (stops : Stops (.chain op) rest)
    : goesOn op rest = false := by
  cases op with
  | and => exact stops
  | or => exact stops.2

theorem Stops.link {op : Operator} {rest : List Token} (stops : Stops (.chain op) rest)
    : Stops op.link rest := by
  cases op with
  | and => trivial
  | or => exact stops.1

/-- A link ends at its chain's operator. -/
theorem stops_keyword (op : Operator) (rest : List Token)
    : Stops op.link (.word op.keyword :: rest) := by
  cases op with
  | and => trivial
  | or => exact rfl

namespace Understood

variable {level : Level} {op : Operator} {need more : Nat} {tokens next : List Token}
  {e f : Expression}

theorem mono (understood : Understood level need tokens e) (enough : need ≤ more)
    : Understood level more tokens e :=
  fun fuel rest fits => understood fuel rest (Nat.le_trans enough fits)

/-- A comparison is a factor. -/
theorem comparison {w : Text}
    (compares : ∀ rest, readComparison (.word w :: tokens ++ rest) = some (e, rest))
    : Understood .factor 1 (.word w :: tokens) e := by
  intro fuel rest fits _
  obtain ⟨fuel, rfl⟩ := Nat.exists_eq_add_of_le' fits
  rw [List.cons_append, read]
  · exact compares rest
  · simp

/-- A link is a chain of its own. -/
theorem single (op : Operator) (link : Understood op.link need tokens e)
    : Understood (.chain op) (need + 1) tokens e := by
  intro fuel rest fits stops
  obtain ⟨fuel, rfl⟩ := Nat.exists_eq_add_of_le' (Nat.le_trans (Nat.le_add_left 1 need) fits)
  have ends := stops.goesOn
  rw [read, link fuel rest (by omega) stops.link]
  cases rest with
  | nil => rfl
  | cons token rest =>
      cases token with
      | word w => exact if_neg (by simpa [goesOn] using ends)
      | symbol c => rfl
      | literal s => rfl

/-- A link with the operator goes in front of a chain. -/
theorem joined (first : Understood op.link need tokens e)
    (second : Understood (.chain op) more next f)
    : Understood (.chain op) (max need more + 1) (tokens ++ .word op.keyword :: next)
        (.joined op e f) := by
  intro fuel rest fits stops
  obtain ⟨fuel, rfl⟩ := Nat.exists_eq_add_of_le' (Nat.le_trans (Nat.le_add_left 1 _) fits)
  have head := first fuel (.word op.keyword :: (next ++ rest)) (by omega) (stops_keyword op _)
  have tail := second fuel rest (by omega) stops
  rw [List.append_assoc, List.cons_append, read, head]
  simp [isKeyword_keyword, tail]

/-- A disjunction in parentheses is a factor. -/
theorem parenthesized (inner : Understood (.chain .or) need tokens e)
    : Understood .factor (need + 1) (.symbol '(' :: (tokens ++ [.symbol ')'])) e := by
  intro fuel rest fits _
  obtain ⟨fuel, rfl⟩ := Nat.exists_eq_add_of_le' (Nat.le_trans (Nat.le_add_left 1 need) fits)
  have body := inner fuel (.symbol ')' :: rest) (by omega) ⟨rfl, rfl⟩
  rw [List.cons_append, List.append_assoc, List.singleton_append, read, body]
  rfl

end Understood

-----------------------------------------------------------------------------------------
-- Chains
-----------------------------------------------------------------------------------------

/-- Expressions joined with one operator. -/
def Expression.chain (op : Operator) : List Expression → Expression
  | [] => .always
  | [e] => e
  | e :: f :: rest => .joined op e (chain op (f :: rest))

/-- A conjunction holds when all its links hold, by induction on them. -/
theorem Expression.holds_chain_and (row : Text → Text) (items : List Expression)
    : (Expression.chain .and items).holds row = items.all (·.holds row) := by
  induction items with
  | nil => rfl
  | cons e items ih =>
      cases items with
      | nil => simp [chain]
      | cons f items => simp only [chain, holds, ih, List.all_cons]

/-- A disjunction of some links holds when one of them holds, by induction on them. -/
theorem Expression.holds_chain_or (row : Text → Text) {items : List Expression}
    (nonempty : items ≠ [])
    : (Expression.chain .or items).holds row = items.any (·.holds row) := by
  induction items with
  | nil => exact absurd rfl nonempty
  | cons e items ih =>
      cases items with
      | nil => simp [chain]
      | cons f items =>
          simp only [chain, holds, ih (List.cons_ne_nil f items), List.any_cons]

/-- The tokens of a chain of links. -/
def chainTokens (op : Operator) (links : List (List Token × Expression)) : List Token :=
  [Token.word op.keyword].intercalate (links.map (·.1))

/-- Links with an operator between them are understood as a chain, by induction on the links. -/
theorem Understood.chain (op : Operator) {need : Nat} {links : List (List Token × Expression)}
    (nonempty : links ≠ []) (each : ∀ link ∈ links, Understood op.link need link.1 link.2)
    : Understood (.chain op) (need + links.length) (chainTokens op links)
        (.chain op (links.map (·.2))) := by
  induction links with
  | nil => exact absurd rfl nonempty
  | cons link links ih =>
      have head := each link List.mem_cons_self
      cases links with
      | nil => simpa [chainTokens, Expression.chain] using head.single op
      | cons other links =>
          have tail := ih (List.cons_ne_nil other links) fun x member =>
            each x (List.mem_cons_of_mem link member)
          have enough : max need (need + (other :: links).length) + 1
              ≤ need + (link :: other :: links).length := by
            simp only [List.length_cons]
            omega
          have tokens : chainTokens op (link :: other :: links)
              = link.1 ++ .word op.keyword :: chainTokens op (other :: links) := by
            simp [chainTokens]
          rw [tokens]
          exact (head.joined tail).mono enough

/-- A chain has a token for each link at least, by induction on the links. -/
theorem length_le_chainTokens (op : Operator) {links : List (List Token × Expression)}
    (each : ∀ link ∈ links, link.1 ≠ [])
    : links.length ≤ (chainTokens op links).length := by
  induction links with
  | nil => exact Nat.le_refl 0
  | cons link links ih =>
      have head := List.length_pos_iff.mpr (each link List.mem_cons_self)
      have tail := ih fun x member => each x (List.mem_cons_of_mem link member)
      cases links with
      | nil => simpa [chainTokens] using Nat.succ_le_of_lt head
      | cons other links =>
          simp only [chainTokens, List.map_cons, List.intercalate_cons_cons, List.length_append,
            List.length_cons] at tail ⊢
          omega

/-- A last link is put behind its operator, by induction on the links before it. -/
theorem chainTokens_concat {op : Operator} {links : List (List Token × Expression)}
    (nonempty : links ≠ []) (last : List Token × Expression)
    : chainTokens op (links ++ [last]) = chainTokens op links ++ .word op.keyword :: last.1 := by
  induction links with
  | nil => exact absurd rfl nonempty
  | cons link links ih =>
      cases links with
      | nil => simp [chainTokens]
      | cons other links =>
          have tail := ih (List.cons_ne_nil other links)
          simp only [chainTokens, List.map_cons, List.cons_append, List.intercalate_cons_cons,
            List.append_assoc] at tail ⊢
          rw [tail]

-----------------------------------------------------------------------------------------
-- Conditions
-----------------------------------------------------------------------------------------

/-- The expression of a condition on a field. -/
def conditionExpression (field : Text) : Condition → Expression
  | .literal _ => .always
  | .scalar value => .equals field (valueText value)
  | .list [] => .numerals "1" "0"
  | .list values => .isIn field (values.map valueText)

/-- Literals are read up to the closing parenthesis, by induction on them. -/
theorem readItems_itemTokens (v : Json) (values : List Json) (rest : List Token)
    : readItems (itemTokens (v :: values) ++ .symbol ')' :: rest)
      = some ((v :: values).map valueText, rest) := by
  induction values generalizing v with
  | nil => rfl
  | cons w values ih =>
      have tokens : itemTokens (v :: w :: values)
          = .literal (valueText v) :: .symbol ',' :: itemTokens (w :: values) := by
        simp [itemTokens]
      simp [tokens, readItems, ih w]

theorem understood_condition {field : Text} {condition : Condition}
    (named : isField field = true) (plain : condition.Plain)
    : Understood .factor 1 (conditionTokens field condition)
        (conditionExpression field condition) := by
  cases condition with
  | literal sql => exact absurd plain id
  | scalar value =>
      apply Understood.comparison
      intro rest
      simp [readComparison, conditionExpression, named]
  | list values =>
      cases values with
      | nil => exact .comparison fun rest => rfl
      | cons first values =>
          apply Understood.comparison
          intro rest
          have items := readItems_itemTokens first values rest
          have isIn : isKeyword inKeyword inKeyword = true := by decide
          simp [readComparison, conditionExpression, named, isIn, items]

end SqlAssembly.Grammar
