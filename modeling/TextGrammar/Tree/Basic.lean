import TextGrammar.Source.Span

set_option autoImplicit false

namespace TextGrammar

-- A quoted text. A quote of its own kind inside the text has an escape mark before it, and the text
-- keeps that mark.
structure Literal where
  text : String
  quote : Char
  span : Span
deriving DecidableEq, Repr

structure Name where
  text : String
  span : Span
deriving DecidableEq, Repr

-- A statement. The spans `op`, `opening` and `closing` are those of its operator and brackets.
inductive Node where
  | literal (literal : Literal)
  | name (name : Name)
  | group (opening : Span) (statements : List Node) (closing : Span)
  | define (op : Span) (name : Name) (body : Node)
  | choose (op opening : Span) (alternatives : List Node) (closing : Span)
  | optional (op : Span) (body : Node)
  | regex (op : Span) (pattern : Literal) (matched unmatched : Node)
deriving Repr, Inhabited

structure Grammar where
  opening : Span
  statements : List Node
  closing : Span
deriving Repr

namespace Node

def span : Node → Span
  | literal l => l.span
  | name n => n.span
  | group opening _ closing => Span.range opening.start closing.stop
  | define op _ body => Span.range op.start body.span.stop
  | choose op opening _ closing =>
      Span.range op.start (Span.range opening.start closing.stop).stop
  | optional op body => Span.range op.start body.span.stop
  | regex op _ _ unmatched => Span.range op.start unmatched.span.stop

mutual

def preorder (depth : Nat) : Node → List (Nat × Node)
  | literal l => [(depth, literal l)]
  | name n => [(depth, name n)]
  | group opening statements closing =>
      (depth, group opening statements closing) :: preorderAll (depth + 1) statements
  | define op n body => (depth, define op n body) :: preorder (depth + 1) body
  | choose op opening alternatives closing =>
      (depth, choose op opening alternatives closing) :: preorderAll (depth + 1) alternatives
  | optional op body => (depth, optional op body) :: preorder (depth + 1) body
  | regex op pattern matched unmatched =>
      (depth, regex op pattern matched unmatched) ::
        (preorder (depth + 1) matched ++ preorder (depth + 1) unmatched)

def preorderAll (depth : Nat) : List Node → List (Nat × Node)
  | [] => []
  | node :: rest => preorder depth node ++ preorderAll depth rest

end

mutual

def height : Node → Nat
  | literal _ => 1
  | name _ => 1
  | group _ statements _ => heightAll statements + 1
  | define _ _ body => body.height + 1
  | choose _ _ alternatives _ => heightAll alternatives + 1
  | optional _ body => body.height + 1
  | regex _ _ matched unmatched => max matched.height unmatched.height + 1

def heightAll : List Node → Nat
  | [] => 0
  | node :: rest => max node.height (heightAll rest)

end

mutual

def uses : Node → List Name
  | literal _ => []
  | name n => [n]
  | group _ statements _ => usesAll statements
  | define _ _ body => body.uses
  | choose _ _ alternatives _ => usesAll alternatives
  | optional _ body => body.uses
  | regex _ _ matched unmatched => matched.uses ++ unmatched.uses

def usesAll : List Node → List Name
  | [] => []
  | node :: rest => node.uses ++ usesAll rest

end

mutual

def decEq : (a b : Node) → Decidable (a = b)
  | literal l, b =>
      match b with
      | literal m => decidable_of_iff (l = m) (by simp)
      | name _ | group .. | define .. | choose .. | optional .. | regex .. => .isFalse (by simp)
  | name n, b =>
      match b with
      | name m => decidable_of_iff (n = m) (by simp)
      | literal _ | group .. | define .. | choose .. | optional .. | regex .. => .isFalse (by simp)
  | group o s c, b =>
      match b with
      | group o' s' c' =>
          have := decEqAll s s'
          decidable_of_iff (o = o' ∧ s = s' ∧ c = c') (by simp)
      | literal _ | name _ | define .. | choose .. | optional .. | regex .. => .isFalse (by simp)
  | define o n body, b =>
      match b with
      | define o' n' body' =>
          have := decEq body body'
          decidable_of_iff (o = o' ∧ n = n' ∧ body = body') (by simp)
      | literal _ | name _ | group .. | choose .. | optional .. | regex .. => .isFalse (by simp)
  | choose p o s c, b =>
      match b with
      | choose p' o' s' c' =>
          have := decEqAll s s'
          decidable_of_iff (p = p' ∧ o = o' ∧ s = s' ∧ c = c') (by simp)
      | literal _ | name _ | group .. | define .. | optional .. | regex .. => .isFalse (by simp)
  | optional o body, b =>
      match b with
      | optional o' body' =>
          have := decEq body body'
          decidable_of_iff (o = o' ∧ body = body') (by simp)
      | literal _ | name _ | group .. | define .. | choose .. | regex .. => .isFalse (by simp)
  | regex o p x y, b =>
      match b with
      | regex o' p' x' y' =>
          have := decEq x x'
          have := decEq y y'
          decidable_of_iff (o = o' ∧ p = p' ∧ x = x' ∧ y = y') (by simp)
      | literal _ | name _ | group .. | define .. | choose .. | optional .. => .isFalse (by simp)

def decEqAll : (a b : List Node) → Decidable (a = b)
  | [], [] => .isTrue rfl
  | [], _ :: _ => .isFalse (by simp)
  | _ :: _, [] => .isFalse (by simp)
  | x :: xs, y :: ys =>
      have := decEq x y
      have := decEqAll xs ys
      decidable_of_iff (x = y ∧ xs = ys) (by simp)

end

instance : DecidableEq Node := decEq

end Node

deriving instance DecidableEq for Grammar

namespace Grammar

def span (grammar : Grammar) : Span := Span.range grammar.opening.start grammar.closing.stop

def preorder (grammar : Grammar) : List (Nat × Node) := Node.preorderAll 1 grammar.statements

end Grammar

end TextGrammar
