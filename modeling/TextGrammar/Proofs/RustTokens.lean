import TextGrammar.Text.Quoted

set_option autoImplicit false

namespace TextGrammar.Rust

inductive Token where
  | word (text : String)
  | number (text : String)
  | quoted (text : String)
  | mark (text : String)
deriving DecidableEq

-- Where the reader stands, with the part of a token that is read: behind the dot of `point` there
-- is a fraction or a range, `code` is behind the opening brace of an escape by number.
inductive Mode where
  | between
  | word (part : List Char)
  | number (part : List Char)
  | point (part : List Char)
  | mark (part : List Char)
  | comment
  | quoted (part : List Char)
  | escape (part : List Char)
  | escapeByNumber (part : List Char)
  | code (part : List Char) (value count : Nat)
deriving DecidableEq

def isBlank (c : Char) : Bool :=
  [0x9, 0xA, 0xB, 0xC, 0xD, 0x20, 0x85, 0x200E, 0x200F, 0x2028, 0x2029].contains c.toNat

def isWordStart (c : Char) : Bool :=
  ('A' ≤ c && c ≤ 'Z') || ('a' ≤ c && c ≤ 'z') || c == '_'

def isWordChar (c : Char) : Bool := isWordStart c || c.isDigit

def isDelimiter (c : Char) : Bool :=
  ['(', ')', '[', ']', '\x7b', '\x7d', ',', ';'].contains c

def isMark : List Char → Bool
  | [c] =>
      ['=', '<', '>', '!', '~', '+', '-', '*', '/', '%', '^', '&', '|', '@'].contains c ||
        ['.', ':', '#', '$', '?'].contains c
  | [c, '='] => ['=', '<', '>', '!', '+', '-', '*', '/', '%', '^', '&', '|'].contains c
  | ['<', c] => c == '<' || c == '-'
  | ['>', c] | ['-', c] | ['=', c] => c == '>'
  | ['&', c] => c == '&'
  | ['|', c] => c == '|'
  | ['.', c] => c == '.'
  | [':', c] => c == ':'
  | ['<', '<', '='] | ['>', '>', '='] | ['.', '.', '='] | ['.', '.', '.'] => true
  | _ => false

def digitValue (c : Char) : Option Nat :=
  if '0' ≤ c ∧ c ≤ '9' then some (c.toNat - '0'.toNat)
  else if 'a' ≤ c ∧ c ≤ 'f' then some (c.toNat - 'a'.toNat + 10)
  else if 'A' ≤ c ∧ c ≤ 'F' then some (c.toNat - 'A'.toNat + 10)
  else none

def escaped (c : Char) : Option Char :=
  if c = 'n' then some '\n'
  else if c = 'r' then some '\r'
  else if c = 't' then some '\t'
  else if c = '0' then some '\x00'
  else if c = '\\' ∨ c = '"' ∨ c = '\'' then some c
  else none

def begin (c : Char) : Option (Mode × List Token) :=
  if isBlank c then some (.between, [])
  else if isWordStart c then some (.word [c], [])
  else if c.isDigit then some (.number [c], [])
  else if c = '"' then some (.quoted [], [])
  else if isDelimiter c then some (.between, [.mark c.toString])
  else if isMark [c] then some (.mark [c], [])
  else none

def close (token : Token) (c : Char) : Option (Mode × List Token) :=
  (begin c).map fun (mode, tokens) => (mode, token :: tokens)

def step : Mode → Char → Option (Mode × List Token)
  | .between, c => begin c
  | .word part, c =>
      if isWordChar c then some (.word (part ++ [c]), [])
      -- A word right before a quote would be the prefix of another kind of literal.
      else if c = '"' ∨ c = '\'' ∨ c = '#' then none
      else close (.word (String.ofList part)) c
  | .number part, c =>
      if isWordChar c then some (.number (part ++ [c]), [])
      else if c = '.' then if part.contains '.' then none else some (.point part, [])
      else close (.number (String.ofList part)) c
  | .point part, c =>
      if c.isDigit then some (.number (part ++ ['.', c]), [])
      else if c = '.' then some (.mark ['.', '.'], [.number (String.ofList part)])
      else none
  | .mark part, c =>
      if isMark (part ++ [c]) then some (.mark (part ++ [c]), [])
      else if part = ['/'] ∧ c = '/' then some (.comment, [])
      else if part = ['/'] ∧ c = '*' then none
      else close (.mark (String.ofList part)) c
  | .comment, c => if c = '\n' then some (.between, []) else some (.comment, [])
  | .quoted part, c =>
      if c = '"' then some (.between, [.quoted (String.ofList part)])
      else if c = '\\' then some (.escape part, [])
      else if c = '\r' then none
      else some (.quoted (part ++ [c]), [])
  | .escape part, c =>
      if c = 'u' then some (.escapeByNumber part, [])
      else (escaped c).map fun plain => (.quoted (part ++ [plain]), [])
  | .escapeByNumber part, c => if c = '\x7b' then some (.code part 0 0, []) else none
  | .code part value count, c =>
      if c = '\x7d' then
        if 0 < count ∧ count ≤ 6 ∧ value.isValidChar then
          some (.quoted (part ++ [Char.ofNat value]), [])
        else none
      else (digitValue c).map fun digit => (.code part (16 * value + digit) (count + 1), [])

def lex : Mode → List Char → Option (Mode × List Token)
  | mode, [] => some (mode, [])
  | mode, c :: rest => do
      let (next, tokens) ← step mode c
      let (last, others) ← lex next rest
      return (last, tokens ++ others)

def Lexes (text : String) (tokens : List Token) : Prop :=
  lex .between text.toList = some (.between, tokens)

instance (text : String) (tokens : List Token) : Decidable (Lexes text tokens) :=
  inferInstanceAs (Decidable (_ = _))

theorem lex_append (mode middle last : Mode) (first second : List Char)
    (tokens others : List Token) (head : lex mode first = some (middle, tokens))
    (tail : lex middle second = some (last, others)) :
    lex mode (first ++ second) = some (last, tokens ++ others) := by
  induction first generalizing mode tokens with
  | nil =>
      cases head
      exact tail
  | cons c rest ih =>
      simp only [lex, Option.bind_eq_bind, Option.bind_eq_some_iff] at head
      obtain ⟨⟨next, front⟩, stepped, ⟨ended, later⟩, ran, same⟩ := head
      cases same
      rw [List.cons_append, lex, stepped]
      simp only [Option.bind_eq_bind, Option.bind_some, ih next later ran]
      rw [List.append_assoc]
      rfl

theorem Lexes.append {first second : String} {tokens others : List Token}
    (head : Lexes first tokens) (tail : Lexes second others) :
    Lexes (first ++ second) (tokens ++ others) := by
  unfold Lexes
  rw [String.toList_append]
  exact lex_append _ _ _ _ _ _ _ head tail

theorem lex_cons (mode next last : Mode) (c : Char) (rest : List Char) (tokens : List Token)
    (stepped : step mode c = some (next, [])) (ran : lex next rest = some (last, tokens)) :
    lex mode (c :: rest) = some (last, tokens) := by
  simp only [lex, stepped, ran, Option.bind_eq_bind, Option.bind_some, List.nil_append]
  rfl

theorem lex_collects (mode : List Char → Mode) (part rest : List Char)
    (grows : ∀ part, ∀ c ∈ rest, step (mode part) c = some (mode (part ++ [c]), [])) :
    lex (mode part) rest = some (mode (part ++ rest), []) := by
  induction rest generalizing part with
  | nil => rw [List.append_nil, lex]
  | cons c rest ih =>
      have ran := ih (part ++ [c]) fun part other member =>
        grows part other (List.mem_cons_of_mem c member)
      rw [List.append_assoc] at ran
      exact lex_cons _ _ _ c rest [] (grows part c List.mem_cons_self) ran

theorem lex_word (part rest : List Char) (chars : ∀ c ∈ rest, isWordChar c = true) :
    lex (.word part) rest = some (.word (part ++ rest), []) := by
  apply lex_collects
  intro part c member
  rw [step, if_pos (chars c member)]

theorem lex_number (part rest : List Char) (chars : ∀ c ∈ rest, isWordChar c = true) :
    lex (.number part) rest = some (.number (part ++ rest), []) := by
  apply lex_collects
  intro part c member
  rw [step, if_pos (chars c member)]

theorem digit_value_hex (digit : Nat) (small : digit < 16) :
    digitValue digit.digitChar = some digit ∧ digit.digitChar ≠ '\x7d' := by
  decide +revert

theorem lex_hex_digit (part : List Char) (value count digit : Nat) (small : digit < 16) :
    lex (.code part value count) [digit.digitChar] =
      some (.code part (16 * value + digit) (count + 1), []) := by
  obtain ⟨valued, other⟩ := digit_value_hex digit small
  refine lex_cons _ _ _ _ [] [] ?_ rfl
  rw [step, if_neg other, valued]
  rfl

theorem lex_hex (part : List Char) (number : Nat) :
    lex (.code part 0 0) (Nat.toDigits 16 number) =
      some (.code part number (Nat.toDigits 16 number).length, []) := by
  induction number using Nat.strongRecOn with
  | ind number ih =>
      by_cases small : number < 16
      · have read := lex_hex_digit part 0 0 number small
        rw [Nat.mul_zero, Nat.zero_add] at read
        rw [Nat.toDigits_of_lt_base small, read]
        rfl
      · have split := Nat.toDigits_of_base_le (b := 16) (n := number) (by omega) (by omega)
        have front := ih (number / 16) (by omega)
        have back := lex_hex_digit part (number / 16) (Nat.toDigits 16 (number / 16)).length
          (number % 16) (by omega)
        have joined := lex_append _ _ _ _ _ [] [] front back
        rw [Nat.div_add_mod] at joined
        rw [split, List.length_append]
        exact joined

theorem lex_escape_by_number (part : List Char) (c : Char) :
    lex (.quoted part) (Quoted.escapeByNumber c).toList = some (.quoted (part ++ [c]), []) := by
  have spelled : (Quoted.escapeByNumber c).toList =
      ['\\', 'u', '\x7b'] ++ (Nat.toDigits 16 c.toNat ++ ['\x7d']) := by
    simp [Quoted.escapeByNumber, Quoted.hex]
  have opened : lex (.quoted part) ['\\', 'u', '\x7b'] = some (.code part 0 0, []) := rfl
  have read := lex_hex part c.toNat
  have few : (Nat.toDigits 16 c.toNat).length ≤ 6 := by
    have bounded : c.toNat < 0x110000 := by
      have valid := c.valid
      unfold UInt32.isValidChar Nat.isValidChar at valid
      change c.val.toNat < 0x110000
      omega
    rw [Nat.length_toDigits_le_iff (by omega) (by omega)]
    exact Nat.lt_trans bounded (by decide)
  have any : 0 < (Nat.toDigits 16 c.toNat).length := Nat.length_toDigits_pos
  have closed : lex (.code part c.toNat (Nat.toDigits 16 c.toNat).length) ['\x7d'] =
      some (.quoted (part ++ [c]), []) := by
    refine lex_cons _ _ _ _ [] [] ?_ rfl
    rw [step, if_pos rfl, if_pos ⟨any, few, c.valid⟩, Char.ofNat_toNat]
  rw [spelled]
  exact lex_append _ _ _ _ _ [] [] opened (lex_append _ _ _ _ _ [] [] read closed)

theorem lex_escape (part : List Char) (c : Char) :
    lex (.quoted part) (Quoted.escape c).toList = some (.quoted (part ++ [c]), []) := by
  unfold Quoted.escape
  by_cases zero : c = '\x00'
  · subst zero
    rfl
  by_cases tab : c = '\t'
  · subst tab
    rfl
  by_cases line : c = '\n'
  · subst line
    rfl
  by_cases back : c = '\r'
  · subst back
    rfl
  by_cases slash : c = '\\'
  · subst slash
    rfl
  by_cases quote : c = '"'
  · subst quote
    rfl
  rw [if_neg zero, if_neg tab, if_neg line, if_neg back, if_neg slash, if_neg quote]
  split
  · exact lex_escape_by_number part c
  · have spelled : c.toString.toList = [c] := by simp
    rw [spelled]
    refine lex_cons _ _ _ c [] [] ?_ rfl
    rw [step, if_neg quote, if_neg slash, if_neg back]

theorem lex_escape_all (part text : List Char) :
    lex (.quoted part) (Quoted.escapeAll text).toList = some (.quoted (part ++ text), []) := by
  induction text generalizing part with
  | nil => rw [List.append_nil]; rfl
  | cons c rest ih =>
      have others := ih (part ++ [c])
      rw [List.append_assoc] at others
      rw [Quoted.escapeAll, String.toList_append]
      exact lex_append _ _ _ _ _ [] [] (lex_escape part c) others

theorem lexes_quote (text : String) : Lexes (Quoted.quote text) [.quoted text] := by
  have spelled : (Quoted.quote text).toList =
      ['"'] ++ ((Quoted.escapeAll text.toList).toList ++ ['"']) := by simp [Quoted.quote]
  have inside := lex_escape_all [] text.toList
  have closed : lex (.quoted text.toList) ['"'] = some (.between, [.quoted text]) := by
    simp [lex, step]
  unfold Lexes
  rw [spelled]
  exact lex_append _ (.quoted []) _ _ _ [] _ rfl (lex_append _ _ _ _ _ [] _ inside closed)

end TextGrammar.Rust
